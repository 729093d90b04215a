import LineAgents.Proofs.Json.Number
import LineAgents.Proofs.Json.Order

/-!
# A value that is written and read again

What is read where a value was written is `LineAgents.Json.reread`: the value itself, except that a
number without a JSON form has become `null`, a zero has lost its sign, and the fields of an object
have been collected, the last value of a name winning. The main result of this file is that this is
all that happens (`LineAgents.Json.parse?_render`), for every value, however deep.

The reader carries a bound on its steps, and the length of the text is enough of a bound. The
induction says more than the result: a value is read off the front of any text that nothing of a
number runs into (`LineAgents.Json.takeValue?_render`), with any bound that is no smaller than the
text of the value; a list or an object needs one step more than its text, and it has two brackets to
pay for it.
-/

namespace LineAgents.Json

/-! ### What is read where a value was written -/

mutual

/-- **The value that is read where a value was written.** -/
def reread : Json → Json
  | .null => .null
  | .bool b => .bool b
  | .num x => if Number.isFinite x then .num (Number.unsignZero x) else .null
  | .str s => .str s
  | .arr items => .arr (rereadItems items)
  | .obj fields => .ofPairs (rereadFields fields)

/-- The members that are read where members were written. -/
def rereadItems : List Json → List Json
  | [] => []
  | v :: vs => reread v :: rereadItems vs

/-- The fields that are read where fields were written. -/
def rereadFields : List (Text × Json) → List (Text × Json)
  | [] => []
  | f :: fs => rereadField f :: rereadFields fs

/-- The field that is read where a field was written. -/
def rereadField : Text × Json → Text × Json
  | (name, v) => (name, reread v)

end

theorem rereadItems_cons (v : Json) (vs : List Json) :
    rereadItems (v :: vs) = reread v :: rereadItems vs := by
  rw [rereadItems]

theorem rereadFields_cons (name : Text) (v : Json) (fs : List (Text × Json)) :
    rereadFields ((name, v) :: fs) = (name, reread v) :: rereadFields fs := by
  rw [rereadFields, rereadField]

/-! ### The first unit of a value -/

theorem skipSpace_cons {u : UInt16} (h : isSpace u = false) (t : Text) :
    skipSpace (u :: t) = u :: t :=
  List.dropWhile_cons_of_neg (by simp [h])

/-- **A value begins at once**: its text has a first unit, which is no white space and closes no
bracket. -/
def Begins (t : Text) : Prop := ∃ u r, t = u :: r ∧ isSpace u = false ∧ u ≠ 93 ∧ u ≠ 125

theorem begins_of_word {t : Text} {u : UInt16} {r : Text} (h : t = u :: r)
    (hu : isSpace u = false ∧ u ≠ 93 ∧ u ≠ 125 := by decide) : Begins t :=
  ⟨u, r, h, hu⟩

/-- No digit and no sign is the first unit of anything else. -/
theorem of_isDigit_or_sign {u : UInt16} (h : Text.isDigit u = true ∨ u = 45) :
    isSpace u = false ∧ u ≠ 34 ∧ u ≠ 91 ∧ u ≠ 93 ∧ u ≠ 123 ∧ u ≠ 125 ∧ u ≠ 110 ∧ u ≠ 116 ∧
      u ≠ 102 := by
  -- the sign and the digits lie between 45 and 57, and everything else that is named does not
  have hrange : ∀ n : UInt16, n.toNat < 45 ∨ 57 < n.toNat → u ≠ n := fun n hn hun => by
    rw [hun, Text.isDigit] at h
    simp only [Bool.and_eq_true, decide_eq_true_eq, UInt16.le_iff_toNat_le, UInt16.toNat_ofNat,
      ← UInt16.toNat_inj] at h
    generalize n.toNat = m at *
    omega
  refine ⟨?_, hrange _ (by decide), hrange _ (by decide), hrange _ (by decide),
    hrange _ (by decide), hrange _ (by decide), hrange _ (by decide), hrange _ (by decide),
    hrange _ (by decide)⟩
  simp only [isSpace, Bool.or_eq_false_iff, beq_eq_false_iff_ne]
  exact ⟨⟨⟨hrange _ (by decide), hrange _ (by decide)⟩, hrange _ (by decide)⟩,
    hrange _ (by decide)⟩

theorem begins_writeNumber (x : Float) : Begins (writeNumber x) := by
  rw [writeNumber]
  split
  · rename_i hx
    obtain ⟨u, r, h, hu⟩ := toText_eq_cons hx
    obtain ⟨hspace, -, -, h93, -, h125, -⟩ := of_isDigit_or_sign hu
    exact ⟨u, r, h, hspace, h93, h125⟩
  · exact begins_of_word rfl

theorem begins_render (v : Json) : Begins (render v) := by
  cases v with
  | null => exact begins_of_word rfl
  | bool b => cases b <;> exact begins_of_word rfl
  | num x =>
    rw [render]
    exact begins_writeNumber x
  | str s =>
    rw [render]
    exact begins_of_word rfl
  | arr items =>
    rw [render]
    exact begins_of_word rfl
  | obj fields =>
    rw [render]
    exact begins_of_word rfl

theorem Begins.append {s : Text} (h : Begins s) (t : Text) : Begins (s ++ t) := by
  obtain ⟨u, r, rfl, hu⟩ := h
  exact ⟨u, r ++ t, rfl, hu⟩

theorem Begins.length_pos {t : Text} (h : Begins t) : 0 < t.length := by
  obtain ⟨u, r, rfl, -⟩ := h
  exact Nat.succ_pos _

theorem renderItems_cons_cons (v w : Json) (vs : List Json) :
    renderItems (v :: w :: vs) = render v ++ 44 :: renderItems (w :: vs) := by
  rw [renderItems]
  exact fun h => List.cons_ne_nil _ _ h

theorem renderFields_cons_cons (f g : Text × Json) (fs : List (Text × Json)) :
    renderFields (f :: g :: fs) = renderField f ++ 44 :: renderFields (g :: fs) := by
  rw [renderFields]
  exact fun h => List.cons_ne_nil _ _ h

theorem begins_renderItems (v : Json) (vs : List Json) : Begins (renderItems (v :: vs)) := by
  cases vs with
  | nil =>
    rw [renderItems]
    exact begins_render v
  | cons w vs =>
    rw [renderItems_cons_cons]
    exact (begins_render v).append _

theorem begins_renderFields (f : Text × Json) (fs : List (Text × Json)) :
    Begins (renderFields (f :: fs)) := by
  have hfield : Begins (renderField f) := by
    rw [renderField, quote]
    exact begins_of_word rfl
  cases fs with
  | nil =>
    rw [renderFields]
    exact hfield
  | cons g fs =>
    rw [renderFields_cons_cons]
    exact hfield.append _

/-! ### Reading a value back -/

theorem takeWord?_append (w t : Text) : takeWord? w (w ++ t) = some t := by
  rw [takeWord?, if_pos (by simp), List.drop_left]

theorem endsNumber_cons {u : UInt16}
    (h : Text.isDigit u = false ∧ u ≠ 46 ∧ u ≠ 101 ∧ u ≠ 69) (t : Text) : EndsNumber (u :: t) := by
  intro v hv
  rw [List.head?_cons, Option.mem_some_iff] at hv
  rw [← hv]
  exact h

theorem endsNumber_nil : EndsNumber [] := by
  intro v hv
  simp at hv

/-- A number is read where its text begins. -/
theorem takeValue?_of_number {n : Nat} {t : Text} {u : UInt16} {r : Text} (ht : t = u :: r)
    (hu : Text.isDigit u = true ∨ u = 45) :
    takeValue? (n + 1) t = (takeNumber? t).map fun p => (.num p.1, p.2) := by
  obtain ⟨hspace, h34, h91, -, h123, -, h110, h116, h102⟩ := of_isDigit_or_sign hu
  rw [takeValue?, ht, skipSpace_cons hspace]
  split
  all_goals simp_all

theorem takeValue?_writeNumber {n : Nat} (x : Float) {rest : Text} (hrest : EndsNumber rest) :
    takeValue? (n + 1) (writeNumber x ++ rest) = some (reread (.num x), rest) := by
  rw [writeNumber, reread]
  split
  · rename_i hx
    obtain ⟨u, r, h, hu⟩ := toText_eq_cons hx
    have hcons : Number.toText x ++ rest = u :: (r ++ rest) := by rw [h, List.cons_append]
    rw [takeValue?_of_number hcons hu, takeNumber?_toText hx hrest]
    rfl
  · change takeValue? (n + 1) (110 :: (Text.ofString "ull" ++ rest)) = _
    rw [takeValue?, skipSpace_cons (by decide)]
    simp only [takeWord?_append]
    rfl

/-- A list that is not empty is read by its members. -/
theorem takeValue?_list {n : Nat} {t : Text} (h : Begins t) :
    takeValue? (n + 1) (91 :: t) = (takeItems? n t).map fun p => (.arr p.1, p.2) := by
  obtain ⟨u, r, rfl, hu, h93, -⟩ := h
  rw [takeValue?, skipSpace_cons (by decide)]
  simp only [skipSpace_cons hu]
  split
  · rename_i heq
    exact absurd (List.cons.inj heq).1 h93
  · rfl

/-- An object that is not empty is read by its fields. -/
theorem takeValue?_object {n : Nat} {t : Text} (h : Begins t) :
    takeValue? (n + 1) (123 :: t) = (takeFields? n t).map fun p => (.ofPairs p.1, p.2) := by
  obtain ⟨u, r, rfl, hu, -, h125⟩ := h
  rw [takeValue?, skipSpace_cons (by decide)]
  simp only [skipSpace_cons hu]
  split
  · rename_i heq
    exact absurd (List.cons.inj heq).1 h125
  · rfl

section Members

variable {n : Nat} {name t r rest : Text} {v : Json}

/-- A member with the closing bracket after it is the last one. -/
theorem takeItems?_last (h : takeValue? n t = some (v, 93 :: r)) :
    takeItems? (n + 1) t = some ([v], r) := by
  rw [takeItems?, h]
  simp only [Option.bind_eq_bind, Option.bind_some,
    skipSpace_cons (show isSpace 93 = false from rfl)]
  rfl

/-- A member with a comma after it is the first of several. -/
theorem takeItems?_more {vs : List Json} (h : takeValue? n t = some (v, 44 :: r))
    (hvs : takeItems? n r = some (vs, rest)) : takeItems? (n + 1) t = some (v :: vs, rest) := by
  rw [takeItems?, h]
  simp only [Option.bind_eq_bind, Option.bind_some,
    skipSpace_cons (show isSpace 44 = false from rfl), hvs]
  rfl

/-- A field with the closing brace after it is the last one. -/
theorem takeFields?_last (h : takeValue? n t = some (v, 125 :: r)) :
    takeFields? (n + 1) (quote name ++ 58 :: t) = some ([(name, v)], r) := by
  rw [takeFields?, quote, List.cons_append, skipSpace_cons (by decide), List.append_assoc]
  simp only [List.singleton_append, takeString?_writeUnits, Option.bind_eq_bind, Option.bind_some,
    skipSpace_cons (show isSpace 58 = false from rfl), h,
    skipSpace_cons (show isSpace 125 = false from rfl)]
  rfl

/-- A field with a comma after it is the first of several. -/
theorem takeFields?_more {fs : List (Text × Json)}
    (h : takeValue? n t = some (v, 44 :: r)) (hfs : takeFields? n r = some (fs, rest)) :
    takeFields? (n + 1) (quote name ++ 58 :: t) = some ((name, v) :: fs, rest) := by
  rw [takeFields?, quote, List.cons_append, skipSpace_cons (by decide), List.append_assoc]
  simp only [List.singleton_append, takeString?_writeUnits, Option.bind_eq_bind, Option.bind_some,
    skipSpace_cons (show isSpace 58 = false from rfl), h,
    skipSpace_cons (show isSpace 44 = false from rfl), hfs]
  rfl

end Members

/-- What follows a member of a list or of an object ends a number. -/
theorem endsNumber_of_mark {u : UInt16} (h : u = 44 ∨ u = 93 ∨ u = 125) (t : Text) :
    EndsNumber (u :: t) := by
  refine endsNumber_cons ?_ t
  rcases h with rfl | rfl | rfl <;> decide

mutual

/-- **A value is read off the front of a text** that begins with it. -/
theorem takeValue?_render : ∀ (n : Nat) (v : Json) (rest : Text), (render v).length ≤ n →
    EndsNumber rest → takeValue? n (render v ++ rest) = some (reread v, rest)
  | 0, v, _, hn, _ => absurd (begins_render v).length_pos (Nat.not_lt.mpr hn)
  | n + 1, .null, rest, _, _ => by
    change takeValue? (n + 1) (110 :: (Text.ofString "ull" ++ rest)) = _
    rw [takeValue?, skipSpace_cons (by decide)]
    simp only [takeWord?_append, reread]
    rfl
  | n + 1, .bool true, rest, _, _ => by
    change takeValue? (n + 1) (116 :: (Text.ofString "rue" ++ rest)) = _
    rw [takeValue?, skipSpace_cons (by decide)]
    simp only [takeWord?_append, reread]
    rfl
  | n + 1, .bool false, rest, _, _ => by
    change takeValue? (n + 1) (102 :: (Text.ofString "alse" ++ rest)) = _
    rw [takeValue?, skipSpace_cons (by decide)]
    simp only [takeWord?_append, reread]
    rfl
  | n + 1, .num x, rest, _, hrest => by
    rw [render]
    exact takeValue?_writeNumber x hrest
  | n + 1, .str s, rest, _, _ => by
    rw [render, quote, List.cons_append, List.append_assoc, takeValue?,
      skipSpace_cons (by decide)]
    simp only [List.singleton_append, takeString?_writeUnits, reread]
    rfl
  | n + 1, .arr [], rest, _, _ => by
    rw [render, renderItems, takeValue?, List.cons_append, skipSpace_cons (by decide)]
    simp only [List.nil_append, List.singleton_append, reread, rereadItems,
      skipSpace_cons (show isSpace 93 = false from rfl)]
  | n + 1, .arr (w :: ws), rest, hn, _ => by
    -- one bracket pays for the step that the list takes, the other for the one that its members
    -- need besides their text
    rw [render, List.length_cons, List.length_append, List.length_singleton] at hn
    rw [render, List.cons_append, List.append_assoc, List.singleton_append,
      takeValue?_list ((begins_renderItems w ws).append _),
      takeItems?_renderItems n w ws rest (by omega), reread]
    rfl
  | n + 1, .obj [], rest, _, _ => by
    rw [render, renderFields, takeValue?, List.cons_append, skipSpace_cons (by decide)]
    simp only [List.nil_append, List.singleton_append, reread, rereadFields,
      skipSpace_cons (show isSpace 125 = false from rfl)]
    rfl
  | n + 1, .obj (f :: fs), rest, hn, _ => by
    rw [render, List.length_cons, List.length_append, List.length_singleton] at hn
    rw [render, List.cons_append, List.append_assoc, List.singleton_append,
      takeValue?_object ((begins_renderFields f fs).append _),
      takeFields?_renderFields n f fs rest (by omega), reread]
    rfl

/-- **The members of a list are read back**, up to its closing bracket. -/
theorem takeItems?_renderItems : ∀ (n : Nat) (v : Json) (vs : List Json) (rest : Text),
    (renderItems (v :: vs)).length < n →
    takeItems? n (renderItems (v :: vs) ++ 93 :: rest) = some (rereadItems (v :: vs), rest)
  | 0, _, _, _, hn => absurd hn (Nat.not_lt_zero _)
  | n + 1, v, [], rest, hn => by
    rw [renderItems] at hn ⊢
    have hv := takeValue?_render n v (93 :: rest) (by omega) (endsNumber_of_mark (by decide) rest)
    rw [takeItems?_last hv, rereadItems_cons, rereadItems]
  | n + 1, v, w :: ws, rest, hn => by
    -- the comma pays for the step to the next member
    rw [renderItems_cons_cons, List.length_append, List.length_cons] at hn
    have hv := takeValue?_render n v (44 :: (renderItems (w :: ws) ++ 93 :: rest)) (by omega)
      (endsNumber_of_mark (by decide) _)
    have hws := takeItems?_renderItems n w ws rest (by omega)
    rw [renderItems_cons_cons, List.append_assoc, List.cons_append, takeItems?_more hv hws,
      rereadItems_cons v]

/-- **The fields of an object are read back**, up to its closing brace. -/
theorem takeFields?_renderFields : ∀ (n : Nat) (f : Text × Json) (fs : List (Text × Json))
    (rest : Text), (renderFields (f :: fs)).length < n →
    takeFields? n (renderFields (f :: fs) ++ 125 :: rest) = some (rereadFields (f :: fs), rest)
  | 0, _, _, _, hn => absurd hn (Nat.not_lt_zero _)
  | n + 1, (name, v), [], rest, hn => by
    rw [renderFields, renderField, List.length_append, List.length_cons] at hn
    have hv := takeValue?_render n v (125 :: rest) (by omega) (endsNumber_of_mark (by decide) rest)
    rw [renderFields, renderField, List.append_assoc, List.cons_append, takeFields?_last hv,
      rereadFields_cons, rereadFields]
  | n + 1, (name, v), g :: gs, rest, hn => by
    rw [renderFields_cons_cons, renderField, List.length_append, List.length_append,
      List.length_cons, List.length_cons] at hn
    have hv := takeValue?_render n v (44 :: (renderFields (g :: gs) ++ 125 :: rest)) (by omega)
      (endsNumber_of_mark (by decide) _)
    have hfs := takeFields?_renderFields n g gs rest (by omega)
    rw [renderFields_cons_cons, renderField, List.append_assoc, List.append_assoc,
      List.cons_append, List.cons_append, takeFields?_more hv hfs, rereadFields_cons name v]

end

/-- **A value that is written can be read**, and nothing is lost but what has no JSON form. -/
theorem parse?_render (v : Json) : parse? (render v) = some (reread v) := by
  have h := takeValue?_render ((render v).length + 1) v [] (Nat.le_succ _) endsNumber_nil
  rw [List.append_nil] at h
  rw [parse?, h]
  rfl

end LineAgents.Json
