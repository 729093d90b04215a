import LineAgents.Proofs.Json.Tidy
import LineAgents.Proofs.Number.Defined

/-!
# What becomes of a value that was read

A value that comes out of a text is tidy: the reader collects the fields of every object, so they
are in order (`LineAgents.Json.tidy_of_parse?`). Its numbers are numbers indeed
(`LineAgents.Json.isNaN_of_parse?`), but a numeral too large for a double is read as an infinity.

Writing such a value and reading it again may lose something, and only in its numbers. Two values
are the **same** (`LineAgents.Json.Same`) when they differ in the signs of zeros at most. What is
read again is the same value exactly when all numbers of the value are finite
(`LineAgents.Json.same_reread_iff`), and it is equal to it exactly when no number is a negative zero
either (`LineAgents.Json.reread_eq_iff`).
-/

namespace LineAgents

/-! ### Zeros -/

/-- A finite number is plain when no sign is taken off it. -/
theorem Number.plain_of_unsignZero_eq {x : Float} (hx : isFinite x = true)
    (h : unsignZero x = x) : Plain x := by
  refine ⟨hx, fun hm => ?_⟩
  rw [unsignZero_of_mantissa_eq hx hm] at h
  rw [← h]
  decide

namespace Json

/-! ### Whatever is read is tidy -/

/-- The value and the rest that a reader gives, when its values are only wrapped up. -/
theorem exists_of_map_fst {α β : Type} {o : Option (α × Text)} {g : α → β} {b : β} {rest : Text}
    (h : (o.map fun (a, rest) => (g a, rest)) = some (b, rest)) :
    ∃ a, o = some (a, rest) ∧ g a = b := by
  obtain ⟨⟨a, rest'⟩, ha, heq⟩ := Option.map_eq_some_iff.mp h
  obtain ⟨hb, rfl⟩ := Prod.mk.inj heq
  exact ⟨a, ha, hb⟩

/-- Fields that are collected keep the values that they had. -/
theorem tidy_ofPairs {p : Float → Prop} {fs : List (Text × Json)} (h : TidyFields p fs) :
    Tidy p (ofPairs fs) := by
  rw [ofPairs, Fields.ofPairs, Tidy]
  refine ⟨ordered_collectNamed _, tidyFields_iff.mpr fun f hf => ?_⟩
  exact tidyFields_iff.mp h f (mem_of_mem_collectNamed hf)

/-- **A kind of numbers that holds of whatever is read as a number.** -/
def HoldsOfRead (p : Float → Prop) : Prop :=
  ∀ {t : Text} {x : Float} {rest : Text}, takeNumber? t = some (x, rest) → p x

section

variable {p : Float → Prop}

mutual

theorem tidy_takeValue? (hp : HoldsOfRead p) : ∀ {fuel : Nat} {t : Text} {v : Json} {rest : Text},
    takeValue? fuel t = some (v, rest) → Tidy p v
  | 0, t, v, rest, h => by simp [takeValue?] at h
  | fuel + 1, t, v, rest, h => by
    rw [takeValue?] at h
    split at h
    case h_1 =>
      obtain ⟨s, -, rfl⟩ := exists_of_map_fst h
      rw [Tidy] <;> simp
    case h_2 =>
      split at h
      · obtain ⟨rfl, -⟩ := Prod.mk.inj (Option.some_inj.mp h)
        rw [Tidy, TidyItems]
        exact trivial
      · obtain ⟨vs, hvs, rfl⟩ := exists_of_map_fst h
        rw [Tidy]
        exact tidyItems_takeItems? hp hvs
    case h_3 =>
      split at h
      · obtain ⟨rfl, -⟩ := Prod.mk.inj (Option.some_inj.mp h)
        rw [Tidy, TidyFields]
        exact ⟨ordered_nil, trivial⟩
      · obtain ⟨fs, hfs, rfl⟩ := exists_of_map_fst h
        exact tidy_ofPairs (tidyFields_takeFields? hp hfs)
    case h_7 =>
      obtain ⟨x, hx, rfl⟩ := exists_of_map_fst h
      rw [Tidy]
      exact hp hx
    -- what is left are the three words
    all_goals
      obtain ⟨r, -, heq⟩ := Option.map_eq_some_iff.mp h
      obtain ⟨rfl, -⟩ := Prod.mk.inj heq
      rw [Tidy] <;> simp

theorem tidyItems_takeItems? (hp : HoldsOfRead p) : ∀ {fuel : Nat} {t : Text} {vs : List Json}
    {rest : Text}, takeItems? fuel t = some (vs, rest) → TidyItems p vs
  | 0, t, vs, rest, h => by simp [takeItems?] at h
  | fuel + 1, t, vs, rest, h => by
    rw [takeItems?] at h
    obtain ⟨⟨v, rest₁⟩, hv, h⟩ := Option.bind_eq_some_iff.mp h
    dsimp only at h
    split at h
    · obtain ⟨⟨ws, rest₂⟩, hws, h⟩ := Option.bind_eq_some_iff.mp h
      obtain ⟨rfl, -⟩ := Prod.mk.inj (Option.some_inj.mp h)
      rw [TidyItems]
      exact ⟨tidy_takeValue? hp hv, tidyItems_takeItems? hp hws⟩
    · obtain ⟨rfl, -⟩ := Prod.mk.inj (Option.some_inj.mp h)
      rw [TidyItems, TidyItems]
      exact ⟨tidy_takeValue? hp hv, trivial⟩
    · cases h

theorem tidyFields_takeFields? (hp : HoldsOfRead p) :
    ∀ {fuel : Nat} {t : Text} {fs : List (Text × Json)} {rest : Text},
    takeFields? fuel t = some (fs, rest) → TidyFields p fs
  | 0, t, fs, rest, h => by simp [takeFields?] at h
  | fuel + 1, t, fs, rest, h => by
    rw [takeFields?] at h
    split at h
    · obtain ⟨⟨name, rest₁⟩, -, h⟩ := Option.bind_eq_some_iff.mp h
      dsimp only at h
      split at h
      · obtain ⟨⟨v, rest₂⟩, hv, h⟩ := Option.bind_eq_some_iff.mp h
        dsimp only at h
        split at h
        · obtain ⟨⟨gs, rest₃⟩, hgs, h⟩ := Option.bind_eq_some_iff.mp h
          obtain ⟨rfl, -⟩ := Prod.mk.inj (Option.some_inj.mp h)
          rw [TidyFields, TidyField]
          exact ⟨tidy_takeValue? hp hv, tidyFields_takeFields? hp hgs⟩
        · obtain ⟨rfl, -⟩ := Prod.mk.inj (Option.some_inj.mp h)
          rw [TidyFields, TidyField, TidyFields]
          exact ⟨tidy_takeValue? hp hv, trivial⟩
        · cases h
      · cases h
    · cases h

end

/-- A value that is read is tidy, with numbers of every kind that holds of what is read. -/
theorem tidy_of_parse?_of_holds (hp : HoldsOfRead p) {t : Text} {v : Json}
    (h : parse? t = some v) : Tidy p v := by
  rw [parse?] at h
  split at h
  · rename_i heq
    split at h
    · obtain rfl := Option.some_inj.mp h
      exact tidy_takeValue? hp heq
    · cases h
  · cases h

end

/-- Any number will do. -/
abbrev anyNumber : Float → Prop := fun _ => True

/-- **Whatever is read is tidy**: the fields of its objects are in order. -/
theorem tidy_of_parse? {t : Text} {v : Json} (h : parse? t = some v) : Tidy anyNumber v :=
  tidy_of_parse?_of_holds (fun _ => trivial) h

theorem isNaN_takeUnsigned? {t rest : Text} {x : Float} (h : takeUnsigned? t = some (x, rest)) :
    Number.isNaN x = false := by
  rw [takeUnsigned?] at h
  obtain ⟨⟨whole, t₁⟩, -, h⟩ := Option.bind_eq_some_iff.mp h
  obtain ⟨⟨fraction, t₂⟩, -, h⟩ := Option.bind_eq_some_iff.mp h
  obtain ⟨⟨e, t₃⟩, -, h⟩ := Option.bind_eq_some_iff.mp h
  obtain ⟨rfl, -⟩ := Prod.mk.inj (Option.some_inj.mp h)
  exact Number.isNaN_ofDecimal _ _

/-- What is read as a number is one. -/
theorem holdsOfRead_isNaN : HoldsOfRead fun x => Number.isNaN x = false := by
  intro t x rest h
  unfold takeNumber? at h
  split at h
  · obtain ⟨y, hy, rfl⟩ := exists_of_map_fst h
    exact Number.isNaN_neg (isNaN_takeUnsigned? hy)
  · exact isNaN_takeUnsigned? h

/-- **The numbers of a value that is read are numbers.** -/
theorem isNaN_of_parse? {t : Text} {v : Json} (h : parse? t = some v) :
    Tidy (fun x => Number.isNaN x = false) v :=
  tidy_of_parse?_of_holds holdsOfRead_isNaN h

/-- The value of a member of a tidy object is tidy. -/
theorem tidy_of_get? {p : Float → Prop} {v w : Json} {name : Text} (hv : Tidy p v)
    (h : v.get? name = some w) : Tidy p w := by
  cases v with
  | obj fs =>
    rw [Tidy] at hv
    obtain ⟨before, after, rfl, -⟩ := List.lookup_eq_some_iff.mp h
    exact tidyFields_iff.mp hv.2 (name, w) (by simp)
  | _ => cases h

/-! ### What is lost -/

section Lost

variable {g : Float → Float} {q : Float → Prop}

mutual

/-- **Only numbers can be lost.** If numbers are compared by `g`, and the value that is read again
compares as equal, then every number of the value is finite and compares as equal to itself without
the sign of a zero. -/
theorem tidy_of_mapNumbers_reread
    (hq : ∀ x, Number.isFinite x = true → g (Number.unsignZero x) = g x → q x) : ∀ v : Json,
    Tidy anyNumber v → mapNumbers g (reread v) = mapNumbers g v → Tidy q v
  | .null, _, _ => by rw [Tidy] <;> simp
  | .bool b, _, _ => by rw [Tidy] <;> simp
  | .num x, _, h => by
    rw [Tidy]
    rw [reread] at h
    split at h
    · rename_i hx
      rw [mapNumbers, mapNumbers, num.injEq] at h
      exact hq x hx h
    · -- a number that is not finite has become `null`
      rw [mapNumbers, mapNumbers] at h
      cases h
  | .str s, _, _ => by rw [Tidy] <;> simp
  | .arr items, hv, h => by
    rw [Tidy] at hv ⊢
    rw [reread, mapNumbers, mapNumbers, arr.injEq] at h
    exact tidyItems_of_mapNumbers_reread hq items hv h
  | .obj fields, hv, h => by
    rw [Tidy] at hv ⊢
    -- the fields were in order, and have kept it
    rw [reread, ofPairs, Fields.ofPairs,
      collectNamed_eq_self (hv.1.congr (map_fst_rereadFields fields)), mapNumbers, mapNumbers,
      obj.injEq] at h
    exact ⟨hv.1, tidyFields_of_mapNumbers_reread hq fields hv.2 h⟩

theorem tidyItems_of_mapNumbers_reread
    (hq : ∀ x, Number.isFinite x = true → g (Number.unsignZero x) = g x → q x) :
    ∀ vs : List Json, TidyItems anyNumber vs →
      mapNumbersItems g (rereadItems vs) = mapNumbersItems g vs → TidyItems q vs
  | [], _, _ => by
    rw [TidyItems]
    exact trivial
  | v :: vs, hvs, h => by
    rw [TidyItems] at hvs ⊢
    rw [rereadItems, mapNumbersItems, mapNumbersItems, List.cons.injEq] at h
    exact ⟨tidy_of_mapNumbers_reread hq v hvs.1 h.1,
      tidyItems_of_mapNumbers_reread hq vs hvs.2 h.2⟩

theorem tidyFields_of_mapNumbers_reread
    (hq : ∀ x, Number.isFinite x = true → g (Number.unsignZero x) = g x → q x) :
    ∀ fs : List (Text × Json), TidyFields anyNumber fs →
      mapNumbersFields g (rereadFields fs) = mapNumbersFields g fs → TidyFields q fs
  | [], _, _ => by
    rw [TidyFields]
    exact trivial
  | (name, v) :: fs, hfs, h => by
    rw [TidyFields, TidyField] at hfs ⊢
    rw [rereadFields_cons, mapNumbersFields, mapNumbersField, mapNumbersFields, mapNumbersField,
      List.cons.injEq, Prod.mk.injEq] at h
    exact ⟨tidy_of_mapNumbers_reread hq v hfs.1 h.1.2,
      tidyFields_of_mapNumbers_reread hq fs hfs.2 h.2⟩

end

end Lost

/-- **The same value**: the two differ in the signs of zeros at most, at any depth. -/
def Same (v w : Json) : Prop :=
  v.mapNumbers Number.unsignZero = w.mapNumbers Number.unsignZero

variable {v : Json}

/-- A value whose numbers are finite is the same when it is read again. -/
theorem same_reread (h : v.Tidy fun x => Number.isFinite x = true) : v.reread.Same v := by
  -- what was read again has no signs to lose any more
  have hreread : Tidy (fun x => Number.isFinite x = true ∧ Number.unsignZero x = x) v.reread :=
    tidy_reread (fun _ hx => Number.unsignZero_finite hx) v
  rw [Same, mapNumbers_eq_self (fun _ hx => hx.2) _ hreread]
  exact reread_eq_mapNumbers (fun _ hx => hx) v h

/-- A value whose numbers are plain is equal when it is read again. -/
theorem reread_eq_of_plain (h : v.Tidy Number.Plain) : v.reread = v :=
  reread_eq_self (fun _ hx => ⟨hx.1, Number.unsignZero_eq_self hx⟩) h

/-- **A value that is read again is the same** exactly when all its numbers are finite. -/
theorem same_reread_iff (hv : v.Tidy anyNumber) :
    v.reread.Same v ↔ v.Tidy fun x => Number.isFinite x = true :=
  ⟨tidy_of_mapNumbers_reread (fun _ hx _ => hx) v hv, same_reread⟩

/-- **A value that is read again is equal** exactly when all its numbers are plain. -/
theorem reread_eq_iff (hv : v.Tidy anyNumber) : v.reread = v ↔ v.Tidy Number.Plain := by
  constructor
  · intro h
    refine tidy_of_mapNumbers_reread (g := id)
      (fun x hx => Number.plain_of_unsignZero_eq hx) v hv ?_
    rw [h]
  · exact reread_eq_of_plain

end Json

end LineAgents
