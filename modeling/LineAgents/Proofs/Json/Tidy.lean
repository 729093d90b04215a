import LineAgents.Proofs.Json.RoundTrip

/-!
# Values that lose nothing

A value is **tidy** when its objects keep their fields in order and its numbers are of a given kind
(`LineAgents.Json.Tidy`). A tidy value of finite numbers is read back as it is, but for the signs of
its zeros (`LineAgents.Json.reread_eq_mapNumbers`), and without negative zeros it is read back as it
is (`LineAgents.Json.reread_eq_self`). Whatever is read is tidy again
(`LineAgents.Json.tidy_reread`), so that the kinds of values that are spoken of here are the ones
that come in.

The text of a value is printable in any case (`LineAgents.Json.printable_render`).
-/

namespace LineAgents.Json

/-! ### Tidy values -/

mutual

/-- **A tidy value**: the fields of every object are in order, and every number satisfies `p`. -/
def Tidy (p : Float → Prop) : Json → Prop
  | .num x => p x
  | .arr items => TidyItems p items
  | .obj fields => Ordered fields ∧ TidyFields p fields
  | _ => True

/-- Every member is tidy. -/
def TidyItems (p : Float → Prop) : List Json → Prop
  | [] => True
  | v :: vs => Tidy p v ∧ TidyItems p vs

/-- Every field is tidy. -/
def TidyFields (p : Float → Prop) : List (Text × Json) → Prop
  | [] => True
  | f :: fs => TidyField p f ∧ TidyFields p fs

/-- The value of the field is tidy. -/
def TidyField (p : Float → Prop) : Text × Json → Prop
  | (_, v) => Tidy p v

end

mutual

/-- Whether a value is tidy can be computed. -/
def decidableTidy (p : Float → Prop) [DecidablePred p] : (v : Json) → Decidable (Tidy p v)
  | .null => isTrue trivial
  | .bool _ => isTrue trivial
  | .num x => inferInstanceAs (Decidable (p x))
  | .str _ => isTrue trivial
  | .arr items => decidableTidyItems p items
  | .obj fields => @instDecidableAnd _ _ _ (decidableTidyFields p fields)

/-- Whether all members are tidy can be computed. -/
def decidableTidyItems (p : Float → Prop) [DecidablePred p] :
    (vs : List Json) → Decidable (TidyItems p vs)
  | [] => isTrue trivial
  | v :: vs => @instDecidableAnd _ _ (decidableTidy p v) (decidableTidyItems p vs)

/-- Whether all fields are tidy can be computed. -/
def decidableTidyFields (p : Float → Prop) [DecidablePred p] :
    (fs : List (Text × Json)) → Decidable (TidyFields p fs)
  | [] => isTrue trivial
  | f :: fs => @instDecidableAnd _ _ (decidableTidyField p f) (decidableTidyFields p fs)

/-- Whether the value of a field is tidy can be computed. -/
def decidableTidyField (p : Float → Prop) [DecidablePred p] :
    (f : Text × Json) → Decidable (TidyField p f)
  | (_, v) => decidableTidy p v

end

instance (p : Float → Prop) [DecidablePred p] (v : Json) : Decidable (Tidy p v) :=
  decidableTidy p v

/-! ### Changing the numbers of a value -/

mutual

/-- The value with each of its numbers changed by `g`. -/
def mapNumbers (g : Float → Float) : Json → Json
  | .null => .null
  | .bool b => .bool b
  | .num x => .num (g x)
  | .str s => .str s
  | .arr items => .arr (mapNumbersItems g items)
  | .obj fields => .obj (mapNumbersFields g fields)

/-- The members with each of their numbers changed. -/
def mapNumbersItems (g : Float → Float) : List Json → List Json
  | [] => []
  | v :: vs => mapNumbers g v :: mapNumbersItems g vs

/-- The fields with each of their numbers changed. -/
def mapNumbersFields (g : Float → Float) : List (Text × Json) → List (Text × Json)
  | [] => []
  | f :: fs => mapNumbersField g f :: mapNumbersFields g fs

/-- The field with each number of its value changed. -/
def mapNumbersField (g : Float → Float) : Text × Json → Text × Json
  | (name, v) => (name, mapNumbers g v)

end

theorem map_fst_rereadFields (fs : List (Text × Json)) :
    (rereadFields fs).map (·.1) = fs.map (·.1) := by
  induction fs with
  | nil => rw [rereadFields]
  | cons f fs ih =>
    obtain ⟨name, v⟩ := f
    rw [rereadFields_cons, List.map_cons, List.map_cons, ih]

/-- A change of numbers does not touch names. -/
theorem lookup_mapNumbersFields (g : Float → Float) (fs : List (Text × Json)) (name : Text) :
    (mapNumbersFields g fs).lookup name = (fs.lookup name).map (mapNumbers g) := by
  induction fs with
  | nil => rw [mapNumbersFields]; rfl
  | cons f fs ih =>
    obtain ⟨n, v⟩ := f
    rw [mapNumbersFields, mapNumbersField, List.lookup_cons, List.lookup_cons]
    split
    · rfl
    · exact ih

/-! ### What is read where a tidy value was written -/

section Reread

variable {p : Float → Prop}

mutual

/-- **A tidy value of finite numbers is read back**, but for the signs of its zeros. -/
theorem reread_eq_mapNumbers (hp : ∀ x, p x → Number.isFinite x = true) : ∀ v : Json, Tidy p v →
    reread v = mapNumbers Number.unsignZero v
  | .null, _ => by rw [reread, mapNumbers]
  | .bool b, _ => by rw [reread, mapNumbers]
  | .num x, h => by
    rw [Tidy] at h
    rw [reread, mapNumbers, if_pos (hp x h)]
  | .str s, _ => by rw [reread, mapNumbers]
  | .arr items, h => by
    rw [Tidy] at h
    rw [reread, mapNumbers, rereadItems_eq_mapNumbers hp items h]
  | .obj fields, h => by
    rw [Tidy] at h
    -- the fields were in order, and reading their values has not changed their names
    rw [reread, mapNumbers, ofPairs, Fields.ofPairs,
      collectNamed_eq_self (h.1.congr (map_fst_rereadFields fields)),
      rereadFields_eq_mapNumbers hp fields h.2]

theorem rereadItems_eq_mapNumbers (hp : ∀ x, p x → Number.isFinite x = true) :
    ∀ vs : List Json, TidyItems p vs → rereadItems vs = mapNumbersItems Number.unsignZero vs
  | [], _ => by rw [rereadItems, mapNumbersItems]
  | v :: vs, h => by
    rw [TidyItems] at h
    rw [rereadItems, mapNumbersItems, reread_eq_mapNumbers hp v h.1,
      rereadItems_eq_mapNumbers hp vs h.2]

theorem rereadFields_eq_mapNumbers (hp : ∀ x, p x → Number.isFinite x = true) :
    ∀ fs : List (Text × Json), TidyFields p fs →
      rereadFields fs = mapNumbersFields Number.unsignZero fs
  | [], _ => by rw [rereadFields, mapNumbersFields]
  | f :: fs, h => by
    rw [TidyFields] at h
    rw [rereadFields, mapNumbersFields, rereadField_eq_mapNumbers hp f h.1,
      rereadFields_eq_mapNumbers hp fs h.2]

theorem rereadField_eq_mapNumbers (hp : ∀ x, p x → Number.isFinite x = true) :
    ∀ f : Text × Json, TidyField p f → rereadField f = mapNumbersField Number.unsignZero f
  | (name, v), h => by
    rw [TidyField] at h
    rw [rereadField, mapNumbersField, reread_eq_mapNumbers hp v h]

end

mutual

/-- A change that leaves every number of a value as it is leaves the value as it is. -/
theorem mapNumbers_eq_self {g : Float → Float} (hg : ∀ x, p x → g x = x) : ∀ v : Json, Tidy p v →
    mapNumbers g v = v
  | .null, _ => by rw [mapNumbers]
  | .bool b, _ => by rw [mapNumbers]
  | .num x, h => by
    rw [Tidy] at h
    rw [mapNumbers, hg x h]
  | .str s, _ => by rw [mapNumbers]
  | .arr items, h => by
    rw [Tidy] at h
    rw [mapNumbers, mapNumbersItems_eq_self hg items h]
  | .obj fields, h => by
    rw [Tidy] at h
    rw [mapNumbers, mapNumbersFields_eq_self hg fields h.2]

theorem mapNumbersItems_eq_self {g : Float → Float} (hg : ∀ x, p x → g x = x) :
    ∀ vs : List Json, TidyItems p vs → mapNumbersItems g vs = vs
  | [], _ => by rw [mapNumbersItems]
  | v :: vs, h => by
    rw [TidyItems] at h
    rw [mapNumbersItems, mapNumbers_eq_self hg v h.1, mapNumbersItems_eq_self hg vs h.2]

theorem mapNumbersFields_eq_self {g : Float → Float} (hg : ∀ x, p x → g x = x) :
    ∀ fs : List (Text × Json), TidyFields p fs → mapNumbersFields g fs = fs
  | [], _ => by rw [mapNumbersFields]
  | f :: fs, h => by
    rw [TidyFields] at h
    rw [mapNumbersFields, mapNumbersField_eq_self hg f h.1, mapNumbersFields_eq_self hg fs h.2]

theorem mapNumbersField_eq_self {g : Float → Float} (hg : ∀ x, p x → g x = x) :
    ∀ f : Text × Json, TidyField p f → mapNumbersField g f = f
  | (name, v), h => by
    rw [TidyField] at h
    rw [mapNumbersField, mapNumbers_eq_self hg v h]

end

/-- **A tidy value of finite numbers without negative zeros is read back as it is.** -/
theorem reread_eq_self (hp : ∀ x, p x → Number.isFinite x = true ∧ Number.unsignZero x = x)
    {v : Json} (h : Tidy p v) : reread v = v := by
  rw [reread_eq_mapNumbers (fun x hx => (hp x hx).1) v h]
  exact mapNumbers_eq_self (fun x hx => (hp x hx).2) v h

theorem tidyItems_iff {vs : List Json} : TidyItems p vs ↔ ∀ v ∈ vs, Tidy p v := by
  induction vs with
  | nil =>
    rw [TidyItems]
    simp
  | cons v vs ih =>
    rw [TidyItems, ih, List.forall_mem_cons]

theorem tidyFields_iff {fs : List (Text × Json)} :
    TidyFields p fs ↔ ∀ f ∈ fs, TidyField p f := by
  induction fs with
  | nil =>
    rw [TidyFields]
    simp
  | cons f fs ih =>
    rw [TidyFields, ih, List.forall_mem_cons]

mutual

/-- **Whatever is read is tidy**: reading it once more changes nothing. -/
theorem tidy_reread (hp : ∀ x, Number.isFinite x = true → p (Number.unsignZero x)) :
    ∀ v : Json, Tidy p (reread v)
  | .null => by
    rw [reread, Tidy] <;> simp
  | .bool b => by
    rw [reread, Tidy] <;> simp
  | .num x => by
    rw [reread]
    split
    · rename_i hx
      rw [Tidy]
      exact hp x hx
    · rw [Tidy] <;> simp
  | .str s => by
    rw [reread, Tidy] <;> simp
  | .arr items => by
    rw [reread, Tidy]
    exact tidyItems_rereadItems hp items
  | .obj fields => by
    -- collecting puts the fields in order, and takes their values from those that were read
    rw [reread, ofPairs, Fields.ofPairs, Tidy]
    refine ⟨ordered_collectNamed _, tidyFields_iff.mpr fun f hf => ?_⟩
    exact tidyFields_iff.mp (tidyFields_rereadFields hp fields) f (mem_of_mem_collectNamed hf)

theorem tidyItems_rereadItems (hp : ∀ x, Number.isFinite x = true → p (Number.unsignZero x)) :
    ∀ vs : List Json, TidyItems p (rereadItems vs)
  | [] => by
    rw [rereadItems, TidyItems]
    exact trivial
  | v :: vs => by
    rw [rereadItems, TidyItems]
    exact ⟨tidy_reread hp v, tidyItems_rereadItems hp vs⟩

theorem tidyFields_rereadFields (hp : ∀ x, Number.isFinite x = true → p (Number.unsignZero x)) :
    ∀ fs : List (Text × Json), TidyFields p (rereadFields fs)
  | [] => by
    rw [rereadFields, TidyFields]
    exact trivial
  | (name, v) :: fs => by
    rw [rereadFields_cons, TidyFields, TidyField]
    exact ⟨tidy_reread hp v, tidyFields_rereadFields hp fs⟩

end

end Reread

/-! ### The text of a value -/

theorem printable_writeNumber (x : Float) : Printable (writeNumber x) := by
  rw [writeNumber]
  split
  · rename_i hx
    exact printable_toText hx
  · exact printable_of_visible (by decide)

mutual

/-- **The text of a value is printable**, whatever its strings hold. -/
theorem printable_render : ∀ v : Json, Printable (render v)
  | .null => by
    rw [render]
    exact printable_of_visible (by decide)
  | .bool true => by
    rw [render]
    exact printable_of_visible (by decide)
  | .bool false => by
    rw [render]
    exact printable_of_visible (by decide)
  | .num x => by
    rw [render]
    exact printable_writeNumber x
  | .str s => by
    rw [render]
    exact printable_quote s
  | .arr items => by
    rw [render]
    exact ((printable_renderItems items).append (printable_of_visible (by decide))).cons
      (by decide) (by decide)
  | .obj fields => by
    rw [render]
    exact ((printable_renderFields fields).append (printable_of_visible (by decide))).cons
      (by decide) (by decide)

theorem printable_renderItems : ∀ vs : List Json, Printable (renderItems vs)
  | [] => by
    rw [renderItems]
    exact printable_nil
  | [v] => by
    rw [renderItems]
    exact printable_render v
  | v :: w :: vs => by
    rw [renderItems_cons_cons]
    exact (printable_render v).append
      ((printable_renderItems (w :: vs)).cons (by decide) (by decide))

theorem printable_renderFields : ∀ fs : List (Text × Json), Printable (renderFields fs)
  | [] => by
    rw [renderFields]
    exact printable_nil
  | [f] => by
    rw [renderFields]
    exact printable_renderField f
  | f :: g :: fs => by
    rw [renderFields_cons_cons]
    exact (printable_renderField f).append
      ((printable_renderFields (g :: fs)).cons (by decide) (by decide))

theorem printable_renderField : ∀ f : Text × Json, Printable (renderField f)
  | (name, v) => by
    rw [renderField]
    exact (printable_quote name).append ((printable_render v).cons (by decide) (by decide))

end

end LineAgents.Json
