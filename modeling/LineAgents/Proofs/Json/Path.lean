import LineAgents.Json.Basic

/-!
# Paths into a JSON value

A **path** leads into a JSON value step by step: to the member of an object under a name, or to the
item of a list at a position. What stands at a path is a relation, `LineAgents.Json.At`: no value
but an object has members, and no value but a list has items. A reader that goes down one step at a
time finds what stands at a path, because every step can be taken off the front of it
(`LineAgents.Json.at_member_iff`, `LineAgents.Json.at_item_iff`); and at its end it takes a value of
one type only (`LineAgents.Json.text?_eq_some_iff`, `LineAgents.Json.mapM_number?_eq_some_iff`).
-/

namespace LineAgents.Json

/-- **A step into a JSON value.** -/
inductive Step where
  /-- To the member of an object under a name. -/
  | member (name : Text)
  /-- To the item of a list at a position. -/
  | item (i : Nat)

/-- **What stands at a path** into a value. -/
inductive At : Json → List Step → Json → Prop where
  /-- The value itself, after no step. -/
  | here (v : Json) : At v [] v
  /-- What stands behind the member of an object. -/
  | member {fields : Fields} {name : Text} {u w : Json} {path : List Step}
      (hu : fields.get? name = some u) (h : At u path w) :
      At (.obj fields) (.member name :: path) w
  /-- What stands behind the item of a list. -/
  | item {items : List Json} {i : Nat} {u w : Json} {path : List Step}
      (hu : items[i]? = some u) (h : At u path w) : At (.arr items) (.item i :: path) w

/-- **The item of a list at a position.** -/
def item? : Json → Nat → Option Json
  | .arr items, i => items[i]?
  | _, _ => none

variable {v w : Json} {path : List Step}

/-! ### One step at a time -/

theorem at_nil_iff : v.At [] w ↔ v = w := by
  constructor
  · intro h
    cases h
    rfl
  · rintro rfl
    exact At.here v

theorem at_member_iff {name : Text} :
    v.At (.member name :: path) w ↔ ∃ u, v.get? name = some u ∧ u.At path w := by
  constructor
  · intro h
    cases h with
    | member hu h => exact ⟨_, hu, h⟩
  · rintro ⟨u, hu, h⟩
    cases v with
    | obj fields => exact At.member hu h
    | _ => cases hu

theorem at_item_iff {i : Nat} :
    v.At (.item i :: path) w ↔ ∃ u, v.item? i = some u ∧ u.At path w := by
  constructor
  · intro h
    cases h with
    | item hu h => exact ⟨_, hu, h⟩
  · rintro ⟨u, hu, h⟩
    cases v with
    | arr items => exact At.item hu h
    | _ => cases hu

/-! ### What stands at the end -/

theorem text?_eq_some_iff {s : Text} : v.text? = some s ↔ v = .str s := by
  cases v with
  | str t =>
    change some t = some s ↔ _
    rw [Option.some_inj, str.injEq]
  | _ => exact ⟨nofun, nofun⟩

theorem number?_eq_some_iff {x : Float} : v.number? = some x ↔ v = .num x := by
  cases v with
  | num y =>
    change some y = some x ↔ _
    rw [Option.some_inj, num.injEq]
  | _ => exact ⟨nofun, nofun⟩

/-- Items are read as numbers when all of them are numbers, and then as these. -/
theorem mapM_number?_eq_some_iff {items : List Json} {xs : List Float} :
    items.mapM number? = some xs ↔ items = xs.map .num := by
  induction items generalizing xs with
  | nil =>
    rw [List.mapM_nil, eq_comm, List.nil_eq, List.map_eq_nil_iff]
    exact Option.some_inj
  | cons v vs ih =>
    rw [List.mapM_cons]
    simp only [Option.bind_eq_bind, Option.bind_eq_some_iff, number?_eq_some_iff, ih]
    constructor
    · rintro ⟨x, rfl, rest, rfl, h⟩
      rw [← Option.some.inj h, List.map_cons]
    · intro h
      cases xs with
      | nil => cases h
      | cons x rest =>
        obtain ⟨rfl, rfl⟩ := List.cons.inj h
        exact ⟨x, rfl, rest, rfl, rfl⟩

end LineAgents.Json
