import LineAgents.Params.Schema
import LineAgents.Proofs.Json.Order

/-!
# Positions and names

Parameters may be given by position or by name, and a default may be declared in two places: with
the position, for a list that is too short, and with the field of the schema, for a name that is not
given. This file says when the difference cannot be seen.

The values of a list under the names of their positions are `LineAgents.Params.named`; a `null` in
the list gives no value there. Positions and a schema **agree** (`LineAgents.Params.Agrees`) when
the default of every position is the default of the field of that name. In that case a list and its
named values pass a schema in the same way, with the same checked fields or the same message
(`LineAgents.Params.parse_positional`), however long the list is and wherever it holds `null`.

The proof compares what the schema finds under one name in the two views. A value of the list that
is not `null` is found in both. Otherwise the name is absent from the second view, and the first
view has the default of the position or nothing; a field that has the same default checks both in
the same way (`LineAgents.Params.Field.check_default`).
-/

namespace LineAgents.Params

/-! ### The names of a list of values -/

/-- **The values of a list under the names of their positions**: those that have a position, and are
not `null`. -/
def named (order : List Position) (values : List Json) : Fields :=
  Fields.ofPairs (((order.zip values).filter fun e => !e.2.isNull).map fun e => (e.1.name, e.2))

/-- The default that a schema declares for a name. -/
def Schema.default? (schema : Schema) (name : Text) : Option Json :=
  (schema.find? (·.name == name)).bind Field.default?

/-- **Positions and a schema that agree**: no name is declared twice, none is the name of a member
that every object has, and a position with a default has that of the field it stands for. -/
structure Agrees (order : List Position) (schema : Schema) : Prop where
  positions : (order.map (·.name)).Nodup
  fields : (schema.map (·.name)).Nodup
  plain : ∀ p ∈ order, p.name ∉ objectMembers ∧ p.name ≠ ancestorName
  defaults : ∀ p ∈ order, p.default?.isSome → schema.default? p.name = p.default?

/-- Agreement in a form that a declaration can be checked against: the defaults are compared all at
once. -/
theorem Agrees.of_map {order : List Position} {schema : Schema}
    (positions : (order.map (·.name)).Nodup) (fields : (schema.map (·.name)).Nodup)
    (plain : ∀ p ∈ order, p.name ∉ objectMembers ∧ p.name ≠ ancestorName)
    (defaults : order.map (·.default?) =
      order.map fun p => p.default?.bind fun _ => schema.default? p.name) :
    Agrees order schema where
  positions := positions
  fields := fields
  plain := plain
  defaults p hp hsome := by
    obtain ⟨d, hd⟩ := Option.isSome_iff_exists.mp hsome
    have heq := List.map_inj_left.mp defaults p hp
    rw [hd, Option.bind_some] at heq
    exact heq.symm.trans hd.symm

/-! ### What positions assign -/

theorem positionValue?_eq (p : Position) (vs : List Json) :
    positionValue? p vs = vs[0]?.or p.default? := by
  cases vs <;> rfl

/-- **The assignments of a list**: a position gives its name the value at that place, and its
default beyond the end. -/
theorem mem_assignments {order : List Position} {vs : List Json} {name : Text} {v : Json} :
    (name, v) ∈ assignments order vs ↔
      ∃ (i : Nat) (p : Position), order[i]? = some p ∧ p.name = name ∧
        vs[i]?.or p.default? = some v := by
  induction order generalizing vs with
  | nil => simp [assignments]
  | cons p ps ih =>
    have hcons : (name, v) ∈ assignments (p :: ps) vs ↔
        (p.name = name ∧ vs[0]?.or p.default? = some v) ∨ (name, v) ∈ assignments ps vs.tail := by
      rw [assignments, ← positionValue?_eq]
      cases positionValue? p vs with
      | none => simp
      | some w => simp [eq_comm]
    rw [hcons, ih]
    constructor
    · rintro (⟨hname, hv⟩ | ⟨i, q, hq, hname, hv⟩)
      · exact ⟨0, p, rfl, hname, hv⟩
      · refine ⟨i + 1, q, hq, hname, ?_⟩
        rwa [List.getElem?_tail] at hv
    · rintro ⟨i, q, hq, hname, hv⟩
      cases i with
      | zero =>
        obtain rfl : p = q := Option.some_inj.mp hq
        exact Or.inl ⟨hname, hv⟩
      | succ i =>
        refine Or.inr ⟨i, q, hq, hname, ?_⟩
        rwa [List.getElem?_tail]

/-- The names assigned are those of some of the positions, in order. -/
theorem map_fst_assignments_sublist (order : List Position) (vs : List Json) :
    ((assignments order vs).map (·.1)).Sublist (order.map (·.name)) := by
  induction order generalizing vs with
  | nil => exact List.Sublist.refl []
  | cons p ps ih =>
    rw [assignments]
    cases positionValue? p vs with
    | none => exact (ih vs.tail).cons p.name
    | some v => exact (ih vs.tail).cons_cons p.name

/-- The names of the named values of a list are those of some of the positions, in order. -/
theorem map_fst_named_sublist (order : List Position) (vs : List Json) :
    ((((order.zip vs).filter fun e => !e.2.isNull).map fun e => (e.1.name, e.2)).map (·.1)).Sublist
      (order.map (·.name)) := by
  have hzip : ((order.zip vs).map Prod.fst).Sublist order := by
    rw [List.zip_eq_zip_take_min, List.map_fst_zip (by simp)]
    exact List.take_sublist _ order
  have hfilter : ((order.zip vs).filter fun e => !e.2.isNull).Sublist (order.zip vs) :=
    List.filter_sublist
  rw [List.map_map]
  refine (hfilter.map _).trans ?_
  have hnames := hzip.map (·.name)
  rwa [List.map_map] at hnames

/-- **The named values of a list**, by their places. -/
theorem mem_named {order : List Position} (h : (order.map (·.name)).Nodup) {vs : List Json}
    {name : Text} {v : Json} : (name, v) ∈ named order vs ↔
      ∃ (i : Nat) (p : Position),
        order[i]? = some p ∧ p.name = name ∧ vs[i]? = some v ∧ v.isNull = false := by
  rw [named, Fields.ofPairs, mem_collectNamed_iff (h.sublist (map_fst_named_sublist order vs)),
    List.mem_map]
  constructor
  · rintro ⟨⟨p, w⟩, hmem, heq⟩
    obtain ⟨rfl, rfl⟩ := Prod.mk.inj heq
    obtain ⟨hzip, hnull⟩ := List.mem_filter.mp hmem
    obtain ⟨i, hi⟩ := List.mem_iff_getElem?.mp hzip
    obtain ⟨hp, hw⟩ := List.getElem?_zip_eq_some.mp hi
    exact ⟨i, p, hp, rfl, hw, by simpa using hnull⟩
  · rintro ⟨i, p, hp, rfl, hv, hnull⟩
    refine ⟨(p, v), List.mem_filter.mpr ⟨?_, by simpa using hnull⟩, rfl⟩
    exact List.mem_iff_getElem?.mpr ⟨i, List.getElem?_zip_eq_some.mpr ⟨hp, hv⟩⟩

example : named [{ name := "a" }, { name := "b", default? := some .null }, { name := "c" }]
    [.num 1, .null] = [(Text.ofString "a", .num 1)] := rfl

/-- Two positions of one name are one. -/
theorem eq_of_name_eq {order : List Position} (h : (order.map (·.name)).Nodup) {i j : Nat}
    {p q : Position} (hp : order[i]? = some p) (hq : order[j]? = some q) (hname : q.name = p.name) :
    j = i := by
  obtain ⟨hj, -⟩ := List.getElem?_eq_some_iff.mp hq
  refine (List.getElem?_inj ?_ h).mp ?_
  · rwa [List.length_map]
  · rw [List.getElem?_map, List.getElem?_map, hp, hq, Option.map_some, Option.map_some, hname]

/-! ### What a schema finds -/

/-- A value that counts as given: one that is not `null`. -/
def present (v : Option Json) : Option Json := v.filter fun v => !v.isNull

theorem present_present (v : Option Json) : present (present v) = present v := by
  rw [present, present, Option.filter_filter]
  simp only [Bool.and_self]

theorem present_some {v : Json} (h : v.isNull = false) : present (some v) = some v :=
  Option.filter_some_pos (by simp [h])

/-- What is given under a name, seen by a schema: it is there unless it is `null`. -/
theorem View.get?_own {params : Fields} (h : (params.map (·.1)).Nodup) {name : Text}
    (hancestor : name = ancestorName → params.get? name = none) :
    (View.of params).own.get? name = present (params.get? name) := by
  ext v
  have hfilter : ((params.filter fun f => !f.2.isNull && f.1 != ancestorName).map (·.1)).Nodup :=
    h.sublist (List.filter_sublist.map _)
  rw [View.of, Fields.get?, lookup_eq_some_iff_mem hfilter, List.mem_filter, present,
    Option.filter_eq_some_iff, Fields.get?, lookup_eq_some_iff_mem h, Bool.and_eq_true]
  refine and_congr_right fun hmem => and_iff_left (bne_iff_ne.mpr fun heq => ?_)
  rw [← lookup_eq_some_iff_mem h, ← Fields.get?, hancestor heq] at hmem
  exact absurd hmem (by simp)

/-- **What a schema finds among given parameters** that have no ancestor: what is given and not
`null`, and the members of every object. -/
theorem View.find_of {params : Fields} (h : (params.map (·.1)).Nodup)
    (hancestor : params.get? ancestorName = none) (name : Text) :
    (View.of params).find name =
      match present (params.get? name) with
      | some v => .given v
      | none => builtin name := by
  rw [View.find, View.get?_own h fun heq => heq ▸ hancestor]
  cases present (params.get? name) with
  | some v => rfl
  | none =>
    simp only [View.of, hancestor]
    rfl

theorem builtin_eq_absent {name : Text} (h : name ∉ objectMembers ∧ name ≠ ancestorName) :
    builtin name = .absent := by
  rw [builtin, if_neg (by simpa using h.1), if_neg (by simpa using h.2)]

section Find

variable {order : List Position} {schema : Schema} {vs : List Json}

theorem nodup_normalize (order : List Position) (vs : List Json) :
    ((normalize (some (.arr vs)) order).map (·.1)).Nodup :=
  (ordered_collectNamed _).nodup

theorem nodup_named (order : List Position) (vs : List Json) :
    ((named order vs).map (·.1)).Nodup :=
  (ordered_collectNamed _).nodup

theorem mem_normalize (h : Agrees order schema) {name : Text} {v : Json} :
    (name, v) ∈ normalize (some (.arr vs)) order ↔
      ∃ (i : Nat) (p : Position),
        order[i]? = some p ∧ p.name = name ∧ vs[i]?.or p.default? = some v := by
  have hnodup : (((assignments order vs).filter (·.1 != ancestorName)).map (·.1)).Nodup :=
    (h.positions.sublist (map_fst_assignments_sublist order vs)).sublist
      (List.filter_sublist.map _)
  change (name, v) ∈ collectNamed _ ↔ _
  rw [mem_collectNamed_iff hnodup, List.mem_filter, mem_assignments]
  refine ⟨And.left, fun hmem => ⟨hmem, ?_⟩⟩
  obtain ⟨i, p, hp, rfl, -⟩ := hmem
  exact bne_iff_ne.mpr (h.plain p (List.mem_of_getElem? hp)).2

/-- The value of a position in a list: the one at its place, and its default beyond the end. -/
theorem get?_normalize (h : Agrees order schema) {i : Nat} {p : Position}
    (hp : order[i]? = some p) :
    (normalize (some (.arr vs)) order).get? p.name = vs[i]?.or p.default? := by
  ext v
  rw [Fields.get?, lookup_eq_some_iff_mem (nodup_normalize order vs), mem_normalize h]
  constructor
  · rintro ⟨j, q, hq, hname, hv⟩
    obtain rfl := eq_of_name_eq h.positions hp hq hname
    obtain rfl : p = q := Option.some_inj.mp (hp.symm.trans hq)
    exact hv
  · exact fun hv => ⟨i, p, hp, rfl, hv⟩

/-- The value of a position under its name: the one at its place unless that is `null`. -/
theorem get?_named (h : Agrees order schema) {i : Nat} {p : Position} (hp : order[i]? = some p) :
    (named order vs).get? p.name = present vs[i]? := by
  ext v
  rw [Fields.get?, lookup_eq_some_iff_mem (nodup_named order vs), mem_named h.positions, present,
    Option.filter_eq_some_iff]
  constructor
  · rintro ⟨j, q, hq, hname, hv, hnull⟩
    obtain rfl := eq_of_name_eq h.positions hp hq hname
    exact ⟨hv, by rw [hnull]; rfl⟩
  · rintro ⟨hv, hnull⟩
    exact ⟨i, p, hp, rfl, hv, by simpa using hnull⟩

/-- A name that no position stands for has no value, either way. -/
theorem get?_eq_none (h : Agrees order schema) (vs : List Json) {name : Text}
    (hname : ∀ p ∈ order, p.name ≠ name) :
    (normalize (some (.arr vs)) order).get? name = none ∧ (named order vs).get? name = none := by
  constructor
  · refine Option.eq_none_iff_forall_ne_some.mpr fun v hv => ?_
    rw [Fields.get?, lookup_eq_some_iff_mem (nodup_normalize order vs), mem_normalize h] at hv
    obtain ⟨i, p, hp, heq, -⟩ := hv
    exact hname p (List.mem_of_getElem? hp) heq
  · refine Option.eq_none_iff_forall_ne_some.mpr fun v hv => ?_
    rw [Fields.get?, lookup_eq_some_iff_mem (nodup_named order vs), mem_named h.positions] at hv
    obtain ⟨i, p, hp, heq, -⟩ := hv
    exact hname p (List.mem_of_getElem? hp) heq

/-! ### Lists and named values -/

/-- **A field checks its default as it checks nothing at all.** -/
theorem Field.check_default {f : Field} {d : Json} (h : f.default? = some d) :
    f.check (.given d) = f.check .absent := by
  simp only [check, h]

/-- The field of a name, where no name is declared twice. -/
theorem find?_eq_some {schema : Schema} (h : (schema.map (·.name)).Nodup) {f : Field}
    (hf : f ∈ schema) : schema.find? (·.name == f.name) = some f := by
  obtain ⟨before, after, rfl⟩ := List.append_of_mem hf
  rw [List.map_append, List.map_cons, List.nodup_append] at h
  rw [List.find?_append, List.find?_eq_none.mpr, List.find?_cons_of_pos]
  · rfl
  · exact beq_self_eq_true f.name
  · intro g hg heq
    exact h.2.2 g.name (List.mem_map_of_mem hg) f.name List.mem_cons_self (beq_iff_eq.mp heq)

/-- **A field is checked in the same way** in a list and in the named values of the list. -/
theorem check_positional (h : Agrees order schema) (vs : List Json) {f : Field} (hf : f ∈ schema) :
    f.check ((View.of (normalize (some (.arr vs)) order)).find f.name) =
      f.check ((View.of (named order vs)).find f.name) := by
  obtain ⟨hlist, hnamed⟩ := get?_eq_none h vs fun p hp => (h.plain p hp).2
  rw [View.find_of (nodup_normalize order vs) hlist, View.find_of (nodup_named order vs) hnamed]
  by_cases hdeclared : ∃ p ∈ order, p.name = f.name
  · obtain ⟨p, hp, hname⟩ := hdeclared
    obtain ⟨i, hi⟩ := List.mem_iff_getElem?.mp hp
    rw [← hname, get?_normalize h hi, get?_named h hi, present_present]
    cases vs[i]? with
    | some v => rfl
    | none =>
      -- the list is too short: the position has its default, and the name is absent
      rw [Option.none_or, builtin_eq_absent (h.plain p hp)]
      cases hd : p.default? with
      | none => rfl
      | some d =>
        have hdefault := h.defaults p hp (by rw [hd, Option.isSome_some])
        rw [Schema.default?, hname, find?_eq_some h.fields hf, Option.bind_some, hd] at hdefault
        cases hnull : d.isNull with
        | true =>
          have hpresent : present (some d) = none := Option.filter_some_neg (by simp [hnull])
          rw [hpresent]
          rfl
        | false =>
          rw [present_some hnull]
          exact Field.check_default hdefault
  · have hnone := get?_eq_none h vs fun p hp hname => hdeclared ⟨p, hp, hname⟩
    rw [hnone.1, hnone.2]

theorem Schema.mem_of_mem_inOrder {f : Field} (h : f ∈ schema.inOrder) : f ∈ schema := by
  obtain ⟨⟨name, g⟩, hmem, rfl⟩ := List.mem_map.mp h
  obtain ⟨g', hg', heq⟩ := List.mem_map.mp (mem_of_mem_collectNamed hmem)
  obtain ⟨-, rfl⟩ := Prod.mk.inj heq
  exact hg'

/-- **Views that no field can tell apart** give the same report. -/
theorem Schema.report_congr {a b : View}
    (h : ∀ f ∈ schema, f.check (a.find f.name) = f.check (b.find f.name)) :
    schema.issues a = schema.issues b ∧ schema.values a = schema.values b :=
  ⟨List.filterMap_congr fun f hf => by rw [h f (mem_of_mem_inOrder hf)],
    List.filterMap_congr fun f hf => by rw [h f (mem_of_mem_inOrder hf)]⟩

/-- Such views are checked in the same way. -/
theorem Schema.check_congr {a b : View}
    (h : ∀ f ∈ schema, f.check (a.find f.name) = f.check (b.find f.name)) :
    schema.check a = schema.check b := by
  obtain ⟨hissues, hvalues⟩ := report_congr h
  rw [check, check, hissues, hvalues]

/-- **A list passes a schema as its named values do**, when positions and schema agree. -/
theorem parse_positional (h : Agrees order schema) (vs : List Json) :
    schema.parse (normalize (some (.arr vs)) order) =
      schema.parse (normalize (some (.obj (named order vs))) order) := by
  change _ = schema.parse (named order vs)
  rw [Schema.parse, accept, accept, Schema.check_congr fun f hf => check_positional h vs hf]

end Find

end LineAgents.Params
