import LineAgents.Proofs.Params.Undeclared

/-!
# What checked parameters hold

Checking parameters against a schema looks as if it went from field to field, but what comes of it
has a plain description: a declared name holds the outcome of its own field, by what is found under
the name, and no other name holds anything (`LineAgents.Params.Schema.check_of_parse`). What an
agent reads of its checked parameters can so be traced back to the parameters it was given, one
field at a time; for a field that is a text, whether it has to be given, may be left open or has a
default, this is done here (`LineAgents.Params.Schema.exists_text_of_parse`,
`LineAgents.Params.Schema.text?_of_parse`, `LineAgents.Params.Schema.text_of_parse_default`), and
for a number as well (`LineAgents.Params.Schema.number_of_parse`,
`LineAgents.Params.Schema.number?_of_parse`).

A value that is given under a declared name and is not `null` is what is found there, whatever else
is given (`LineAgents.Params.View.find_of_present`); and without a record behind the parameters
nothing else is found under a plain name (`LineAgents.Params.View.find_eq_ofGiven`).
-/

namespace LineAgents.Params

variable {view : View} {schema : Schema} {params p : Fields} {name : Text}

/-! ### What is found under a name -/

/-- **What is given is found**, unless it is `null`. -/
theorem View.find_of_present (h : Ordered params) (hname : name ≠ ancestorName) {v : Json}
    (hv : present (params.get? name) = some v) : (View.of params).find name = .given v := by
  rw [View.find_eq h hname, hv]

/-- **What is found for a field by the value that is given for it**: nothing if that is missing or
`null`. -/
def Found.ofGiven (given : Option Json) : Found :=
  match present given with
  | some v => .given v
  | none => .absent

/-- What is not `null` is found. -/
theorem Found.ofGiven_some {v : Json} (h : v.isNull = false) :
    Found.ofGiven (some v) = .given v := by
  rw [Found.ofGiven, present_some h]

/-- Without a record behind the parameters a plain name leads to the value given for it. -/
theorem View.find_eq_ofGiven (hparams : (params.map (·.1)).Nodup)
    (hancestor : params.get? ancestorName = none)
    (hname : name ∉ objectMembers ∧ name ≠ ancestorName) :
    (View.of params).find name = Found.ofGiven (params.get? name) := by
  rw [View.find_of hparams hancestor, Found.ofGiven]
  cases present (params.get? name) with
  | none => exact builtin_eq_absent hname
  | some v => rfl

/-- What is not given is absent, if there is no record behind the parameters. -/
theorem View.find_of_missing (h : Ordered params) (hancestor : params.get? ancestorName = none)
    (hname : name ∉ objectMembers ∧ name ≠ ancestorName)
    (hmissing : present (params.get? name) = none) : (View.of params).find name = .absent := by
  rw [View.find_eq_ofGiven h.nodup hancestor hname, Found.ofGiven, hmissing]

/-- **Without a record behind the parameters** what is found is what is given. -/
theorem View.find_eq_given_iff (h : Ordered params) (hancestor : params.get? ancestorName = none)
    (hname : name ∉ objectMembers ∧ name ≠ ancestorName) {v : Json} :
    (View.of params).find name = .given v ↔ present (params.get? name) = some v := by
  rw [View.find_eq_ofGiven h.nodup hancestor hname, Found.ofGiven]
  cases present (params.get? name) with
  | none => exact ⟨nofun, nofun⟩
  | some w =>
    exact ⟨fun hw => congrArg some (Found.given.inj hw),
      fun hw => congrArg Found.given (Option.some.inj hw)⟩

theorem eq_some_of_present {o : Option Json} {v : Json} (h : present o = some v) : o = some v :=
  (Option.filter_eq_some_iff.mp h).1

/-- **The text found under a name**, if a text is found there. -/
def View.text? (view : View) (name : Text) : Option Text :=
  match view.find name with
  | .given (.str s) => some s
  | _ => none

theorem View.text?_of_given {s : Text} (h : view.find name = .given (.str s)) :
    view.text? name = some s := by
  rw [View.text?, h]

/-! ### One field after the other -/

section Outcomes

variable {ε α β : Type}

theorem exists_of_bind_eq_ok {r : Except ε α} {f : α → Except ε β} {b : β}
    (h : r >>= f = .ok b) : ∃ a, r = .ok a ∧ f a = .ok b := by
  cases r with
  | error e => cases h
  | ok a => exact ⟨a, rfl, h⟩

theorem exists_of_map_some_eq_ok {r : Except ε α} {o : Option α} (h : r.map some = .ok o) :
    ∃ a, r = .ok a ∧ o = some a := by
  cases r with
  | error e => cases h
  | ok a => exact ⟨a, rfl, (Except.ok.inj h).symm⟩

end Outcomes

/-! ### The order of checking -/

namespace Schema

/-- The names in the order of checking are those of an object that has them all. -/
theorem map_name_inOrder (schema : Schema) : schema.inOrder.map (·.name) =
    (collectNamed (schema.map fun f => (f.name, f))).map (·.1) := by
  rw [inOrder, List.map_map]
  refine List.map_congr_left fun e he => ?_
  obtain ⟨f, -, rfl⟩ := List.mem_map.mp (mem_of_mem_collectNamed he)
  rfl

theorem nodup_inOrder (schema : Schema) : (schema.inOrder.map (·.name)).Nodup := by
  rw [map_name_inOrder]
  exact (ordered_collectNamed _).nodup

/-- Every field is checked, where no name is declared twice. -/
theorem mem_inOrder_iff (hnames : (schema.map (·.name)).Nodup) {f : Field} :
    f ∈ schema.inOrder ↔ f ∈ schema := by
  refine ⟨mem_of_mem_inOrder, fun hf => List.mem_map.mpr ⟨(f.name, f), ?_, rfl⟩⟩
  rw [mem_collectNamed_iff (by rwa [List.map_map])]
  exact List.mem_map_of_mem hf

/-! ### Reports -/

theorem issues_eq_nil_iff : schema.issues view = [] ↔
    ∀ f ∈ schema.inOrder, ∃ o, f.check (view.find f.name) = .ok o := by
  rw [issues, List.filterMap_eq_nil_iff]
  refine forall₂_congr fun f _ => ?_
  cases f.check (view.find f.name) <;> simp

/-- **The first issue** is that of the first field that is not acceptable. -/
theorem exists_issues_eq_cons_iff {message : Text} :
    (∃ others, schema.issues view = message :: others) ↔
      ∃ before f after, schema.inOrder = before ++ f :: after ∧
        (∀ g ∈ before, ∃ o, g.check (view.find g.name) = .ok o) ∧
        f.check (view.find f.name) = .error message := by
  simp only [issues, List.filterMap_eq_cons_iff]
  constructor
  · rintro ⟨others, before, f, after, hsplit, hbefore, hf, -⟩
    refine ⟨before, f, after, hsplit, fun g hg => ?_, ?_⟩
    · have hg := hbefore g hg
      cases hcheck : g.check (view.find g.name) with
      | ok o => exact ⟨o, rfl⟩
      | error m => simp [hcheck] at hg
    · cases hcheck : f.check (view.find f.name) with
      | ok o => simp [hcheck] at hf
      | error m =>
        rw [hcheck] at hf
        exact congrArg Except.error (Option.some_inj.mp hf)
  · rintro ⟨before, f, after, hsplit, hbefore, hf⟩
    refine ⟨_, before, f, after, hsplit, fun g hg => ?_, ?_, rfl⟩
    · obtain ⟨o, ho⟩ := hbefore g hg
      rw [ho]
    · rw [hf]

/-- **The values of the fields**, each under the name of its field. -/
theorem mem_values_iff {v : Json} : (name, v) ∈ schema.values view ↔
    ∃ f ∈ schema.inOrder, f.name = name ∧ name ≠ ancestorName ∧
      f.check (view.find f.name) = .ok (some v) := by
  rw [values, List.mem_filterMap]
  refine exists_congr fun f => and_congr_right fun _ => ?_
  split
  · rename_i w hw
    by_cases hancestor : f.name = ancestorName
    · simp only [hancestor, beq_self_eq_true, if_true]
      exact ⟨nofun, fun ⟨hname, hne, _⟩ => absurd hname.symm hne⟩
    · rw [if_neg (by simpa using hancestor), hw, Option.some_inj, Prod.mk.injEq]
      constructor
      · rintro ⟨rfl, rfl⟩
        exact ⟨rfl, hancestor, rfl⟩
      · rintro ⟨rfl, -, heq⟩
        exact ⟨rfl, Option.some_inj.mp (Except.ok.inj heq)⟩
  · rename_i hno
    exact ⟨nofun, fun ⟨_, _, heq⟩ => absurd heq (hno v)⟩

/-- The values stand under the names of some of the fields, in order. -/
theorem map_fst_values_sublist (schema : Schema) (view : View) :
    ((schema.values view).map (·.1)).Sublist (schema.inOrder.map (·.name)) := by
  rw [values]
  induction schema.inOrder with
  | nil => exact List.Sublist.refl []
  | cons f fs ih =>
    rw [List.filterMap_cons, List.map_cons]
    split
    · exact ih.cons f.name
    · rename_i e he
      have hname : e.1 = f.name := by
        split at he
        · split at he
          · cases he
          · exact (congrArg Prod.fst (Option.some_inj.mp he)).symm
        · cases he
      rw [List.map_cons, hname]
      exact ih.cons_cons f.name

/-! ### Checked parameters -/

/-- **Parameters are accepted** when every field is acceptable, and they hold the values. -/
theorem parse_eq_ok_iff : schema.parse params = .ok p ↔
    (∀ f ∈ schema.inOrder, ∃ o, f.check ((View.of params).find f.name) = .ok o) ∧
      Fields.ofPairs (schema.values (View.of params)) = p := by
  rw [← issues_eq_nil_iff, parse, accept, check]
  cases schema.issues (View.of params) with
  | nil => simp
  | cons message others => simp

/-- Parameters fail validation with the message of the first issue. -/
theorem parse_eq_error_iff {failure : Failure} : schema.parse params = .error failure ↔
    ∃ message, (∃ others, schema.issues (View.of params) = message :: others) ∧
      failure = .validation message := by
  rw [parse, accept, check]
  cases schema.issues (View.of params) with
  | nil => simp
  | cons message others => simp [refusal, eq_comm]

/-- Parameters that are not acceptable fail validation. -/
theorem exists_of_parse_eq_error {f : Failure} (h : schema.parse params = .error f) :
    ∃ message, f = .validation message := by
  obtain ⟨message, -, hf⟩ := parse_eq_error_iff.mp h
  exact ⟨message, hf⟩

/-- Checked parameters hold every name once. -/
theorem nodup_of_parse (h : schema.parse params = .ok p) : (p.map (·.1)).Nodup := by
  obtain ⟨-, rfl⟩ := parse_eq_ok_iff.mp h
  exact (ordered_collectNamed _).nodup

/-- **What checked parameters hold**: the values of the fields, by what is found for them. -/
theorem get?_eq_some_iff_of_parse (h : schema.parse params = .ok p) {v : Json} :
    p.get? name = some v ↔ ∃ f ∈ schema.inOrder, f.name = name ∧ name ≠ ancestorName ∧
      f.check ((View.of params).find f.name) = .ok (some v) := by
  have hnodup := nodup_of_parse h
  obtain ⟨-, rfl⟩ := parse_eq_ok_iff.mp h
  rw [Fields.get?, lookup_eq_some_iff_mem hnodup, Fields.ofPairs, mem_collectNamed_iff,
    mem_values_iff]
  exact (nodup_inOrder schema).sublist (map_fst_values_sublist schema _)

/-- **A declared name holds the outcome of its field** in checked parameters. -/
theorem check_of_parse (hnames : (schema.map (·.name)).Nodup)
    (h : schema.parse params = .ok p) {f : Field} (hf : f ∈ schema)
    (hname : f.name ≠ ancestorName) :
    f.check ((View.of params).find f.name) = .ok (p.get? f.name) := by
  have hmem := (mem_inOrder_iff hnames).mpr hf
  obtain ⟨o, ho⟩ := (parse_eq_ok_iff.mp h).1 f hmem
  rw [ho]
  refine congrArg Except.ok (Option.ext fun v => ?_)
  rw [get?_eq_some_iff_of_parse h]
  constructor
  · rintro rfl
    exact ⟨f, hmem, rfl, hname, ho⟩
  · rintro ⟨g, hg, heq, -, hcheck⟩
    -- no other field has this name
    obtain rfl := List.inj_on_of_nodup_map (nodup_inOrder schema) hg hmem heq
    exact Except.ok.inj (ho.symm.trans hcheck)

end Schema

/-! ### Fields that are texts -/

/-- A field that has to be given is checked by its rule. -/
theorem Field.check_of_mandatory (name : Text) (rule : Rule) (found : Found) :
    Field.check { name := name, rule := rule } found = (rule.check found).map some := by
  cases found <;> rfl

/-- So is a field that may be left open, once something is found. -/
theorem Field.check_of_optional (name : Text) (rule : Rule) {found : Found}
    (h : found ≠ .absent) :
    Field.check { name := name, rule := rule, optional := true } found =
      (rule.check found).map some := by
  cases found with
  | absent => exact absurd rfl h
  | given v => rfl
  | function => rfl

section Texts

variable {missing mistyped empty : Option Text}

/-- **The rule for a text** accepts texts only, and an empty one only if it has no message for
it. -/
theorem Rule.exists_of_check_text {found : Found} {v : Json}
    (h : (Rule.text missing mistyped empty).check found = .ok v) :
    ∃ s, found = .given (.str s) ∧ v = .str s ∧ (empty.isSome = true → s ≠ []) := by
  cases found with
  | absent => cases h
  | function => cases h
  | given w =>
    cases w with
    | str s =>
      cases empty with
      | none => exact ⟨s, rfl, (Except.ok.inj h).symm, nofun⟩
      | some message =>
        rw [Rule.check] at h
        split at h
        · cases h
        · rename_i hs
          exact ⟨s, rfl, (Except.ok.inj h).symm, fun _ => by simpa using hs⟩
    | _ => cases h

/-- A text that has to be given is accepted when it is not empty. -/
theorem Rule.check_required {s : Text} (h : s ≠ []) (label message : Text) :
    (Rule.required label message).check (.given (.str s)) = .ok (.str s) := by
  change (if s.isEmpty then _ else _) = _
  rw [List.isEmpty_eq_false_iff.mpr h, if_neg Bool.false_ne_true]

/-- **A text that has to be given** is given, and it is what the checked parameters hold. -/
theorem Schema.exists_text_of_parse (hnames : (schema.map (·.name)).Nodup)
    (h : schema.parse params = .ok p)
    (hf : { name := name, rule := .text missing mistyped empty } ∈ schema)
    (hname : name ≠ ancestorName) :
    ∃ s, (View.of params).find name = .given (.str s) ∧ p.text name = s ∧
      (empty.isSome = true → s ≠ []) := by
  have hcheck := Schema.check_of_parse hnames h hf hname
  rw [Field.check_of_mandatory] at hcheck
  obtain ⟨v, hv, hget⟩ := exists_of_map_some_eq_ok hcheck
  obtain ⟨s, hfound, rfl, hs⟩ := Rule.exists_of_check_text hv
  refine ⟨s, hfound, ?_, hs⟩
  rw [Fields.text, Fields.text?, hget]
  rfl

/-- **A text that may be left open** is what is found, if anything is. -/
theorem Schema.text?_of_parse (hnames : (schema.map (·.name)).Nodup)
    (h : schema.parse params = .ok p)
    (hf : { name := name, rule := .text missing mistyped empty, optional := true } ∈ schema)
    (hname : name ≠ ancestorName) : p.text? name = (View.of params).text? name := by
  have hcheck := Schema.check_of_parse hnames h hf hname
  by_cases habsent : (View.of params).find name = .absent
  · rw [habsent] at hcheck
    rw [Fields.text?, View.text?, habsent, ← Except.ok.inj hcheck]
    rfl
  · rw [Field.check_of_optional _ _ habsent] at hcheck
    obtain ⟨v, hv, hget⟩ := exists_of_map_some_eq_ok hcheck
    obtain ⟨s, hfound, rfl, -⟩ := Rule.exists_of_check_text hv
    rw [Fields.text?, hget, View.text?_of_given hfound]
    rfl

/-- **A text with a default** is the text that is found, or the default if nothing is. -/
theorem Schema.text_default_cases {default : Text} (hnames : (schema.map (·.name)).Nodup)
    (h : schema.parse params = .ok p)
    (hf : { name := name, rule := .text missing mistyped none, default? := some (.str default) } ∈
      schema)
    (hname : name ≠ ancestorName) :
    (View.of params).find name = .absent ∧ p.text name = default ∨
      ∃ s, (View.of params).find name = .given (.str s) ∧ p.text name = s := by
  have hcheck := Schema.check_of_parse hnames h hf hname
  cases hfound : (View.of params).find name with
  | absent =>
    rw [hfound] at hcheck
    rw [Fields.text, Fields.text?, ← Except.ok.inj hcheck]
    exact Or.inl ⟨rfl, rfl⟩
  | function =>
    rw [hfound] at hcheck
    cases hcheck
  | given v =>
    rw [hfound] at hcheck
    obtain ⟨w, hw, hget⟩ := exists_of_map_some_eq_ok hcheck
    obtain ⟨s, hs, rfl, -⟩ := Rule.exists_of_check_text hw
    rw [Fields.text, Fields.text?, hget]
    exact Or.inr ⟨s, hs, rfl⟩

theorem Schema.text_of_parse_default {default : Text} (hnames : (schema.map (·.name)).Nodup)
    (h : schema.parse params = .ok p)
    (hf : { name := name, rule := .text missing mistyped none, default? := some (.str default) } ∈
      schema)
    (hname : name ≠ ancestorName) :
    p.text name = ((View.of params).text? name).getD default := by
  obtain ⟨hfound, htext⟩ | ⟨s, hfound, htext⟩ := Schema.text_default_cases hnames h hf hname
  · rw [htext, View.text?, hfound]
    rfl
  · rw [htext, View.text?_of_given hfound]
    rfl

end Texts

/-! ### Fields that are numbers -/

/-- **The number found under a name**, if a number or a numeral is found there. -/
def View.number? (view : View) (name : Text) : Option Float :=
  match view.find name with
  | .given v => numberOf? v
  | _ => none

section Numbers

variable {label : Text}

theorem View.number?_of_given {v : Json} (h : view.find name = .given v) :
    view.number? name = numberOf? v := by
  rw [View.number?, h]

theorem View.number?_eq (h : Ordered params) (hancestor : params.get? ancestorName = none)
    (hname : name ∉ objectMembers ∧ name ≠ ancestorName) :
    (View.of params).number? name = (present (params.get? name)).bind numberOf? := by
  cases hv : present (params.get? name) with
  | none =>
    rw [View.number?, View.find_of_missing h hancestor hname hv]
    rfl
  | some v => exact View.number?_of_given ((View.find_eq_given_iff h hancestor hname).mpr hv)

/-- **The rule for a number** accepts what stands for a number only. -/
theorem Rule.exists_of_check_number {found : Found} {v : Json}
    (h : (Rule.number label).check found = .ok v) :
    ∃ w x, found = .given w ∧ numberOf? w = some x ∧ v = .num x := by
  cases found with
  | absent => cases h
  | function => cases h
  | given w =>
    rw [Rule.check] at h
    cases hx : numberOf? w with
    | none =>
      rw [hx] at h
      cases h
    | some x =>
      rw [hx] at h
      exact ⟨w, x, rfl, hx, (Except.ok.inj h).symm⟩

/-- **A number that has to be given** is found, and it is what the checked parameters hold. -/
theorem Schema.number_of_parse (hnames : (schema.map (·.name)).Nodup)
    (h : schema.parse params = .ok p) (hf : { name := name, rule := .number label } ∈ schema)
    (hname : name ≠ ancestorName) : (View.of params).number? name = some (p.number name) := by
  have hcheck := Schema.check_of_parse hnames h hf hname
  rw [Field.check_of_mandatory] at hcheck
  obtain ⟨v, hv, hget⟩ := exists_of_map_some_eq_ok hcheck
  obtain ⟨w, x, hfound, hx, rfl⟩ := Rule.exists_of_check_number hv
  rw [View.number?_of_given hfound, hx, Fields.number, Fields.number?, hget]
  rfl

/-- **A number that may be left open** is what is found, if anything is. -/
theorem Schema.number?_of_parse (hnames : (schema.map (·.name)).Nodup)
    (h : schema.parse params = .ok p)
    (hf : { name := name, rule := .number label, optional := true } ∈ schema)
    (hname : name ≠ ancestorName) : p.number? name = (View.of params).number? name := by
  have hcheck := Schema.check_of_parse hnames h hf hname
  by_cases habsent : (View.of params).find name = .absent
  · rw [habsent] at hcheck
    rw [Fields.number?, View.number?, habsent, ← Except.ok.inj hcheck]
    rfl
  · rw [Field.check_of_optional _ _ habsent] at hcheck
    obtain ⟨v, hv, hget⟩ := exists_of_map_some_eq_ok hcheck
    obtain ⟨w, x, hfound, hx, rfl⟩ := Rule.exists_of_check_number hv
    rw [Fields.number?, hget, View.number?_of_given hfound, hx]
    rfl

end Numbers

/-! ### Acceptance -/

/-- **Parameters are acceptable when every field is.** -/
theorem Schema.exists_parse_of_forall_check
    (h : ∀ f ∈ schema, ∃ v, f.check ((View.of params).find f.name) = .ok v) :
    ∃ p, schema.parse params = .ok p :=
  ⟨_, Schema.parse_eq_ok_iff.mpr ⟨fun f hf => h f (Schema.mem_of_mem_inOrder hf), rfl⟩⟩

/-- For given parameters that can be computed field by field. -/
theorem Schema.exists_parse_of_all
    (h : schema.all (fun f => (f.check ((View.of params).find f.name)).isOk) = true) :
    ∃ p, schema.parse params = .ok p := by
  refine exists_parse_of_forall_check fun f hf => ?_
  have hok := List.all_eq_true.mp h f hf
  cases hcheck : f.check ((View.of params).find f.name) with
  | error message =>
    rw [hcheck] at hok
    cases hok
  | ok o => exact ⟨o, rfl⟩

end LineAgents.Params
