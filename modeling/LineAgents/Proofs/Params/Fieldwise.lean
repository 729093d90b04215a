import LineAgents.Proofs.Params.Checked

/-!
# Parameters are checked field by field

What a schema says to parameters is put together from what its fields say, each to the value that is
given for it and to nothing else (`LineAgents.Params.Field.outcome`). Acceptable parameters hold the
values that the fields give. Otherwise the message is that of the first field that has one, and it
does not matter what the later ones would say (`LineAgents.Params.Schema.parse_fieldwise`).

Which field comes first is not quite a matter of the declaration. The fields stand in the order in
which an object keeps their names, so a field whose name spells an array index is checked before the
others wherever it is declared (`LineAgents.Params.Schema.exists_inOrder_eq_append`), and its
message may go before that of a field declared earlier
(`LineAgents.Params.Schema.parse_of_index_name`).

Two things could stand in the way. A name that every object has a member for is never absent, and a
record behind the parameters gives values that nobody gave; both are excluded here, and
`LineAgents.Params.Schema.parse_of_supplied` shows what becomes of the second. What is left of the
search for a name is then the value under that name (`LineAgents.Params.View.find_eq_ofGiven`).
-/

namespace LineAgents.Params

variable {schema : Schema} {params p : Fields} {view : View} {name message : Text} {v : Json}

/-! ### One field -/

/-- **What a field says to the value that is given for it**: a value to use, none, or a message. -/
def Field.outcome (f : Field) (given : Option Json) : Except Text (Option Json) :=
  f.check (Found.ofGiven given)

/-- **A value stands for a number**: it is that number, or a text that is not blank and spells it;
what is not a number stands for nothing. -/
def StandsFor (v : Json) (x : Float) : Prop :=
  Number.isNaN x = false ∧
    (v = .num x ∨ ∃ s : Text, v = .str s ∧ s.allBlank = false ∧ Number.ofText s = x)

theorem numberOf?_eq_some_iff {x : Float} : numberOf? v = some x ↔ StandsFor v x := by
  cases v with
  | num y =>
    rw [numberOf?]
    split
    · rename_i hy
      refine ⟨nofun, ?_⟩
      rintro ⟨hx, heq | ⟨s, hs, -⟩⟩
      · cases heq
        rw [hy] at hx
        cases hx
      · cases hs
    · rename_i hy
      constructor
      · intro heq
        obtain rfl := Option.some.inj heq
        exact ⟨by simpa using hy, Or.inl rfl⟩
      · rintro ⟨-, heq | ⟨s, hs, -⟩⟩
        · rw [Json.num.inj heq]
        · cases hs
  | str s =>
    rw [numberOf?]
    constructor
    · intro h
      split at h
      · cases h
      · rename_i hs
        obtain rfl := Option.some.inj h
        rw [Bool.or_eq_true, not_or, Bool.not_eq_true, Bool.not_eq_true] at hs
        exact ⟨hs.2, Or.inr ⟨s, rfl, hs.1, rfl⟩⟩
    · rintro ⟨hx, heq | ⟨t, ht, hblank, rfl⟩⟩
      · cases heq
      · cases ht
        rw [hblank, hx]
        rfl
  | _ =>
    refine ⟨nofun, ?_⟩
    rintro ⟨-, heq | ⟨s, hs, -⟩⟩
    · cases heq
    · cases hs

/-- **A number is accepted exactly when the value stands for one**, and it is the one. -/
theorem Field.outcome_number_iff {f : Field} {label : Text} (hrule : f.rule = .number label)
    (hv : v.isNull = false) {o : Option Json} :
    f.outcome (some v) = .ok o ↔ ∃ x, StandsFor v x ∧ o = some (.num x) := by
  have hcheck : f.outcome (some v) = ((Rule.number label).check (.given v)).map some := by
    rw [Field.outcome, Found.ofGiven_some hv, ← hrule]
    cases hopt : f.optional <;> simp [Field.check, Field.checkFound, hopt]
  rw [hcheck, Rule.check]
  constructor
  · intro h
    obtain ⟨w, hw, rfl⟩ := exists_of_map_some_eq_ok h
    split at hw
    · rename_i x hx
      exact ⟨x, numberOf?_eq_some_iff.mp hx, congrArg some (Except.ok.inj hw).symm⟩
    · cases hw
  · rintro ⟨x, hx, rfl⟩
    rw [numberOf?_eq_some_iff.mpr hx]
    rfl

/-! ### The order of the fields -/

namespace Schema

/-- **Fields whose names are indices are checked first**, in ascending order, and the others as they
are declared. -/
theorem exists_inOrder_eq_append (hnames : (schema.map (·.name)).Nodup) :
    ∃ indexed, schema.inOrder = indexed ++ schema.filter (!isIndex ·.name) ∧
      indexed.Perm (schema.filter (isIndex ·.name)) ∧
      indexed.Pairwise fun f g => writtenBefore g.name f.name = false := by
  let pairs := schema.map fun f => (f.name, f)
  have hnodup : (pairs.map (·.1)).Nodup := by rwa [List.map_map]
  have hfilter (p : Text → Bool) : (pairs.filter (p ·.1)).map (·.2) = schema.filter (p ·.name) := by
    rw [List.filter_map, List.map_map]
    exact List.map_id _
  obtain ⟨indexed, hcollect, hperm⟩ := exists_collectNamed_eq_append hnodup
  refine ⟨indexed.map (·.2), ?_, ?_, ?_⟩
  · change (collectNamed pairs).map (·.2) = _
    rw [hcollect, List.map_append, hfilter (!isIndex ·)]
  · rw [← hfilter isIndex]
    exact hperm.map _
  · have hordered : Ordered indexed := by
      have hall := ordered_collectNamed pairs
      rw [hcollect] at hall
      exact hall.sublist ((List.sublist_append_left indexed _).map _)
    rw [List.pairwise_map]
    refine (List.pairwise_map.mp hordered).imp_of_mem fun {e e'} he he' h => ?_
    have hname : ∀ e ∈ indexed, e.2.name = e.1 := fun e he => by
      obtain ⟨f, -, rfl⟩ := List.mem_map.mp (List.mem_filter.mp (hperm.mem_iff.mp he)).1
      rfl
    rw [hname e he, hname e' he']
    exact h.2

/-! ### All fields -/

/-- **Parameters are checked field by field.** They are acceptable when every field is, by what is
given for it alone. Then they hold what the fields give, under the declared names and each once; and
otherwise the failure is the message of the first field that has one, whatever comes after it. The
fields whose names are indices come first in this, in ascending order, and the others follow as they
are declared. A number is accepted exactly when the value stands for one. -/
theorem parse_fieldwise (hnames : (schema.map (·.name)).Nodup)
    (hplain : ∀ f ∈ schema, f.name ∉ objectMembers ∧ f.name ≠ ancestorName)
    (hparams : (params.map (·.1)).Nodup) (hancestor : params.get? ancestorName = none) :
    ((∃ p, schema.parse params = .ok p) ↔
        ∀ f ∈ schema, ∃ o, f.outcome (params.get? f.name) = .ok o) ∧
      (∀ p, schema.parse params = .ok p → (p.map (·.1)).Nodup ∧ ∀ name v,
        p.get? name = some v ↔
          ∃ f ∈ schema, f.name = name ∧ f.outcome (params.get? name) = .ok (some v)) ∧
      (∀ failure, schema.parse params = .error failure ↔
        ∃ before f after message, schema.inOrder = before ++ f :: after ∧
          (∀ g ∈ before, ∃ o, g.outcome (params.get? g.name) = .ok o) ∧
          f.outcome (params.get? f.name) = .error message ∧ failure = .validation message) ∧
      (∃ indexed, schema.inOrder = indexed ++ schema.filter (!isIndex ·.name) ∧
        indexed.Perm (schema.filter (isIndex ·.name)) ∧
        indexed.Pairwise fun f g => writtenBefore g.name f.name = false) ∧
      ∀ f ∈ schema, ∀ label, f.rule = .number label → ∀ v, v.isNull = false → ∀ o,
        f.outcome (some v) = .ok o ↔ ∃ x, StandsFor v x ∧ o = some (.num x) := by
  have hcheck : ∀ f ∈ schema.inOrder,
      f.check ((View.of params).find f.name) = f.outcome (params.get? f.name) := fun f hf =>
    congrArg f.check (View.find_eq_ofGiven hparams hancestor (hplain f (mem_of_mem_inOrder hf)))
  have hmem {f : Field} : f ∈ schema.inOrder ↔ f ∈ schema := mem_inOrder_iff hnames
  refine ⟨⟨?_, ?_⟩, ?_, ?_, exists_inOrder_eq_append hnames,
    fun f _ label hrule v hv o => Field.outcome_number_iff hrule hv⟩
  · rintro ⟨p, hp⟩ f hf
    rw [← hcheck f (hmem.mpr hf)]
    exact (parse_eq_ok_iff.mp hp).1 f (hmem.mpr hf)
  · intro h
    exact ⟨_, parse_eq_ok_iff.mpr ⟨fun f hf => by rw [hcheck f hf]; exact h f (hmem.mp hf), rfl⟩⟩
  · intro p hp
    refine ⟨nodup_of_parse hp, fun name v => ?_⟩
    rw [get?_eq_some_iff_of_parse hp]
    constructor
    · rintro ⟨f, hf, rfl, -, ho⟩
      exact ⟨f, hmem.mp hf, rfl, hcheck f hf ▸ ho⟩
    · rintro ⟨f, hf, rfl, ho⟩
      exact ⟨f, hmem.mpr hf, rfl, (hplain f hf).2, (hcheck f (hmem.mpr hf)).trans ho⟩
  · intro failure
    simp only [parse_eq_error_iff, exists_issues_eq_cons_iff]
    constructor
    · rintro ⟨message, ⟨before, f, after, hsplit, hbefore, hf⟩, rfl⟩
      have hin : ∀ g ∈ before ++ f :: after, g ∈ schema.inOrder := fun g hg => hsplit ▸ hg
      refine ⟨before, f, after, message, hsplit, fun g hg => ?_, ?_, rfl⟩
      · rw [← hcheck g (hin g (List.mem_append_left _ hg))]
        exact hbefore g hg
      · rw [← hcheck f (hin f (List.mem_append_right _ List.mem_cons_self))]
        exact hf
    · rintro ⟨before, f, after, message, hsplit, hbefore, hf, rfl⟩
      have hin : ∀ g ∈ before ++ f :: after, g ∈ schema.inOrder := fun g hg => hsplit ▸ hg
      refine ⟨message, ⟨before, f, after, hsplit, fun g hg => ?_, ?_⟩, rfl⟩
      · rw [hcheck g (hin g (List.mem_append_left _ hg))]
        exact hbefore g hg
      · rw [hcheck f (hin f (List.mem_append_right _ List.mem_cons_self))]
        exact hf

/-- A page with an empty address and a limit that is no number: the limit is declared second, under
a name that is an index, and comes first. -/
theorem parse_of_two_faults :
    let schema : Schema :=
      [{ name := "url", rule := .required "url" "url is required" },
        { name := "10", rule := .number "10", default? := some (.num 5) },
        { name := "9", rule := .plain, optional := true }]
    let params : Fields := [("10", .str "many"), ("page", .null), ("url", .str "")]
    (schema.map (·.name)).Nodup ∧
      (∀ f ∈ schema, f.name ∉ objectMembers ∧ f.name ≠ ancestorName) ∧
      (params.map (·.1)).Nodup ∧ params.get? ancestorName = none ∧
      schema.inOrder.map (·.name) = Text.ofStrings ["9", "10", "url"] ∧
      schema.parse params = .error (.validation "10 must be a number") := by
  intro schema params
  have hnames : (schema.map (·.name)).Nodup := by decide
  have hplain : ∀ f ∈ schema, f.name ∉ objectMembers ∧ f.name ≠ ancestorName := by
    simp only [schema, List.forall_mem_cons]
    decide
  have hparams : (params.map (·.1)).Nodup := by decide
  have hancestor : params.get? ancestorName = none := rfl
  obtain ⟨-, -, hfailure, -⟩ := parse_fieldwise hnames hplain hparams hancestor
  refine ⟨hnames, hplain, hparams, hancestor, rfl, (hfailure _).mpr ?_⟩
  refine ⟨[{ name := "9", rule := .plain, optional := true }], _, _, _, rfl, fun g hg => ?_, rfl,
    rfl⟩
  rw [List.mem_singleton.mp hg]
  exact ⟨none, rfl⟩

/-- **The message is not always that of the field declared first**: with neither of two fields
given, it is that of the second, whose name is an index. -/
theorem parse_of_index_name :
    let first : Field := { name := "b", rule := .required "b" "b is required" }
    let second : Field := { name := "1", rule := .required "1" "1 is required" }
    let schema : Schema := [first, second]
    (schema.map (·.name)).Nodup ∧
      (∀ f ∈ schema, f.name ∉ objectMembers ∧ f.name ≠ ancestorName) ∧
      first.outcome (Fields.get? [] first.name) = .error (Text.ofString "b is required") ∧
      schema.parse [] = .error (.validation "1 is required") ∧
      schema.parse [] ≠ .error (.validation "b is required") := by
  intro first second schema
  have hfailure : schema.parse [] = .error (.validation "1 is required") := rfl
  refine ⟨by decide, ?_, rfl, hfailure, ?_⟩
  · simp only [schema, List.forall_mem_cons]
    decide
  · rw [hfailure]
    intro heq
    injection heq with heq
    injection heq with _ heq
    injection heq with heq
    exact absurd heq (by decide)

end Schema

end LineAgents.Params
