import LineAgents.Proofs.Params.Positions

/-!
# Names that nobody declared

A schema looks for the names it declares, so a name that it does not declare should make no
difference, whatever value comes with it. There is one exception. The value of `__proto__` is no
parameter but may become the record behind the parameters, and what that record holds under a
declared name is found there once the name is not given, or is `null`: the record **supplies** the
name (`LineAgents.Params.Supplies`, and `LineAgents.Params.Schema.parse_of_supplied` for what comes
of it).

With this exception undeclared names are ignored (`LineAgents.Params.Schema.parse_set_undeclared`):
any of them may be set to any value or be left out, and a declared name that is not given, or is
`null`, is absent all the same.

The proof is about one name at a time. What a schema finds under it depends on what is given under
that name alone, and where that is nothing, on the record (`LineAgents.Params.View.find_eq`).
-/

namespace LineAgents.Params

/-! ### The record behind the parameters -/

/-- **A record supplies a name** when a schema finds something else under it than without a
record. -/
def Supplies (record : Json) (name : Text) : Prop :=
  inherited name (some record) ≠ builtin name

/-- The record behind the parameters is the value of one name, if that is an object or a list. -/
theorem View.ancestor_of (params : Fields) :
    (View.of params).ancestor = none ∨
      ∃ record, params.get? ancestorName = some record ∧
        (View.of params).ancestor = some record := by
  rw [View.of]
  cases params.get? ancestorName with
  | none => exact Or.inl rfl
  | some v =>
    cases v with
    | obj fields => exact Or.inr ⟨_, rfl, rfl⟩
    | arr items => exact Or.inr ⟨_, rfl, rfl⟩
    | _ => exact Or.inl rfl

/-- Behind parameters whose record does not supply a name, a schema finds what every object has. -/
theorem inherited_eq_builtin {params : Fields} {name : Text}
    (h : ∀ record, params.get? ancestorName = some record → ¬Supplies record name) :
    inherited name (View.of params).ancestor = builtin name := by
  rcases View.ancestor_of params with hnone | ⟨record, hrecord, hsome⟩
  · rw [hnone]
    rfl
  · rw [hsome]
    exact not_not.mp (h record hrecord)

/-- **What a schema finds under a name**: what is given under it and not `null`, and otherwise what
the record behind the parameters holds. -/
theorem View.find_eq {params : Fields} (h : Ordered params) {name : Text}
    (hname : name ≠ ancestorName) :
    (View.of params).find name =
      match present (params.get? name) with
      | some v => .given v
      | none => inherited name (View.of params).ancestor := by
  have hown := View.get?_own h.nodup fun heq : name = ancestorName => absurd heq hname
  cases hp : present (params.get? name) with
  | some v => simp only [View.find, hown, hp]
  | none => simp only [View.find, hown, hp]

/-! ### Setting a name and leaving it out -/

section Set

variable {params : Fields} {k name : Text}

theorem ordered_filter_ne (h : Ordered params) (k : Text) :
    Ordered (params.filter (·.1 != k)) :=
  List.Pairwise.sublist (List.filter_sublist.map _) h

/-- Setting a name does not change what the others have. -/
theorem get?_set_of_ne (params : Fields) (v : Json) (hname : name ≠ k) :
    (params.set k v).get? name = params.get? name := by
  rw [Fields.get?, Fields.set, lookup_setNamed, if_neg hname, Fields.get?]

theorem get?_set_self (params : Fields) (k : Text) (v : Json) :
    (params.set k v).get? k = some v := by
  rw [Fields.get?, Fields.set, lookup_setNamed, if_pos rfl]

/-- Leaving out a name does not change what the others have. -/
theorem get?_filter_ne (params : Fields) (hname : name ≠ k) :
    Fields.get? (params.filter (·.1 != k)) name = params.get? name := by
  rw [Fields.get?, lookup_filter (· != k), if_pos (bne_iff_ne.mpr hname), Fields.get?]

theorem get?_filter_self (params : Fields) (k : Text) :
    Fields.get? (params.filter (·.1 != k)) k = none := by
  rw [Fields.get?, lookup_filter (· != k), if_neg (by simp)]

/-! ### Undeclared names -/

/-- **Another name is found as before**, whether a name is set or left out, unless the value it is
set to becomes a record that supplies what is missing. -/
theorem View.find_set (h : Ordered params) (hname : name ≠ ancestorName) (hk : name ≠ k) (v : Json)
    (hv : k = ancestorName → present (params.get? name) = none → ¬Supplies v name) :
    (View.of (params.set k v)).find name = (View.of (params.filter (·.1 != k))).find name := by
  have hset : Ordered (params.set k v) := h.setNamed k v
  rw [View.find_eq hset hname, View.find_eq (ordered_filter_ne h k) hname,
    get?_set_of_ne params v hk, get?_filter_ne params hk]
  cases hp : present (params.get? name) with
  | some w => rfl
  | none =>
    by_cases hancestor : k = ancestorName
    · -- the name sets the record, or leaves the parameters without one
      have hleft : inherited name (View.of (params.set k v)).ancestor = builtin name := by
        refine inherited_eq_builtin fun record hrecord => ?_
        rw [← hancestor, get?_set_self, Option.some_inj] at hrecord
        exact hrecord ▸ hv hancestor hp
      have hright :
          inherited name (View.of (params.filter (·.1 != k))).ancestor = builtin name := by
        refine inherited_eq_builtin fun record hrecord => ?_
        rw [← hancestor, get?_filter_self] at hrecord
        exact absurd hrecord (by simp)
      rw [hleft, hright]
    · -- the record is the same one
      have hrecord : (View.of (params.set k v)).ancestor =
          (View.of (params.filter (·.1 != k))).ancestor := by
        simp only [View.of, get?_set_of_ne params v (Ne.symm hancestor),
          get?_filter_ne params (Ne.symm hancestor)]
      rw [hrecord]

end Set

/-- **Undeclared names are ignored.** Setting such a name and leaving it out give the same checked
fields or the same failure, unless its value becomes the record behind the parameters and supplies
a declared name that is not given; and a declared name that is not given or is `null` is absent,
unless the record supplies it or every object has a member of that name. -/
theorem Schema.parse_set_undeclared {schema : Schema}
    (hschema : ∀ f ∈ schema, f.name ≠ ancestorName) {k : Text} (hk : ∀ f ∈ schema, f.name ≠ k)
    {params : Fields} (hparams : Ordered params) (v : Json)
    (hv : k = ancestorName → ∀ f ∈ schema, present (params.get? f.name) = none →
      ¬Supplies v f.name) :
    schema.parse (params.set k v) = schema.parse (params.filter (·.1 != k)) ∧
      ∀ f ∈ schema, present (params.get? f.name) = none → f.name ∉ objectMembers →
        (∀ record, (params.set k v).get? ancestorName = some record → ¬Supplies record f.name) →
        (View.of (params.set k v)).find f.name = .absent := by
  constructor
  · have hfind : ∀ f ∈ schema, f.check ((View.of (params.set k v)).find f.name) =
        f.check ((View.of (params.filter (·.1 != k))).find f.name) := by
      intro f hf
      rw [View.find_set hparams (hschema f hf) (hk f hf) v fun hancestor => hv hancestor f hf]
    rw [Schema.parse, accept, accept, Schema.check_congr hfind]
  · intro f hf hmissing hmember hsupplies
    have hset : Ordered (params.set k v) := hparams.setNamed k v
    rw [View.find_eq hset (hschema f hf), get?_set_of_ne params v (hk f hf), hmissing]
    change inherited f.name (View.of (params.set k v)).ancestor = .absent
    rw [inherited_eq_builtin hsupplies, builtin_eq_absent ⟨hmember, hschema f hf⟩]

/-- A record that holds a name nobody declared, and a declared name that is `null`. -/
theorem Schema.parse_set_undeclared_of_record :
    let schema : Schema := [
      { name := "url", rule := .required "url" "url is required" },
      { name := "chain", rule := .plain, optional := true }]
    let params : Fields := [(Text.ofString "url", .str "a"), (Text.ofString "chain", .null)]
    let record : Json := .obj [(Text.ofString "limit", .bool true)]
    schema.parse (params.set ancestorName record) =
        schema.parse (params.filter (·.1 != ancestorName)) ∧
      (View.of (params.set ancestorName record)).find "chain" = .absent := by
  intro schema params record
  have hnames : ∀ f ∈ schema, f.name ≠ ancestorName := by decide
  have hsupplies : ∀ f ∈ schema, ¬Supplies record f.name := by
    intro f hf
    simp only [schema, List.mem_cons, List.not_mem_nil, or_false] at hf
    rcases hf with rfl | rfl <;> exact not_not.mpr rfl
  have h := Schema.parse_set_undeclared hnames hnames (by decide : Ordered params) record
    fun _ f hf _ => hsupplies f hf
  refine ⟨h.1, h.2 { name := "chain", rule := .plain, optional := true } ?_ rfl (by decide) ?_⟩
  · exact List.mem_cons_of_mem _ List.mem_cons_self
  · intro r hr
    rw [get?_set_self, Option.some_inj] at hr
    rw [← hr]
    exact hsupplies _ (List.mem_cons_of_mem _ List.mem_cons_self)

/-- **An undeclared name can supply a declared one**: a URL that is `null` counts as given once the
record behind the parameters holds one. -/
theorem Schema.parse_of_supplied :
    let schema : Schema := [{ name := "url", rule := .required "url" "url is required" }]
    let params : Fields := [(Text.ofString "url", .null)]
    let record : Json := .obj [(Text.ofString "url", .str "x")]
    schema.parse (params.set ancestorName record) = .ok [(Text.ofString "url", .str "x")] ∧
      schema.parse (params.filter (·.1 != ancestorName)) =
        .error (.validation "url is required") :=
  ⟨rfl, rfl⟩

end LineAgents.Params
