import LineAgents.Agents.MathOracle
import LineAgents.Proofs.Number.Integers
import LineAgents.Proofs.Params.Checked
import LineAgents.Proofs.Protocol.Response

/-!
# What the calculator answers

A client of the calculator waits for a number or for an error. Between the request and the line that
answers it, a number goes through several hands that do not agree on what a number is: a numeral may
be read as an infinity, which is a number to the rules for parameters and to a square root, but not
to JSON, which writes `null` for it. So the question is whether a computation that succeeds also
delivers.

* A square root of a finite number is finite (`LineAgents.Number.isFinite_sqrt`), and a factorial
  has refused whatever is not (`LineAgents.MathOracle.delivers_of_factorial`). So the only success
  that comes to nothing is the square root of the infinity
  (`LineAgents.MathOracle.evaluate_cases`).
* `LineAgents.MathOracle.encode_respond_calculation` follows this to the line of the response:
  exactly one of its result and its error is there, but for that one case.
* In that case both are `null` (`LineAgents.MathOracle.respond_of_infinity`).
-/

namespace LineAgents.MathOracle

open Params (View)

/-! ### Values that are delivered -/

/-- **A value that arrives**: a finite number, or the digits of a natural number. -/
def Delivers (v : Json) : Prop :=
  (∃ x, Number.isFinite x = true ∧ v = .num x) ∨ ∃ n, v = .str (Text.ofNat n)

section

variable {v : Json} {x : Float} {operation : Text}

/-- What is delivered is something. -/
theorem Delivers.ne_null (h : Delivers v) : v ≠ .null := by
  rcases h with ⟨x, -, rfl⟩ | ⟨n, rfl⟩ <;> exact nofun

/-- **What is delivered arrives as such**; only the sign of a zero is lost. -/
theorem Delivers.reread (h : Delivers v) : Delivers v.reread := by
  rcases h with ⟨x, hx, rfl⟩ | ⟨n, rfl⟩
  · rw [Json.reread, if_pos hx]
    exact Or.inl ⟨_, (Number.unsignZero_finite hx).1, rfl⟩
  · rw [Json.reread]
    exact Or.inr ⟨n, rfl⟩

theorem delivers_exactValue (n : ℕ) : Delivers (exactValue n) := by
  rw [exactValue, greatestExact]
  split
  · exact Or.inl ⟨_, (Number.fields_ofNat (by omega)).1, rfl⟩
  · exact Or.inr ⟨n, rfl⟩

theorem delivers_of_factorial (h : factorial x = .ok v) : Delivers v := by
  unfold factorial at h
  dsimp only at h
  split_ifs at h
  exact Except.ok.inj h ▸ delivers_exactValue _

/-- **Every success delivers, but for the square root of the infinity.** -/
theorem evaluate_cases (hnan : Number.isNaN x = false) (h : evaluate operation x = .ok v) :
    operation = "sqrt" ∧ x = Number.infinity ∧ v = .num x.sqrt ∨
      ¬(operation = "sqrt" ∧ x = Number.infinity) ∧ Delivers v := by
  unfold evaluate squareRoot at h
  split_ifs at h with hsqrt hneg hfactorial
  · obtain rfl := Except.ok.inj h
    cases hfinite : Number.isFinite x with
    | false => exact Or.inl ⟨hsqrt, Number.eq_infinity hnan hneg hfinite, rfl⟩
    | true =>
      have hroot := (Number.isFinite_sqrt hnan hneg).trans hfinite
      refine Or.inr ⟨fun hboth => ?_, Or.inl ⟨_, hroot, rfl⟩⟩
      rw [hboth.2] at hfinite
      exact absurd hfinite (by decide)
  · exact Or.inr ⟨fun hboth => hsqrt hboth.1, delivers_of_factorial h⟩

end

/-! ### Computations -/

/-- **The computation that parameters ask for.** -/
def calculate (params : Fields) : Except Failure Json := do
  let p ← schema.parse params
  evaluate (p.text "operation") (p.number "number")

/-- **Parameters that ask for the square root of the infinity**, by name or by leaving the operation
open. -/
def RootOfInfinity (params : Fields) : Prop :=
  (View.of params).number? "number" = some Number.infinity ∧
    ((View.of params).find "operation" = .absent ∨
      (View.of params).find "operation" = .given (.str "sqrt"))

section

variable {params p : Fields} {v : Json}

/-- What stands for a number is one. -/
theorem isNaN_of_numberOf? {x : Float} (h : Params.numberOf? v = some x) :
    Number.isNaN x = false := by
  cases v with
  | num y =>
    obtain ⟨hnum, hx⟩ := Option.ite_none_left_eq_some.mp h
    obtain rfl := Option.some.inj hx
    exact Bool.eq_false_iff.mpr hnum
  | str s =>
    obtain ⟨hnum, hx⟩ := Option.ite_none_left_eq_some.mp h
    obtain rfl := Option.some.inj hx
    rw [Bool.or_eq_true, not_or] at hnum
    exact Bool.eq_false_iff.mpr hnum.2
  | _ => cases h

/-- **What acceptable parameters ask for**, and when it is the square root of the infinity. -/
theorem rootOfInfinity_iff (hp : schema.parse params = .ok p) :
    Number.isNaN (p.number "number") = false ∧
      (RootOfInfinity params ↔
        p.text "operation" = "sqrt" ∧ p.number "number" = Number.infinity) := by
  have hnames : (schema.map (·.name)).Nodup := by decide
  have hnumber : ({ name := "number", rule := .number "number" } : Params.Field) ∈ schema :=
    List.mem_cons_self
  have hoperation : ({
      name := "operation"
      rule := .text none (some "operation must be a string") none
      default? := some (.str "sqrt") } : Params.Field) ∈ schema :=
    List.mem_cons_of_mem _ List.mem_cons_self
  have hread := Params.Schema.number_of_parse hnames hp hnumber (by decide)
  have hsqrt : p.text "operation" = "sqrt" ↔ (View.of params).find "operation" = .absent ∨
      (View.of params).find "operation" = .given (.str "sqrt") := by
    obtain ⟨hfound, htext⟩ | ⟨s, hfound, htext⟩ :=
      Params.Schema.text_default_cases hnames hp hoperation (by decide)
    · rw [htext, hfound]
      exact iff_of_true rfl (Or.inl rfl)
    · rw [htext, hfound]
      refine ⟨fun hs => Or.inr (by rw [hs]), fun hs => ?_⟩
      exact Json.str.inj (Params.Found.given.inj (hs.resolve_left nofun))
  constructor
  · rw [View.number?] at hread
    split at hread
    · exact isNaN_of_numberOf? hread
    · cases hread
  · rw [RootOfInfinity, hread, Option.some_inj, hsqrt]
    exact and_comm

/-- **What a successful computation comes to.** -/
theorem calculate_cases (h : calculate params = .ok v) :
    RootOfInfinity params ∧ v = .num Number.infinity.sqrt ∨
      ¬RootOfInfinity params ∧ Delivers v := by
  obtain ⟨p, hp, hvalue⟩ := Params.exists_of_bind_eq_ok h
  obtain ⟨hnan, hroot⟩ := rootOfInfinity_iff hp
  obtain ⟨hop, hinfinity, rfl⟩ | ⟨hneither, hdelivers⟩ := evaluate_cases hnan hvalue
  · exact Or.inl ⟨hroot.mpr ⟨hop, hinfinity⟩, by rw [hinfinity]⟩
  · exact Or.inr ⟨mt hroot.mp hneither, hdelivers⟩

/-- **A computation that fails says so in words.** -/
theorem message_of_calculate {f : Failure} (h : calculate params = .error f) :
    ∃ message : Text, f.message? = some (.str message) := by
  rw [calculate] at h
  cases hp : schema.parse params with
  | error g =>
    obtain ⟨message, rfl⟩ := Params.Schema.exists_of_parse_eq_error hp
    rw [hp] at h
    exact ⟨message, by rw [← Except.error.inj h]; rfl⟩
  | ok p =>
    rw [hp] at h
    replace h : evaluate (p.text "operation") (p.number "number") = .error f := h
    unfold evaluate squareRoot factorial at h
    dsimp only at h
    split_ifs at h
    all_goals exact ⟨_, by rw [← Except.error.inj h]; rfl⟩

/-- **The square root of the infinity is no failure.** -/
theorem calculate_of_root (h : RootOfInfinity params) :
    calculate params = .ok (.num Number.infinity.sqrt) := by
  obtain ⟨p, hp⟩ : ∃ p, schema.parse params = .ok p := by
    refine Params.Schema.exists_parse_of_forall_check ?_
    rw [schema, List.forall_mem_cons, List.forall_mem_singleton]
    dsimp only
    constructor
    · have hnumber := h.1
      rw [View.number?] at hnumber
      split at hnumber
      · rename_i w hfound
        rw [hfound, Params.Field.check_of_mandatory, Params.Rule.check, hnumber]
        exact ⟨_, rfl⟩
      · cases hnumber
    · rcases h.2 with hfound | hfound <;> rw [hfound] <;> exact ⟨_, rfl⟩
  obtain ⟨hop, hinfinity⟩ := (rootOfInfinity_iff hp).2.mp h
  have hvalue : calculate params = evaluate (p.text "operation") (p.number "number") := by
    rw [calculate, hp]
    rfl
  have hpos : ¬Number.infinity < 0 := by decide
  rw [hvalue, hop, hinfinity, evaluate, if_pos rfl, squareRoot, if_neg hpos]

end

/-! ### Responses -/

section

variable (card : Card) (id : Json) (raw : Option Json) (t : Trace)

/-- The parameters of a request, by name. -/
def named : Fields := Params.normalize raw capability.positions

/-- **The line that answers a request** for a computation, after whatever was done before. -/
def answerLine : Text :=
  ((capability.handler card).respond ⟨Handler.computeMethod, raw, id⟩ t).1.encode

/-- The line of a success holds its value, and that of a failure what the failure says. -/
theorem parse?_answerLine : Json.parse? (answerLine card id raw t) =
    some (match calculate (named raw) with
      | .ok v => Response.envelope id.reread v.reread .null
      | .error f => Response.envelope id.reread .null (.str f.text)) := by
  have hresponse : answerLine card id raw t =
      (Handler.responseOf id ((calculate (named raw)).map Value.ofJson)).encode := rfl
  rw [hresponse]
  cases hcalculate : calculate (named raw) with
  | error f =>
    obtain ⟨message, hmessage⟩ := message_of_calculate hcalculate
    have hline : (⟨id, .null, .str f.text⟩ : Response).encode =
        (Response.envelope id .null (.str f.text)).render :=
      Response.encode_of_serializable rfl rfl rfl rfl
    change Json.parse? (⟨id, .null, f.told⟩ : Response).encode = _
    rw [(Failure.told_of_message hmessage).2, hline, Json.parse?_render, Response.reread_envelope,
      Json.reread.eq_def .null, Json.reread.eq_def (.str f.text)]
  | ok v =>
    -- every value of a computation is a number or a text, so it is there
    have hthere : Handler.responseOf id (.ok (.ofJson v)) = ⟨id, .ofJson v, .null⟩ := by
      rcases calculate_cases hcalculate with ⟨-, rfl⟩ | ⟨-, ⟨x, -, rfl⟩ | ⟨n, rfl⟩⟩ <;>
        rw [Value.ofJson] <;> rfl
    change Json.parse? (Handler.responseOf id (.ok (.ofJson v))).encode = _
    rw [hthere, Response.encode_of_serializable (Value.serializable_ofJson v) rfl
      (Value.toJson?_ofJson v) rfl, Json.parse?_render, Response.reread_envelope,
      Json.reread.eq_def .null]

/-- **A calculation is answered by a value or by an error**, except for the square root of the
infinity. A computation that fails is answered by what its failure says. One that succeeds is
answered without an error, and what it delivers is a finite number or the digits of one. Only for
the square root of the infinity, which succeeds, the result is `null` as well. -/
theorem encode_respond_calculation :
    ∃ id' result error : Json,
      Json.parse? ((capability.handler card).respond ⟨Handler.computeMethod, raw, id⟩ t).1.encode =
        some (.obj [(Text.ofString "id", id'), (Text.ofString "result", result),
          (Text.ofString "error", error)]) ∧
      ((result = .null ↔ error ≠ .null) ↔ ¬RootOfInfinity (named raw)) ∧
      (∀ f, calculate (named raw) = .error f →
        result = .null ∧ error = .str f.text ∧ f.text ≠ []) ∧
      ∀ v, calculate (named raw) = .ok v →
        error = .null ∧ (RootOfInfinity (named raw) → result = .null) ∧
          (¬RootOfInfinity (named raw) → Delivers result) := by
  have hline := parse?_answerLine card id raw t
  cases hcalculate : calculate (named raw) with
  | error f =>
    have hnone : ¬RootOfInfinity (named raw) := fun hroot => by
      rw [calculate_of_root hroot] at hcalculate
      cases hcalculate
    rw [hcalculate] at hline
    refine ⟨id.reread, .null, .str f.text, hline, iff_of_true (iff_of_true rfl nofun) hnone,
      fun g hg => ?_, nofun⟩
    obtain rfl := Except.error.inj hg
    obtain ⟨message, hmessage⟩ := message_of_calculate hcalculate
    exact ⟨rfl, rfl, (Failure.told_of_message hmessage).1⟩
  | ok v =>
    rw [hcalculate] at hline
    obtain ⟨hroot, rfl⟩ | ⟨hnone, hdelivers⟩ := calculate_cases hcalculate
    · have hlost : (Json.num Number.infinity.sqrt).reread = .null := by
        rw [Json.reread, if_neg (by decide)]
      dsimp only at hline
      rw [hlost] at hline
      exact ⟨id.reread, .null, .null, hline,
        iff_of_false (fun hboth => hboth.mp rfl rfl) (not_not_intro hroot), nofun,
        fun u _ => ⟨rfl, fun _ => rfl, fun hnone => absurd hroot hnone⟩⟩
    · have harrives := hdelivers.reread
      exact ⟨id.reread, v.reread, .null, hline,
        iff_of_true (iff_of_false harrives.ne_null (not_not_intro rfl)) hnone, nofun,
        fun u _ => ⟨rfl, fun hroot => absurd hroot hnone, fun _ => harrives⟩⟩

end

/-- **A computation that succeeds and delivers nothing.** The numeral is read as the infinity, whose
square root is the infinity, and the line has neither a result nor an error. -/
theorem respond_of_infinity :
    let params : Json := .arr [.str "Infinity"]
    let line := ((capability.handler capability.card).respond
      ⟨Handler.computeMethod, some params, .num 1⟩ ⟨{}, []⟩).1.encode
    calculate (named (some params)) = .ok (.num Number.infinity) ∧
      line = "\x7b\"id\":1,\"result\":null,\"error\":null\x7d" := by
  intro params line
  have hvalue : calculate (named (some (.arr [.str "Infinity"]))) = .ok (.num Number.infinity) := by
    rfl
  have hline : line = (Handler.responseOf (.num 1)
      ((calculate (named (some params))).map Value.ofJson)).encode := rfl
  refine ⟨hvalue, hline.trans ?_⟩
  rw [hvalue]
  decide +kernel

end LineAgents.MathOracle
