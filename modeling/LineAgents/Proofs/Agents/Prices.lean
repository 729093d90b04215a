import LineAgents.Agents.PriceOracle
import LineAgents.Proofs.Outside.Sequence
import LineAgents.Proofs.Params.Checked
import LineAgents.Proofs.Text.Case
import LineAgents.Proofs.Text.Percent

/-!
# The URL of a symbol

The price agent asks at one URL, and the symbol it asks about is the end of it. Any text may be
given for a symbol, and two things could go wrong with it: a symbol with marks of its own could make
another request of it, and two symbols could come to one URL. The encoding rules out both
(`LineAgents.PriceOracle.run_of_symbol`). It is made of characters that mean nothing in a URL, and
the symbol can be read back from it, in upper case; so symbols have one URL exactly when they are
the same in upper case.

Upper case comes first and the encoding after it. This is harmless because the one keeps surrogates
in pairs (`LineAgents.Text.wellFormed_toUpper`), and pairs are all the other asks for.
-/

namespace LineAgents.PriceOracle

/-- What the agent makes of a reply. -/
def answer (r : Http.Reply) : Program Json := do
  if r.ok then
    match price? (← .lift r.json) with
    | some price => return .str price
    | none => throw (.outside "Unexpected ticker payload: missing price")
  else throw (.outside ("HTTP error: " ++ r.statusText))

/-- The request at a URL. -/
def requestAt (url : Text) : Http.Request := { url := url, timeout := some 10000 }

/-- **The request that parameters ask for.** -/
def request (params : Fields) : Except Failure Http.Request := do
  let p ← schema.parse params
  let u ← url (p.text "symbol")
  return requestAt u

/-- **The agent in two steps**: the request is made, and its reply is the answer. -/
theorem compute_eq (params : Fields) : capability.compute params =
    Program.lift (request params) >>= fun q => Program.fetch q >>= answer := by
  change (Program.lift (schema.parse params) >>= fun p =>
    Program.lift (url (p.text "symbol")) >>= fun u => Program.fetch (requestAt u) >>= answer) = _
  rw [request]
  cases schema.parse params with
  | error f => rfl
  | ok p =>
    change (Program.lift (url (p.text "symbol")) >>= _) =
      Program.lift (url (p.text "symbol") >>= fun u => pure (requestAt u)) >>= _
    cases url (p.text "symbol") with
    | error f => rfl
    | ok u => rfl

/-- A reply settles the matter. -/
theorem exists_answer_eq (r : Http.Reply) : ∃ outcome, answer r = .lift outcome := by
  rw [answer]
  split
  · cases r.json with
    | error f => exact ⟨.error f, rfl⟩
    | ok ticker =>
      change ∃ outcome, (match price? ticker with
        | some price => (pure (.str price) : Program Json)
        | none => throw (Failure.outside "Unexpected ticker payload: missing price")) =
          .lift outcome
      cases price? ticker with
      | some price => exact ⟨.ok (.str price), rfl⟩
      | none => exact ⟨_, rfl⟩
  · exact ⟨_, rfl⟩

section

variable {params : Fields} {s : Text}

/-- A symbol that is given and not empty is accepted. -/
theorem exists_parse_of_symbol (hparams : Ordered params)
    (hs : params.get? "symbol" = some (.str s)) (hne : s ≠ []) :
    ∃ p, schema.parse params = .ok p ∧ p.text "symbol" = s := by
  have hfound : (Params.View.of params).find "symbol" = .given (.str s) :=
    Params.View.find_of_present hparams (by decide) (by rw [hs]; rfl)
  obtain ⟨p, hp⟩ : ∃ p, schema.parse params = .ok p := by
    refine Params.Schema.exists_parse_of_forall_check ?_
    rw [schema, List.forall_mem_singleton]
    dsimp only
    rw [hfound, Params.Field.check_of_mandatory, Params.Rule.check_required hne]
    exact ⟨_, rfl⟩
  have hfield : ({ name := "symbol", rule := .required "symbol" "symbol is required" } :
      Params.Field) ∈ schema := List.mem_cons_self
  obtain ⟨t, ht, htext, -⟩ :=
    Params.Schema.exists_text_of_parse (by decide) hp hfield (by decide)
  rw [hfound] at ht
  cases ht
  exact ⟨p, hp, htext⟩

/-- **A symbol is asked about once**, at the URL that its encoding makes. -/
theorem exists_events_of_symbol (hparams : Ordered params)
    (hs : params.get? "symbol" = some (.str s)) (hne : s ≠ []) (hwell : s.wellFormed = true) :
    ∃ q, Percent.encode? s.toUpper = some q ∧ ∀ w : World,
      (w.run (capability.compute params)).events =
        [.sent (requestAt (tickerUrl ++ "?symbol=" ++ q))] := by
  obtain ⟨p, hp, htext⟩ := exists_parse_of_symbol hparams hs hne
  have hencode : Percent.encode? s.toUpper =
      some (s.toUpper.codePoints.flatMap Percent.encodePoint) :=
    Percent.encode?_eq_some_iff.mpr ⟨Text.wellFormed_toUpper hwell, rfl⟩
  refine ⟨_, hencode, fun w => ?_⟩
  have hurl : url (p.text "symbol") =
      .ok (tickerUrl ++ "?symbol=" ++ s.toUpper.codePoints.flatMap Percent.encodePoint) := by
    rw [htext, url, hencode]
  have hrequest : request params = .ok (requestAt
      (tickerUrl ++ "?symbol=" ++ s.toUpper.codePoints.flatMap Percent.encodePoint)) := by
    rw [request, hp]
    change (url (p.text "symbol") >>= fun u => pure (requestAt u)) = _
    rw [hurl]
    rfl
  rw [compute_eq, World.events_run_question exists_answer_eq, hrequest]
  rfl

/-- **The price of a symbol is asked for by one request**, at the ticker's URL and an encoding of
the symbol in upper case. The encoding is made of units that stand for themselves and of escapes,
so none of the marks that divide a URL occurs in it; the symbol in upper case is read back from it;
and so another symbol has the same URL exactly when it is the same in upper case. -/
theorem run_of_symbol (hparams : Ordered params) (hs : params.get? "symbol" = some (.str s))
    (hne : s ≠ []) (hwell : s.wellFormed = true) (w : World) :
    ∃ q : Text,
      (w.run (capability.compute params)).events =
        [.sent { url := tickerUrl ++ "?symbol=" ++ q, timeout := some 10000 }] ∧
      Percent.Encoded q ∧ (∀ u ∈ q, u ∉ Text.ofString "/?#&=;+") ∧
      Percent.decode? q = some s.toUpper ∧
      ∀ (params' : Fields) (s' : Text) (w' : World) (r : Http.Request), Ordered params' →
        params'.get? "symbol" = some (.str s') → s' ≠ [] → s'.wellFormed = true →
        .sent r ∈ (w'.run (capability.compute params')).events →
        (r.url = tickerUrl ++ "?symbol=" ++ q ↔ s'.toUpper = s.toUpper) := by
  obtain ⟨q, hq, hevents⟩ := exists_events_of_symbol hparams hs hne hwell
  have hencoded := Percent.encoded_of_encode? hq
  refine ⟨q, hevents w, hencoded, fun u hu hmark => ?_, Percent.decode?_of_encode? hq, ?_⟩
  · -- none of the marks stands for itself, and none is a percent sign
    have hmarks : (Text.ofString "/?#&=;+").all
        (fun u => !decide (Percent.StandsForItself u ∨ u = 37)) = true := by decide
    have hu' := List.all_eq_true.mp hmarks u hmark
    rw [decide_eq_true (hencoded.of_mem hu)] at hu'
    cases hu'
  · intro params' s' w' r hparams' hs' hne' hwell' hr
    obtain ⟨q', hq', hevents'⟩ := exists_events_of_symbol hparams' hs' hne' hwell'
    rw [hevents' w'] at hr
    obtain rfl := Event.sent.inj (List.mem_singleton.mp hr)
    change tickerUrl ++ "?symbol=" ++ q' = _ ↔ _
    rw [List.append_cancel_left_eq]
    constructor
    · rintro rfl
      exact Percent.eq_of_encode?_eq hq' hq
    · intro hupper
      rw [hupper, hq] at hq'
      exact Option.some_inj.mp hq'.symm

end

/-- A symbol that grows in upper case, and holds marks of a URL and a surrogate pair. -/
theorem run_of_symbol_of_marks :
    let s : Text := "ß&a=😀/#"
    let params : Fields := [(Text.ofString "symbol", .str s)]
    let w := World.unreachable 1 0
    Ordered params ∧ params.get? "symbol" = some (.str s) ∧ s ≠ [] ∧ s.wellFormed = true ∧
      ∃ q : Text,
        (w.run (capability.compute params)).events =
          [.sent { url := tickerUrl ++ "?symbol=" ++ q, timeout := some 10000 }] ∧
        Percent.Encoded q ∧ Percent.decode? q = some (Text.ofString "SS&A=😀/#") := by
  intro s params w
  have hparams : Ordered params := by decide
  have hwell : s.wellFormed = true := by decide
  have hupper : s.toUpper = Text.ofString "SS&A=😀/#" := by decide +kernel
  obtain ⟨q, hevents, hencoded, -, hdecode, -⟩ :=
    run_of_symbol hparams (s := s) rfl (by decide) hwell w
  exact ⟨hparams, rfl, by decide, hwell, q, hevents, hencoded, hupper ▸ hdecode⟩

end LineAgents.PriceOracle
