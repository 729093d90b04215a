import LineAgents.Proofs.Agents.Declarations
import LineAgents.Proofs.Outside.Behaviour
import LineAgents.Proofs.Params.Checked

/-!
# What the agents ask, and how they fail

An agent checks what it was given before it reaches outside, and makes an answer of what comes back.
What comes of the checks is a **refusal** (`LineAgents.Refuses`): the parameters are not acceptable,
or the wish is not supported. What comes of a reply **blames** the outside (`LineAgents.Blames`). So
each of the eight agents is careful in the sense of `LineAgents.Program.Careful`, with refusals for
its early failures and blame for its late ones, and with a plan for one question at most; a summary
has a plan for two (`LineAgents.DocumentSummary.plan`). What is said of all agents at once is
`LineAgents.Registry.carefulAs`, and from that follow

* `LineAgents.Registry.run_external`: an agent that refuses has done nothing outside, and no agent
  asks for anything twice;
* `LineAgents.Registry.run_without_verdict_iff`: every failure of an agent is a verdict, except that
  of the price agent for a symbol that cannot be a part of a URL
  (`LineAgents.PriceOracle.Unencodable`), as half of a surrogate pair
  (`LineAgents.Registry.run_of_lone_surrogate`).
-/

namespace LineAgents

open Program

/-! ### Refusals, verdicts, and blame -/

/-- Whether a failure refuses what is wished: its parameters are not acceptable, or it is not
supported. -/
def Failure.isRefusal : Failure → Bool
  | .verdict .validation _ | .verdict .unsupported _ => true
  | _ => false

/-- Whether a failure is the verdict of an agent. -/
def Failure.isVerdict : Failure → Bool
  | .verdict .. => true
  | _ => false

/-- The early failures of an agent: refusals. -/
def Refuses (f : Failure) : Prop := f.isRefusal = true

/-- The late failures of an agent: the outside did not answer as it should. -/
def Blames (f : Failure) : Prop := ∃ message, f = .outside message

theorem refuses_validation (message : Text) : Refuses (.validation message) := rfl

theorem refuses_unsupported (message : Text) : Refuses (.unsupported message) := rfl

theorem blames_outside (message : Text) : Blames (.outside message) := ⟨message, rfl⟩

theorem Params.Schema.refuses_of_parse {schema : Schema} {params : Fields} {f : Failure}
    (h : schema.parse params = .error f) : Refuses f := by
  obtain ⟨message, rfl⟩ := exists_of_parse_eq_error h
  exact refuses_validation message

theorem Http.Reply.blames_of_json {r : Http.Reply} {f : Failure} (h : r.json = .error f) :
    Blames f := by
  rw [Http.Reply.json] at h
  split at h
  · cases h
  · exact Except.error.inj h ▸ blames_outside _

/-- A plan for one question, whichever it is. -/
def oneQuestion : Plan := [fun _ => True]

/-! ### The agents one by one -/

namespace MathOracle

theorem refuses_of_squareRoot {x : Float} {f : Failure} (h : squareRoot x = .error f) :
    Refuses f := by
  rw [squareRoot] at h
  split at h
  · exact Except.error.inj h ▸ refuses_validation _
  · cases h

theorem refuses_of_factorial {x : Float} {f : Failure} (h : factorial x = .error f) :
    Refuses f := by
  rw [factorial] at h
  split at h
  · exact Except.error.inj h ▸ refuses_validation _
  · split at h
    · exact Except.error.inj h ▸ refuses_validation _
    · cases h

theorem refuses_of_evaluate {operation : Text} {x : Float} {f : Failure}
    (h : evaluate operation x = .error f) : Refuses f := by
  rw [evaluate] at h
  split at h
  · exact refuses_of_squareRoot h
  · split at h
    · exact refuses_of_factorial h
    · exact Except.error.inj h ▸ refuses_unsupported _

theorem careful (params : Fields) : (capability.compute params).Careful Refuses Blames [] := by
  refine careful_lift fun f hf => Or.inl ?_
  cases hp : schema.parse params with
  | error e =>
    rw [hp] at hf
    exact Except.error.inj hf ▸ Params.Schema.refuses_of_parse hp
  | ok p =>
    rw [hp] at hf
    exact refuses_of_evaluate hf

end MathOracle

namespace PriceOracle

/-- The symbol that the parameters give has no percent encoding in upper case: half of a surrogate
pair stands alone in it. -/
def Unencodable (params : Fields) : Prop :=
  ∃ p, schema.parse params = .ok p ∧ (Text.toUpper (p.text "symbol")).wellFormed = false

theorem wellFormed_of_url {symbol : Text} {f : Failure} (h : url symbol = .error f) :
    symbol.toUpper.wellFormed = false := by
  rw [url, Percent.encode?] at h
  cases hwell : symbol.toUpper.wellFormed with
  | true => simp [hwell] at h
  | false => rfl

theorem careful (params : Fields) :
    (capability.compute params).Careful (fun f => Refuses f ∨ Unencodable params) Blames
      oneQuestion := by
  refine careful_check (fun f hf => Or.inl (Or.inl (Params.Schema.refuses_of_parse hf)))
    fun p hp => ?_
  refine careful_check (fun f hf => Or.inl (Or.inr ⟨p, hp, wellFormed_of_url hf⟩)) fun u _ => ?_
  refine (careful_fetch trivial).last fun r => ?_
  split
  · refine careful_check (fun f hf => Or.inr (Http.Reply.blames_of_json hf)) fun ticker _ => ?_
    split
    · exact careful_pure _
    · exact careful_throw (Or.inr (blames_outside _))
  · exact careful_throw (Or.inr (blames_outside _))

/-- Without an encoding of the symbol nothing is asked, and the failure is no verdict. -/
theorem compute_of_unencodable {params : Fields} (h : Unencodable params) :
    capability.compute params = .done (.error (.named "URIError" "URI malformed")) := by
  obtain ⟨p, hp, hwell⟩ := h
  have hurl : url (p.text "symbol") = .error (.named "URIError" "URI malformed") := by
    simp only [url, Percent.encode?, hwell, Bool.false_eq_true, if_false]
  change (lift (schema.parse params) >>= fun p => lift (url (p.text "symbol")) >>= _) = _
  rw [hp]
  change (lift (url (p.text "symbol")) >>= _) = _
  rw [hurl]
  rfl

end PriceOracle

namespace DefiYields

theorem careful_fetchPools {early : Failure → Prop} :
    fetchPools.Careful early Blames oneQuestion := by
  refine (careful_fetch trivial).last fun r => ?_
  split
  · refine careful_check (fun f hf => Or.inr (Http.Reply.blames_of_json hf)) fun listing _ => ?_
    split
    · exact careful_pure _
    · exact careful_throw (Or.inr (blames_outside _))
  · exact careful_throw (Or.inr (blames_outside _))

theorem careful (params : Fields) :
    (capability.compute params).Careful Refuses Blames oneQuestion :=
  careful_check (fun _ hf => Or.inl (Params.Schema.refuses_of_parse hf)) fun _ _ =>
    careful_fetchPools.last fun _ => careful_pure _

end DefiYields

namespace HomeAutomation

theorem blames_of_bodyOf {r : Http.Reply} {f : Failure} (h : bodyOf r = .error f) : Blames f := by
  rw [bodyOf] at h
  split at h
  · cases h
  · split at h
    · cases h
    · exact Except.error.inj h ▸ blames_outside _

theorem careful_call {early : Failure → Prop} (url method token : Text) (payload : Option Json) :
    (call url method token payload).Careful early Blames oneQuestion := by
  refine (careful_fetch trivial).last fun r => ?_
  split
  · exact careful_check (fun f hf => Or.inr (blames_of_bodyOf hf)) fun body _ => careful_pure _
  · exact careful_throw (Or.inr (blames_outside _))

theorem careful_act (p : Fields) (token : Text) :
    (act p token).Careful Refuses Blames oneQuestion := by
  simp only [act]
  split
  · exact careful_call _ _ _ _
  · split
    · exact careful_call _ _ _ _
    · split
      · exact careful_call _ _ _ _
      · exact careful_throw (Or.inl (refuses_unsupported _))

theorem careful (settingsToken : Text) (params : Fields) :
    ((capability settingsToken).compute params).Careful Refuses Blames oneQuestion := by
  refine careful_check (fun f hf => Or.inl (Params.Schema.refuses_of_parse hf)) fun p _ => ?_
  dsimp only
  split
  · exact careful_throw (Or.inl (refuses_validation _))
  · exact careful_act p _

end HomeAutomation

namespace HealthCheck

theorem careful_ping (target : Text) : (ping target).Careful Refuses Blames oneQuestion := by
  rw [ping]
  split
  · exact careful_throw (Or.inl (refuses_validation _))
  · exact (careful_execute trivial).last fun r => careful_pure _

theorem careful_http (url : Text) : (http url).Careful Refuses Blames oneQuestion := by
  have hclock : clock.Careful Refuses Blames [] := careful_clock
  exact hclock.bind fun start => (careful_fetch trivial).last fun r =>
    careful_clock.last fun now => careful_pure _

theorem refuses_of_hostPort {target : Text} {f : Failure} (h : hostPort target = .error f) :
    Refuses f := by
  simp only [hostPort] at h
  split at h
  · cases h
  · exact Except.error.inj h ▸ refuses_validation _

theorem careful_tls (target : Text) : (tls target).Careful Refuses Blames oneQuestion := by
  refine careful_check (fun f hf => Or.inl (refuses_of_hostPort hf)) fun a _ => ?_
  obtain ⟨host, port⟩ := a
  refine (careful_certificate trivial).last fun validTo => ?_
  dsimp only
  split
  · exact careful_clock.last fun now => careful_pure _
  · exact careful_pure _

theorem careful_ofKind (kind target : Text) :
    (check kind target).Careful Refuses Blames oneQuestion := by
  rw [check]
  split
  · exact careful_ping target
  · split
    · exact careful_http target
    · split
      · exact careful_tls target
      · exact careful_throw (Or.inl (refuses_unsupported _))

theorem careful (params : Fields) :
    (capability.compute params).Careful Refuses Blames oneQuestion :=
  careful_check (fun _ hf => Or.inl (Params.Schema.refuses_of_parse hf)) fun _ _ =>
    (careful_ofKind _ _).last fun _ => careful_pure _

end HealthCheck

namespace PageText

theorem refuses_of_formatOf {name : Text} {f : Failure} (h : formatOf name = .error f) :
    Refuses f := by
  simp only [formatOf] at h
  split at h
  · exact Except.error.inj h ▸ refuses_unsupported _
  · split at h
    · cases h
    · split at h
      · cases h
      · split at h
        · cases h
        · exact Except.error.inj h ▸ refuses_unsupported _

variable {parse : Html.Parser}

theorem blames_of_present {r : Http.Reply} {selector : Option Text} {format : Format} {f : Failure}
    (h : present parse r selector format = .error f) : Blames f := by
  cases format with
  | text => cases h
  | json => exact Http.Reply.blames_of_json h
  | raw => cases h

theorem careful (params : Fields) :
    ((capability parse).compute params).Careful Refuses Blames oneQuestion := by
  refine careful_check (fun f hf => Or.inl (Params.Schema.refuses_of_parse hf)) fun p _ => ?_
  refine careful_check (fun f hf => Or.inl (refuses_of_formatOf hf)) fun format _ => ?_
  refine (careful_fetch trivial).last fun r => ?_
  split
  · exact careful_lift fun f hf => Or.inr (blames_of_present hf)
  · exact careful_throw (Or.inr (blames_outside _))

end PageText

namespace WebhookCall

theorem careful_act (p : Fields) : (act p).Careful Refuses Blames oneQuestion := by
  simp only [act]
  split
  · exact careful_throw (Or.inl (refuses_unsupported _))
  · split
    · exact careful_throw (Or.inl (refuses_validation _))
    · exact (careful_fetch trivial).last fun r => careful_pure _

theorem careful (params : Fields) :
    (capability.compute params).Careful Refuses Blames oneQuestion :=
  careful_check (fun _ hf => Or.inl (Params.Schema.refuses_of_parse hf)) fun p _ => careful_act p

end WebhookCall

namespace Completion

/-- A question to a service is one request, whatever comes of it. -/
theorem careful_ask {α : Type} {apiKey missing service lacking : Text} {q : Http.Request}
    {read : Json → Option α} {may : Event → Prop} (h : may (.sent q)) :
    (ask apiKey missing service lacking q read).Careful anything anything [may] := by
  rw [ask]
  split
  · exact careful_throw (Or.inl trivial)
  · refine (careful_fetch h).last fun r => ?_
    split
    · refine careful_check (fun f _ => Or.inr trivial) fun v _ => ?_
      split
      · exact careful_pure _
      · exact careful_throw (Or.inr trivial)
    · exact careful_throw (Or.inr trivial)

/-- A request for a completion from a service of the settings. -/
def IsRequest (s : Settings) (q : Http.Request) : Prop :=
  ∃ (prompt : Text) (o : Options),
    q = request (s.chat.baseUrl ++ "/chat/completions") s.chat.apiKey
        (chatBody (o.modelOr s.chat.model) prompt o.limit) 30000 ∨
      q = request (s.generation.baseUrl ++ "/models/" ++ o.modelOr s.generation.model)
        s.generation.apiKey (generationBody prompt o.limit) 30000

end Completion

namespace DocumentSummary

/-- The request for the source of checked parameters. -/
def sourceRequest (p : Fields) : Http.Request := { url := p.text "source", timeout := some 20000 }

/-- **The plan of a summary**: the source, and then one completion. -/
def plan (settings : Settings) (params : Fields) : Plan := [
  fun e => ∃ p, schema.parse params = .ok p ∧ e = .sent (sourceRequest p),
  fun e => ∃ q, Completion.IsRequest settings q ∧ e = .sent q]

theorem careful_decodeText {reader : Pdf.Reader} {early : Failure → Prop} (data : Bytes) :
    (decodeText reader data).Careful early Blames [] := by
  rw [decodeText]
  split
  · split
    · exact careful_pure _
    · exact careful_log (careful_pure _)
  · exact careful_pure _

theorem careful_load {source : Text} {may : Event → Prop}
    (h : may (.sent { url := source, timeout := some 20000 })) :
    (load source).Careful Refuses Blames [may] := by
  rw [load]
  split
  · refine (careful_fetch h).last fun r => ?_
    split
    · exact careful_pure _
    · exact careful_throw (Or.inr (blames_outside _))
  · split
    · exact careful_pure _
    · exact careful_throw (Or.inl (refuses_validation _))

theorem careful_complete (settings : Settings) (provider prompt : Text) (o : Completion.Options) :
    ((settings.services.of provider).complete prompt o).Careful anything anything
      [fun e => ∃ q, Completion.IsRequest settings q ∧ e = .sent q] := by
  rw [Services.of]
  split
  · exact Completion.careful_ask ⟨_, ⟨prompt, o, Or.inr rfl⟩, rfl⟩
  · exact Completion.careful_ask ⟨_, ⟨prompt, o, Or.inl rfl⟩, rfl⟩

theorem careful_run {c : Completion.Completer} {may : Event → Prop}
    (hc : ∀ prompt o, (c.complete prompt o).Careful anything anything [may]) (task : Task)
    (text : Text) (model : Option Text) :
    (task.run c text model).Careful never Blames [may] := by
  -- whatever goes wrong with the completion, an excerpt takes its place
  have hask : ∀ prompt, (ask c prompt text model).Careful never Blames [may] := fun prompt =>
    (hc prompt _).recover fun f => careful_log (careful_pure _)
  cases task with
  | summary => exact (hask _).last fun s => careful_pure _
  | question q => exact (hask _).last fun s => careful_pure _

theorem refuses_of_taskOf {p : Fields} {f : Failure} (h : taskOf p = .error f) : Refuses f := by
  simp only [taskOf] at h
  split at h
  · cases h
  · split at h
    · split at h
      · exact Except.error.inj h ▸ refuses_validation _
      · cases h
    · exact Except.error.inj h ▸ refuses_unsupported _

theorem careful {reader : Pdf.Reader} (settings : Settings) (params : Fields) :
    ((capability reader settings.services).compute params).Careful Refuses Blames
      (plan settings params) := by
  refine careful_check (fun f hf => Or.inl (Params.Schema.refuses_of_parse hf)) fun p hp => ?_
  refine careful_check (fun f hf => Or.inl (refuses_of_taskOf hf)) fun task _ => ?_
  refine Careful.bind (careful_load ⟨p, hp, rfl⟩) fun data => ?_
  refine Careful.bind (careful_decodeText data) fun text => ?_
  split
  · exact careful_throw (Or.inr (blames_outside _))
  · exact careful_run (careful_complete settings _) task text _

end DocumentSummary

/-! ### The registered agents -/

/-- Settings that give nothing: no credentials, no services, and a log that is not kept. -/
def Settings.bare : Settings where
  timeout := 20000
  userAgent := []
  chat := ⟨[], [], []⟩
  generation := ⟨[], [], []⟩
  embeddingsEnabled := false
  embeddingModel := []
  homeToken := []
  quiet := true

namespace Registry

variable {readers : Readers}

/-- **The care of an agent under a key**, on some parameters: the calculator asks nothing, a summary
follows its plan, and every other agent asks at most once; and what fails early is a refusal, unless
the parameters of the price agent name a symbol without an encoding. -/
def CarefulAs (key : Text) (settings : Settings) (params : Fields) (p : Program Json) : Prop :=
  ∃ early plan, p.Careful early Blames plan ∧
    (∀ f, early f → Refuses f ∨ (key = "price" ∧ PriceOracle.Unencodable params)) ∧
    (key = "calc" → plan = []) ∧ (key ≠ "pdf-summarizer" → plan.length ≤ 1) ∧
    (key = "pdf-summarizer" → plan = DocumentSummary.plan settings params)

theorem carefulAs_oneQuestion {key : Text} {settings : Settings} {params : Fields}
    {p : Program Json} (h : p.Careful Refuses Blames oneQuestion) (hcalc : key ≠ "calc")
    (hsummary : key ≠ "pdf-summarizer") : CarefulAs key settings params p :=
  ⟨Refuses, oneQuestion, h, fun _ => Or.inl, fun heq => absurd heq hcalc, fun _ => Nat.le_refl 1,
    fun heq => absurd heq hsummary⟩

/-- **Every registered agent is careful.** -/
theorem carefulAs {key : Text} {agent : Agent}
    (h : (Registry.default readers).get? key = some agent) (settings : Settings)
    (params : Fields) :
    CarefulAs key settings params ((agent settings).compute params) := by
  refine get?_default_keys
    (P := fun key agent => CarefulAs key settings params ((agent settings).compute params))
    ?mathOracle ?price ?yields ?home ?health ?summary ?page ?webhook h
  case mathOracle =>
    exact ⟨Refuses, [], MathOracle.careful params, fun _ => Or.inl, fun _ => rfl,
      fun _ => Nat.zero_le 1, fun heq => absurd heq (by decide)⟩
  case price =>
    refine ⟨_, oneQuestion, PriceOracle.careful params, fun f hf => ?_,
      fun heq => absurd heq (by decide), fun _ => Nat.le_refl 1, fun heq => absurd heq (by decide)⟩
    exact hf.imp_right fun hsymbol => ⟨rfl, hsymbol⟩
  case yields => exact carefulAs_oneQuestion (DefiYields.careful params) (by decide) (by decide)
  case home => exact carefulAs_oneQuestion (HomeAutomation.careful _ params) (by decide) (by decide)
  case health => exact carefulAs_oneQuestion (HealthCheck.careful params) (by decide) (by decide)
  case summary =>
    exact ⟨Refuses, _, DocumentSummary.careful settings params, fun _ => Or.inl,
      fun heq => absurd heq (by decide), fun hne => absurd rfl hne, fun _ => rfl⟩
  case page => exact carefulAs_oneQuestion (PageText.careful params) (by decide) (by decide)
  case webhook => exact carefulAs_oneQuestion (WebhookCall.careful params) (by decide) (by decide)

/-- **Bad input never reaches the outside, and nothing is asked twice.** Where the outside itself
gives no refusal for an answer, an agent that refuses has sent no request, run no command and probed
no host. In every world the calculator does nothing outside, and any other agent does at most one
thing there, but for a summary: it sends at most two requests, one for the source and then one for
a completion. -/
theorem run_external {key : Text} {agent : Agent}
    (h : (Registry.default readers).get? key = some agent) (settings : Settings) (params : Fields)
    (w : World) :
    let p := (agent settings).compute params
    let external := Event.externalOf (w.run p).events
    ((∀ f ∈ w.failuresMet p, f.isRefusal = false) →
      (∃ f, (w.run p).outcome = .error f ∧ f.isRefusal = true) → external = []) ∧
    (key = "calc" → external = []) ∧
    (key ≠ "pdf-summarizer" → external.length ≤ 1) ∧
    (key = "pdf-summarizer" → external.length ≤ 2 ∧
      (DocumentSummary.plan settings params).Allows (w.run p).events) := by
  intro p external
  obtain ⟨early, plan, hcareful, -, hcalc, hother, hsummary⟩ := carefulAs h settings params
  obtain ⟨hallows, hfails⟩ := hcareful.run w
  refine ⟨?_, fun hkey => ?_, fun hkey => ?_, fun hkey => ?_⟩
  · -- a refusal is no blame and was not met outside, so it came before any question
    rintro hw ⟨f, houtcome, hrefusal⟩
    rcases hfails f houtcome with ⟨hnothing, -⟩ | ⟨message, rfl⟩ | hmet
    · exact hnothing
    · simp [Failure.isRefusal, Failure.outside] at hrefusal
    · exact absurd hrefusal (by simp [hw f hmet])
  · rw [hcalc hkey] at hallows
    exact Plan.allows_nil_iff.mp hallows
  · exact Nat.le_trans hallows.length_le (hother hkey)
  · rw [hsummary hkey] at hallows
    exact ⟨hallows.length_le, hallows⟩

/-- A body that does not go with its method is refused, and no request is sent. -/
theorem run_external_of_body :
    let params : Fields := [(Text.ofString "url", .str "u"), (Text.ofString "body", .str "b")]
    let w : World := { replies := [.ok { status := 200 }] }
    (Registry.default .standard).get? "webhook" = some (fun _ => WebhookCall.capability) ∧
      (w.run (WebhookCall.capability.compute params)).outcome =
        .error (.validation "body is not allowed with GET") ∧
      Event.externalOf (w.run (WebhookCall.capability.compute params)).events = [] := by
  intro params w
  have hget : (Registry.default .standard).get? "webhook" = some fun _ => WebhookCall.capability :=
    rfl
  have houtcome : (w.run (WebhookCall.capability.compute params)).outcome =
      .error (.validation "body is not allowed with GET") := rfl
  have hmet : w.failuresMet (WebhookCall.capability.compute params) = [] := rfl
  refine ⟨hget, houtcome, (run_external hget .bare params w).1 ?_ ⟨_, houtcome, rfl⟩⟩
  rw [hmet]
  simp

/-- **The failures of the agents are verdicts**, where those of the outside are, with one exception:
the price agent gives another failure exactly when the symbol it is given has no encoding. -/
theorem run_without_verdict_iff {key : Text} {agent : Agent}
    (h : (Registry.default readers).get? key = some agent) (settings : Settings) (params : Fields)
    (w : World)
    (hw : ∀ f ∈ w.failuresMet ((agent settings).compute params), f.isVerdict = true) :
    (∃ f, (w.run ((agent settings).compute params)).outcome = .error f ∧ f.isVerdict = false) ↔
      key = "price" ∧ PriceOracle.Unencodable params := by
  constructor
  · rintro ⟨f, houtcome, hverdict⟩
    obtain ⟨early, plan, hcareful, hearly, -⟩ := carefulAs h settings params
    rcases (hcareful.run w).2 f houtcome with ⟨-, hf⟩ | ⟨message, rfl⟩ | hmet
    · -- refusals are verdicts, so what is left of the early failures is the symbol's
      refine (hearly f hf).resolve_left fun hrefuses => ?_
      cases f with
      | verdict kind message => cases hverdict
      | error name message cause => cases hrefuses
      | value v => cases hrefuses
    · cases hverdict
    · exact absurd (hw f hmet) (by simp [hverdict])
  · rintro ⟨rfl, hsymbol⟩
    have hget : (Registry.default readers).get? "price" =
        some fun _ => PriceOracle.capability := rfl
    obtain rfl := Option.some_inj.mp (h.symm.trans hget)
    change ∃ f, (w.run (PriceOracle.capability.compute params)).outcome = .error f ∧ _
    rw [PriceOracle.compute_of_unencodable hsymbol]
    exact ⟨_, rfl, rfl⟩

/-- A page that cannot be reached. -/
theorem run_without_verdict_of_unreachable :
    let params : Fields := [(Text.ofString "url", .str "u")]
    let w := World.unreachable 1 0
    let agent := PageText.capability Html.parse
    (Registry.default .standard).get? "web-scraper" = some (fun _ => agent) ∧
      w.failuresMet (agent.compute params) = [.outside "Network error: unreachable"] ∧
      ¬∃ f, (w.run (agent.compute params)).outcome = .error f ∧ f.isVerdict = false := by
  intro params w agent
  have hget : (Registry.default .standard).get? "web-scraper" = some fun _ => agent := rfl
  have hmet : w.failuresMet (agent.compute params) =
      [.outside "Network error: unreachable"] := rfl
  refine ⟨hget, hmet, fun hfails => ?_⟩
  have hiff := run_without_verdict_iff hget .bare params w (by
    rw [hmet]
    simp [Failure.isVerdict, Failure.outside])
  exact absurd (hiff.mp hfails).1 (by decide)

/-- **A symbol without an encoding ends in a failure that is no verdict**, whatever the outside has
in store. -/
theorem run_of_lone_surrogate :
    let params : Fields := [(Text.ofString "symbol", .str [0xD800])]
    let w := World.unreachable 1 0
    (Registry.default .standard).get? "price" = some (fun _ => PriceOracle.capability) ∧
      w.failuresMet (PriceOracle.capability.compute params) = [] ∧
      (w.run (PriceOracle.capability.compute params)).outcome =
        .error (.named "URIError" "URI malformed") :=
  ⟨rfl, rfl, rfl⟩

end Registry

end LineAgents
