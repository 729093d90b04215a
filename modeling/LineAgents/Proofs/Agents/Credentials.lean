import LineAgents.CommandLine.Conduct
import LineAgents.Proofs.Agents.Declarations
import LineAgents.Proofs.Outside.Alike

/-!
# What becomes of credentials

The settings hold three credentials: those of the chat service, of the generation service and of the
home server. Whether a credential is given decides what an agent does, but which one it is should
show nowhere, save in the header that carries it. Put as a comparison, two settings that **differ in
credentials** (`LineAgents.Settings.DifferInCredentials`), each being the same in both or given in
both, lead to alike programs for every service and every agent.

The main result is about any sequence of calls (`LineAgents.Call`): computations of the registered
agents, cards with and without an embedding, and embeddings on their own, one after the other in one
world. Their results, failures, log lines, commands and probes are the same for both settings, and
so are their requests but for the value of that header (`LineAgents.Call.runAll_of_differ`).
-/

namespace LineAgents

open Program

/-! ### Settings that differ in credentials -/

/-- The same credential, or two that are both given. -/
def SameOrGiven (a b : Text) : Prop := a = b ∨ (a ≠ [] ∧ b ≠ [])

theorem SameOrGiven.isEmpty_eq {a b : Text} (h : SameOrGiven a b) : a.isEmpty = b.isEmpty := by
  rcases h with rfl | ⟨ha, hb⟩
  · rfl
  · rw [List.isEmpty_eq_false_iff.mpr ha, List.isEmpty_eq_false_iff.mpr hb]

/-- The settings without their credentials. -/
def Settings.withoutCredentials (s : Settings) : Settings :=
  { s with
    chat := { s.chat with apiKey := [] }
    generation := { s.generation with apiKey := [] }
    homeToken := [] }

/-- **Settings that differ in credentials only**, each being the same in both or given in both. -/
structure Settings.DifferInCredentials (s s' : Settings) : Prop where
  rest : s.withoutCredentials = s'.withoutCredentials
  chat : SameOrGiven s.chat.apiKey s'.chat.apiKey
  generation : SameOrGiven s.generation.apiKey s'.generation.apiKey
  home : SameOrGiven s.homeToken s'.homeToken

/-- Accesses to one service that differ in the credential. -/
structure ModelAccess.DifferInCredential (a a' : ModelAccess) : Prop where
  apiKey : SameOrGiven a.apiKey a'.apiKey
  model : a.model = a'.model
  baseUrl : a.baseUrl = a'.baseUrl

namespace Settings.DifferInCredentials

variable {s s' : Settings} (h : s.DifferInCredentials s')
include h

theorem chatAccess : s.chat.DifferInCredential s'.chat where
  apiKey := h.chat
  model := congrArg (·.chat.model) h.rest
  baseUrl := congrArg (·.chat.baseUrl) h.rest

theorem generationAccess : s.generation.DifferInCredential s'.generation where
  apiKey := h.generation
  model := congrArg (·.generation.model) h.rest
  baseUrl := congrArg (·.generation.baseUrl) h.rest

theorem embeddingAccess :
    ModelAccess.DifferInCredential { s.chat with model := s.embeddingModel }
      { s'.chat with model := s'.embeddingModel } where
  apiKey := h.chat
  model := congrArg (·.embeddingModel) h.rest
  baseUrl := congrArg (·.chat.baseUrl) h.rest

end Settings.DifferInCredentials

/-! ### Services -/

namespace Completion

/-- The credential of a request is veiled. -/
theorem veiled_request (url apiKey apiKey' : Text) (body : Json) (timeout : Float) :
    (request url apiKey body timeout).veiled = (request url apiKey' body timeout).veiled := by
  simp only [Http.Request.veiled, request, Option.map_some, List.map_cons, beq_self_eq_true,
    if_true, Http.credentialHeader]

theorem ask_alike {α : Type} {apiKey apiKey' : Text} (h : SameOrGiven apiKey apiKey')
    {q q' : Http.Request} (hq : q.veiled = q'.veiled) (missing service lacking : Text)
    (read : Json → Option α) :
    (ask apiKey missing service lacking q read).Alike
      (ask apiKey' missing service lacking q' read) := by
  rw [ask, ask, h.isEmpty_eq]
  -- both credentials are missing, or both are sent
  split
  · exact Alike.refl _
  · exact (Alike.fetch hq).bind fun r => Alike.refl _

/-- Completers of one name whose completions are alike. -/
structure Completer.Alike (c c' : Completer) : Prop where
  provider : c.provider = c'.provider
  complete : ∀ prompt o, (c.complete prompt o).Alike (c'.complete prompt o)

variable {a a' : ModelAccess}

theorem chat_alike (h : a.DifferInCredential a') : (chat a).Alike (chat a') where
  provider := rfl
  complete prompt o := by
    simp only [chat, h.model, h.baseUrl]
    exact ask_alike h.apiKey (veiled_request ..) ..

theorem generation_alike (h : a.DifferInCredential a') : (generation a).Alike (generation a') where
  provider := rfl
  complete prompt o := by
    simp only [generation, h.model, h.baseUrl]
    exact ask_alike h.apiKey (veiled_request ..) ..

theorem embedding_alike (h : a.DifferInCredential a') (text : Text) :
    (embedding a text).Alike (embedding a' text) := by
  simp only [embedding, h.model, h.baseUrl]
  exact ask_alike h.apiKey (veiled_request ..) ..

end Completion

/-! ### Agents that hold a credential -/

namespace HomeAutomation

theorem sameOrGiven_textOr {token token' : Text} (h : SameOrGiven token token') (p : Fields)
    (name : Text) : SameOrGiven (textOr p name token) (textOr p name token') := by
  rw [textOr, textOr]
  split
  · split
    · exact h
    · exact Or.inl rfl
  · exact h

theorem call_alike (url method token token' : Text) (payload : Option Json) :
    (call url method token payload).Alike (call url method token' payload) := by
  refine (Alike.fetch ?_).bind fun r => Alike.refl _
  simp only [Http.Request.veiled, Option.map_some, List.map_cons, beq_self_eq_true, if_true,
    Http.credentialHeader]

theorem act_alike (p : Fields) (token token' : Text) : (act p token).Alike (act p token') := by
  simp only [act]
  split
  · exact call_alike ..
  · split
    · exact call_alike ..
    · split
      · exact call_alike ..
      · exact Alike.refl _

theorem compute_alike {token token' : Text} (h : SameOrGiven token token') (params : Fields) :
    ((capability token).compute params).Alike ((capability token').compute params) := by
  refine (Alike.refl _).bind fun p => ?_
  -- a token among the parameters goes before that of the settings, and is the same in both
  have htoken := sameOrGiven_textOr h p "token"
  dsimp only
  rw [htoken.isEmpty_eq]
  split
  · exact Alike.refl _
  · exact act_alike p _ _

end HomeAutomation

namespace DocumentSummary

theorem ask_alike {c c' : Completion.Completer} (h : c.Alike c') (prompt text : Text)
    (model : Option Text) : (ask c prompt text model).Alike (ask c' prompt text model) := by
  rw [ask, ask, h.provider]
  exact (h.complete prompt _).recover fun f => Alike.refl _

theorem run_alike {c c' : Completion.Completer} (h : c.Alike c') (task : Task) (text : Text)
    (model : Option Text) : (task.run c text model).Alike (task.run c' text model) := by
  cases task with
  | summary => exact (ask_alike h ..).bind fun s => Alike.refl _
  | question q => exact (ask_alike h ..).bind fun s => Alike.refl _

theorem of_alike {services services' : Services} (hchat : services.chat.Alike services'.chat)
    (hgeneration : services.generation.Alike services'.generation) (provider : Text) :
    (services.of provider).Alike (services'.of provider) := by
  rw [Services.of, Services.of]
  split
  · exact hgeneration
  · exact hchat

theorem compute_alike {reader : Pdf.Reader} {services services' : Services}
    (hchat : services.chat.Alike services'.chat)
    (hgeneration : services.generation.Alike services'.generation) (params : Fields) :
    ((capability reader services).compute params).Alike
      ((capability reader services').compute params) := by
  refine (Alike.refl _).bind fun p => (Alike.refl _).bind fun task => ?_
  refine (Alike.refl _).bind fun data => (Alike.refl _).bind fun text => ?_
  split
  · exact Alike.refl _
  · exact run_alike (of_alike hchat hgeneration _) task text _

end DocumentSummary

/-! ### The registered agents -/

/-- Capabilities that declare the same and compute alike. -/
structure Capability.Alike (c c' : Capability) : Prop where
  card : c.card = c'.card
  positions : c.positions = c'.positions
  compute : ∀ params, (c.compute params).Alike (c'.compute params)

theorem Capability.Alike.refl (c : Capability) : c.Alike c := ⟨rfl, rfl, fun _ => .refl _⟩

theorem HomeAutomation.alike {token token' : Text} (h : SameOrGiven token token') :
    (capability token).Alike (capability token') :=
  ⟨rfl, rfl, compute_alike h⟩

theorem DocumentSummary.alike {reader : Pdf.Reader} {services services' : Services}
    (hchat : services.chat.Alike services'.chat)
    (hgeneration : services.generation.Alike services'.generation) :
    (capability reader services).Alike (capability reader services') :=
  ⟨rfl, rfl, compute_alike hchat hgeneration⟩

variable {readers : Readers}

/-- **A registered agent acts alike** under settings that differ in credentials. -/
theorem Registry.alike {key : Text} {agent : Agent}
    (h : (Registry.default readers).get? key = some agent) {s s' : Settings}
    (hs : s.DifferInCredentials s') : (agent s).Alike (agent s') := by
  -- one agent holds the token of the home server, one the two services, the others nothing
  have hhome : (HomeAutomation.capability s.homeToken).Alike
      (HomeAutomation.capability s'.homeToken) := HomeAutomation.alike hs.home
  have hsummary : (DocumentSummary.capability readers.document s.services).Alike
      (DocumentSummary.capability readers.document s'.services) :=
    DocumentSummary.alike (Completion.chat_alike hs.chatAccess)
      (Completion.generation_alike hs.generationAccess)
  have hrefl : ∀ c : Capability, c.Alike c := Capability.Alike.refl
  exact Registry.get?_default_cases (P := fun agent => (agent s).Alike (agent s'))
    (hrefl MathOracle.capability) (hrefl PriceOracle.capability) (hrefl DefiYields.capability) hhome
    (hrefl HealthCheck.capability) hsummary 
    (hrefl (PageText.capability readers.page)) (hrefl WebhookCall.capability) h

/-! ### Sequences of calls -/

/-- Two traces look alike with the veil on. -/
structure Trace.LooksLike (t t' : Trace) : Prop where
  world : t.world = t'.world
  events : t.events.map Event.veiled = t'.events.map Event.veiled

theorem Trace.LooksLike.refl (t : Trace) : t.LooksLike t := ⟨rfl, rfl⟩

/-- Traces that look alike are extended by alike programs with the same outcome, and look alike
afterwards. -/
theorem Trace.LooksLike.extend {α : Type} {t t' : Trace} (h : t.LooksLike t') {p p' : Program α}
    (hp : p.Alike p') :
    (t.extend p).1 = (t'.extend p').1 ∧ (t.extend p).2.LooksLike (t'.extend p').2 := by
  have hruns := hp.looksLike t.world
  rw [Trace.extend, Trace.extend, ← h.world]
  refine ⟨hruns.outcome, hruns.world, ?_⟩
  rw [List.map_append, List.map_append, h.events, hruns.events]

/-- **A call** of what the settings are for: a computation of an agent that is registered with these
readers, its card as it is served, or an embedding. -/
inductive Call (readers : Readers) where
  | compute {key : Text} {agent : Agent}
      (registered : (Registry.default readers).get? key = some agent) (params : Option Json)
  | card {key : Text} {agent : Agent}
      (registered : (Registry.default readers).get? key = some agent)
  | embed (text : Text)

namespace Call

/-- What a call does under settings. -/
def program (s : Settings) : Call readers → Program Json
  | @compute _ _ agent _ params =>
    (agent s).compute (Params.normalize params (agent s).positions)
  | @card _ _ agent _ => do
    let card ← (agent s).card.build (CommandLine.embedderOf s)
    return card.toJson
  | .embed text => do
    let vector ← Completion.embedding { s.chat with model := s.embeddingModel } text
    return .arr (vector.map .num)

/-- The outcomes of calls, one after the other, and the trace after them. -/
def runAll (s : Settings) : List (Call readers) → Trace → List (Except Failure Json) × Trace
  | [], t => ([], t)
  | c :: cs, t =>
    let (outcome, t) := t.extend (c.program s)
    let (outcomes, t) := runAll s cs t
    (outcome :: outcomes, t)

/-- What was done before the calls stays at the front of the trace. -/
theorem runAll_events (s : Settings) (calls : List (Call readers)) (t : Trace) :
    ∃ more, (runAll s calls t).2.events = t.events ++ more := by
  induction calls generalizing t with
  | nil => exact ⟨[], (List.append_nil _).symm⟩
  | cons c cs ih =>
    obtain ⟨more, hmore⟩ := ih (t.extend (c.program s)).2
    exact ⟨_, hmore.trans (List.append_assoc _ _ _)⟩

theorem build_alike {s s' : Settings} (h : s.DifferInCredentials s') (card : Card) :
    (card.build (CommandLine.embedderOf s)).Alike (card.build (CommandLine.embedderOf s')) := by
  have henabled : s.embeddingsEnabled = s'.embeddingsEnabled :=
    congrArg (·.embeddingsEnabled) h.rest
  rw [CommandLine.embedderOf, CommandLine.embedderOf, henabled]
  split
  · exact (Completion.embedding_alike h.embeddingAccess _).andThen fun r => Alike.refl _
  · exact Alike.refl _

theorem program_alike {s s' : Settings} (h : s.DifferInCredentials s') (c : Call readers) :
    (c.program s).Alike (c.program s') := by
  cases c with
  | compute registered params =>
    have halike := Registry.alike registered h
    rw [program, program, halike.positions]
    exact halike.compute _
  | card registered =>
    rw [program, program, (Registry.alike registered h).card]
    exact (build_alike h _).bind fun card => Alike.refl _
  | embed text =>
    exact (Completion.embedding_alike h.embeddingAccess text).bind fun vector => Alike.refl _

/-- Calls that start from traces that look alike give the same outcomes, and end in traces that look
alike. -/
theorem runAll_looksLike {s s' : Settings} (h : s.DifferInCredentials s')
    (calls : List (Call readers)) {t t' : Trace} (ht : t.LooksLike t') :
    (runAll s calls t).1 = (runAll s' calls t').1 ∧
      (runAll s calls t).2.LooksLike (runAll s' calls t').2 := by
  induction calls generalizing t t' with
  | nil => exact ⟨rfl, ht⟩
  | cons c cs ih =>
    obtain ⟨houtcome, hnext⟩ := ht.extend (program_alike h c)
    obtain ⟨houtcomes, hend⟩ := ih hnext
    exact ⟨congrArg₂ List.cons houtcome houtcomes, hend⟩

/-- **No credential shows.** Under settings that differ in credentials only, a sequence of calls in
one world has the same results and the same failures, leaves the same world behind, and does the
same on the way, log lines included; its requests differ in the value of the header for the
credential at most. -/
theorem runAll_of_differ {s s' : Settings} (h : s.DifferInCredentials s')
    (calls : List (Call readers)) (w : World) :
    let r := runAll s calls ⟨w, []⟩
    let r' := runAll s' calls ⟨w, []⟩
    r.1 = r'.1 ∧ r.2.world = r'.2.world ∧
      r.2.events.map Event.veiled = r'.2.events.map Event.veiled := by
  intro r r'
  obtain ⟨houtcomes, hend⟩ := runAll_looksLike h calls (.refl ⟨w, []⟩)
  exact ⟨houtcomes, hend.world, hend.events⟩

/-- Two credentials, in a call of the home server, a card with its embedding, and a summary. What
comes of the calls does not tell them apart, though each travels in the first request. -/
theorem runAll_of_differ_of_two_keys :
    let settings : Text → Settings := fun key =>
      { timeout := 20000, userAgent := "agent", chat := ⟨key, "c", "http://c"⟩,
        generation := ⟨key, "g", "http://g"⟩, embeddingsEnabled := true, embeddingModel := "e",
        homeToken := key, quiet := false }
    let state : Fields := [(Text.ofString "base_url", .str "http://h"),
      (Text.ofString "entity_id", .str "lamp")]
    let calls : List (Call .standard) := [
      @compute _ "home-assistant" (fun s => HomeAutomation.capability s.homeToken) rfl
        (some (.obj state)),
      @card _ "calc" (fun _ => MathOracle.capability) rfl, embed "text",
      @compute _ "pdf-summarizer"
        (fun s => DocumentSummary.capability Readers.standard.document s.services) rfl none]
    let w : World := { replies := [.ok { status := 200 }] }
    let r := runAll (settings "a") calls ⟨w, []⟩
    let r' := runAll (settings "b") calls ⟨w, []⟩
    (settings "a").DifferInCredentials (settings "b") ∧
      (∃ q, r.2.events.head? = some (.sent q) ∧
        (Text.ofString "Authorization", Text.ofString "Bearer a") ∈ q.headers.getD []) ∧
      (∃ q, r'.2.events.head? = some (.sent q) ∧
        (Text.ofString "Authorization", Text.ofString "Bearer b") ∈ q.headers.getD []) ∧
      r.1 = r'.1 ∧ r.2.world = r'.2.world ∧
        r.2.events.map Event.veiled = r'.2.events.map Event.veiled := by
  intro settings state calls w r r'
  have hgiven : SameOrGiven "a" "b" := Or.inr ⟨by decide, by decide⟩
  have hdiffer : (settings "a").DifferInCredentials (settings "b") :=
    ⟨rfl, hgiven, hgiven, hgiven⟩
  -- the first call is one request, with the credential in it
  let first : Call .standard :=
    @compute _ "home-assistant" (fun s => HomeAutomation.capability s.homeToken) rfl
      (some (.obj state))
  have hchecked : HomeAutomation.schema.parse
      (Params.normalize (some (.obj [(Text.ofString "base_url", .str "http://h"),
        (Text.ofString "entity_id", .str "lamp")])) (HomeAutomation.capability []).positions) =
      .ok [(Text.ofString "base_url", .str "http://h"), (Text.ofString "entity_id", .str "lamp"),
        (Text.ofString "action", .str "get_state")] := by
    rfl
  have hasked : ∀ key ≠ [], first.program (settings key) =
      HomeAutomation.call (HomeAutomation.stateUrl "http://h" "lamp") "GET" key none := by
    intro key hkey
    change (Program.lift (HomeAutomation.schema.parse
      (Params.normalize (some (.obj state)) (HomeAutomation.capability []).positions)) >>= _) = _
    rw [hchecked]
    change (if key.isEmpty then _ else _) = _
    rw [List.isEmpty_eq_false_iff.mpr hkey]
    rfl
  have hsent : ∀ key ≠ [], ∃ q,
      (runAll (settings key) calls ⟨w, []⟩).2.events.head? = some (.sent q) ∧
        (Text.ofString "Authorization", Text.ofString "Bearer " ++ key) ∈ q.headers.getD [] := by
    intro key hkey
    obtain ⟨more, hmore⟩ := runAll_events (settings key) calls.tail
      ((⟨w, []⟩ : Trace).extend (first.program (settings key))).2
    change ∃ q, (runAll (settings key) calls.tail
      ((⟨w, []⟩ : Trace).extend (first.program (settings key))).2).2.events.head? = _ ∧ _
    rw [hmore, hasked key hkey]
    exact ⟨_, rfl, List.mem_cons_self⟩
  exact ⟨hdiffer, hsent "a" (by decide), hsent "b" (by decide), runAll_of_differ hdiffer calls w⟩

end Call

end LineAgents
