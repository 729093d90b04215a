import LineAgents.Proofs.Agents.Enrichment
import LineAgents.Proofs.CommandLine.Invocation
import LineAgents.Proofs.Session.Transport

/-!
# Enrichment never disturbs a session

An agent may be served with an enriched card or with the card itself. The two processes do the same
(`LineAgents.CommandLine.conduct_enriched`), but for what comes before the first line is read, which
is a request for the embedding and a note if there is none, and for the member that the embedding
adds to the answers to `initialize`. The request uses up its own reply, so whatever is asked later
is answered as it would have been.

The proof goes from the inside out. What was done before a session makes no difference to it, and
its card is seen in one kind of answer only (`LineAgents.CommandLine.Opened.respond_precededBy`); so
the sessions with either card correspond, line by line (`LineAgents.CommandLine.enriches_close`).
The card is made before the session (`LineAgents.CommandLine.exists_enriches_serve`), and the
settings before the card.
-/

namespace LineAgents

/-- The trace with events in front. -/
def Trace.precededBy (es : List Event) (t : Trace) : Trace := { t with events := es ++ t.events }

theorem Trace.extend_precededBy {α : Type} (es : List Event) (t : Trace) (p : Program α) :
    (t.precededBy es).extend p = ((t.extend p).1, (t.extend p).2.precededBy es) := by
  simp only [extend, precededBy, List.append_assoc]

namespace CommandLine

/-! ### Sessions with either card -/

theorem Opened.note_precededBy (o : Opened) (message : Text) (es : List Event) (t : Trace) :
    o.note message (t.precededBy es) = (o.note message t).precededBy es := by
  rw [Opened.note, Opened.note]
  split
  · simp only [Trace.log, Trace.precededBy, List.append_assoc]
  · rfl

/-- **A request to a service with another card**: what was done before makes no difference, and the
card is seen in the answer to the request for it alone. -/
theorem Opened.respond_precededBy (o : Opened) (card card' : Card) (es : List Event) (r : Request)
    (t : Trace) :
    (o.service card').handler.respond r (t.precededBy es) =
      (if r.method = Handler.initializeMethod then ⟨r.id, .ofJson card'.toJson, .null⟩
        else ((o.service card).handler.respond r t).1,
      ((o.service card).handler.respond r t).2.precededBy es) := by
  rw [Handler.respond, Handler.respond]
  split
  · rfl
  · split
    · simp only [Opened.service, Capability.handler, Trace.extend_precededBy]
    · rfl

/-- What was done before the session is carried through it. -/
theorem Opened.carries (o : Opened) (card card' : Card) (es : List Event) :
    Service.Carries (Trace.precededBy es) (o.service card) (o.service card') where
  log line t := o.note_precededBy line es t
  state r t := congrArg Prod.snd (o.respond_precededBy card card' es r t)

/-- An agent says it is ready in the same way with either card. -/
theorem readyNote_enriched (c : Card) (vector? : Option (List Float)) :
    readyNote (c.enriched vector?) = readyNote c := by
  rw [readyNote, readyNote, Card.name, Card.name, Card.version, Card.version, Card.text, Card.text,
    Card.text, Card.text, c.get?_enriched vector? (by decide), c.get?_enriched vector? (by decide)]

/-- The line that answers a request for a card. -/
def cardLine (r : Request) (c : Card) : Text :=
  (⟨r.id, .ofJson c.toJson, .null⟩ : Response).encode ++ [10]

/-- **A session with an enriched card**, beside the session with the card itself. -/
structure Enriches (requests : List Request) (card : Card) (vector? : Option (List Float))
    (es : List Event) (enriched plain : Conduct) : Prop where
  ending : enriched.ending = plain.ending
  trace : enriched.trace = plain.trace.precededBy es
  length : enriched.written.length = requests.length ∧ plain.written.length = requests.length
  written : ∀ (k : Nat) (r : Request), requests[k]? = some r →
    if r.method = Handler.initializeMethod then
      plain.written[k]? = some (cardLine r card) ∧
        enriched.written[k]? = some (cardLine r (card.enriched vector?))
    else enriched.written[k]? = plain.written[k]?

/-- Without an embedding the same is written. -/
theorem Enriches.written_eq {requests : List Request} {card : Card} {vector? : Option (List Float)}
    {es : List Event} {enriched plain : Conduct}
    (h : Enriches requests card vector? es enriched plain) (hv : vector? = none) :
    enriched.written = plain.written := by
  refine List.ext_getElem? fun k => ?_
  cases hr : requests[k]? with
  | none =>
    have hle := List.getElem?_eq_none_iff.mp hr
    rw [List.getElem?_eq_none (h.length.1.symm ▸ hle),
      List.getElem?_eq_none (h.length.2.symm ▸ hle)]
  | some r =>
    have hwritten := h.written k r hr
    split at hwritten
    · rw [hv, Card.enriched_none] at hwritten
      exact hwritten.2.trans hwritten.1.symm
    · exact hwritten

theorem close_eq (o : Opened) {s s' : Session Trace} {es : List Event}
    (houtcome : s.outcome = s'.outcome) (hstate : s.state = s'.state.precededBy es) :
    (close o s).ending = (close o s').ending ∧
      (close o s).trace = (close o s').trace.precededBy es ∧
      (close o s).written = s.written ∧ (close o s').written = s'.written := by
  rw [close, close, houtcome, hstate]
  cases s'.outcome with
  | ok tally => exact ⟨rfl, o.note_precededBy _ es _, rfl, rfl⟩
  | error f => exact ⟨rfl, rfl, rfl, rfl⟩

/-- **Sessions with either card.** -/
theorem enriches_close (o : Opened) (card : Card) (vector? : Option (List Float)) (es : List Event)
    (chunks : List Bytes) (t : Trace) :
    Enriches (Session.requests (Lines.split [] (Utf8.decode (Lines.finished chunks.flatten))))
      card vector? es
      (close o (Session.serve (o.service (card.enriched vector?)) accepting chunks
        (t.precededBy es)))
      (close o (Session.serve (o.service card) accepting chunks t)) := by
  rw [show accepting = fun _ => none from rfl]
  obtain ⟨houtcome, hstate, hlength, hlength', hanswers⟩ :=
    (o.carries card (card.enriched vector?) es).serve chunks t
  obtain ⟨hending, htrace, hwritten, hwritten'⟩ := close_eq o houtcome hstate
  refine ⟨hending, htrace, ⟨?_, ?_⟩, fun k r hr => ?_⟩
  · exact (congrArg List.length hwritten).trans hlength
  · exact (congrArg List.length hwritten').trans hlength'
  · obtain ⟨t', hplain, henriched⟩ := hanswers k r hr
    rw [o.respond_precededBy card] at henriched
    rw [hwritten, hwritten']
    split
    · rename_i hinitialize
      rw [if_pos hinitialize] at henriched
      rw [Handler.respond, if_pos hinitialize] at hplain
      exact ⟨hplain, henriched⟩
    · rename_i hother
      rw [if_neg hother] at henriched
      exact henriched.trans hplain.symm

theorem serve_of_card {o : Opened} {card : Card} {t t' : Trace} (h : o.card t = (.ok card, t'))
    (chunks : List Bytes) :
    serve o chunks t =
      close o (Session.serve (o.service card) accepting chunks (o.note (readyNote card) t')) := by
  rw [serve, h]

/-- **An agent that is served with an enriched card**, beside the one that is served without an
embedder. -/
theorem exists_enriches_serve (c : Capability) (access : ModelAccess) (j : Journal)
    (hcard : ∀ vector, c.card.withEmbedding vector = c.card.enriched (some vector))
    (r : Except Failure Http.Reply) (chunks : List Bytes) (w : World) :
    ∃ notes : List Text,
      notes.length = (if (Card.vector? access.apiKey r).isSome then 0 else 1) ∧
      (∀ note ∈ notes, ∃ f, note = c.card.skippedNote f) ∧
      Enriches (Session.requests (Lines.split [] (Utf8.decode (Lines.finished chunks.flatten))))
        c.card (Card.vector? access.apiKey r)
        ((if access.apiKey = [] then [] else [.sent (Card.embeddingRequest access c.card)]) ++
          (notes.filterMap j).map .logged)
        (serve ⟨c, some (Completion.embedding access), j⟩ chunks
          ⟨Card.worldWith access.apiKey r w, []⟩)
        (serve ⟨c, none, j⟩ chunks ⟨w, []⟩) := by
  let o : Opened := ⟨c, some (Completion.embedding access), j⟩
  obtain ⟨notes, hlength, hskipped, hbuild⟩ := Card.exists_run_build hcard access r w
  refine ⟨notes, hlength, hskipped, ?_⟩
  have hsent : ∀ q : Http.Request, (if access.apiKey = [] then [] else [.sent q]).filterMap
      (Event.keptBy? j) = if access.apiKey = [] then [] else [.sent q] := by
    intro q
    split <;> rfl
  let es : List Event :=
    (if access.apiKey = [] then [] else [.sent (Card.embeddingRequest access c.card)]) ++
      (notes.filterMap j).map .logged
  -- nothing comes of the card but the events before the session
  have hopened : o.card ⟨Card.worldWith access.apiKey r w, []⟩ =
      (.ok (c.card.enriched (Card.vector? access.apiKey r)), Trace.precededBy es ⟨w, []⟩) := by
    rw [Opened.card, Trace.extend, World.run_through, hbuild, List.filterMap_append, hsent,
      Event.filterMap_keptBy?_logged, Trace.precededBy, List.append_nil, List.nil_append]
  rw [serve_of_card hopened, readyNote_enriched, o.note_precededBy]
  exact enriches_close o c.card (Card.vector? access.apiKey r) es chunks
    (o.note (readyNote c.card) ⟨w, []⟩)

/-! ### The command that serves an agent -/

section

variable {tools : Tools} {key : Text} {agent : Agent}

/-- No key of a registered agent begins with a hyphen. -/
theorem head?_of_registered {readers : Readers}
    (h : (Registry.default readers).get? key = some agent) : key.head? ≠ some 45 :=
  Registry.get?_default_keys (P := fun key _ => key.head? ≠ some 45)
    (by decide) (by decide) (by decide) (by decide) (by decide) (by decide) (by decide)
    (by decide) h

/-- **The command that serves a registered agent**, under the settings of the environment. -/
theorem conduct_run (htools : tools.ReadsRun)
    (h : (Registry.default tools.toReaders).get? key = some agent)
    (env : Environment) (chunks : List Bytes) (w : World) :
    conduct tools [Text.ofString "run", key] env chunks w =
      match Settings.load env with
      | .error f => ⟨.failed f, [], ⟨w, []⟩⟩
      | .ok s => serve ⟨agent s, embedderOf s, .of s.quiet ("agent:" ++ key)⟩ chunks ⟨w, []⟩ := by
  rw [conduct, htools key (head?_of_registered h)]
  change withAgent tools.toReaders env key _ _ = _
  rw [withAgent, openAgent, h]
  dsimp only
  cases Settings.load env <;> rfl

/-- Where embeddings are disabled, the agent is served without an embedder. -/
theorem conduct_run_of_disabled (htools : tools.ReadsRun)
    (h : (Registry.default tools.toReaders).get? key = some agent) {env : Environment}
    {s : Settings} (hs : Settings.load env = .ok s)
    (hoff : env.flag Settings.embeddingsVariable = false) (chunks : List Bytes) (w : World) :
    conduct tools [Text.ofString "run", key] env chunks w =
      serve ⟨agent s, none, .of s.quiet ("agent:" ++ key)⟩ chunks ⟨w, []⟩ := by
  have hembedder : embedderOf s = none := by
    rw [embedderOf, (Settings.switches_of_load hs).1, hoff, if_neg Bool.false_ne_true]
  rw [conduct_run htools h, hs, ← hembedder]

/-- Where embeddings are enabled, the agent is served with the embedder of the settings, and is the
same otherwise. -/
theorem conduct_run_of_enabled (htools : tools.ReadsRun)
    (h : (Registry.default tools.toReaders).get? key = some agent) {env env' : Environment}
    {s : Settings}
    (hs : Settings.load env' = .ok s) (hsame : env.SameBut Settings.embeddingsVariable env')
    (hon : env.flag Settings.embeddingsVariable = true) (chunks : List Bytes) (w : World) :
    conduct tools [Text.ofString "run", key] env chunks w =
      serve ⟨agent s, some (Completion.embedding { s.chat with model := s.embeddingModel }),
        .of s.quiet ("agent:" ++ key)⟩ chunks ⟨w, []⟩ := by
  have hembedder : embedderOf (s.withSwitches env) =
      some (Completion.embedding { s.chat with model := s.embeddingModel }) := if_pos hon
  have hquiet : (s.withSwitches env).quiet = s.quiet :=
    (hsame.flag_eq (by decide)).trans (Settings.switches_of_load hs).2.1.symm
  rw [conduct_run htools h, Settings.load_of_sameBut (Or.inl rfl) hsame, hs]
  change serve ⟨agent (s.withSwitches env), embedderOf (s.withSwitches env),
    .of (s.withSwitches env).quiet _⟩ chunks _ = _
  rw [Registry.agent_withSwitches h, hembedder, hquiet]

end

/-- **Enrichment never disturbs a session**, with whatever tools that read the command. Take an
environment that enables embeddings and one that does not and is the same otherwise, and let the
world of the first have one reply more in front if there is a credential to ask for it. If the
settings are refused, both processes fail alike before anything is done. Otherwise they end in the
same way and leave the same world behind; the first has done what the second has done, behind a
request for the embedding, if there is a credential, and a line of the log, if there is no
embedding; and it has written the same, but for the member that the embedding is in the answers to
`initialize`. There is an embedding exactly when the reply holds one. -/
theorem conduct_enriched {tools : Tools} (htools : tools.ReadsRun) {key : Text} {agent : Agent}
    (hkey : (Registry.default tools.toReaders).get? key = some agent) {env env' : Environment}
    (hsame : env.SameBut Settings.embeddingsVariable env')
    (hon : env.flag Settings.embeddingsVariable = true)
    (hoff : env'.flag Settings.embeddingsVariable = false) (chunks : List Bytes) (w : World)
    (r : Except Failure Http.Reply) :
    let apiKey := env.first "" ["LLM_API_KEY", "OPENAI_API_KEY"]
    let w' := Card.worldWith apiKey r w
    let enriched := conduct tools [Text.ofString "run", key] env chunks w'
    let plain := conduct tools [Text.ofString "run", key] env' chunks w
    match Settings.load env' with
    | .error f => enriched = ⟨.failed f, [], ⟨w', []⟩⟩ ∧ plain = ⟨.failed f, [], ⟨w, []⟩⟩
    | .ok s =>
      let requests :=
        Session.requests (Lines.split [] (Utf8.decode (Lines.finished chunks.flatten)))
      let card := (agent s).card
      let access := { s.chat with model := s.embeddingModel }
      ∃ notes : List Text,
        notes.length = (if (Card.vector? apiKey r).isSome || s.quiet then 0 else 1) ∧
        (∀ line ∈ notes, ∃ f, line = logLine ("agent:" ++ key) (card.skippedNote f)) ∧
        Enriches requests card (Card.vector? apiKey r)
          ((if apiKey = [] then [] else [.sent (Card.embeddingRequest access card)]) ++
            notes.map .logged) enriched plain ∧
        (Card.vector? apiKey r = none → enriched.written = plain.written) ∧
        card.members.get? "embedding" = none := by
  intro apiKey w' enriched plain
  cases hs : Settings.load env' with
  | error f =>
    have henriched := conduct_run htools hkey env chunks w'
    have hplain := conduct_run htools hkey env' chunks w
    rw [Settings.load_of_sameBut (Or.inl rfl) hsame, hs] at henriched
    rw [hs] at hplain
    exact ⟨henriched, hplain⟩
  | ok s =>
    obtain ⟨hnone, hcard⟩ := Registry.withEmbedding_card hkey s
    let access : ModelAccess := { s.chat with model := s.embeddingModel }
    let journal : Journal := .of s.quiet ("agent:" ++ key)
    have hapiKey : access.apiKey = apiKey :=
      (Settings.switches_of_load hs).2.2.trans (hsame.first_eq "" (by decide)).symm
    have henriched : enriched =
        serve ⟨agent s, some (Completion.embedding access), journal⟩ chunks ⟨w', []⟩ :=
      conduct_run_of_enabled htools hkey hs hsame hon chunks w'
    have hplain : plain = serve ⟨agent s, none, journal⟩ chunks ⟨w, []⟩ :=
      conduct_run_of_disabled htools hkey hs hoff chunks w
    obtain ⟨notes, hlength, hskipped, henriches⟩ :=
      exists_enriches_serve (agent s) access journal hcard r chunks w
    rw [hapiKey, ← henriched, ← hplain] at henriches
    rw [hapiKey] at hlength
    refine ⟨notes.filterMap journal, ?_, ?_, henriches, henriches.written_eq, hnone⟩
    · rw [Journal.length_filterMap_of, hlength]
      cases s.quiet with
      | true => rw [Bool.or_true]; rfl
      | false => rw [Bool.or_false]; rfl
    · intro line hline
      obtain ⟨note, hnote, rfl⟩ := Journal.exists_of_mem_filterMap_of hline
      obtain ⟨f, rfl⟩ := hskipped note hnote
      exact ⟨f, rfl⟩

/-- A card that is asked for where a reply has held its embedding. -/
theorem conduct_enriched_of_vector :
    let env' : Environment := [(Text.ofString "LLM_API_KEY", Text.ofString "k")]
    let env : Environment := (Settings.embeddingsVariable, Text.ofString "Yes") :: env'
    let chunk : Bytes := Utf8.encode "\x7b\"id\":1,\"method\":\"initialize\"\x7d\n"
    let r : Except Failure Http.Reply := .ok
      { status := 200
        body := Utf8.encode "\x7b\"data\":[\x7b\"embedding\":[1,2.5]\x7d]\x7d" }
    let enriched :=
      conduct .standard (Text.ofStrings ["run", "calc"]) env [chunk] { replies := [r] }
    let plain := conduct .standard (Text.ofStrings ["run", "calc"]) env' [chunk] {}
    let card := MathOracle.capability.card
    Tools.standard.ReadsRun ∧
      (Registry.default .standard).get? "calc" = some (fun _ => MathOracle.capability) ∧
      env.SameBut Settings.embeddingsVariable env' ∧
      env.flag Settings.embeddingsVariable = true ∧
      env'.flag Settings.embeddingsVariable = false ∧
      enriched.ending = plain.ending ∧
      ∃ request vector, plain.written[0]? = some (cardLine request card) ∧
        enriched.written[0]? = some (cardLine request (card.enriched (some vector))) := by
  intro env' env chunk r enriched plain card
  have hkey : (Registry.default Tools.standard.toReaders).get? "calc" =
      some (fun _ => MathOracle.capability) := rfl
  have hsame : env.SameBut Settings.embeddingsVariable env' := fun other hother => by
    rw [Environment.value?, lookup_cons_ite, if_neg hother]
    rfl
  have hon : env.flag Settings.embeddingsVariable = true := by decide
  have hoff : env'.flag Settings.embeddingsVariable = false := by decide
  have hloads : (Settings.load env').toOption.isSome = true := by decide +kernel
  have hmethod : (Session.requests (Lines.split []
      (Utf8.decode (Lines.finished [chunk].flatten))))[0]?.map Request.method =
        some Handler.initializeMethod := by decide +kernel
  have hvector : (Card.vector? (Text.ofString "k") r).isSome = true := by decide +kernel
  obtain ⟨request, hrequest, hinitialize⟩ := Option.map_eq_some_iff.mp hmethod
  obtain ⟨vector, hvector⟩ := Option.isSome_iff_exists.mp hvector
  have h := conduct_enriched Tools.readsRun_standard hkey hsame hon hoff [chunk] {} r
  cases hs : Settings.load env' with
  | error f =>
    rw [hs] at hloads
    cases hloads
  | ok s =>
    have hgiven : env.first "" ["LLM_API_KEY", "OPENAI_API_KEY"] = Text.ofString "k" := by decide
    simp only [hs, hgiven] at h
    obtain ⟨notes, -, -, henriches, -, -⟩ := h
    have hwritten := henriches.written 0 request hrequest
    rw [if_pos hinitialize, hvector] at hwritten
    exact ⟨Tools.readsRun_standard, hkey, hsame, hon, hoff, henriches.ending, request, vector,
      hwritten⟩

end CommandLine

end LineAgents
