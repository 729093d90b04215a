import LineAgents.Proofs.Agents.Care
import LineAgents.Proofs.Agents.Completions

/-!
# A summary never fails on a text

Once the document agent has a text that is not blank, it has an answer: the reply of the service
that it asks, or the beginning of the text (`LineAgents.DocumentSummary.run_of_text`). Whatever goes
wrong with the completion is made good there, and is only noted.

The agent is taken apart in the order in which it works. Once the parameters are checked, the text
is read (`LineAgents.DocumentSummary.compute_of_checked`); a task is a prompt and a name for the
answer (`LineAgents.DocumentSummary.Task.run_eq`); and a completion is a question to the service of
the provider (`LineAgents.DocumentSummary.exists_request`).

All this holds with whatever reader the documents are read; only the example of a document that
cannot be read is about the reader of this library
(`LineAgents.DocumentSummary.logLines_of_unreadable`).
-/

namespace LineAgents.DocumentSummary

variable (reader : Pdf.Reader)

/-! ### After the checks -/

/-- What the agent makes of a text. -/
def conclude (services : Services) (p : Fields) (task : Task) (t : Text) : Program Json :=
  if t.allBlank then throw (.outside "Failed to extract text")
  else task.run (services.of (p.text "provider")) t (p.text? "model")

/-- What the agent makes of the bytes of a document. -/
def digest (services : Services) (p : Fields) (task : Task) (data : Bytes) : Program Json :=
  decodeText reader data >>= conclude services p task

/-- **The agent in two steps**: the parameters are checked, and the bytes of the source are loaded
and digested. -/
theorem compute_eq (services : Services) (params : Fields) :
    (capability reader services).compute params =
      Program.lift (schema.parse params) >>= fun p =>
        Program.lift (taskOf p) >>= fun task =>
          load (p.text "source") >>= digest reader services p task :=
  rfl

/-- The program for the text of the document that checked parameters name. -/
def textOf (p : Fields) : Program Text := load (p.text "source") >>= decodeText reader

/-- **What is left after the checks.** -/
theorem compute_of_checked (services : Services) {params p : Fields} {task : Task}
    (hp : schema.parse params = .ok p) (htask : taskOf p = .ok task) :
    (capability reader services).compute params =
      textOf reader p >>= conclude services p task := by
  rw [compute_eq, hp]
  change (Program.lift (taskOf p) >>= _) = _
  rw [htask, textOf, Program.bind_bind]
  rfl

/-! ### The bytes of a document -/

/-- The bytes that come back for a URL. -/
def bytesOf : Except Failure Http.Reply → Except Failure Bytes
  | .ok r => if r.ok then .ok r.body else .error (.outside ("HTTP " ++ r.statusText))
  | .error f => .error f

/-- The document of a URL is fetched. -/
theorem load_of_url {source : Text} (h : isUrl source = true) :
    load source = .send { url := source, timeout := some 20000 } fun answer =>
      .lift (bytesOf answer) := by
  rw [load, if_pos h]
  refine congrArg (Program.send _) (funext fun answer => ?_)
  cases answer with
  | error f => rfl
  | ok r =>
    change (if r.ok then _ else _) = _
    rw [bytesOf]
    split <;> rfl

/-- A source that is no URL holds the document, or is no source at all. -/
theorem load_of_not_url {source : Text} (h : isUrl source = false) :
    load source = .lift (if isInline source then .ok (Base64.decode source)
      else .error (.validation "source must be an http(s) URL or base64 content")) := by
  rw [load, h, if_neg Bool.false_ne_true]
  split <;> rfl

/-! ### What the log says of a document -/

/-- The notes about the bytes of a document: one if they begin like a PDF document and cannot be
read as one. -/
def notesOf (data : Bytes) : List Text :=
  if Pdf.isPdf data then Failure.notes unreadableNote (Pdf.extractText reader data) else []

/-- Getting the bytes of a document leaves no line in the log. -/
theorem logLines_load (source : Text) (w : World) :
    Event.logLines (w.run (load source)).events = [] := by
  cases h : isUrl source with
  | true =>
    rw [load_of_url h]
    rfl
  | false =>
    rw [load_of_not_url h]
    rfl

theorem run_decodeText (data : Bytes) (w : World) :
    ∃ t, w.run (decodeText reader data) = ⟨.ok t, w, (notesOf reader data).map .logged⟩ := by
  rw [decodeText, notesOf]
  split
  · cases Pdf.extractText reader data with
    | ok t => exact ⟨t, rfl⟩
    | error f => exact ⟨strictText data, rfl⟩
  · exact ⟨strictText data, rfl⟩

/-- **What the log says of a document** that has a text. -/
theorem logLines_textOf {reader : Pdf.Reader} {p : Fields} {w : World} {t : Text}
    (h : (w.run (textOf reader p)).outcome = .ok t) :
    ∃ data, (w.run (load (p.text "source"))).outcome = .ok data ∧
      Event.logLines (w.run (textOf reader p)).events = notesOf reader data := by
  cases hload : (w.run (load (p.text "source"))).outcome with
  | error f =>
    rw [textOf, World.run_bind_of_error hload] at h
    cases h
  | ok data =>
    refine ⟨data, rfl, ?_⟩
    obtain ⟨t', hdecode⟩ := run_decodeText reader data (w.run (load (p.text "source"))).world
    rw [textOf, World.run_bind_of_ok hload, hdecode]
    change Event.logLines (_ ++ (notesOf reader data).map .logged) = notesOf reader data
    rw [Event.logLines_append, logLines_load, Event.logLines_map_logged, List.nil_append]

/-! ### Tasks -/

/-- The prompt of a task on a text. -/
def Task.prompt (t : Text) : Task → Text
  | .summary => summaryPrompt t
  | .question q => questionPrompt t q

/-- The name of the answer to a task. -/
def Task.answerName : Task → Text
  | .summary => "summary"
  | .question _ => "answer"

/-- **A task is a prompt and a name for the answer.** -/
theorem Task.run_eq (task : Task) (c : Completion.Completer) (t : Text) (model : Option Text) :
    task.run c t model = ask c (task.prompt t) t model >>= fun s =>
      pure (.obj [(task.answerName, .str s)]) := by
  cases task <;> rfl

/-- The task of checked parameters, by what they give. -/
theorem task_of_taskOf {p : Fields} {task : Task} (h : taskOf p = .ok task) :
    task = if (p.text "task").toLower = "qa" then .question (p.text "question") else .summary := by
  simp only [taskOf] at h
  split at h
  · rename_i hsummary
    rw [hsummary, if_neg (by decide)]
    exact (Except.ok.inj h).symm
  · split at h
    · rename_i hqa
      rw [if_pos hqa]
      split at h
      · cases h
      · exact (Except.ok.inj h).symm
    · cases h

/-- **Whatever goes wrong with a completion** is made good by the beginning of the text, and
noted. -/
theorem run_ask (c : Completion.Completer) (prompt t : Text) (model : Option Text) (w : World) :
    let completion := w.run (c.complete prompt { model := model, maxTokens := some 200 })
    w.run (ask c prompt t model) =
      { outcome := .ok (completion.outcome.toOption.getD (t.take excerptLength))
        world := completion.world
        events := completion.events ++
          (Failure.notes (unavailableNote c.provider) completion.outcome).map .logged } := by
  intro completion
  rw [ask]
  cases h : completion.outcome with
  | ok reply =>
    rw [World.run_recover_of_ok h, Failure.notes, List.map_nil, List.append_nil]
    change completion = ⟨.ok reply, completion.world, completion.events⟩
    rw [← h]
  | error f =>
    rw [World.run_recover_of_error h]
    rfl

/-- The run of a task gives its answer under the name for it. -/
theorem Task.run_run (task : Task) (c : Completion.Completer) (t : Text) (model : Option Text)
    (w : World) :
    let completion := w.run (c.complete (task.prompt t) { model := model, maxTokens := some 200 })
    w.run (task.run c t model) =
      { outcome := .ok (.obj [(task.answerName,
          .str (completion.outcome.toOption.getD (t.take excerptLength)))])
        world := completion.world
        events := completion.events ++
          (Failure.notes (unavailableNote c.provider) completion.outcome).map .logged } := by
  intro completion
  have hask := run_ask c (task.prompt t) t model w
  rw [Task.run_eq, World.run_bind_of_ok (congrArg Run.outcome hask), hask]
  exact congrArg (Run.mk _ _) (List.append_nil _)

/-! ### Completions -/

/-- **A completion is a question to the service of the provider**: nothing is sent when the
credential is missing, and the completion is what the reply says. -/
theorem exists_request (s : Settings) (provider prompt : Text) (o : Completion.Options) :
    let generates := provider.toLower = "huggingface"
    let access := if generates then s.generation else s.chat
    let read := if generates then Completion.generatedText? else Completion.chatText?
    ∃ q : Http.Request,
      q.prompt? = some prompt ∧
      q.url = (if generates then s.generation.baseUrl ++ "/models/" ++ o.modelOr s.generation.model
        else s.chat.baseUrl ++ "/chat/completions") ∧
      ∀ w : World,
        let completion := w.run ((s.services.of provider).complete prompt o)
        completion.outcome.toOption =
          (if access.apiKey = [] then none else Completion.said? read (w.nextReply q).1) ∧
        completion.world = (if access.apiKey = [] then w else (w.nextReply q).2) ∧
        completion.events = if access.apiKey = [] then [] else [.sent q] := by
  intro generates access read
  have hask : ∃ q missing service lacking,
      q.prompt? = some prompt ∧
      q.url = (if generates then s.generation.baseUrl ++ "/models/" ++ o.modelOr s.generation.model
        else s.chat.baseUrl ++ "/chat/completions") ∧
      (s.services.of provider).complete prompt o =
        Completion.ask access.apiKey missing service lacking q read := by
    by_cases h : generates
    · simp only [access, read, if_pos h, Services.of, if_pos (show provider.toLower = _ from h)]
      exact ⟨_, _, _, _, (Completion.prompt?_request ..).trans
        (Completion.promptIn?_generationBody ..), rfl, rfl⟩
    · simp only [access, read, if_neg h, Services.of, if_neg (show ¬ provider.toLower = _ from h)]
      exact ⟨_, _, _, _, (Completion.prompt?_request ..).trans
        (Completion.promptIn?_chatBody ..), rfl, rfl⟩
  obtain ⟨q, missing, service, lacking, hprompt, hurl, hcomplete⟩ := hask
  refine ⟨q, hprompt, hurl, fun w => ?_⟩
  rw [hcomplete]
  exact Completion.run_ask service lacking read access.apiKey missing q w

/-! ### Summaries -/

/-- **The run on a text**: the text is read, a completion is asked for, and its reply or the
beginning of the text is the answer. -/
theorem run_of_checked (services : Services) {params p : Fields} {task : Task} {t : Text}
    {w : World} (hp : schema.parse params = .ok p) (htask : taskOf p = .ok task)
    (ht : (w.run (textOf reader p)).outcome = .ok t) (hblank : t.allBlank = false) :
    let reading := w.run (textOf reader p)
    let c := services.of (p.text "provider")
    let completion := reading.world.run
      (c.complete (task.prompt t) { model := p.text? "model", maxTokens := some 200 })
    w.run ((capability reader services).compute params) =
      { outcome := .ok (.obj [(task.answerName,
          .str (completion.outcome.toOption.getD (t.take excerptLength)))])
        world := completion.world
        events := reading.events ++
          (completion.events ++
            (Failure.notes (unavailableNote c.provider) completion.outcome).map .logged) } := by
  intro reading c completion
  rw [compute_of_checked reader services hp htask, World.run_bind_of_ok ht, conclude, hblank,
    if_neg Bool.false_ne_true, Task.run_run]
  rfl

/-- **A summary never fails on a text.** For checked parameters whose document has a text that is
not blank, the answer is what the service of the provider says to one prompt, or the beginning of
the text where it says nothing. The first is noted by no line and the second by one, after the one
about bytes that begin like a PDF document and cannot be read as one. -/
theorem run_of_text {reader : Pdf.Reader} {s : Settings} {params p : Fields} {task : Task}
    {t : Text} {w : World}
    (hp : schema.parse params = .ok p) (htask : taskOf p = .ok task)
    (ht : (w.run (textOf reader p)).outcome = .ok t) (hblank : t.allBlank = false) :
    let reading := w.run (textOf reader p)
    let r := w.run ((capability reader s.services).compute params)
    let answers := (p.text "task").toLower = "qa"
    let generates := (p.text "provider").toLower = "huggingface"
    let access := if generates then s.generation else s.chat
    let read := if generates then Completion.generatedText? else Completion.chatText?
    ∃ (q : Http.Request) (notes : List Text),
      let reply :=
        if access.apiKey = [] then none else Completion.said? read (reading.world.nextReply q).1
      r.outcome = .ok (.obj [(if answers then Text.ofString "answer" else "summary",
        .str (reply.getD (t.take 500)))]) ∧
      r.world = (if access.apiKey = [] then reading.world else (reading.world.nextReply q).2) ∧
      r.events = reading.events ++ (if access.apiKey = [] then [] else [.sent q]) ++
        notes.map .logged ∧
      notes.length = (if reply.isSome then 0 else 1) ∧
      q.prompt? = some (if answers then
          "Answer based only on the context:\n\nContext:\n" ++ t.take 6000 ++
            "\n\nQuestion: " ++ p.text "question"
        else "Summarize the following text in 5 bullet points:\n\n" ++ t.take 6000) ∧
      q.url = (if generates then
          s.generation.baseUrl ++ "/models/" ++
            Completion.Options.modelOr { model := p.text? "model" } s.generation.model
        else s.chat.baseUrl ++ "/chat/completions") ∧
      ∃ data, (w.run (load (p.text "source"))).outcome = .ok data ∧
        Event.logLines reading.events = notesOf reader data := by
  intro reading r answers generates access read
  let c := s.services.of (p.text "provider")
  let completion := reading.world.run
    (c.complete (task.prompt t) { model := p.text? "model", maxTokens := some 200 })
  obtain ⟨q, hprompt, hurl, hcompletion⟩ := exists_request s (p.text "provider") (task.prompt t)
    { model := p.text? "model", maxTokens := some 200 }
  obtain ⟨houtcome, hworld, hevents⟩ := hcompletion reading.world
  have hr := run_of_checked reader s.services hp htask ht hblank
  change r = _ at hr
  refine ⟨q, Failure.notes (unavailableNote c.provider) completion.outcome, ?_, ?_, ?_, ?_, ?_,
    hurl, logLines_textOf ht⟩
  · rw [← houtcome, hr, task_of_taskOf htask]
    split <;> rfl
  · rw [hr]
    exact hworld
  · rw [hr, ← hevents, List.append_assoc]
  · rw [Failure.length_notes, houtcome]
  · rw [hprompt, task_of_taskOf htask]
    split <;> rfl

/-- A question about a document in base64, and a provider whose service has a reply. -/
theorem run_of_text_of_reply :
    let s : Settings := { Settings.bare with generation := ⟨"k", "m", "http://g"⟩ }
    let params : Fields := [(Text.ofString "source", .str "aGVsbG8="),
      (Text.ofString "task", .str "QA"), (Text.ofString "question", .str "who?"),
      (Text.ofString "provider", .str "HuggingFace")]
    let body : Bytes := Utf8.encode "[\x7b\"generated_text\":\"you\"\x7d]"
    let w : World := { replies := [.ok { status := 200, body := body }] }
    let r := w.run ((capability Pdf.readPages s.services).compute params)
    schema.parse params = .ok params ∧ taskOf params = .ok (.question "who?") ∧
      (w.run (textOf Pdf.readPages params)).outcome = .ok (Text.ofString "hello") ∧
      (Text.ofString "hello").allBlank = false ∧
      r.outcome = .ok (.obj [(Text.ofString "answer", .str "you")]) ∧
      ∃ q : Http.Request, r.events = [.sent q] ∧ q.url = Text.ofString "http://g/models/m" ∧
        q.prompt? = some (Text.ofString
          "Answer based only on the context:\n\nContext:\nhello\n\nQuestion: who?") := by
  intro s params body w r
  have hp : schema.parse params = .ok params := rfl
  have htask : taskOf params = .ok (.question "who?") := rfl
  have ht : (w.run (textOf Pdf.readPages params)).outcome = .ok (Text.ofString "hello") := rfl
  have hblank : (Text.ofString "hello").allBlank = false := by decide
  have hqa : (params.text "task").toLower = Text.ofString "qa" := by decide
  have hgeneration : (params.text "provider").toLower = Text.ofString "huggingface" := by decide
  have hkey : ¬s.generation.apiKey = [] := by decide
  have hsaid : Completion.said? Completion.generatedText? (.ok { status := 200, body := body }) =
      some (Text.ofString "you") := by decide +kernel
  obtain ⟨q, notes, houtcome, -, hevents, hnotes, hprompt, hurl, -⟩ :=
    run_of_text (s := s) hp htask ht hblank
  have hanswer : (w.run (textOf Pdf.readPages params)).world.nextReply q =
      (.ok { status := 200, body := body }, {}) := rfl
  simp only [if_pos hqa, if_pos hgeneration, if_neg hkey, hanswer, hsaid]
    at houtcome hevents hnotes hprompt hurl
  rw [List.length_eq_zero_iff.mp hnotes] at hevents
  exact ⟨hp, htask, ht, hblank, houtcome, q, hevents, hurl, hprompt⟩

/-- **A document that is no readable PDF is noted**, though the service has a reply. -/
theorem logLines_of_unreadable :
    let s : Settings := { Settings.bare with chat := ⟨"k", "m", "http://c"⟩ }
    let params : Fields := [(Text.ofString "source", .str "JVBERi14")]
    let body : Bytes := Utf8.encode
      "\x7b\"choices\":[\x7b\"message\":\x7b\"content\":\"ok\"\x7d\x7d]\x7d"
    let w : World := { replies := [.ok { status := 200, body := body }] }
    let r := w.run ((capability Pdf.readPages s.services).compute params)
    Completion.said? Completion.chatText? (.ok { status := 200, body := body }) =
        some (Text.ofString "ok") ∧
      r.outcome = .ok (.obj [(Text.ofString "summary", .str "ok")]) ∧
      Event.logLines r.events =
        [Text.ofString "pdf parse failed, reading as text: Invalid PDF structure."] := by
  intro s params body w r
  let p : Fields := [(Text.ofString "source", .str "JVBERi14"),
    (Text.ofString "task", .str "summary"), (Text.ofString "provider", .str "openai")]
  let t : Text := "%PDF-x"
  have hp : schema.parse params = .ok p := rfl
  have htask : taskOf p = .ok .summary := rfl
  have htext : (w.run (textOf Pdf.readPages p)).outcome.toOption = some t := by decide +kernel
  have hreply : ((w.run (textOf Pdf.readPages p)).world.run
      ((s.services.of (p.text "provider")).complete (Task.summary.prompt t)
      { model := p.text? "model", maxTokens := some 200 })).outcome.toOption =
        some (Text.ofString "ok") := by decide +kernel
  have hlines : Event.logLines r.events =
      [Text.ofString "pdf parse failed, reading as text: Invalid PDF structure."] := by
    decide +kernel
  have ht : (w.run (textOf Pdf.readPages p)).outcome = .ok t := by
    cases h : (w.run (textOf Pdf.readPages p)).outcome with
    | ok t' =>
      rw [h] at htext
      exact congrArg Except.ok (Option.some.inj htext)
    | error f =>
      rw [h] at htext
      cases htext
  have houtcome := congrArg Run.outcome
    (run_of_checked Pdf.readPages s.services hp htask ht (by decide))
  dsimp only at houtcome
  rw [hreply] at houtcome
  exact ⟨by decide +kernel, houtcome, hlines⟩

end LineAgents.DocumentSummary
