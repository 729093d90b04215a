import LineAgents.Completion
import LineAgents.Params.Schema
import LineAgents.Pdf.Lines
import LineAgents.Protocol.Handler
import LineAgents.Text.Base64
import LineAgents.Text.Blank

/-!
# Summaries of documents

The document agent summarises a document, or answers a question about it. The source is a URL, or
the document itself in base64. Its bytes are read as a PDF document if they begin like one, and as
UTF-8 text otherwise or when that fails. A language model is asked to do the work, and when it does
not answer, the beginning of the document stands in for its answer, with a note in the log.
-/

namespace LineAgents.DocumentSummary

/-! ### Text of a document -/

/-- A text without one byte order mark at its front. -/
def dropMark : Text → Text
  | 0xFEFF :: t => t
  | t => t

/-- The text of well-formed bytes, and no text for others. -/
def strictText (data : Bytes) : Text := dropMark ((Utf8.decode? data).getD [])

/-- The note about a document that is no readable PDF. -/
def unreadableNote (f : Failure) : Text := "pdf parse failed, reading as text: " ++ f.text

/-- **The text of a document.** -/
def decodeText (read : Pdf.Reader) (data : Bytes) : Program Text :=
  if Pdf.isPdf data then
    match Pdf.extractText read data with
    | .ok text => .lift (.ok text)
    | .error f => .log (unreadableNote f) (.lift (.ok (strictText data)))
  else .lift (.ok (strictText data))

/-! ### Prompts -/

/-- How much of a document goes into a prompt. -/
def contextLength : Nat := 6000

/-- How much of a document stands in for an answer. -/
def excerptLength : Nat := 500

/-- The prompt for a summary. -/
def summaryPrompt (text : Text) : Text :=
  "Summarize the following text in 5 bullet points:\n\n" ++ text.take contextLength

/-- The prompt for a question. -/
def questionPrompt (text question : Text) : Text :=
  "Answer based only on the context:\n\nContext:\n" ++ text.take contextLength ++
    "\n\nQuestion: " ++ question

/-! ### Sources -/

/-- Whether a source is a URL: one of the two schemes in any case, a colon and two slashes. -/
def isUrl (source : Text) : Bool :=
  let lowered := source.map Text.asciiLower
  (Text.ofString "http://").isPrefixOf lowered || (Text.ofString "https://").isPrefixOf lowered

/-- Whether a source is made of base64 digits, padding and white space. -/
def isInline (source : Text) : Bool :=
  !source.isEmpty && source.all fun u =>
    (Base64.digitValue? u).isSome || u == 61 || Text.isBlank u

/-- The bytes of a source. -/
def load (source : Text) : Program Bytes :=
  if isUrl source then do
    let r ← Program.fetch { url := source, timeout := some 20000 }
    if r.ok then return r.body
    else throw (.outside ("HTTP " ++ r.statusText))
  else if isInline source then return Base64.decode source
  else throw (.validation "source must be an http(s) URL or base64 content")

/-! ### The agent -/

/-- The parameters: a source, a task, a question, and which model of which provider. -/
def schema : Params.Schema := [
  { name := "source", rule := .required "source" "source is required" },
  { name := "task", rule := .plain, default? := some (.str "summary") },
  { name := "question", rule := .plain, optional := true },
  { name := "provider", rule := .plain, default? := some (.str "openai") },
  { name := "model", rule := .plain, optional := true }]

/-- **The services** that can do the work. -/
structure Services where
  chat : Completion.Completer
  generation : Completion.Completer

/-- The service of a provider, named in any case; the chat service unless it is the other one. -/
def Services.of (s : Services) (provider : Text) : Completion.Completer :=
  if provider.toLower = "huggingface" then s.generation else s.chat

/-- The note about a service that did not answer. -/
def unavailableNote (provider : Text) (f : Failure) : Text :=
  provider ++ " unavailable, returning excerpt: " ++ f.text

/-- **Asks a service**; the beginning of the document stands in for a missing answer. -/
def ask (c : Completion.Completer) (prompt text : Text) (model : Option Text) : Program Text :=
  (c.complete prompt { model := model, maxTokens := some 200 }).recover fun f =>
    .log (unavailableNote c.provider f) (.lift (.ok (text.take excerptLength)))

/-- **A task**: a summary, or the answer to a question. -/
inductive Task where
  | summary
  | question (q : Text)

/-- The task of checked parameters. -/
def taskOf (p : Fields) : Except Failure Task :=
  let task := Text.toLower (p.text "task")
  if task = "summary" then .ok .summary
  else if task = "qa" then
    let q := p.text "question"
    if q.isEmpty then .error (.validation "question is required for qa") else .ok (.question q)
  else .error (.unsupported "task must be summary or qa")

/-- Does a task on the text of a document. -/
def Task.run (task : Task) (c : Completion.Completer) (text : Text) (model : Option Text) :
    Program Json :=
  match task with
  | .summary => do
    let s ← ask c (summaryPrompt text) text model
    return .obj [(Text.ofString "summary", .str s)]
  | .question q => do
    let s ← ask c (questionPrompt text q) text model
    return .obj [(Text.ofString "answer", .str s)]

/-- **The agent**, with a reader for documents and the services it may ask. -/
def capability (read : Pdf.Reader) (services : Services) : Capability where
  card := .declare "PDFSummarizer-v1" "Fetches a document/PDF and returns summary or QA answer."
    ["source", "task", "question", "provider"] 0.7 "1.0.0" none
  positions := [
    { name := "source" },
    { name := "task", default? := some (.str "summary") },
    { name := "question" },
    { name := "provider" }]
  compute params := do
    let p ← .lift (schema.parse params)
    let task ← .lift (taskOf p)
    let text ← decodeText read (← load (p.text "source"))
    if text.allBlank then throw (.outside "Failed to extract text")
    else task.run (services.of (p.text "provider")) text (p.text? "model")

end LineAgents.DocumentSummary
