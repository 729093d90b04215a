import LineAgents.Card
import LineAgents.Json.Printer
import LineAgents.Settings

/-!
# Language model services

Three services are asked over HTTP, each by one request with a JSON body and a bearer credential:

* a chat service completes a prompt (`LineAgents.Completion.chat`);
* a generation service continues one (`LineAgents.Completion.generation`);
* an embedding service turns a text into numbers (`LineAgents.Completion.embedding`).

Without a credential nothing is sent. A reply outside the two hundreds is an error that quotes it,
and so is a reply in which the documented place holds nothing of the documented type.
-/

namespace LineAgents.Completion

/-! ### Asking a service -/

/-- A JSON request with a bearer credential. -/
def request (url apiKey : Text) (body : Json) (timeout : Float) : Http.Request where
  url := url
  method := some "POST"
  headers := some [
    (Text.ofString "Content-Type", Text.ofString "application/json"),
    (Text.ofString "Authorization", "Bearer " ++ apiKey)]
  body := some body.render
  timeout := some timeout

/-- **One question to a service**: its value is read out of the reply by `read`. The texts name the
missing credential, the service, and what a reply without a value lacks. -/
def ask {α : Type} (apiKey missing service lacking : Text) (q : Http.Request)
    (read : Json → Option α) : Program α :=
  if apiKey.isEmpty then throw (.plain (missing ++ " is not set"))
  else do
    let r ← Program.fetch q
    if r.ok then
      match read (← .lift r.json) with
      | some v => return v
      | none => throw (.plain lacking)
    else throw (.plain (service ++ " API error: " ++ r.statusText ++ " " ++ r.text))

/-- The first member of a list. -/
def firstItem? : Json → Option Json
  | .arr (v :: _) => some v
  | _ => none

/-! ### Completions -/

/-- What a caller may choose about a completion. -/
structure Options where
  model : Option Text := none
  maxTokens : Option Float := none

/-- The model of a completion: the caller's, unless it names none. -/
def Options.modelOr (o : Options) (default : Text) : Text :=
  match o.model with
  | some m => if m.isEmpty then default else m
  | none => default

/-- The bound on the length of a completion. -/
def Options.limit (o : Options) : Json := .num (o.maxTokens.getD 200)

/-- **A service that completes prompts**, and its name. -/
structure Completer where
  provider : Text
  complete : Text → Options → Program Text

/-- The text of the first choice of a chat reply. -/
def chatText? (reply : Json) : Option Text := do
  let choices ← reply.get? "choices"
  let choice ← firstItem? choices
  let message ← choice.get? "message"
  let content ← message.get? "content"
  content.text?

/-- The body of a chat request. -/
def chatBody (model prompt : Text) (limit : Json) : Json :=
  .obj [
    (Text.ofString "model", .str model),
    (Text.ofString "messages", .arr [.obj [
      (Text.ofString "role", .str "user"),
      (Text.ofString "content", .str prompt)]]),
    (Text.ofString "max_tokens", limit)]

/-- **The chat service**: one prompt, one reply. -/
def chat (access : ModelAccess) : Completer where
  provider := "openai"
  complete prompt o :=
    ask access.apiKey "LLM_API_KEY" "OpenAI" "No choices in response"
      (request (access.baseUrl ++ "/chat/completions") access.apiKey
        (chatBody (o.modelOr access.model) prompt o.limit) 30000)
      chatText?

/-- The text of a generation reply: of its first member, or of the reply itself. -/
def generatedText? (reply : Json) : Option Text := do
  let first ← match reply with
    | .arr items => items.head?
    | v => some v
  let text ← first.get? "generated_text"
  text.text?

/-- The body of a generation request. -/
def generationBody (prompt : Text) (limit : Json) : Json :=
  .obj [
    (Text.ofString "inputs", .str prompt),
    (Text.ofString "parameters", .obj [
      (Text.ofString "max_new_tokens", limit),
      (Text.ofString "return_full_text", .bool false)])]

/-- **The generation service**, whose model is part of the URL. -/
def generation (access : ModelAccess) : Completer where
  provider := "huggingface"
  complete prompt o :=
    ask access.apiKey "HF_API_TOKEN" "Hugging Face" "No generated text in response"
      (request (access.baseUrl ++ "/models/" ++ o.modelOr access.model) access.apiKey
        (generationBody prompt o.limit) 30000)
      generatedText?

/-! ### Embeddings -/

/-- The numbers of a list of numbers. -/
def numbers? : Json → Option (List Float)
  | .arr items => items.mapM Json.number?
  | _ => none

/-- The embedding of an embedding reply. -/
def embedding? (reply : Json) : Option (List Float) := do
  let data ← reply.get? "data"
  let first ← firstItem? data
  let vector ← first.get? "embedding"
  numbers? vector

/-- The body of an embedding request. -/
def embeddingBody (model text : Text) : Json :=
  .obj [(Text.ofString "model", .str model), (Text.ofString "input", .str text)]

/-- **The embedding service.** -/
def embedding (access : ModelAccess) : Embedder := fun text =>
  ask access.apiKey "LLM_API_KEY" "Embeddings" "No embedding in response"
    (request (access.baseUrl ++ "/embeddings") access.apiKey
      (embeddingBody access.model text) 15000)
    embedding?

end LineAgents.Completion
