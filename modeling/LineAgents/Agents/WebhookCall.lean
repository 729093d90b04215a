import LineAgents.Json.Printer
import LineAgents.Params.Schema
import LineAgents.Protocol.Handler
import LineAgents.Text.Case

/-!
# Calls of webhooks

The webhook agent sends one request as it is told to and reports the reply. A text goes into the
body as it is, any other value as its JSON text with the content type that says so, and a body does
not go with the method `GET`.
-/

namespace LineAgents.WebhookCall

/-- The methods that may be used. -/
def methods : List Text := ["GET", "POST", "PUT", "PATCH", "DELETE"]

/-- The parameters: a URL, a method, headers, and a body. -/
def schema : Params.Schema := [
  { name := "url", rule := .required "url" "url is required" },
  { name := "method", rule := .text none (some "method must be a string") none,
    default? := some (.str "GET") },
  { name := "headers", rule := .labels "headers must be an object", optional := true },
  { name := "body", rule := .any, optional := true }]

/-- **A prepared body**: what is sent, if anything is, and the headers that go with it. -/
structure Payload where
  content : Option Text
  headers : Http.Headers

/-- **The body as it is sent.** -/
def prepare : Option Json → Payload
  | none | some .null => ⟨none, []⟩
  | some (.str s) => ⟨some s, []⟩
  | some v => ⟨some v.render,
      [(Text.ofString "Content-Type", Text.ofString "application/json")]⟩

/-- Headers with others set over them. -/
def mergeHeaders (hs others : Http.Headers) : Http.Headers :=
  others.foldl (fun acc h => setNamed h.1 h.2 acc) hs

/-- The headers that the parameters ask for. -/
def headersOf (p : Fields) : Http.Headers :=
  match p.get? "headers" with
  | some (.obj fs) => fs.filterMap fun f => f.2.text?.map fun s => (f.1, s)
  | _ => []

/-- The report on a reply. -/
def report (r : Http.Reply) : Json :=
  .obj [
    (Text.ofString "status", .ofNat r.status),
    (Text.ofString "headers", .obj (r.headers.map fun h => (h.1, Json.str h.2))),
    (Text.ofString "body", .str r.text)]

/-- Sends what checked parameters ask for. -/
def act (p : Fields) : Program Json := do
  let method := Text.toUpper (p.text "method")
  if !methods.contains method then
    throw (.unsupported ("method must be one of " ++ Text.join ", " methods))
  else
    let payload := prepare (p.get? "body")
    if method = "GET" ∧ payload.content.isSome then
      throw (.validation "body is not allowed with GET")
    else
      let r ← Program.fetch {
        url := p.text "url"
        method := some method
        headers := some (mergeHeaders (headersOf p) payload.headers)
        body := payload.content
        timeout := some 20000 }
      return report r

/-- **The agent.** -/
def capability : Capability where
  card := .declare "WebhookCaller-v1" "Calls arbitrary HTTP endpoints and returns status/body."
    ["url", "method", "headers", "body"] 0.2 "1.0.0" none
  positions := [
    { name := "url" },
    { name := "method", default? := some (.str "GET") },
    { name := "headers" },
    { name := "body" }]
  compute params := do
    let p ← .lift (schema.parse params)
    act p

end LineAgents.WebhookCall
