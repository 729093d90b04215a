import LineAgents.Json.Printer
import LineAgents.Params.Schema
import LineAgents.Protocol.Handler
import LineAgents.Settings

/-!
# Home automation

The home agent reads or sets the state of an entity, or calls a service on it, over the interface
of a home automation server. The credential comes with the parameters or from the settings; without
one nothing is sent. An empty body of the reply counts as an empty object.
-/

namespace LineAgents.HomeAutomation

/-- The message for a missing address or entity. -/
def required : Text := "base_url and entity_id are required"

/-- The parameters: where the server is, the entity, what to do, and its details. -/
def schema : Params.Schema := [
  { name := "base_url", rule := .text (some required) none (some required) },
  { name := "entity_id", rule := .text (some required) none (some required) },
  { name := "action", rule := .plain, default? := some (.str "get_state") },
  { name := "value", rule := .any, optional := true },
  { name := "token", rule := .plain, optional := true },
  { name := "domain", rule := .plain, optional := true },
  { name := "service", rule := .plain, optional := true }]

/-- The text of a field unless it is missing or empty, or another text. -/
def textOr (p : Fields) (name default : Text) : Text :=
  match p.text? name with
  | some t => if t.isEmpty then default else t
  | none => default

/-- The value that the body of a reply holds. -/
def bodyOf (r : Http.Reply) : Except Failure Json :=
  if r.text.isEmpty then .ok (.obj [])
  else match Json.parse? r.text with
    | some v => .ok v
    | none =>
      .error (.outside ("Invalid JSON from Home Assistant (HTTP " ++ r.statusText ++ ")"))

/-- **One call of the server**: the status of its reply, and what the body holds. -/
def call (url method token : Text) (payload : Option Json) : Program Json := do
  let r ← Program.fetch {
    url := url
    method := some method
    headers := some [
      (Text.ofString "Authorization", "Bearer " ++ token),
      (Text.ofString "Content-Type", Text.ofString "application/json")]
    body := payload.map Json.render
    timeout := some 15000 }
  if r.ok then
    let body ← .lift (bodyOf r)
    return .obj [(Text.ofString "status", .ofNat r.status), (Text.ofString "body", body)]
  else throw (.outside ("HTTP " ++ r.statusText ++ ": " ++ r.text))

/-- The address of the state of an entity. -/
def stateUrl (base entity : Text) : Text := base ++ "/api/states/" ++ entity

/-- The address of a service. -/
def serviceUrl (base domain service : Text) : Text :=
  base ++ "/api/services/" ++ domain ++ "/" ++ service

/-- The part of an entity's name before the first point. -/
def domainOf (entity : Text) : Text := entity.takeWhile (· != 46)

/-- The payload of a service call: the entity, and a value if there is one. -/
def servicePayload (entity : Text) (value : Option Json) : Json :=
  .obj ((Text.ofString "entity_id", .str entity) ::
    match value with
    | some v => [(Text.ofString "value", v)]
    | none => [])

/-- Does what checked parameters ask for, with a credential. -/
def act (p : Fields) (token : Text) : Program Json :=
  let base := Text.dropTrailing 47 (p.text "base_url")
  let entity := p.text "entity_id"
  let action := Text.toLower (p.text "action")
  if action = "get_state" then call (stateUrl base entity) "GET" token none
  else if action = "set_state" then
    call (stateUrl base entity) "POST" token
      (some (.obj [(Text.ofString "state", (p.get? "value").getD .null)]))
  else if action = "call_service" then
    call (serviceUrl base (textOr p "domain" (domainOf entity)) (textOr p "service" "turn_on"))
      "POST" token (some (servicePayload entity (p.get? "value")))
  else throw (.unsupported "Unknown action. Use get_state, set_state, or call_service.")

/-- **The agent**, with the credential of the settings. -/
def capability (settingsToken : Text) : Capability where
  card := .declare "HomeAssistant-v1" "Reads or sets entity state via Home Assistant REST API."
    ["base_url", "entity_id", "action", "value", "service"] 0.4 "1.0.0" none
  positions := [
    { name := "base_url" },
    { name := "entity_id" },
    { name := "action", default? := some (.str "get_state") },
    { name := "value" }]
  compute params := do
    let p ← .lift (schema.parse params)
    let token := textOr p "token" settingsToken
    if token.isEmpty then throw (.validation "HOME_ASSISTANT_TOKEN is not set")
    else act p token

end LineAgents.HomeAutomation
