import LineAgents.Failure
import LineAgents.Json.Printer
import LineAgents.Number.Literal
import LineAgents.Text.Case

/-!
# Settings

The settings of a process come from its environment. A variable that is unset or empty counts as
not given, and every setting has a default; only a time limit that is a number, but not a positive
integer, is refused. Credentials default to empty texts: an agent that needs one says so when it
is asked to compute.
-/

namespace LineAgents

/-- The variables of an environment. -/
abbrev Environment := List (Text × Text)

/-- **Access to a language model service**: credential, model, and where the service is. -/
structure ModelAccess where
  apiKey : Text
  model : Text
  baseUrl : Text

/-- **The settings of a process.** -/
structure Settings where
  /-- The default time limit of a request, in milliseconds. -/
  timeout : Float
  userAgent : Text
  chat : ModelAccess
  generation : ModelAccess
  embeddingsEnabled : Bool
  embeddingModel : Text
  homeToken : Text
  quiet : Bool

/-- **What is wrong with a setting**: what is known of it, a message, and where the setting is. -/
structure Issue where
  details : Fields
  message : Text
  path : List Text

/-- The issue as a value. -/
def Issue.toJson (i : Issue) : Json :=
  .obj (i.details ++ [(Text.ofString "message", .str i.message),
    (Text.ofString "path", .arr (i.path.map .str))])

/-- **The failure of settings with issues**: its message is the list of them. -/
def Failure.ofIssues (issues : List Issue) : Failure :=
  .named "ZodError" (Json.layOut 0 (.arr (issues.map Issue.toJson)))

/-- The version of this program. -/
def version : Text := "1.0.0"

namespace Environment

/-- The value of a variable, if it is set. -/
def value? (env : Environment) (name : Text) : Option Text := List.lookup name env

/-- The value of a variable, if it is set and not empty. -/
def given? (env : Environment) (name : Text) : Option Text := (env.value? name).filter (!·.isEmpty)

/-- The value of the first variable that is given, or the default. -/
def first (env : Environment) (default : Text) : List Text → Text
  | [] => default
  | name :: names => (env.given? name).getD (env.first default names)

/-- A URL without slashes at its end, or the default. -/
def url (env : Environment) (name default : Text) : Text :=
  let u := Text.dropTrailing 47 ((env.value? name).getD [])
  if u.isEmpty then default else u

/-- A switch: on when the variable spells yes in one of three ways, in any case. -/
def flag (env : Environment) (name : Text) : Bool :=
  match env.given? name with
  | some v => [Text.ofString "1", Text.ofString "true", Text.ofString "yes"].contains v.toLower
  | none => false

end Environment

namespace Settings

/-- The variables that the settings come from. -/
def variableNames : List Text := Text.ofStrings [
  "AGENT_HTTP_TIMEOUT_MS", "AGENT_USER_AGENT", "LLM_API_KEY", "OPENAI_API_KEY", "LLM_MODEL",
  "LLM_BASE_URL", "HF_API_TOKEN", "HUGGINGFACE_API_KEY", "HF_MODEL", "HF_BASE_URL",
  "AGENT_EMBEDDINGS", "EMBEDDINGS_MODEL", "HOME_ASSISTANT_TOKEN", "AGENT_QUIET"]

/-- The default time limit, twenty seconds. -/
def defaultTimeout : Float := 20000

/-- Where the time limit is among the settings. -/
def timeoutPath : List Text := Text.ofStrings ["http", "timeoutMs"]

/-- The issue of a time limit that is no integer. -/
def notInteger : Issue where
  details := [(Text.ofString "code", .str "invalid_type"),
    (Text.ofString "expected", .str "integer"), (Text.ofString "received", .str "float")]
  message := "Expected integer, received float"
  path := timeoutPath

/-- The issue of a time limit that is not positive. -/
def notPositive : Issue where
  details := [(Text.ofString "code", .str "too_small"), (Text.ofString "minimum", .num 0),
    (Text.ofString "type", .str "number"), (Text.ofString "inclusive", .bool false),
    (Text.ofString "exact", .bool false)]
  message := "Number must be greater than 0"
  path := timeoutPath

/-- What is wrong with a time limit. -/
def timeoutIssues (x : Float) : List Issue :=
  (if Number.isInteger x then [] else [notInteger]) ++ if x > 0 then [] else [notPositive]

/-- The time limit: a variable that spells no number, or zero, counts as not given. -/
def readTimeout (env : Environment) : Except Failure Float :=
  let x := match env.value? "AGENT_HTTP_TIMEOUT_MS" with
    | some v => Number.ofText v
    | none => Number.nan
  if Number.isNaN x || x == 0 then .ok defaultTimeout
  else match timeoutIssues x with
    | [] => .ok x
    | issues => .error (.ofIssues issues)

/-- **The settings that an environment makes.** -/
def load (env : Environment) : Except Failure Settings := do
  let timeout ← readTimeout env
  return {
    timeout := timeout
    userAgent := env.first ("tool-agents/" ++ version) ["AGENT_USER_AGENT"]
    chat := {
      apiKey := env.first "" ["LLM_API_KEY", "OPENAI_API_KEY"]
      model := env.first "gpt-4o-mini" ["LLM_MODEL"]
      baseUrl := env.url "LLM_BASE_URL" "https://api.openai.com/v1" }
    generation := {
      apiKey := env.first "" ["HF_API_TOKEN", "HUGGINGFACE_API_KEY"]
      model := env.first "gpt2" ["HF_MODEL"]
      baseUrl := env.url "HF_BASE_URL" "https://api-inference.huggingface.co" }
    embeddingsEnabled := env.flag "AGENT_EMBEDDINGS"
    embeddingModel := env.first "text-embedding-3-small" ["EMBEDDINGS_MODEL"]
    homeToken := env.first "" ["HOME_ASSISTANT_TOKEN"]
    quiet := env.flag "AGENT_QUIET" }

end Settings

end LineAgents
