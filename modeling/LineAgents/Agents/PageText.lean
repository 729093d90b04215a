import LineAgents.Html.VisibleText
import LineAgents.Params.Schema
import LineAgents.Protocol.Handler
import LineAgents.Text.Case

/-!
# Text of web pages

The page agent fetches a page and answers with its visible text, with the JSON it holds, or with its
raw source. Of the visible text only the beginning is given, and, when something is searched for,
the surroundings of its first occurrence in any case.
-/

namespace LineAgents.PageText

/-! ### Excerpts -/

/-- How much of a text is given. -/
def fullLength : Nat := 5000

/-- How far an excerpt reaches to either side of the place where a match begins. -/
def radius : Nat := 80

/-- The surroundings of the first occurrence of a selector in any case; empty without one. The
place is found in the lower-case text. -/
def excerpt (text selector : Text) : Text :=
  match Text.find? selector.toLower text.toLower with
  | some i => text.slice (i - radius) (i + radius)
  | none => []

/-- **What is told of a text**, with an excerpt if something is searched for. -/
def textResult (text : Text) (selector : Option Text) : Json :=
  let full := (Text.ofString "full_text", Json.str (text.take fullLength))
  match selector with
  | none | some [] => .obj [full]
  | some s => .obj [(Text.ofString "excerpt", .str (excerpt text s)), full]

/-! ### The agent -/

/-- The parameters: a URL, what to search for, and a format. -/
def schema : Params.Schema := [
  { name := "url", rule := .required "url" "url is required" },
  { name := "selector", rule := .label, optional := true },
  { name := "format", rule := .plain, default? := some (.str "text") }]

/-- **A format of the answer.** -/
inductive Format where
  | text
  | json
  | raw
  deriving DecidableEq, Repr

/-- The format of a name in any case. -/
def formatOf (name : Text) : Except Failure Format :=
  let name := name.toLower
  if name = "screenshot" then
    .error (.unsupported
      "Screenshot is not supported by this agent; use a headless browser provider.")
  else if name = "text" then .ok .text
  else if name = "json" then .ok .json
  else if name = "raw" then .ok .raw
  else .error (.unsupported "format must be text/json/raw")

/-- A reply in a format. -/
def present (parse : Html.Parser) (r : Http.Reply) (selector : Option Text) :
    Format → Except Failure Json
  | .text => .ok (textResult (parse r.text).visibleText selector)
  | .json => r.json
  | .raw => .ok (.str r.text)

/-- **The agent**, with a parser for pages. -/
def capability (parse : Html.Parser) : Capability where
  card := .declare "WebScraper-v1" "Fetches a URL and returns text/json content."
    ["url", "selector", "format"] 0.3 "1.0.0" none
  positions := [
    { name := "url" },
    { name := "selector" },
    { name := "format", default? := some (.str "text") }]
  compute params := do
    let p ← .lift (schema.parse params)
    let format ← .lift (formatOf (p.text "format"))
    let r ← Program.fetch { url := p.text "url", timeout := some 20000 }
    if r.ok then .lift (present parse r (p.text? "selector") format)
    else throw (.outside ("HTTP " ++ r.statusText ++ ": " ++ r.text))

end LineAgents.PageText
