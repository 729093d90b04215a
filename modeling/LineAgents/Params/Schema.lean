import LineAgents.Failure
import LineAgents.Number.Literal
import LineAgents.Params.View

/-!
# Schemas for parameters

A **schema** is a list of fields; each has a name, a rule for its value, and says what happens when
nothing is given: the field may be left open, or take a default, or its absence is an error. Every
field is checked on its own (`LineAgents.Params.Field.check`), and a field that is not acceptable is
an issue. The issues are reported together, in the order in which an object keeps its names: those
that spell an array index come first, whatever the order of the declaration
(`LineAgents.Params.Schema.inOrder`).

What is made of the report does not depend on how parameters are checked
(`LineAgents.Params.accept`): the failure is the message of the first issue. For a schema that is
`LineAgents.Params.Schema.parse`, and the result holds the fields that have a value; names that the
schema does not declare play no part.
-/

namespace LineAgents.Params

/-! ### Rules for one value -/

/-- **A rule for one value.** -/
inductive Rule where
  /-- A number, also as a numeral in a text; the name is for its messages. -/
  | number (name : Text)
  /-- A text, with the messages for its absence, for a value of another type, and for an empty
  text, which is acceptable when there is no such message. -/
  | text (missing mistyped empty : Option Text)
  /-- Any value. -/
  | any
  /-- A text or a number, taken as text. -/
  | label
  /-- An object of texts, numbers and truth values, each taken as text; the message is for a value
  that is no object. -/
  | labels (mistyped : Text)

/-- A text that must be given and must not be empty; the message is for both. -/
def Rule.required (name message : Text) : Rule :=
  .text (some message) (some (name ++ " must be a string")) (some message)

/-- A text under no further condition. -/
def Rule.plain : Rule := .text none none none

/-- The name of the type of a value, as messages have it. -/
def Found.typeName : Found → Text
  | .absent => "undefined"
  | .function => "function"
  | .given v => match v with
    | .null => "null"
    | .bool _ => "boolean"
    | .num x => if Number.isNaN x then "nan" else "number"
    | .str _ => "string"
    | .arr _ => "array"
    | .obj _ => "object"

/-- The text of a value that is a text, a number or a truth value. -/
def labelText? : Json → Option Text
  | .str s => some s
  | .num x => some (Number.toText x)
  | .bool b => some (if b then "true" else "false")
  | _ => none

/-- The number that a value stands for: itself, or the number a text that is not blank spells. -/
def numberOf? : Json → Option Float
  | .num x => if Number.isNaN x then none else some x
  | .str s =>
    let x := Number.ofText s
    if s.allBlank || Number.isNaN x then none else some x
  | _ => none

/-- The headers of an object of labels; the value of an ancestor is checked and left out. -/
def labelFields? (fields : Fields) : Option Fields :=
  (fields.mapM fun f => (labelText? f.2).map fun s => (f.1, Json.str s)).map
    (·.filter (·.1 != ancestorName))

/-- The message for a union of types. -/
def invalidInput : Text := "Invalid input"

/-- **Checks one value**: the value to use, or the message of the first thing wrong with it. -/
def Rule.check : Rule → Found → Except Text Json
  | .number name, .absent => .error (name ++ " is required")
  | .number name, .function => .error (name ++ " must be a number")
  | .number name, .given v => match numberOf? v with
    | some x => .ok (.num x)
    | none => .error (name ++ " must be a number")
  | .text _ _ empty, .given (.str s) =>
    match empty with
    | some message => if s.isEmpty then .error message else .ok (.str s)
    | none => .ok (.str s)
  | .text missing _ _, .absent => .error (missing.getD "Required")
  | .text _ mistyped _, found =>
    .error (mistyped.getD ("Expected string, received " ++ found.typeName))
  | .any, .given v => .ok v
  | .any, _ => .ok .null
  | .label, .given (.str s) => .ok (.str s)
  | .label, .given (.num x) =>
    if Number.isNaN x then .error invalidInput else .ok (.str (Number.toText x))
  | .label, _ => .error invalidInput
  | .labels _, .given (.obj fields) => match labelFields? fields with
    | some fs => .ok (.obj fs)
    | none => .error invalidInput
  | .labels _, .absent => .error "Required"
  | .labels mistyped, _ => .error mistyped

/-! ### Fields and schemas -/

/-- **A declared field.** -/
structure Field where
  name : Text
  rule : Rule
  /-- Whether the field may be left open. -/
  optional : Bool := false
  /-- The value to check when nothing is given. -/
  default? : Option Json := none

/-- The outcome of an optional or a mandatory field: a value to use, none, or a message. -/
def Field.checkFound (f : Field) (found : Found) : Except Text (Option Json) :=
  match f.optional, found with
  | true, .absent => .ok none
  | _, _ => (f.rule.check found).map some

/-- **The outcome of one field**, by what is found under its name. -/
def Field.check (f : Field) (found : Found) : Except Text (Option Json) :=
  match found, f.default? with
  | .absent, some d => f.checkFound (.given d)
  | _, _ => f.checkFound found

/-! ### Reports -/

/-- The failure of parameters with these issues: the message of the first one. -/
def refusal (issues : List Text) : Failure := .validation (issues.head?.getD "Invalid params")

/-- **The fields of acceptable parameters**, by any check of what is given; otherwise a failure of
validation. -/
def accept (check : View → Except (List Text) Fields) (params : Fields) : Except Failure Fields :=
  match check (View.of params) with
  | .ok fields => .ok fields
  | .error issues => .error (refusal issues)

/-- **A schema**: the declared fields in order. -/
abbrev Schema := List Field

namespace Schema

/-- **The fields in the order in which they are checked**, which is that of their names in an
object. -/
def inOrder (schema : Schema) : Schema :=
  (collectNamed (schema.map fun f => (f.name, f))).map (·.2)

/-- The issues: the message of every field that is not acceptable, in order. -/
def issues (schema : Schema) (view : View) : List Text :=
  schema.inOrder.filterMap fun f => match f.check (view.find f.name) with
    | .error message => some message
    | .ok _ => none

/-- The values of the fields that have one, in order; the value of an ancestor is left out. -/
def values (schema : Schema) (view : View) : List (Text × Json) :=
  schema.inOrder.filterMap fun f => match f.check (view.find f.name) with
    | .ok (some v) => if f.name == ancestorName then none else some (f.name, v)
    | _ => none

/-- **Checks all fields**: their values, or the issues if there are any. -/
def check (schema : Schema) (view : View) : Except (List Text) Fields :=
  match schema.issues view with
  | [] => .ok (Fields.ofPairs (schema.values view))
  | issues => .error issues

/-- **The fields of parameters that a schema accepts.** -/
def parse (schema : Schema) : Fields → Except Failure Fields := accept schema.check

end Schema

end LineAgents.Params

namespace LineAgents.Fields

/-! ### Reading checked fields -/

/-- The text of a field, if it has one. -/
def text? (fs : Fields) (name : Text) : Option Text := (fs.get? name).bind Json.text?

/-- The text of a field, empty if it has none. -/
def text (fs : Fields) (name : Text) : Text := (fs.text? name).getD []

/-- The number of a field, if it has one. -/
def number? (fs : Fields) (name : Text) : Option Float := (fs.get? name).bind Json.number?

/-- The number of a field, zero if it has none. -/
def number (fs : Fields) (name : Text) : Float := (fs.number? name).getD 0

end LineAgents.Fields
