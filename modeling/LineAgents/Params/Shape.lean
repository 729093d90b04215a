import LineAgents.Json.Basic

/-!
# The two shapes of parameters

A client gives the parameters of a call as a list, by position, or as an object, by name; anything
else counts as no parameters at all. `LineAgents.Params.normalize` turns either shape into named
parameters: a position takes the name that the agent declares for it, a declared position beyond
the end of the list takes its default if it has one, and positions that nobody declared are
dropped. Named parameters pass through as they are.
-/

namespace LineAgents.Params

/-- **The shape of raw parameters.** -/
inductive Shape where
  | positional (values : List Json)
  | named (values : Fields)

/-- The shape of what a request gives as its parameters, if it gives anything. -/
def shapeOf : Option Json → Shape
  | some (.arr values) => .positional values
  | some (.obj fields) => .named fields
  | _ => .named []

/-- **A declared position**: the name it stands for, and the value it takes when the list is too
short. -/
structure Position where
  name : Text
  default? : Option Json := none

/-- The name that cannot be assigned: giving it a value adds no parameter. -/
def ancestorName : Text := "__proto__"

/-- The value of a position, of those that are left. -/
def positionValue? (p : Position) : List Json → Option Json
  | v :: _ => some v
  | [] => p.default?

/-- The assignments that a list of positions makes from a list of values. -/
def assignments : List Position → List Json → List (Text × Json)
  | [], _ => []
  | p :: ps, vs =>
    match positionValue? p vs with
    | some v => (p.name, v) :: assignments ps vs.tail
    | none => assignments ps vs.tail

/-- **The parameters by name.** -/
def normalize (raw : Option Json) (order : List Position) : Fields :=
  match shapeOf raw with
  | .named fields => fields
  | .positional vs => Fields.ofPairs ((assignments order vs).filter (·.1 != ancestorName))

end LineAgents.Params
