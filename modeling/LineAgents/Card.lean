import LineAgents.Json.Basic
import LineAgents.Outside.Program
import LineAgents.Text.Blank

/-!
# Service cards

A **service card** is how an agent introduces itself: an open record whose members keep the order
in which they were declared. Every card has a name, a description, the names of its inputs, a cost
and a version, and may have tags. A card may also be **enriched** by an embedding, a list of numbers
computed from its text; when that fails the card goes without, and the failure is only noted.
-/

namespace LineAgents

/-- **A service card**: its members in order. -/
structure Card where
  members : Fields

/-- What turns a text into a list of numbers. -/
abbrev Embedder := Text → Program (List Float)

namespace Card

/-! ### Declaring a card -/

/-- A list of texts as a value. -/
def texts (ts : List Text) : Json := .arr (ts.map .str)

/-- The card with the given members. -/
def declare (name description : Text) (inputs : List Text) (cost : Float) (version : Text)
    (tags : Option (List Text)) : Card where
  members := [
    (Text.ofString "name", .str name),
    (Text.ofString "description", .str description),
    (Text.ofString "inputs", texts inputs),
    (Text.ofString "cost_per_op", .num cost),
    (Text.ofString "version", .str version)] ++
    match tags with
    | some ts => [(Text.ofString "tags", texts ts)]
    | none => []

/-! ### Reading a card -/

/-- The text of a member, empty if it has none. -/
def text (c : Card) (member : Text) : Text := ((c.members.get? member).bind Json.text?).getD []

/-- The name of the agent. -/
def name (c : Card) : Text := c.text "name"

/-- What the agent does. -/
def description (c : Card) : Text := c.text "description"

/-- The version of the agent. -/
def version (c : Card) : Text := c.text "version"

/-- The tags of the card, none if it declares none. -/
def tags (c : Card) : List Text :=
  match c.members.get? "tags" with
  | some (.arr items) => items.map fun v => v.text?.getD []
  | _ => []

/-- The card as a value. -/
def toJson (c : Card) : Json := .obj c.members

/-! ### Enriching a card -/

/-- The text a card is embedded by: name, description and tags. -/
def embeddingText (c : Card) : Text :=
  Text.trim (Text.join " " (c.name :: c.description :: c.tags))

/-- The card with an embedding. -/
def withEmbedding (c : Card) (vector : List Float) : Card where
  members := c.members.set "embedding" (.arr (vector.map .num))

/-- The note left when a card goes without an embedding. -/
def skippedNote (c : Card) (f : Failure) : Text :=
  "embedding skipped for " ++ c.name ++ ": " ++ f.display

/-- **The card as it is served**: enriched when there is an embedder and it succeeds. -/
def build (c : Card) : Option Embedder → Program Card
  | none => .lift (.ok c)
  | some embed => (embed c.embeddingText).andThen fun
    | .ok vector => .lift (.ok (c.withEmbedding vector))
    | .error f => .log (c.skippedNote f) (.lift (.ok c))

end Card

end LineAgents
