import LineAgents.Html.Insertion
import LineAgents.Html.Node
import LineAgents.Html.Tokenizer

/-!
# The parser for pages

`LineAgents.Html.parse` builds the tree of an HTML text. Every text is a document: what is missing
is added, and what is misplaced goes where it can be. Of the tree only its shape, the names of its
elements and its text remain. This is the parser that the program runs with; what is said of pages
elsewhere holds for any.
-/

namespace LineAgents.Html

/-! ### Building -/

/-- Takes tokens into a tree, one after the other. -/
def Builder.takeAll (b : Builder) (ts : List Token) : Builder := ts.foldl Builder.take b

/-- Reads a text into a tree, up to a number of pieces. -/
def Builder.read : Nat → Builder → Text → Builder
  | 0, b, _ => b
  | _, b, [] => b.take .eof
  | fuel + 1, b, u :: t =>
    let piece := nextTokens b.textMode b.inForeign (u :: t)
    read fuel ({ b with textMode := piece.mode }.takeAll piece.tokens) piece.rest

/-- The tree of an HTML text, under construction to its end. -/
def build (html : Text) : Builder :=
  let t := normalizeLineEnds html
  Builder.read (t.length + 1) {} t

/-! ### The finished tree -/

/-- The node that stands under a number in a store, with what is below it up to a depth. -/
def Builder.node (b : Builder) : Nat → Nat → Node
  | 0, _ => .comment
  | depth + 1, id =>
    match b.content? id with
    | some (.text reversed) => .text reversed.reverse
    | some (.element e) => .element e.name ((b.children id).toList.map (b.node depth))
    | some .document => .element [] ((b.children id).toList.map (b.node depth))
    | _ => .comment

/-- **The document of an HTML text.** -/
def parse : Parser := fun html =>
  let b := build html
  ⟨(b.children 0).toList.map (b.node b.cells.size)⟩

end LineAgents.Html
