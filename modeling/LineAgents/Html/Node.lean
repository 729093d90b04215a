import LineAgents.Text.Basic

/-!
# Nodes of documents

A document is a tree of nodes. Of a page only the shape of its tree, the names of its elements and
its text matter here. How a tree is made of the text of a page is the work of a parser.
-/

namespace LineAgents.Html

/-- **A node of a document.** -/
inductive Node where
  | text (units : Text)
  | comment
  | element (name : Text) (children : List Node)
  deriving Inhabited

/-- **A document**: the nodes that stand directly in it. -/
structure Document where
  children : List Node

/-- The document as a node: an element without a name that holds all others. -/
def Document.root (d : Document) : Node := .element [] d.children

/-- **What makes a document of the text of a page.** -/
abbrev Parser := Text → Document

end LineAgents.Html
