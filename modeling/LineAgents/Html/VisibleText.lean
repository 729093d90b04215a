import LineAgents.Html.Node
import LineAgents.Text.Blank

/-!
# Visible text

The visible text of a document is what its text nodes say, in the order of the document: each is
trimmed, those with nothing left are dropped, and a space is put between the others. Scripts, styles
and templates, and what stands in for scripts, are taken out of the tree before. Trees may be of any
depth here; that an engine runs out of stack some thousands of levels down is left out.
-/

namespace LineAgents.Html

namespace Node

/-- The elements whose content is never seen. -/
def hiddenNames : List Text := ["script", "style", "noscript", "template"]

/-- Whether a node is an element whose content is never seen. -/
def isHidden : Node → Bool
  | .element name _ => hiddenNames.contains name
  | _ => false

mutual

/-- The node without the hidden elements below it. -/
def withoutHidden : Node → Node
  | .element name children => .element name (pruned children)
  | n => n

/-- The nodes without hidden elements, among them and below them. -/
def pruned : List Node → List Node
  | [] => []
  | n :: ns => if n.isHidden then pruned ns else withoutHidden n :: pruned ns

end

mutual

/-- The texts of the nodes below a node that are not blank, trimmed, in order. -/
def texts : Node → List Text
  | .text t => if t.trim.isEmpty then [] else [t.trim]
  | .comment => []
  | .element _ children => textsOf children

/-- The texts of nodes, in order. -/
def textsOf : List Node → List Text
  | [] => []
  | n :: ns => texts n ++ textsOf ns

end

end Node

/-- **The visible text of a document.** -/
def Document.visibleText (d : Document) : Text := Text.join " " d.root.withoutHidden.texts

end LineAgents.Html
