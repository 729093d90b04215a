import LineAgents.Text.Basic

/-!
# Tokens of HTML

The pieces that an HTML text falls into before a tree is built of them. Text comes in runs of white
space and runs of anything else, because white space is often treated differently; a null unit is a
token of its own. Names are in lower case, and an attribute that is given twice keeps its first
value.
-/

namespace LineAgents.Html

/-- **An attribute**, its name and its value. -/
abbrev Attribute := Text × Text

/-- **A token.** -/
inductive Token where
  /-- A document type; all that is kept is whether it asks for the old layout rules. -/
  | doctype (oldRules : Bool)
  | startTag (name : Text) (attributes : List Attribute) (selfClosing : Bool)
  | endTag (name : Text)
  | comment
  | blank (units : Text)
  | text (units : Text)
  | null
  | eof

/-- **How text is read**: with markup, up to the end tag of a name with or without character
references, as a script, or to the very end. -/
inductive TextMode where
  | markup
  | escapable (name : Text)
  | raw (name : Text)
  | script
  | plain
  deriving DecidableEq, Repr

/-- The white space of HTML. -/
def isSpace (u : UInt16) : Bool := u == 32 || u == 9 || u == 10 || u == 12

/-- The value of an attribute. -/
def attribute? (attributes : List Attribute) (name : Text) : Option Text := attributes.lookup name

end LineAgents.Html
