import LineAgents.Html.Element

/-!
# A tree under construction

While a document is read, its nodes move: an element may be taken out of its place, text may be put
in front of a table, and the content of one element may be given to another. So the nodes stand in a
store under numbers, each with its parent and its children, and `LineAgents.Html.Builder` holds that
store together with everything the construction has to remember: the open elements, the formatting
elements that may have to be opened again, and the mode.

The operations on the store come first; those on the open elements and on the list of formatting
elements follow.
-/

namespace LineAgents.Html

/-! ### Nodes in a store -/

/-- **What a node is.** The units of a text stand in reverse, because text grows at its end. -/
inductive Content where
  | document
  | element (e : Element)
  | text (reversed : Text)
  | comment

/-- **A node in a store**: what it is, its parent, and its children. -/
structure Cell where
  content : Content
  parent : Option Nat := none
  children : Array Nat := #[]

/-- **An entry of the list of formatting elements.** -/
inductive Entry where
  | marker
  | element (id : Nat)
  deriving DecidableEq, Repr

/-- **The insertion modes**: what is being read, and so what the next token means. -/
inductive Mode where
  | initial
  | beforeHtml
  | beforeHead
  | inHead
  | afterHead
  | inBody
  | text
  | inTable
  | inTableText
  | inCaption
  | inColumnGroup
  | inTableBody
  | inRow
  | inCell
  | inSelect
  | inSelectInTable
  | inTemplate
  | afterBody
  | inFrameset
  | afterFrameset
  | afterAfterBody
  | afterAfterFrameset
  deriving DecidableEq, Repr

/-- **A tree under construction.** -/
structure Builder where
  cells : Array Cell := #[{ content := .document }]
  /-- The open elements, the innermost first. -/
  open_ : List Nat := []
  /-- The formatting elements, the latest first. -/
  formatting : List Entry := []
  mode : Mode := .initial
  returnMode : Mode := .initial
  templateModes : List Mode := []
  head : Option Nat := none
  form : Option Nat := none
  framesetOk : Bool := true
  fosterParenting : Bool := false
  oldRules : Bool := false
  /-- The pieces of text read in a table, the latest first, and whether one is not blank. -/
  tableText : List Text := []
  tableTextMatters : Bool := false
  /-- Whether a line feed that comes next is dropped. -/
  skipLineFeed : Bool := false
  /-- How the text that comes next is read. -/
  textMode : TextMode := .markup

namespace Builder

/-- What a node is. -/
def content? (b : Builder) (id : Nat) : Option Content := (b.cells[id]?).map fun c => c.content

/-- The element that a node is, if it is one. -/
def element? (b : Builder) (id : Nat) : Option Element :=
  match b.content? id with
  | some (.element e) => some e
  | _ => none

/-- Whether a node is the HTML element of a name. -/
def isHtml (b : Builder) (id : Nat) (name : Text) : Bool :=
  match b.element? id with
  | some e => e.isHtml name
  | none => false

/-- Whether a node is one of some HTML elements. -/
def isAmong (b : Builder) (id : Nat) (names : List Text) : Bool :=
  match b.element? id with
  | some e => e.isAmong names
  | none => false

/-- The parent of a node. -/
def parent? (b : Builder) (id : Nat) : Option Nat := (b.cells[id]?).bind (·.parent)

/-- The children of a node. -/
def children (b : Builder) (id : Nat) : Array Nat :=
  match b.cells[id]? with
  | some c => c.children
  | none => #[]

/-! ### Moving nodes -/

/-- A new node without a place. -/
def create (b : Builder) (content : Content) : Nat × Builder :=
  (b.cells.size, { b with cells := b.cells.push { content := content } })

/-- Takes a node out of its place. -/
def detach (b : Builder) (id : Nat) : Builder :=
  match b.parent? id with
  | none => b
  | some p => { b with
      cells := (b.cells.modify p fun c => { c with children := c.children.filter (· != id) }).modify
        id fun c => { c with parent := none } }

/-- Makes a node without a place the last child of another. -/
def append (b : Builder) (parent id : Nat) : Builder :=
  { b with
    cells := (b.cells.modify parent fun c => { c with children := c.children.push id }).modify id
      fun c => { c with parent := some parent } }

/-- The children with one more in front of another. -/
def insertAt (children : Array Nat) (id before : Nat) : Array Nat :=
  let (front, back) := children.toList.span (· != before)
  (front ++ id :: back).toArray

/-- Makes a node without a place the child just in front of another. -/
def insertBefore (b : Builder) (parent id before : Nat) : Builder :=
  { b with
    cells := (b.cells.modify parent fun c =>
        { c with children := insertAt c.children id before }).modify id
      fun c => { c with parent := some parent } }

/-- Puts text at the end of a text node, if the node is one. -/
def extendText? (b : Builder) (id : Option Nat) (t : Text) : Option Builder :=
  match id with
  | none => none
  | some id => match b.content? id with
    | some (.text _) => some { b with
        cells := b.cells.modify id fun c => { c with
          content := match c.content with
            | .text r => .text (t.reverse ++ r)
            | other => other } }
    | _ => none

/-- Puts text at the end of a node: into its last child if that is text, else as a new one. -/
def appendText (b : Builder) (parent : Nat) (t : Text) : Builder :=
  match b.extendText? (b.children parent).back? t with
  | some b => b
  | none =>
    let (id, b) := b.create (.text t.reverse)
    b.append parent id

/-- The child just in front of another. -/
def previous? (b : Builder) (parent before : Nat) : Option Nat :=
  ((b.children parent).toList.takeWhile (· != before)).getLast?

/-- Puts text just in front of a child: into the one before it if that is text, else as a new
one. -/
def insertTextBefore (b : Builder) (parent : Nat) (t : Text) (before : Nat) : Builder :=
  match b.extendText? (b.previous? parent before) t with
  | some b => b
  | none =>
    let (id, b) := b.create (.text t.reverse)
    b.insertBefore parent id before

/-- Gives all children of a node to another. -/
def moveChildren (b : Builder) (source target : Nat) : Builder :=
  (b.children source).foldl (fun b id => (b.detach id).append target id) b

/-! ### Open elements -/

/-- The innermost open element, or the document. -/
def current (b : Builder) : Nat := b.open_.headD 0

/-- Whether the innermost open element is the HTML element of a name. -/
def currentIs (b : Builder) (name : Text) : Bool := b.isHtml b.current name

/-- Whether the innermost open element is one of some HTML elements. -/
def currentIsAmong (b : Builder) (names : List Text) : Bool := b.isAmong b.current names

/-- Whether an HTML element of a name is open. -/
def hasOpen (b : Builder) (name : Text) : Bool := b.open_.any (b.isHtml · name)

/-- Whether an HTML element of one of the names is found in a scope, from inside out. -/
def inScope (b : Builder) (s : Element.Scope) (names : List Text) : Bool :=
  search b.open_
where
  /-- Goes through open elements up to one that bounds the scope. -/
  search : List Nat → Bool
    | [] => false
    | id :: rest =>
      match b.element? id with
      | some e => e.isAmong names || (!e.bounds s && search rest)
      | none => search rest

/-- Closes the innermost open element. -/
def pop (b : Builder) : Builder := { b with open_ := b.open_.tail }

/-- Closes open elements up to and with the first that is one of some HTML elements. -/
def popThrough (b : Builder) (names : List Text) : Builder :=
  { b with open_ := (b.open_.dropWhile (!b.isAmong · names)).tail }

/-- Closes open elements up to, and without, the first that is one of some HTML elements. -/
def popTo (b : Builder) (names : List Text) : Builder :=
  { b with open_ := b.open_.dropWhile (!b.isAmong · names) }

/-- Closes open elements that end without an end tag, but for one name. -/
def impliedEnds (b : Builder) (except : List Text) : Builder :=
  let names := Element.impliedNames.filter (!except.contains ·)
  { b with open_ := b.open_.dropWhile (b.isAmong · names) }

/-- Closes all open elements that may end without an end tag in a template. -/
def impliedEndsThoroughly (b : Builder) : Builder :=
  { b with open_ := b.open_.dropWhile (b.isAmong · Element.thoroughNames) }

/-! ### Where nodes go -/

/-- **The place in front of a table**, for what may not stand in it: the parent, and the child in
front of which to put things, if there is one. -/
def fosterPlace (b : Builder) : Nat × Option Nat :=
  search b.open_
where
  /-- Looks for a template or a table, from inside out. -/
  search : List Nat → Nat × Option Nat
    | [] => (b.open_.getLastD 0, none)
    | id :: rest =>
      if b.isHtml id "template" then (id, none)
      else if b.isHtml id "table" then
        match b.parent? id with
        | some p => (p, some id)
        | none => (rest.headD 0, none)
      else search rest

/-- Whether what comes next goes in front of a table. -/
def fosters (b : Builder) : Bool :=
  b.fosterParenting && b.currentIsAmong Element.tableStructureNames

/-- Puts a node in front of the table. -/
def fosterNode (b : Builder) (id : Nat) : Builder :=
  match b.fosterPlace with
  | (p, some before) => b.insertBefore p id before
  | (p, none) => b.append p id

/-- Puts a node where the next one belongs. -/
def place (b : Builder) (id : Nat) : Builder :=
  if b.fosters then b.fosterNode id else b.append b.current id

/-- Puts text where the next text belongs. -/
def insertText (b : Builder) (t : Text) : Builder :=
  if b.fosters then
    match b.fosterPlace with
    | (p, some before) => b.insertTextBefore p t before
    | (p, none) => b.appendText p t
  else b.appendText b.current t

/-- Puts a comment into a node. -/
def insertComment (b : Builder) (parent : Nat) : Builder :=
  let (id, b) := b.create .comment
  b.append parent id

/-- Puts a new element where it belongs, without opening it. -/
def insertVoid (b : Builder) (e : Element) : Builder :=
  let (id, b) := b.create (.element e)
  b.place id

/-- Puts a new element where it belongs and opens it. -/
def insert (b : Builder) (e : Element) : Builder :=
  let (id, b) := b.create (.element e)
  { b.place id with open_ := id :: b.open_ }

/-! ### Formatting elements -/

/-- Whether two elements are the same but for the order of their attributes. -/
def sameElement (e f : Element) : Bool :=
  e.space == f.space && e.name == f.name && e.attributes.length == f.attributes.length &&
    e.attributes.all fun a => attribute? f.attributes a.1 == some a.2

/-- The entries without the third one that is the same as an element, counted from the latest up
to the first marker. -/
def withoutThird (b : Builder) (e : Element) : Nat → List Entry → List Entry
  | _, [] => []
  | _, .marker :: rest => .marker :: rest
  | n, .element id :: rest =>
    match b.element? id with
    | some f =>
      if sameElement e f then
        if n ≥ 2 then rest else .element id :: withoutThird b e (n + 1) rest
      else .element id :: withoutThird b e n rest
    | none => .element id :: withoutThird b e n rest

/-- Remembers the innermost open element as a formatting element; of the same element at most three
are remembered. -/
def rememberCurrent (b : Builder) : Builder :=
  match b.element? b.current with
  | some e => { b with formatting := .element b.current :: b.withoutThird e 0 b.formatting }
  | none => b

/-- Remembers a border that formatting does not cross. -/
def addMarker (b : Builder) : Builder := { b with formatting := .marker :: b.formatting }

/-- Forgets formatting elements up to the last border. -/
def clearToMarker (b : Builder) : Builder :=
  { b with formatting := (b.formatting.dropWhile (· != .marker)).tail }

/-- The latest formatting element of a name since the last border. -/
def formattingNamed? (b : Builder) (name : Text) : Option Nat :=
  search b.formatting
where
  /-- Looks through entries up to the first border. -/
  search : List Entry → Option Nat
    | [] | .marker :: _ => none
    | .element id :: rest =>
      match b.element? id with
      | some e => if e.name == name then some id else search rest
      | none => search rest

/-- Forgets a formatting element. -/
def forget (b : Builder) (id : Nat) : Builder :=
  { b with formatting := b.formatting.filter (· != .element id) }

/-- Removes an element from the open ones. -/
def removeOpen (b : Builder) (id : Nat) : Builder :=
  { b with open_ := b.open_.filter (· != id) }

/-- Opens formatting elements again, the earliest first, each in place of its entry. -/
def reopen (b : Builder) : List Nat → Builder
  | [] => b
  | id :: rest =>
    match b.element? id with
    | some e =>
      let b := b.insert e
      reopen { b with
        formatting := b.formatting.map fun x => if x == .element id then .element b.current else x }
        rest
    | none => b.reopen rest

/-- The formatting elements since the last border or the last one that is open. -/
def toReopen (b : Builder) : List Nat :=
  ((b.formatting.takeWhile fun x => match x with
    | .marker => false
    | .element id => !b.open_.contains id).filterMap fun x => match x with
    | .marker => none
    | .element id => some id).reverse

/-- **Opens again the formatting elements** that were closed by the end of something else. -/
def reconstruct (b : Builder) : Builder := b.reopen b.toReopen

end Builder

end LineAgents.Html
