import LineAgents.Pdf.Archive
import LineAgents.Pdf.CharacterMap
import LineAgents.Pdf.Layout
import LineAgents.Pdf.Lines
import LineAgents.Pdf.Presentation

/-!
# PDF documents

A document is an archive whose root leads to a tree of pages. A page has its content, its corners
and its fonts, and inherits what it does not have itself from the nodes above it.
`LineAgents.Pdf.readPages` gives the texts of all pages. It is the reader that the program runs
with, and reads plain documents only: one whose objects are listed in a stream, that is packed in
another way than by deflating, or whose simple fonts have an encoding of their own is refused or
read amiss. What is said of documents elsewhere holds for any reader.
-/

namespace LineAgents.Pdf

/-- **A page**: its own dictionary, and those of the nodes above it, the nearest first. -/
structure Page where
  own : Obj
  above : List Obj

namespace Page

/-- What an entry of the page stands for, or of the nearest node that has it. -/
def inherited (a : Archive) (p : Page) (key : Text) : Obj :=
  a.resolve (((p.own :: p.above).findSome? (·.get? key)).getD .null)

/-- The corners of a page that gives none. -/
def letterBox : Box := ⟨0, 0, 612, 792⟩

/-- The corners of the page. -/
def box (a : Archive) (p : Page) : Box :=
  match (p.inherited a "MediaBox").items.filterMap fun o => (a.resolve o).number? with
  | [x, y, x', y'] =>
    let box : Box := ⟨min x x', min y y', max x x', max y y'⟩
    if box.right - box.left > 0 && box.top - box.bottom > 0 then box else letterBox
  | _ => letterBox

/-- The content of the page. -/
def content (a : Archive) (p : Page) : Bytes :=
  match a.entry p.own "Contents" with
  | .list parts => parts.flatMap fun o => a.streamData (a.resolve o)
  | o => a.streamData o

/-- The font that a dictionary describes. -/
def fontOf (a : Archive) (font : Obj) : Font :=
  if !font.isDict then .fallback
  else
    match a.entry font "Subtype" with
    | .name kind =>
      if kind == "Type0" then
        let descendant := a.resolve ((a.entry font "DescendantFonts").items.headD .null)
        .composite (characterMap (a.streamData (a.entry font "ToUnicode")))
          ((a.entry descendant "DW").number?.getD 1000)
      else .simple
    | _ => .simple

/-- The fonts of the page by their names. -/
def fonts (a : Archive) (p : Page) : List (Text × Font) :=
  let table := a.entry (p.inherited a "Resources") "Font"
  table.entries.map fun e => (e.1, fontOf a (a.resolve e.2))

/-- The text of the page. -/
def text (a : Archive) (p : Page) : Text :=
  let fonts := p.fonts a
  Layout.pageText present (p.box a) (fun n => (fonts.lookup n).getD .fallback)
    (instructions (p.content a))

end Page

/-- The pages below a node of the tree. -/
def pagesBelow (a : Archive) : Nat → List Obj → Obj → List Page
  | 0, _, _ => []
  | fuel + 1, above, node =>
    match a.entry node "Kids" with
    | .list kids => kids.flatMap fun k => pagesBelow a fuel (node :: above) (a.resolve k)
    | _ => if node.isDict then [⟨node, above⟩] else []

/-- The pages of an archive: as many as the tree says it has. -/
def Archive.pages (a : Archive) : List Page :=
  let tree := a.entry (a.entry a.trailer "Root") "Pages"
  let pages := pagesBelow a (a.objects.length + 1) [] tree
  match (a.entry tree "Count").nat? with
  | some n => pages.take n
  | none => pages

/-- The failure of bytes that are no document. -/
def notADocument : Failure := .named "InvalidPDFException" "Invalid PDF structure."

/-- **The texts of the pages of a document.** -/
def readPages : Reader := fun data =>
  match (Archive.open? data).or (Archive.recover? data) with
  | some a => .ok (a.pages.map (·.text a))
  | none => .error notADocument

end LineAgents.Pdf
