import LineAgents.Pdf.Font
import LineAgents.Pdf.Instruction

/-!
# The text of a page

A page says where each glyph stands, and not where words and lines end.
`LineAgents.Pdf.Layout.pageText` follows the instructions of a page and finds that out from the
distances between glyphs: a glyph that stands well to the right of where the last one ended is
preceded by a space, and one that stands on another line is preceded by the end of a line.

Text is collected in a `LineAgents.Pdf.Run`, which is put out whenever something ends it. All
measures are compared with the size of the font when the run began. White space in the strings
themselves is not put out where it stands: it moves the pen, and is remembered until the next glyph
that can be seen.
-/

namespace LineAgents.Pdf

/-- **The state of writing**: where the pen stands, and with what it writes. -/
structure Pen where
  page : Affine := .id
  place : Affine := .id
  line : Affine := .id
  font? : Option Font := none
  fontName : Text := []
  size : Float := 0
  leading : Float := 0
  glyphSpacing : Float := 0
  blankSpacing : Float := 0
  stretch : Float := 1
  rise : Float := 0
  deriving Inhabited

namespace Pen

/-- The map from the unit square of a glyph to the page. -/
def glyphMap (p : Pen) : Affine :=
  p.page.comp (p.place.comp ⟨p.size * p.stretch, 0, 0, p.size, 0, p.rise⟩)

/-- The pen moved along its line. -/
def advance (p : Pen) (x : Float) : Pen := { p with place := p.place.shift x 0 }

/-- The pen at a place relative to the beginning of its line, which becomes the beginning of a
line. -/
def move (p : Pen) (x y : Float) : Pen :=
  let line := p.line.shift x y
  { p with line := line, place := line }

/-- The pen at the beginning of the next line. -/
def nextLine (p : Pen) : Pen := p.move 0 (-p.leading)

/-- How much longer a step of the pen is on the page. -/
def scale (p : Pen) : Float := p.page.scaleX * p.line.scaleX

end Pen

/-- **A run of text** that is being collected. The width is that since the scale last changed, and
`before` is what was collected before that; `last` is where the last glyph that took room ended. -/
structure Run where
  started : Bool := false
  text : Text := []
  width : Float := 0
  before : Float := 0
  height : Float := 0
  scale : Float := 0
  size : Float := 0
  last : Option Affine := none

namespace Run

/-- Distances up to this one are none. -/
def noSpace (r : Run) : Float := r.size * 0.03

/-- Distances from this one on are spaces. -/
def leastSpace (r : Run) : Float := r.size * 0.102

/-- Distances beyond this one are no spaces inside a run. -/
def greatestSpace (r : Run) : Float := r.size * 0.6

/-- Distances below this one, to the left, end a run. -/
def greatestReturn (r : Run) : Float := r.size * (-0.2)

/-- The direction of writing: one to the right, minus one to the left, zero before the first
width. -/
def direction (r : Run) : Float :=
  let w := if r.width != 0 then r.width else r.before
  if w > 0 then 1 else if w < 0 then -1 else 0

end Run

/-- **The corners of a page.** -/
structure Box where
  left : Float
  bottom : Float
  right : Float
  top : Float

/-- **The state of a layout**: the pen, the pens put aside, the run, whether the last two glyphs
could be seen, and the text put out. -/
structure Layout where
  pen : Pen := {}
  saved : List Pen := []
  run : Run := {}
  recent : Bool × Bool := (false, false)
  out : Text := []

namespace Layout

/-! ### Putting out text -/

/-- The way texts of a run are put out. -/
abbrev Presentation := Text → Text

/-- Puts out the run, and leaves none. -/
def flush (present : Presentation) (l : Layout) : Layout :=
  if l.run.started then
    { l with
      out := l.out ++ present l.run.text
      run := { l.run with
        started := false, text := [], before := l.run.before + l.run.width * l.run.scale } }
  else l

/-- Puts out a text that is no part of the run. -/
def emit (l : Layout) (t : Text) : Layout := { l with out := l.out ++ t }

/-- Forgets whether the last glyphs could be seen. -/
def forget (l : Layout) : Layout := { l with recent := (false, false) }

/-- Remembers a glyph, and tells whether it follows white space after a glyph that could be seen. -/
def remember (l : Layout) (visible : Bool) : Layout × Bool :=
  ({ l with recent := (l.recent.2, visible) }, l.recent.1 && !l.recent.2)

/-- Ends the line. -/
def endLine (present : Presentation) (l : Layout) : Layout := (l.forget.flush present).emit "\n"

/-- Begins a run at the pen, unless there is one. -/
def begin (l : Layout) : Layout :=
  if l.run.started then l
  else
    { l with run := { l.run with
        started := true, width := 0, before := 0, height := l.pen.glyphMap.scaleY,
        scale := l.pen.scale, size := l.pen.size } }

/-- Adds text to the run. -/
def push (l : Layout) (t : Text) : Layout :=
  { l with run := { l.run with text := l.run.text ++ t } }

/-- Adds a distance to the width of the run. -/
def widen (l : Layout) (x : Float) : Layout :=
  { l with run := { l.run with width := l.run.width + x } }

/-- Takes the scale of the pen over to the run. -/
def rescale (l : Layout) : Layout :=
  let scale := l.pen.scale
  if !l.run.started || scale == l.run.scale then l
  else
    { l with run := { l.run with
        before := l.run.before + l.run.width * l.run.scale, width := 0, scale := scale } }

/-! ### Distances -/

/-- Whether a glyph of a given width stands outside the page. -/
def Box.excludes (box : Box) (width x y : Float) : Bool :=
  x + width < box.left || x > box.right || y < box.bottom || y > box.top

/-- What a step to the right does, `dx` being longer than a space has to be. -/
def stepRight (present : Presentation) (l : Layout) (dx : Float) : Layout :=
  let o := l.run.direction
  if o * l.run.leastSpace ≤ dx && dx ≤ o * l.run.greatestSpace then
    let l := if l.run.started then l.forget.push " " else l
    if l.run.text.isEmpty then l.forget.emit " " else l.widen dx
  else (l.flush present).forget.emit " "

/-- What a step from the end of the last glyph does, if it is not a new line. -/
def stepInLine (present : Presentation) (l : Layout) (dx dy : Float) : Layout :=
  let o := l.run.direction
  let l := if dx ≤ o * l.run.noSpace then l.forget else l
  let l :=
    if dx ≤ o * l.run.leastSpace then
      if l.recent.1 && !l.recent.2 then (l.forget.flush present).emit " " else l.widen dx
    else stepRight present l dx
  if dy.abs > l.run.height * 0.25 then l.flush present else l

/-- What a step from the end of the last glyph does. -/
def step (present : Presentation) (l : Layout) (dx dy : Float) : Layout :=
  if dx < l.run.direction * l.run.greatestReturn then
    if dy.abs > 0.5 * l.run.height then l.endLine present else l.forget.flush present
  else if dy.abs > l.run.height then l.endLine present
  else l.stepInLine present dx dy

/-- What the distance from the last glyph to the next one of a given width does; nothing where the
next one stands outside the page and is not shown. -/
def approach? (present : Presentation) (box : Box) (l : Layout) (width : Float) : Option Layout :=
  let here := l.pen.glyphMap
  if Box.excludes box width here.e here.f then none
  else
    match l.run.last with
    | none => some l
    | some last =>
      if last.e == here.e && last.f == here.f then some l
      else
        let (x, y) := here.upright here here.e here.f
        let (lastX, lastY) := here.upright last last.e last.f
        some (l.step present ((x - lastX) / l.run.scale) (y - lastY))

/-! ### Showing text -/

/-- Moves the pen. -/
def advance (l : Layout) (x : Float) : Layout :=
  { l with pen := l.pen.advance (x * l.pen.stretch) }

/-- Shows a glyph, with more room after it. -/
def showGlyph (present : Presentation) (box : Box) (l : Layout) (g : Glyph) (extra : Float) :
    Layout :=
  if g.isBlank then
    let room := extra + (g.width * (0.001 * l.pen.size) + l.pen.blankSpacing)
    ((l.advance room).remember false).1
  else if g.isFormat then l
  else
    let width := g.width * (0.001 * l.pen.size)
    match if g.takesNoRoom then some l else l.approach? present box width with
    | none => l.advance width
    | some l =>
      let l := l.begin
      let width := (if g.takesNoRoom then 0 else width) * l.pen.stretch
      let l := { l with pen := l.pen.advance width }.widen width
      let l :=
        if width != 0 then { l with run := { l.run with last := some l.pen.glyphMap } } else l
      let (l, spaced) := l.remember true
      let l := (if spaced then l.push " " else l).push g.text
      if extra != 0 then l.advance extra else l

/-- Shows glyphs, with more room after the last one. -/
def showGlyphs (present : Presentation) (box : Box) (l : Layout) (extra : Float) :
    List Glyph → Layout
  | [] => l
  | [g] => l.showGlyph present box g (l.pen.glyphSpacing + extra)
  | g :: rest => showGlyphs present box (l.showGlyph present box g l.pen.glyphSpacing) extra rest

/-- Shows a string, with more room after it; an empty string only takes the room. -/
def showString (present : Presentation) (box : Box) (l : Layout) (s : Text) (extra : Float) :
    Layout :=
  match l.pen.font? with
  | none => l
  | some font =>
    if s.isEmpty then l.advance (l.pen.glyphSpacing + extra)
    else l.showGlyphs present box extra (font.glyphs s)

/-- Shows pieces: strings, and numbers that move the pen back by thousandths of the font's size. -/
def showPieces (present : Presentation) (box : Box) (l : Layout) (held : Text) :
    List Obj → Layout
  | [] => if held.isEmpty then l else l.showString present box held 0
  | .str s :: rest => showPieces present box l (held ++ s) rest
  | piece :: rest =>
    match piece.number? with
    | some x =>
      if x == 0 then showPieces present box l held rest
      else
        showPieces present box (l.showString present box held (x * (-l.pen.size / 1000))) [] rest
    | none => showPieces present box l held rest

/-! ### Instructions -/

/-- What an instruction does to the pen, if that is all that it does. -/
def movePen (p : Pen) : Instruction → Pen
  | .transform m => { p with page := p.page.comp m }
  | .beginText => { p with place := .id, line := .id }
  | .leading x => { p with leading := x }
  | .glyphSpacing x => { p with glyphSpacing := x }
  | .blankSpacing x => { p with blankSpacing := x }
  | .stretch x => { p with stretch := x / 100 }
  | .rise x => { p with rise := x }
  | .move x y => p.move x y
  | .moveLeading x y => { p.move x y with leading := -y }
  | .place m => { p with place := m, line := m }
  | .nextLine => p.nextLine
  | _ => p

/-- Takes another pen, and puts out the run if the new one has another font. -/
def exchange (present : Presentation) (l : Layout) (p : Pen) : Layout :=
  let same := p.font?.isNone == l.pen.font?.isNone && p.fontName == l.pen.fontName &&
    p.size == l.pen.size
  { (if same then l else l.flush present) with pen := p }

/-- Executes an instruction, with the fonts of the page. -/
def execute (present : Presentation) (box : Box) (fonts : Text → Font) (l : Layout) :
    Instruction → Layout
  | .save => { l with saved := l.pen :: l.saved }
  | .restore =>
    match l.saved with
    | [] => l
    | p :: saved => { l.exchange present p with saved := saved }
  | .font name size =>
    if l.pen.font?.isSome && l.pen.fontName == name && l.pen.size == size then l
    else
      let l := l.flush present
      { l with pen := { l.pen with font? := some (fonts name), fontName := name, size := size } }
  | .place m => { l with pen := movePen l.pen (.place m) }.rescale
  | .show s => l.showString present box s 0
  | .showPieces pieces => if l.pen.font?.isSome then l.showPieces present box [] pieces else l
  | .nextLineShow s =>
    if l.pen.font?.isSome then { l with pen := l.pen.nextLine }.showString present box s 0 else l
  | .nextLineSpacedShow w c s =>
    if l.pen.font?.isSome then
      let pen := { l.pen with blankSpacing := w, glyphSpacing := c }
      { l with pen := pen.nextLine }.showString present box s 0
    else l
  | i => { l with pen := movePen l.pen i }

/-- **The text of a page**, from its corners, its fonts and its instructions. -/
def pageText (present : Presentation) (box : Box) (fonts : Text → Font) (is : List Instruction) :
    Text :=
  ((is.foldl (execute present box fonts) {}).flush present).out

end Layout

end LineAgents.Pdf
