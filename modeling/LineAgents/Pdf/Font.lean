import LineAgents.Pdf.Object
import LineAgents.Text.Blank
import LineAgents.Text.Mark

/-!
# Fonts

A font reads the codes of a string as glyphs, each with the text that it shows and the room that it
takes. A **simple** font has one glyph for each code, with the letters of the Windows code page and
the widths of Helvetica. A **composite** font has one glyph for each two codes, all of one width,
and a map from codes to characters. The **fallback** stands in for a font that a page does not have:
it is simple, but its controls show themselves and take no room.
-/

namespace LineAgents.Pdf

/-- **A glyph**: the text that it shows, and its width in thousandths of the font's size. -/
structure Glyph where
  text : Text
  width : Float

namespace Glyph

/-- A glyph of white space. -/
def isBlank (g : Glyph) : Bool := g.text.head?.any Text.isBlank

/-- A glyph that takes no room. -/
def takesNoRoom (g : Glyph) : Bool := g.text.any Text.isMark

/-- A glyph that is not shown. -/
def isFormat (g : Glyph) : Bool := g.text.getLast?.any Text.isFormat

end Glyph

/-- **A font.** -/
inductive Font where
  | simple
  | composite (characters : List (Nat × Nat)) (width : Float)
  | fallback
  deriving Inhabited

/-! ### Simple fonts -/

/-- The widths of the codes from the space on. -/
def simpleWidths : List Nat := [
  278, 278, 355, 556, 556, 889, 667, 191, 333, 333, 389, 584, 278, 333, 278, 278,
  556, 556, 556, 556, 556, 556, 556, 556, 556, 556, 278, 278, 584, 584, 584, 556,
  1015, 667, 667, 722, 722, 667, 611, 778, 722, 278, 500, 667, 556, 833, 722, 778,
  667, 778, 722, 667, 611, 722, 667, 944, 667, 667, 611, 278, 278, 278, 469, 556,
  333, 556, 556, 500, 556, 556, 278, 556, 556, 222, 222, 500, 222, 833, 556, 556,
  556, 556, 333, 500, 278, 556, 500, 722, 500, 500, 500, 334, 260, 334, 584, 350,
  556, 350, 222, 556, 333, 1000, 556, 556, 333, 1000, 667, 333, 1000, 350, 611, 350,
  350, 222, 222, 333, 333, 350, 556, 1000, 333, 1000, 500, 333, 944, 350, 500, 667,
  278, 333, 556, 556, 556, 556, 260, 556, 333, 737, 370, 556, 584, 333, 737, 333,
  400, 584, 333, 333, 333, 556, 537, 278, 333, 333, 365, 556, 834, 834, 834, 611,
  667, 667, 667, 667, 667, 667, 1000, 722, 667, 667, 667, 667, 278, 278, 278, 278,
  722, 722, 778, 778, 778, 778, 778, 584, 778, 722, 722, 722, 722, 667, 667, 611,
  556, 556, 556, 556, 556, 556, 889, 500, 556, 556, 556, 556, 278, 278, 278, 278,
  556, 556, 556, 556, 556, 556, 556, 584, 611, 556, 556, 556, 556, 500, 556, 500]

/-- The characters of the codes from 128 to 159. -/
def highCharacters : List Nat := [
  0x20AC, 0x2022, 0x201A, 0x0192, 0x201E, 0x2026, 0x2020, 0x2021,
  0x02C6, 0x2030, 0x0160, 0x2039, 0x0152, 0x2022, 0x017D, 0x2022,
  0x2022, 0x2018, 0x2019, 0x201C, 0x201D, 0x2022, 0x2013, 0x2014,
  0x02DC, 0x2122, 0x0161, 0x203A, 0x0153, 0x2022, 0x017E, 0x0178]

/-- The character of a code. The controls show nothing and count as spaces; a code that has no
character of its own shows a bullet. -/
def simpleCharacter (code : Nat) : Nat :=
  if code < 32 then 32
  else if code = 127 then 0x2022
  else if 128 ≤ code && code < 160 then highCharacters.getD (code - 128) code
  else if code = 160 then 32
  else if code = 173 then 45
  else code

/-- The width of a code. -/
def simpleWidth (code : Nat) : Nat :=
  if code < 32 then simpleWidths.headD 0 else simpleWidths.getD (code - 32) 0

/-- The glyph of a code. -/
def simpleGlyph (code : Nat) : Glyph :=
  ⟨[(simpleCharacter code).toUInt16], Float.ofNat (simpleWidth code)⟩

/-- The glyph of a code in the fallback. -/
def fallbackGlyph (code : Nat) : Glyph :=
  if code < 32 then ⟨[code.toUInt16], 0⟩ else simpleGlyph code

/-! ### Composite fonts -/

/-- The characters of the glyphs from number 98 on, in the order that common fonts have. -/
def commonCharacters : List Nat := [
  0x00C4, 0x00C5, 0x00C7, 0x00C9, 0x00D1, 0x00D6, 0x00DC, 0x00E1,
  0x00E0, 0x00E2, 0x00E4, 0x00E3, 0x00E5, 0x00E7, 0x00E9, 0x00E8,
  0x00EA, 0x00EB, 0x00ED, 0x00EC, 0x00EE, 0x00EF, 0x00F1, 0x00F3,
  0x00F2, 0x00F4, 0x00F6, 0x00F5, 0x00FA, 0x00F9, 0x00FB, 0x00FC,
  0x2020, 0x00B0, 0x00A2, 0x00A3, 0x00A7, 0x2022, 0x00B6, 0x00DF,
  0x00AE, 0x00A9, 0x2122, 0x00B4, 0x00A8, 0x2260, 0x00C6, 0x00D8,
  0x221E, 0x00B1, 0x2264, 0x2265, 0x00A5, 0x00B5, 0x2202, 0x2211,
  0x220F, 0x03C0, 0x222B, 0x00AA, 0x00BA, 0x2126, 0x00E6, 0x00F8,
  0x00BF, 0x00A1, 0x00AC, 0x221A, 0x0192, 0x2248, 0x2206, 0x00AB,
  0x00BB, 0x2026]

/-- The character of a code that the map leaves out: the glyphs of common fonts begin with ASCII,
and a code beyond them stands for itself. -/
def commonCharacter (code : Nat) : Nat :=
  if 3 ≤ code && code ≤ 97 then code + 29
  else if 98 ≤ code then commonCharacters.getD (code - 98) code
  else code

/-- The codes of a string, two bytes each; a last byte alone is a high one. -/
def doubleCodes : Text → List Nat
  | a :: b :: rest => (a.toNat * 256 + b.toNat) :: doubleCodes rest
  | [a] => [a.toNat * 256]
  | [] => []

/-- The glyph of a code, given the characters and the width. -/
def compositeGlyph (characters : List (Nat × Nat)) (width : Float) (code : Nat) : Glyph :=
  ⟨[((characters.lookup code).getD (commonCharacter code)).toUInt16], width⟩

/-- **The glyphs of a string.** -/
def Font.glyphs : Font → Text → List Glyph
  | .simple, s => s.map fun u => simpleGlyph u.toNat
  | .composite characters width, s => (doubleCodes s).map (compositeGlyph characters width)
  | .fallback, s => s.map fun u => fallbackGlyph u.toNat

end LineAgents.Pdf
