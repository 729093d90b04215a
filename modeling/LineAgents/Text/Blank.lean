import LineAgents.Text.Basic

/-!
# White space

The units that count as blank: the ASCII blanks from tab to carriage return and the space, the
byte order mark, the two line separators, and the space separators of the first plane. A text is
**blank** when it has no other unit, and trimming takes the blank runs off both ends.
-/

namespace LineAgents.Text

/-- White space: tab to carriage return, every space separator, the line and paragraph separators
and the byte order mark. -/
def isBlank (u : UInt16) : Bool :=
  (9 ≤ u && u ≤ 13) || u == 0x20 || u == 0xA0 || u == 0x1680 || (0x2000 ≤ u && u ≤ 0x200A) ||
  u == 0x2028 || u == 0x2029 || u == 0x202F || u == 0x205F || u == 0x3000 || u == 0xFEFF

/-- The text without the white space at its start. -/
def trimStart (t : Text) : Text := t.dropWhile isBlank

/-- The text without the white space at its end. -/
def trimEnd (t : Text) : Text := (t.reverse.dropWhile isBlank).reverse

/-- The text without the white space at either end. -/
def trim (t : Text) : Text := trimEnd (trimStart t)

/-- A text of white space only. -/
def allBlank (t : Text) : Bool := t.all isBlank

end LineAgents.Text
