import LineAgents.Text.Basic

/-!
# Code points

A text read as code points: a high surrogate followed at once by a low one is one code point above
`2 ^ 16`, and every other unit, a lone surrogate included, stands for itself. Writing the code
points back as units gives the text again.
-/

namespace LineAgents.Text

/-- The code points of a text; a lone surrogate stands for itself. -/
def codePoints : Text → List Nat
  | [] => []
  | [u] => [u.toNat]
  | u :: v :: t =>
    if isHigh u && isLow v then pair u v :: codePoints t
    else u.toNat :: codePoints (v :: t)

/-- The text of a list of code points. -/
def ofCodePoints (cs : List Nat) : Text := cs.flatMap unitsOf

/-- A code point that is no surrogate. -/
def isScalar (c : Nat) : Bool := c < 0xD800 || (0xE000 ≤ c && c ≤ 0x10FFFF)

/-- A text without lone surrogates. -/
def wellFormed (t : Text) : Bool := t.codePoints.all isScalar

end LineAgents.Text
