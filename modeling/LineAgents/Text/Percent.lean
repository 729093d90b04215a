import LineAgents.Text.Utf8

/-!
# Percent encoding

A text becomes a part of a URL by keeping the unreserved characters and writing every other one as
its UTF-8 bytes, two hexadecimal digits after a percent sign for each. A lone surrogate has no
bytes, so a text that holds one has no encoding.
-/

namespace LineAgents.Percent

/-- A code point that stands for itself: ASCII letters, digits and `- _ . ! ~ * ' ( )`. -/
def isUnreserved (c : Nat) : Bool :=
  (65 ≤ c && c ≤ 90) || (97 ≤ c && c ≤ 122) || (48 ≤ c && c ≤ 57) ||
  [0x2D, 0x5F, 0x2E, 0x21, 0x7E, 0x2A, 0x27, 0x28, 0x29].contains c

/-- The upper-case hexadecimal digit of a number below sixteen. -/
def hexDigit (n : Nat) : UInt16 := (if n < 10 then 48 + n else 55 + n).toUInt16

/-- A byte as a percent sign and two digits. -/
def escapeByte (b : UInt8) : Text :=
  [Text.unit '%', hexDigit (b.toNat / 16), hexDigit (b.toNat % 16)]

/-- The encoding of one code point. -/
def encodePoint (c : Nat) : Text :=
  if isUnreserved c then [c.toUInt16] else (Utf8.encodePoint c).flatMap escapeByte

/-- The percent encoding of a text without lone surrogates. -/
def encode? (t : Text) : Option Text :=
  if t.wellFormed then some (t.codePoints.flatMap encodePoint) else none

end LineAgents.Percent
