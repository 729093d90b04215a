/-!
# Texts

A **text** is a finite sequence of 16-bit code units, the form in which every string of the line
protocol is counted, cut and compared. Keeping the units themselves, and not the characters they
spell, makes room for what a cut can leave behind: half of a surrogate pair.

* `LineAgents.Text` is the type, and `LineAgents.Text.ofString` reads a character string into it,
  a character outside the first plane becoming two units. It is a coercion, so that a literal can
  stand where a text is expected.
* `LineAgents.Text.join`, `LineAgents.Text.find?` and `LineAgents.Text.dropTrailing` are the few
  operations the rest of the library needs beyond those of lists.
-/

namespace LineAgents

/-- **A text** is a list of 16-bit code units; surrogates may stand alone. -/
abbrev Text := List UInt16

namespace Text

/-! ### From characters to code units -/

/-- The code unit of a character of the first plane. -/
def unit (c : Char) : UInt16 := c.toNat.toUInt16

/-- The code units of a code point: itself below `2 ^ 16`, a surrogate pair above. -/
def unitsOf (c : Nat) : Text :=
  if c < 0x10000 then [c.toUInt16]
  else [(0xD800 + (c - 0x10000) / 0x400).toUInt16, (0xDC00 + (c - 0x10000) % 0x400).toUInt16]

/-- The text of a character string. -/
def ofString (s : String) : Text := s.toList.flatMap fun c => unitsOf c.toNat

instance : Coe String Text := ⟨ofString⟩

/-- The texts of character strings. -/
def ofStrings (ss : List String) : List Text := ss.map ofString

/-- The text that spells a natural number in decimal digits. -/
def ofNat (n : Nat) : Text := (Nat.toDigits 10 n).map unit

/-! ### Surrogates -/

/-- The first half of a surrogate pair. -/
def isHigh (u : UInt16) : Bool := 0xD800 ≤ u && u ≤ 0xDBFF

/-- The second half of a surrogate pair. -/
def isLow (u : UInt16) : Bool := 0xDC00 ≤ u && u ≤ 0xDFFF

/-- The code point that a surrogate pair stands for. -/
def pair (hi lo : UInt16) : Nat :=
  0x10000 + (hi.toNat - 0xD800) * 0x400 + (lo.toNat - 0xDC00)

/-! ### ASCII classes -/

/-- An ASCII decimal digit. -/
def isDigit (u : UInt16) : Bool := 48 ≤ u && u ≤ 57

/-- The value of a digit in a base up to thirty-six, letters of either case standing for ten on. -/
def digitValue? (u : UInt16) : Option Nat :=
  if 48 ≤ u && u ≤ 57 then some (u.toNat - 48)
  else if 97 ≤ u && u ≤ 122 then some (u.toNat - 87)
  else if 65 ≤ u && u ≤ 90 then some (u.toNat - 55)
  else none

/-- The value of a hexadecimal digit of either case. -/
def hexValue? (u : UInt16) : Option Nat := (digitValue? u).filter (· < 16)

/-- An ASCII letter of either case. -/
def isLetter (u : UInt16) : Bool := (65 ≤ u && u ≤ 90) || (97 ≤ u && u ≤ 122)

/-- The lower-case form of an ASCII letter; every other unit is kept. -/
def asciiLower (u : UInt16) : UInt16 := if 65 ≤ u && u ≤ 90 then u + 32 else u

/-- The units of a text as characters, each unit read as the character of that number. -/
def toDisplay (t : Text) : String := String.ofList (t.map fun u => Char.ofNat u.toNat)

/-! ### Joining, searching, trimming one unit -/

/-- The texts one after the other with `sep` between neighbours. -/
def join (sep : Text) (ts : List Text) : Text := (ts.intersperse sep).flatten

/-- The position of the first occurrence of `pat`, counted in code units. -/
def find? (pat : Text) : Text → Option Nat
  | [] => if pat.isEmpty then some 0 else none
  | u :: t => if pat.isPrefixOf (u :: t) then some 0 else (find? pat t).map (· + 1)

/-- Whether `pat` occurs somewhere in the text. -/
def contains (t pat : Text) : Bool := (find? pat t).isSome

/-- The text without the run of units `u` at its end. -/
def dropTrailing (u : UInt16) (t : Text) : Text := (t.reverse.dropWhile (· == u)).reverse

/-- The pieces between the occurrences of the unit `sep`; there is always at least one. -/
def splitOn (sep : UInt16) : Text → List Text
  | [] => [[]]
  | u :: t =>
    if u == sep then [] :: splitOn sep t
    else match splitOn sep t with
      | [] => [[u]]
      | piece :: rest => (u :: piece) :: rest

/-- The part of the text from unit `i` up to, and without, unit `j`. -/
def slice (i j : Nat) (t : Text) : Text := (t.take j).drop i

/-- The text filled up with spaces at its end to at least `width` units. -/
def padEnd (width : Nat) (t : Text) : Text := t ++ List.replicate (width - t.length) (unit ' ')

end Text

end LineAgents
