import LineAgents.Html.CharRefTable
import LineAgents.Text.Basic

/-!
# Character references

After an ampersand a character may be given by number or by name. `LineAgents.Html.charRef?` reads
such a reference off the front of a text. A number is taken as far as its digits go; a name is the
longest one that fits, and a name that should have been ended by a semicolon is only taken without
it if it is one of the old ones. In the value of an attribute an old name does not count when more
letters, digits or an equals sign follow it.
-/

namespace LineAgents.Html

/-! ### Names -/

/-- **A named character**: its name, what it stands for, and whether it may end without a
semicolon. -/
structure NamedChar where
  name : Text
  points : List Nat
  bare : Bool

/-- The code point of a hexadecimal numeral. -/
def hexPoint (t : Text) : Nat :=
  t.foldl (fun n u => n * 16 + (Text.hexValue? u).getD 0) 0

/-- Whether a unit is one of the two that stand after a name in the table. -/
def endsEntry (u : UInt16) : Bool := u == 58 || u == 33

/-- The entry of the table that a text spells. -/
def NamedChar.ofText (t : Text) : NamedChar where
  name := t.takeWhile (!endsEntry ·)
  points := (Text.splitOn 43 ((t.dropWhile (!endsEntry ·)).drop 1)).map hexPoint
  bare := (t.dropWhile (!endsEntry ·)).head? == some 33

/-- The named characters. -/
def namedChars : List NamedChar :=
  ((Text.ofStrings charRefLines).flatMap (Text.splitOn 32)).map NamedChar.ofText

/-- The character of a name. -/
def namedChar? (name : Text) : Option NamedChar := namedChars.find? (·.name == name)

/-! ### Numbers -/

/-- What the numbers from 128 to 159 stand for. -/
def remapped : List Nat := [
  0x20AC, 0x81, 0x201A, 0x0192, 0x201E, 0x2026, 0x2020, 0x2021, 0x02C6, 0x2030, 0x0160, 0x2039,
  0x0152, 0x8D, 0x017D, 0x8F, 0x90, 0x2018, 0x2019, 0x201C, 0x201D, 0x2022, 0x2013, 0x2014,
  0x02DC, 0x2122, 0x0161, 0x203A, 0x0153, 0x9D, 0x017E, 0x0178]

/-- The code point that a number stands for. -/
def numbered (n : Nat) : Nat :=
  if n == 0 || 0x10FFFF < n || (0xD800 ≤ n && n ≤ 0xDFFF) then 0xFFFD
  else if 128 ≤ n && n < 160 then remapped.getD (n - 128) n
  else n

/-- The text without a semicolon at its front. -/
def skipSemicolon : Text → Text
  | 59 :: t => t
  | t => t

/-- A numeric reference in a base, from its digits on. -/
def numericRef? (base : Nat) (t : Text) : Option (Text × Text) :=
  let isDigit (u : UInt16) : Bool := ((Text.digitValue? u).filter (· < base)).isSome
  let ds := t.takeWhile isDigit
  if ds.isEmpty then none
  else
    let n := ds.foldl (fun n u => min 0x110000 (n * base + (Text.digitValue? u).getD 0)) 0
    some (Text.unitsOf (numbered n), skipSemicolon (t.dropWhile isDigit))

/-! ### References -/

/-- The longest old name at the front of a run of letters and digits, of at most `n` units. -/
def longestBare? (run : Text) : Nat → Option NamedChar
  | 0 => none
  | n + 1 =>
    match (namedChar? (run.take (n + 1))).filter (·.bare) with
    | some c => some c
    | none => longestBare? run n

/-- A letter or a digit. -/
def isAlphanumeric (u : UInt16) : Bool := Text.isLetter u || Text.isDigit u

/-- A named reference, from its name on. -/
def namedRef? (inAttribute : Bool) (t : Text) : Option (Text × Text) :=
  let run := t.takeWhile isAlphanumeric
  let rest := t.dropWhile isAlphanumeric
  match rest, namedChar? run with
  | 59 :: after, some c => some (c.points.flatMap Text.unitsOf, after)
  | _, _ =>
    match longestBare? run (min run.length 6) with
    | none => none
    | some c =>
      let after := t.drop c.name.length
      let blocked := match after with
        | u :: _ => inAttribute && (u == 61 || isAlphanumeric u)
        | [] => false
      if blocked then none else some (c.points.flatMap Text.unitsOf, after)

/-- **A character reference**, from what follows its ampersand: the text it stands for, and what
follows it. -/
def charRef? (inAttribute : Bool) : Text → Option (Text × Text)
  | 35 :: 120 :: t => numericRef? 16 t
  | 35 :: 88 :: t => numericRef? 16 t
  | 35 :: t => numericRef? 10 t
  | t => namedRef? inAttribute t

end LineAgents.Html
