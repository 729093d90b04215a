import LineAgents.Text.Basic

/-!
# Reading order

A page shows text from left to right, whatever the direction in which it is read.
`LineAgents.Pdf.readingOrder` puts the units of a run that holds letters of a right-to-left script
into the order of reading: every unit has a class, the classes are resolved against their
neighbours, and what remains is reversed level by level. A run with few such letters keeps its
direction.
-/

namespace LineAgents.Pdf

/-- **The classes of direction.** -/
inductive Direction where
  | left
  | right
  | arabic
  | number
  | arabicNumber
  | separator
  | terminator
  | commonSeparator
  | mark
  | boundary
  | blank
  | neutral
  deriving DecidableEq, Repr

namespace Direction

/-- Ranges of units of one class. -/
abbrev Ranges := List (Nat × Nat × Direction)

/-- The classes of the units below 256 that are not letters. -/
def latinRanges : Ranges := [
  (0x00, 0x08, boundary), (0x09, 0x0B, boundary), (0x0C, 0x0C, blank), (0x0D, 0x1F, boundary),
  (0x20, 0x20, blank), (0x21, 0x22, neutral), (0x23, 0x25, terminator), (0x26, 0x2A, neutral),
  (0x2B, 0x2B, separator), (0x2C, 0x2C, commonSeparator), (0x2D, 0x2D, separator),
  (0x2E, 0x2F, commonSeparator), (0x30, 0x39, number), (0x3A, 0x3A, commonSeparator),
  (0x3B, 0x40, neutral), (0x5B, 0x60, neutral), (0x7B, 0x7E, neutral), (0x7F, 0x9F, boundary),
  (0xA0, 0xA0, commonSeparator), (0xA1, 0xA1, neutral), (0xA2, 0xA5, terminator),
  (0xA6, 0xA9, neutral), (0xAB, 0xAC, neutral), (0xAD, 0xAD, boundary), (0xAE, 0xAF, neutral),
  (0xB0, 0xB1, terminator), (0xB2, 0xB3, number), (0xB4, 0xB4, neutral), (0xB6, 0xB8, neutral),
  (0xB9, 0xB9, number), (0xBB, 0xBF, neutral), (0xD7, 0xD7, neutral), (0xF7, 0xF7, neutral)]

/-- The classes of the units from 0x600 to 0x6FF that are not Arabic letters. -/
def arabicRanges : Ranges := [
  (0x600, 0x605, arabicNumber), (0x606, 0x607, neutral), (0x609, 0x60A, terminator),
  (0x60C, 0x60C, commonSeparator), (0x60E, 0x60F, neutral), (0x610, 0x61A, mark),
  (0x64B, 0x65F, mark), (0x660, 0x669, arabicNumber), (0x66A, 0x66A, terminator),
  (0x66B, 0x66C, arabicNumber), (0x670, 0x670, mark), (0x6D6, 0x6DC, mark),
  (0x6DD, 0x6DD, arabicNumber), (0x6DE, 0x6DE, neutral), (0x6DF, 0x6E4, mark),
  (0x6E7, 0x6E8, mark), (0x6E9, 0x6E9, neutral), (0x6EA, 0x6ED, mark), (0x6F0, 0x6F9, number)]

/-- The class of a unit in ranges. -/
def lookup (ranges : Ranges) (default : Direction) (n : Nat) : Direction :=
  match ranges.find? fun r => r.1 ≤ n && n ≤ r.2.1 with
  | some r => r.2.2
  | none => default

/-- **The class of a unit.** -/
def of (u : UInt16) : Direction :=
  let n := u.toNat
  if n < 0x100 then lookup latinRanges .left n
  else if 0x590 ≤ n && n ≤ 0x5F4 then .right
  else if 0x600 ≤ n && n ≤ 0x6FF then lookup arabicRanges .arabic n
  else if (0x700 ≤ n && n ≤ 0x8AC) || (0xFB50 ≤ n && n ≤ 0xFDFF) || (0xFE70 ≤ n && n ≤ 0xFEFF) then
    .arabic
  else .left

/-- Whether the class is of a script that is read from right to left. -/
def isRightward (d : Direction) : Bool := d == .right || d == .arabic || d == .arabicNumber

/-! ### Resolving classes -/

/-- Marks take the class of what they stand on. -/
def resolveMarks (last : Direction) : List Direction → List Direction
  | [] => []
  | d :: ds =>
    let d := if d = .mark then last else d
    d :: resolveMarks d ds

/-- Numbers after Arabic letters become Arabic numbers. -/
def resolveNumbers (last : Direction) : List Direction → List Direction
  | [] => []
  | .number :: ds => (if last = .arabic then .arabicNumber else .number) :: resolveNumbers last ds
  | d :: ds =>
    d :: resolveNumbers (if d = .right || d = .left || d = .arabic then d else last) ds

/-- A single separator between numbers of one kind becomes part of them. -/
def resolveSeparators (before : Option Direction) : List Direction → List Direction
  | d :: after :: ds =>
    let d' :=
      if d = .separator && before = some .number && after = .number then .number
      else if d = .commonSeparator && (before = some .number || before = some .arabicNumber) &&
        before = some after then after
      else d
    d' :: resolveSeparators (some d') (after :: ds)
  | ds => ds

/-- Terminators next to numbers become part of them; `attached` says whether a number comes right
before. -/
def resolveTerminators (attached : Bool) : List Direction → List Direction
  | [] => []
  | .terminator :: ds =>
    let next := ds.dropWhile (· = .terminator)
    if attached || next.head? = some .number then .number :: resolveTerminators true ds
    else .terminator :: resolveTerminators false ds
  | d :: ds => d :: resolveTerminators (d = .number) ds

/-- Separators, terminators and blanks that remain are neutral. -/
def neutralize (d : Direction) : Direction :=
  if d = .blank || d = .separator || d = .terminator || d = .commonSeparator then .neutral else d

/-- Numbers after letters that are read from left to right become letters. -/
def resolveLeftNumbers (last : Direction) : List Direction → List Direction
  | [] => []
  | .number :: ds => (if last = .left then .left else .number) :: resolveLeftNumbers last ds
  | d :: ds => d :: resolveLeftNumbers (if d = .right || d = .left then d else last) ds

/-- The class that a neighbour of neutral units counts as. -/
def side (d : Direction) : Direction := if d = .left then .left else .right

/-- Neutral units between two sides of one direction take it. The side after them is that of the
second unit after them, or of the whole. -/
def resolveNeutrals (whole : Direction) : Nat → Direction → List Direction → List Direction
  | 0, _, ds => ds
  | _, _, [] => []
  | fuel + 1, before, d :: ds =>
    if d = .neutral then
      let run := d :: ds.takeWhile (· = .neutral)
      let rest := ds.dropWhile (· = .neutral)
      let d' := if side before = side (rest[1]?.getD whole) then side before else .neutral
      List.replicate run.length d' ++ resolveNeutrals whole fuel d' rest
    else d :: resolveNeutrals whole fuel d ds

/-- **The classes of a run**, resolved for the direction of the whole. -/
def resolve (whole : Direction) (ds : List Direction) : List Direction :=
  let ds := (resolveNumbers whole (resolveMarks whole ds)).map fun d =>
    if d = .arabic then .right else d
  let ds := (resolveTerminators false (resolveSeparators none ds)).map neutralize
  let ds := resolveNeutrals whole (ds.length + 1) whole (resolveLeftNumbers whole ds)
  ds.map fun d => if d = .neutral then whole else d

/-- The level of a resolved class in a run of a direction: odd levels are read from right to
left. -/
def level (whole : Direction) (d : Direction) : Nat :=
  let isNumber := d = .arabicNumber || d = .number
  if whole = .left then if d = .right then 1 else if isNumber then 2 else 0
  else if d = .left || isNumber then 2 else 1

end Direction

/-- The units with every stretch reversed whose levels are at least the given one. -/
def reverseStretches (level : Nat) (held : Text) : List (Nat × UInt16) → Text
  | [] => held
  | (l, u) :: rest =>
    if l < level then held ++ u :: reverseStretches level [] rest
    else reverseStretches level (u :: held) rest

/-- **The text of a run in the order of reading.** Angle brackets are left out of a run that holds
letters of a right-to-left script. -/
def readingOrder (t : Text) : Text :=
  let ds := t.map Direction.of
  let count := (ds.filter Direction.isRightward).length
  if count = 0 then t
  else
    let whole : Direction := if 10 * count < 3 * t.length && 4 < t.length then .left else .right
    let levels := (Direction.resolve whole ds).map (Direction.level whole)
    let reversed := [2, 1].foldl (fun t n => reverseStretches n [] (levels.zip t)) t
    reversed.filter fun u => u != 60 && u != 62

end LineAgents.Pdf
