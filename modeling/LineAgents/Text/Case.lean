import LineAgents.Text.CaseTable
import LineAgents.Text.CodePoint

/-!
# Letter case

The full case mappings of a text: a code point may change into several (`ß` becomes `SS`), and a
capital sigma at the end of a word becomes `ς` where it otherwise becomes `σ`. Everything the
library compares without regard to case is compared by `LineAgents.Text.toLower`.
-/

namespace LineAgents.Text

/-- The code point `c` after the change its run lays down, or itself when no run covers it. -/
def shiftCase (runs : List CaseRun) (c : Nat) : Nat :=
  match runs.find? (·.covers c) with
  | some r => (c + r.delta).toNat
  | none => c

/-- Whether `c` lies in one of the ranges. -/
def inRanges (ranges : List (Nat × Nat)) (c : Nat) : Bool :=
  ranges.any fun r => r.1 ≤ c && c ≤ r.2

/-- A letter that has a case. -/
def isCased (c : Nat) : Bool := inRanges casedRanges c

/-- A code point that case matching passes over. -/
def isCaseIgnorable (c : Nat) : Bool := inRanges caseIgnorableRanges c

/-- Whether the first code point that is not passed over is a cased letter. -/
def meetsCased (cs : List Nat) : Bool :=
  match cs.dropWhile isCaseIgnorable with
  | c :: _ => isCased c
  | [] => false

/-- The lower-case form of `c` between the code points `before`, nearest first, and `after`. -/
def lowerPoint (before : List Nat) (c : Nat) (after : List Nat) : List Nat :=
  if c < 0x80 then [if 0x41 ≤ c && c ≤ 0x5A then c + 32 else c]
  else if c == 0x3A3 then [if meetsCased before && !meetsCased after then 0x3C2 else 0x3C3]
  else if c == 0x130 then [0x69, 0x307]
  else [shiftCase lowerRuns c]

/-- The upper-case form of `c`. -/
def upperPoint (c : Nat) : List Nat :=
  if c < 0x80 then [if 0x61 ≤ c && c ≤ 0x7A then c - 32 else c]
  else match upperExpansions.lookup c with
    | some cs => cs
    | none => [shiftCase upperRuns c]

/-- The lower-case forms of code points that follow `before`, nearest first. -/
def lowerPoints (before : List Nat) : List Nat → List Nat
  | [] => []
  | c :: cs => lowerPoint before c cs ++ lowerPoints (c :: before) cs

/-- The text in lower case. -/
def toLower (t : Text) : Text := ofCodePoints (lowerPoints [] t.codePoints)

/-- The text in upper case. -/
def toUpper (t : Text) : Text := ofCodePoints (t.codePoints.flatMap upperPoint)

end LineAgents.Text
