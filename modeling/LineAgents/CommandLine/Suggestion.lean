import LineAgents.Text.Basic

/-!
# Suggestions

A word that is not known may be a slip of the pen for one that is. The **distance** of two words is
the least number of single insertions, deletions, changes and exchanges of neighbours that lead from
one to the other, no place being touched twice. `LineAgents.Suggestion.similar` picks the known
words that are nearest, if they are near enough.
-/

namespace LineAgents.Suggestion

/-! ### The distance of two words -/

/-- **A row of distances**: those from the beginnings of one word to a beginning of the other, the
empty beginning first. -/
abbrev Row := List Nat

/-- The row of the empty beginning: everything is deleted. -/
def firstRow (a : Text) : Row := List.range (a.length + 1)

/-- The rest of a row for one more unit `b`, from the unit and the distance to the left, the row
before it, and the row before that one, which is there when the unit before `b` is. -/
def restOfRow (b : UInt16) (before : Option UInt16) :
    Option UInt16 → Nat → Text → Row → Row → Row
  | left, distance, a :: rest, diagonal :: above :: row, far =>
    let plain := min (min (distance + 1) (above + 1)) (if a == b then diagonal else diagonal + 1)
    let value :=
      match left, before, far with
      | some l, some p, f :: _ => if a == p && l == b then min plain (f + 1) else plain
      | _, _, _ => plain
    value :: restOfRow b before (some a) value rest (above :: row)
      (if left.isSome then far.drop 1 else far)
  | _, _, _, _, _ => []

/-- The last row, after the units of the other word, which is the `j`-th beginning so far. -/
def lastRow (a : Text) : Nat → Option UInt16 → Row → Row → Text → Row
  | _, _, _, row, [] => row
  | j, before, far, row, b :: rest =>
    let next := (j + 1) :: restOfRow b before none (j + 1) a row far
    lastRow a (j + 1) (some b) row next rest

/-- **The distance of two words.** -/
def distance (a b : Text) : Nat := (lastRow a 0 none [] (firstRow a) b).getLastD 0

/-! ### Near words -/

/-- The greatest distance of a suggestion. -/
def reach : Nat := 3

/-- The distance of a word that may be suggested: within reach, and small against the words
themselves. -/
def near? (word candidate : Text) : Option Nat :=
  let longer := max word.length candidate.length
  let shorter := min word.length candidate.length
  if candidate.length ≤ 1 || longer - shorter > reach then none
  else
    let d := distance word candidate
    if d ≤ reach && 4 * longer < 10 * (longer - d) then some d else none

/-- Whether one text comes before another in the order of their units, or is the same. -/
def inOrder (a b : Text) : Bool := !b.lex a (· < ·)

/-- **The nearest of the candidates**, in order. -/
def nearest (word : Text) (candidates : List Text) : List Text :=
  let rated := candidates.eraseDups.filterMap fun c => (near? word c).map fun d => (c, d)
  let least := rated.foldl (fun m r => min m r.2) reach
  ((rated.filter fun r => r.2 == least).map (·.1)).mergeSort inOrder

/-- The nearest candidates; of options only what follows the two hyphens is compared. -/
def similar (word : Text) (candidates : List Text) : List Text :=
  if (Text.ofString "--").isPrefixOf word then
    (nearest (word.drop 2) (candidates.map (·.drop 2))).map fun c => "--" ++ c
  else nearest word candidates

/-- **What is said about an unknown word**, on a line of its own. -/
def phrase (word : Text) (candidates : List Text) : Text :=
  match similar word candidates with
  | [] => []
  | [c] => "\n(Did you mean " ++ c ++ "?)"
  | cs => "\n(Did you mean one of " ++ Text.join ", " cs ++ "?)"

end LineAgents.Suggestion
