import LineAgents.Text.Blank

/-!
# Words of a date

A date is read as a sequence of numbers, signs, words and blanks. A number keeps its length, so
that `05` and `5` can be told apart; a word counts by its first three letters, so that any word that
starts like a month is that month; text in parentheses says nothing.
-/

namespace LineAgents.Date

/-- **What a word of a date means.** -/
inductive Meaning where
  | month (number : Nat)
  /-- Morning or afternoon, as the hours it adds. -/
  | half (hours : Nat)
  /-- A named zone, as its distance from universal time in hours. -/
  | zone (hours : Int)
  /-- The letter between a date and a time. -/
  | separator
  | nothing
  deriving DecidableEq, Repr

/-- **A token of a date.** -/
inductive Token where
  | number (value length : Nat)
  | symbol (u : UInt16)
  | word (meaning : Meaning) (length : Nat)
  | blank
  | other
  deriving DecidableEq, Repr

/-- The words that mean something, by their first three letters in lower case. A longer word has
the same meaning only when it is a month. -/
def words : List (Text × Meaning) := [
  ("jan", .month 1), ("feb", .month 2), ("mar", .month 3), ("apr", .month 4), ("may", .month 5),
  ("jun", .month 6), ("jul", .month 7), ("aug", .month 8), ("sep", .month 9), ("oct", .month 10),
  ("nov", .month 11), ("dec", .month 12), ("am", .half 0), ("pm", .half 12), ("ut", .zone 0),
  ("utc", .zone 0), ("z", .zone 0), ("gmt", .zone 0), ("cdt", .zone (-5)), ("cst", .zone (-6)),
  ("edt", .zone (-4)), ("est", .zone (-5)), ("mdt", .zone (-6)), ("mst", .zone (-7)),
  ("pdt", .zone (-7)), ("pst", .zone (-8)), ("t", .separator)].map fun w => (Text.ofString w.1, w.2)

/-- The meaning of a word. -/
def meaningOf (w : Text) : Meaning :=
  match words.lookup ((w.take 3).map Text.asciiLower) with
  | some (.month m) => .month m
  | some m => if w.length ≤ 3 then m else .nothing
  | none => .nothing

/-- The value of a numeral, of which the first nine digits after leading zeros count. -/
def numeralValue (ds : Text) : Nat :=
  ((ds.dropWhile (· == 48)).take 9).foldl (fun n u => n * 10 + (u.toNat - 48)) 0

/-- A unit that can stand in a word: a letter, or anything above them that is not blank. -/
def isWordUnit (u : UInt16) : Bool := 65 ≤ u && !Text.isBlank u

/-- The text after the parentheses that are open, `depth` of them. -/
def afterParentheses (depth : Nat) : Text → Text
  | [] => []
  | u :: t =>
    if u == 40 then afterParentheses (depth + 1) t
    else if u == 41 then if depth ≤ 1 then t else afterParentheses (depth - 1) t
    else afterParentheses depth t

/-- The tokens of a date, up to a number of them. -/
def tokenize : Nat → Text → List Token
  | 0, _ => []
  | _, [] => []
  | fuel + 1, u :: t =>
    if Text.isDigit u then
      let ds := (u :: t).takeWhile Text.isDigit
      .number (numeralValue ds) ds.length :: tokenize fuel ((u :: t).dropWhile Text.isDigit)
    else if [58, 45, 43, 46, 41].contains u then .symbol u :: tokenize fuel t
    else if isWordUnit u then
      let w := (u :: t).takeWhile isWordUnit
      .word (meaningOf w) w.length :: tokenize fuel ((u :: t).dropWhile isWordUnit)
    else if Text.isBlank u then .blank :: tokenize fuel t
    else if u == 40 then .other :: tokenize fuel (afterParentheses 1 t)
    else .other :: tokenize fuel t

/-- **The tokens of a date**; a null unit ends it. -/
def tokens (t : Text) : List Token := tokenize (t.length + 1) (t.takeWhile (· != 0))

end LineAgents.Date
