import LineAgents.Json.Basic
import LineAgents.Number.Literal

/-!
# Reading JSON

`LineAgents.Json.parse?` reads one JSON value that takes up a whole text, by the strict grammar:
white space is space, tab and the two line ends, a string holds no raw control character, a number
has no leading zero and no bare point, and nothing may follow a trailing comma. Every reader below
takes what it recognises off the front of a text and gives the rest.

Arrays and objects nest, so the reader of values carries a bound on how often it may still descend
or move on; each such step takes at least one unit off the text, so the length of the text is bound
enough.
-/

namespace LineAgents.Json

/-! ### Tokens -/

/-- The white space of JSON. -/
def isSpace (u : UInt16) : Bool := u == 32 || u == 9 || u == 10 || u == 13

/-- The text without the white space at its front. -/
def skipSpace (t : Text) : Text := t.dropWhile isSpace

/-- The unit that a letter after a backslash stands for. -/
def escaped? (u : UInt16) : Option UInt16 :=
  if u == 34 || u == 92 || u == 47 then some u
  else if u == 98 then some 8
  else if u == 102 then some 12
  else if u == 110 then some 10
  else if u == 114 then some 13
  else if u == 116 then some 9
  else none

/-- The unit of four hexadecimal digits. -/
def unitOfHex? (a b c d : UInt16) : Option UInt16 := do
  let a ← Text.hexValue? a
  let b ← Text.hexValue? b
  let c ← Text.hexValue? c
  let d ← Text.hexValue? d
  return (a * 4096 + b * 256 + c * 16 + d).toUInt16

/-- The inside of a string, up to and without its closing quote, and the text after that. -/
def takeString? : Text → Option (Text × Text)
  | 34 :: t => some ([], t)
  | 92 :: 117 :: a :: b :: c :: d :: t => do
    let u ← unitOfHex? a b c d
    let (s, rest) ← takeString? t
    return (u :: s, rest)
  | 92 :: e :: t => do
    let u ← escaped? e
    let (s, rest) ← takeString? t
    return (u :: s, rest)
  | u :: t =>
    if u < 32 || u == 92 then none
    else do
      let (s, rest) ← takeString? t
      return (u :: s, rest)
  | [] => none

/-- The digits of an integer part: a lone zero, or a run that does not start with one. -/
def takeWhole? (t : Text) : Option (List Nat × Text) :=
  match Number.takeDigits t with
  | ([], _) => none
  | (0 :: _ :: _, _) => none
  | r => some r

/-- The digits after a point, at least one, if a point is next. -/
def takeFraction? (t : Text) : Option (List Nat × Text) :=
  match t with
  | 46 :: r => match Number.takeDigits r with
    | ([], _) => none
    | p => some p
  | _ => some ([], t)

/-- The exponent, if a letter `e` is next; it has to have a digit then. -/
def takeExponent? (t : Text) : Option (Int × Text) :=
  let (e, rest) := Number.takeExponent t
  if rest.head? == some 101 || rest.head? == some 69 then none else some (e, rest)

/-- An unsigned number. -/
def takeUnsigned? (t : Text) : Option (Float × Text) := do
  let (whole, t₁) ← takeWhole? t
  let (fraction, t₂) ← takeFraction? t₁
  let (e, t₃) ← takeExponent? t₂
  return (Number.ofDecimal (Number.valueOf 10 (whole ++ fraction)) (e - fraction.length), t₃)

/-- A number, with its sign if it has one. -/
def takeNumber? (t : Text) : Option (Float × Text) :=
  match t with
  | 45 :: r => (takeUnsigned? r).map fun (x, rest) => (-x, rest)
  | _ => takeUnsigned? t

/-- Takes the word `w` off the front of a text. -/
def takeWord? (w : Text) (t : Text) : Option Text :=
  if w.isPrefixOf t then some (t.drop w.length) else none

/-! ### Values -/

mutual

/-- A value at the front of a text, white space before it skipped. -/
def takeValue? : Nat → Text → Option (Json × Text)
  | 0, _ => none
  | fuel + 1, t =>
    match skipSpace t with
    | 34 :: r => (takeString? r).map fun (s, rest) => (.str s, rest)
    | 91 :: r =>
      match skipSpace r with
      | 93 :: rest => some (.arr [], rest)
      | r => (takeItems? fuel r).map fun (vs, rest) => (.arr vs, rest)
    | 123 :: r =>
      match skipSpace r with
      | 125 :: rest => some (.obj [], rest)
      | r => (takeFields? fuel r).map fun (fs, rest) => (.ofPairs fs, rest)
    | 110 :: r => (takeWord? "ull" r).map (.null, ·)
    | 116 :: r => (takeWord? "rue" r).map (.bool true, ·)
    | 102 :: r => (takeWord? "alse" r).map (.bool false, ·)
    | r => (takeNumber? r).map fun (x, rest) => (.num x, rest)

/-- The members of a list up to its closing bracket, at least one. -/
def takeItems? : Nat → Text → Option (List Json × Text)
  | 0, _ => none
  | fuel + 1, t => do
    let (v, rest) ← takeValue? fuel t
    match skipSpace rest with
    | 44 :: r => do
      let (vs, rest) ← takeItems? fuel r
      return (v :: vs, rest)
    | 93 :: r => return ([v], r)
    | _ => none

/-- The fields of an object up to its closing brace, at least one, as they are written. -/
def takeFields? : Nat → Text → Option (List (Text × Json) × Text)
  | 0, _ => none
  | fuel + 1, t =>
    match skipSpace t with
    | 34 :: r => do
      let (name, rest) ← takeString? r
      match skipSpace rest with
      | 58 :: r => do
        let (v, rest) ← takeValue? fuel r
        match skipSpace rest with
        | 44 :: r => do
          let (fs, rest) ← takeFields? fuel r
          return ((name, v) :: fs, rest)
        | 125 :: r => return ([(name, v)], r)
        | _ => none
      | _ => none
    | _ => none

end

/-- **The value that a whole text spells**, if it spells one. -/
def parse? (t : Text) : Option Json :=
  match takeValue? (t.length + 1) t with
  | some (v, rest) => if (skipSpace rest).isEmpty then some v else none
  | none => none

end LineAgents.Json
