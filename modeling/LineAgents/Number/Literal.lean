import LineAgents.Number.Basic
import LineAgents.Text.Blank

/-!
# Numbers read from text

`LineAgents.Number.decimal?` reads an unsigned decimal numeral off the front of a text and
`LineAgents.Number.ofText` reads a whole text as a number the way a form field is read: white space
around it does not count, nothing at all is zero, a binary, octal or hexadecimal numeral is taken
without a sign, and whatever is no numeral is not a number.
-/

namespace LineAgents.Number

/-! ### Digits -/

/-- The natural number that a run of digit values spells in a base. -/
def valueOf (base : Nat) (ds : List Nat) : Nat := ds.foldl (fun n d => n * base + d) 0

/-- The run of decimal digits at the front of a text, as values, and the rest. -/
def takeDigits (t : Text) : List Nat × Text :=
  ((t.takeWhile Text.isDigit).map fun u => u.toNat - 48, t.dropWhile Text.isDigit)

/-- The double nearest to `m * 10 ^ e`. A decimal far beyond the range of doubles is not computed
in full: its size alone decides between zero and infinity. -/
def ofDecimal (m : Nat) (e : Int) : Float :=
  if m == 0 then 0
  else
    let size : Int := (Nat.toDigits 10 m).length + e
    if size > 400 then infinity
    else if size < -400 then 0
    else if e ≥ 0 then Float.ofScientific m false e.toNat
    else Float.ofScientific m true (-e).toNat

/-! ### Decimal numerals -/

/-- An exponent part at the front of a text: a letter `e` of either case, a sign if any, and at
least one digit. Without one the exponent is zero and nothing is taken. -/
def takeExponent (t : Text) : Int × Text :=
  match t with
  | u :: rest =>
    if u == 101 || u == 69 then
      let (negative, body) : Bool × Text := match rest with
        | 45 :: r => (true, r)
        | 43 :: r => (false, r)
        | r => (false, r)
      match takeDigits body with
      | ([], _) => (0, t)
      | (ds, rest') =>
        let n : Int := valueOf 10 ds
        (if negative then -n else n, rest')
    else (0, t)
  | [] => (0, t)

/-- An unsigned decimal numeral at the front of a text: digits, a point and digits, at least one
digit in all, and an exponent if there is one. -/
def decimal? (t : Text) : Option (Float × Text) :=
  let (whole, t₁) := takeDigits t
  let (fraction, t₂) : List Nat × Text := match t₁ with
    | 46 :: r => takeDigits r
    | r => ([], r)
  if whole.isEmpty && fraction.isEmpty then none
  else
    let (e, t₃) := takeExponent t₂
    some (ofDecimal (valueOf 10 (whole ++ fraction)) (e - fraction.length), t₃)

/-! ### Whole texts -/

/-- The natural number that a non-empty text spells in a base. -/
def natOfDigits? (base : Nat) (t : Text) : Option Nat :=
  if t.isEmpty then none
  else (t.mapM fun u => (Text.digitValue? u).filter (· < base)).map (valueOf base)

/-- A numeral without sign, as a whole text: `Infinity` or a decimal. -/
def unsigned? (t : Text) : Option Float :=
  if t == "Infinity" then some infinity
  else match decimal? t with
    | some (x, []) => some x
    | _ => none

/-- A text without white space around it, read as a number. -/
def ofTrimmed? (t : Text) : Option Float :=
  match t with
  | [] => some 0
  | 45 :: r => (unsigned? r).map (- ·)
  | 43 :: r => unsigned? r
  | 48 :: u :: r =>
    if u == 120 || u == 88 then (natOfDigits? 16 r).map Float.ofNat
    else if u == 111 || u == 79 then (natOfDigits? 8 r).map Float.ofNat
    else if u == 98 || u == 66 then (natOfDigits? 2 r).map Float.ofNat
    else unsigned? t
  | _ => unsigned? t

/-- A text read as a number; what is no numeral is not a number. -/
def ofText (t : Text) : Float := (ofTrimmed? t.trim).getD nan

end LineAgents.Number
