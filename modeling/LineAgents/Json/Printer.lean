import LineAgents.Json.Basic
import LineAgents.Number.Printer

/-!
# Writing JSON

The compact text of a value: no white space, the short escapes where there are any, and four
hexadecimal digits for the other control characters and for lone surrogates. All else, also outside
ASCII, is written as it is. A number that is not finite has no JSON form and is written `null`.

For a human reader a value can also be laid out over several lines (`LineAgents.Json.layOut`), each
member on a line of its own and two spaces further in than what it belongs to.
-/

namespace LineAgents.Json

/-- The lower-case hexadecimal digit of a number below sixteen. -/
def hexDigit (n : Nat) : UInt16 := (if n < 10 then 48 + n else 87 + n).toUInt16

/-- A unit as a backslash, the letter `u` and four hexadecimal digits. -/
def escapeUnit (u : UInt16) : Text :=
  let n := u.toNat
  [92, 117, hexDigit (n / 4096), hexDigit (n / 256 % 16), hexDigit (n / 16 % 16), hexDigit (n % 16)]

/-- A unit that is not half of a surrogate pair, inside a string. -/
def writeUnit (u : UInt16) : Text :=
  if u == 34 || u == 92 then [92, u]
  else if u == 8 then [92, 98]
  else if u == 9 then [92, 116]
  else if u == 10 then [92, 110]
  else if u == 12 then [92, 102]
  else if u == 13 then [92, 114]
  else if u < 32 || (0xD800 ≤ u && u ≤ 0xDFFF) then escapeUnit u
  else [u]

/-- The inside of a string: surrogate pairs as they are, every other unit on its own. -/
def writeUnits : Text → Text
  | [] => []
  | [u] => writeUnit u
  | u :: v :: t =>
    if Text.isHigh u && Text.isLow v then u :: v :: writeUnits t
    else writeUnit u ++ writeUnits (v :: t)

/-- A string in quotes. -/
def quote (s : Text) : Text := 34 :: (writeUnits s ++ [34])

/-- A number, `null` unless it is finite. -/
def writeNumber (x : Float) : Text :=
  if Number.isFinite x then Number.toText x else "null"

mutual

/-- **The compact text of a value.** -/
def render : Json → Text
  | .null => "null"
  | .bool true => "true"
  | .bool false => "false"
  | .num x => writeNumber x
  | .str s => quote s
  | .arr items => 91 :: (renderItems items ++ [93])
  | .obj fields => 123 :: (renderFields fields ++ [125])

/-- The members of a list with commas between them. -/
def renderItems : List Json → Text
  | [] => []
  | [v] => render v
  | v :: vs => render v ++ 44 :: renderItems vs

/-- The fields of an object with commas between them. -/
def renderFields : List (Text × Json) → Text
  | [] => []
  | [f] => renderField f
  | f :: fs => renderField f ++ 44 :: renderFields fs

/-- One field: its name, a colon, its value. -/
def renderField : Text × Json → Text
  | (name, v) => quote name ++ 58 :: render v

end

/-! ### Several lines -/

/-- The start of a line inside so many brackets. -/
def newLine (depth : Nat) : Text := 10 :: List.replicate (2 * depth) 32

/-- Members between brackets, each on its own line; brackets without members stay together. -/
def bracket (opening closing : UInt16) (depth : Nat) (members : List Text) : Text :=
  if members.isEmpty then [opening, closing]
  else opening :: (newLine (depth + 1) ++
    Text.join (44 :: newLine (depth + 1)) members ++ newLine depth ++ [closing])

mutual

/-- **The text of a value over several lines**, inside so many brackets. -/
def layOut (depth : Nat) : Json → Text
  | .arr items => bracket 91 93 depth (layOutItems (depth + 1) items)
  | .obj fields => bracket 123 125 depth (layOutFields (depth + 1) fields)
  | v => render v

/-- The texts of the members of a list. -/
def layOutItems (depth : Nat) : List Json → List Text
  | [] => []
  | v :: vs => layOut depth v :: layOutItems depth vs

/-- The texts of the fields of an object. -/
def layOutFields (depth : Nat) : List (Text × Json) → List Text
  | [] => []
  | f :: fs => layOutField depth f :: layOutFields depth fs

/-- The text of one field: its name, a colon and a space, its value. -/
def layOutField (depth : Nat) : Text × Json → Text
  | (name, v) => quote name ++ 58 :: 32 :: layOut depth v

end

end LineAgents.Json
