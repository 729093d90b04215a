import LineAgents.Settings
import LineAgents.Text.Blank

/-!
# Environment files

Variables may also be given in a file, one after the other: a name, an equals sign or a colon, and a
value, with comments after number signs. A value may stand in quotes of three kinds, and may then go
over several lines. Only between double quotes do a backslash and a letter stand for the end of a
line. What cannot be read is passed over, line by line. A variable that the environment has already
keeps its value there, and of two values in the file the later one counts.
-/

namespace LineAgents.EnvFile

/-! ### Lines -/

/-- A unit that ends a line. -/
def endsLine (u : UInt16) : Bool := u == 10 || u == 13 || u == 0x2028 || u == 0x2029

/-- The text with a line feed for every carriage return, alone or before a line feed. -/
def unifyLines : Text → Text
  | 13 :: 10 :: t => 10 :: unifyLines t
  | 13 :: t => 10 :: unifyLines t
  | u :: t => u :: unifyLines t
  | [] => []

/-- The text from the next line on, if there is one. -/
def nextLine? : Text → Option Text
  | [] => none
  | u :: t => if endsLine u then some t else nextLine? t

/-! ### Values -/

/-- The end of the line after a value: only white space and a comment may come before it. White
space may also go over the ends of lines, and then the last of them counts. -/
def close? (t : Text) : Option Text :=
  match t.dropWhile Text.isBlank with
  | [] => some []
  | 35 :: comment => some (comment.dropWhile fun u => !endsLine u)
  | _ =>
    let blanks := t.takeWhile Text.isBlank
    match blanks.reverse.dropWhile fun u => !endsLine u with
    | [] => none
    | before => some (t.drop (before.length - 1))

/-- A quotation mark of one of the three kinds. -/
def isQuote (u : UInt16) : Bool := u == 39 || u == 34 || u == 96

/-- The places where a quotation may end, each with what is quoted and what follows: first the first
mark without a backslash before it, and then those with one, the last one first. -/
def closings (q : UInt16) (reversed : Text) : Text → List (Text × Text)
  | [] => []
  | u :: t =>
    if u == q then
      if reversed.head? == some 92 then
        closings q (u :: reversed) t ++ [(reversed.reverse, t)]
      else [(reversed.reverse, t)]
    else closings q (u :: reversed) t

/-- A backslash and a letter become the unit that they stand for. -/
def expand (letter replacement : UInt16) : Text → Text
  | 92 :: u :: t =>
    if u == letter then replacement :: expand letter replacement t
    else 92 :: expand letter replacement (u :: t)
  | u :: t => u :: expand letter replacement t
  | [] => []

/-- Both ends of lines that can be written with a backslash. -/
def expandLines (t : Text) : Text := expand 114 13 (expand 110 10 t)

/-- The value that stands between quotation marks, and the end of its line. -/
def quoted? (t : Text) : Option (Text × Text) :=
  match t.dropWhile Text.isBlank with
  | [] => none
  | q :: inside =>
    if isQuote q then
      (closings q [] inside).findSome? fun c =>
        (close? c.2).map fun rest => (if q == 34 then expandLines c.1 else c.1, rest)
    else none

/-- A value without quotation marks around it, if it has the same one at both ends. -/
def unquote (v : Text) : Text :=
  match v with
  | q :: inside =>
    if isQuote q && inside.getLast? == some q then inside.dropLast else v
  | [] => []

/-- The value up to the end of its line or to a comment, and that end. -/
def plain? (t : Text) : Option (Text × Text) :=
  let raw := t.takeWhile fun u => u != 35 && u != 10 && u != 13
  let v := Text.trim raw
  (close? (t.drop raw.length)).map fun rest =>
    (if v.head? == some 34 then expandLines (unquote v) else unquote v, rest)

/-! ### Variables -/

/-- A unit of a name. -/
def isNameUnit (u : UInt16) : Bool :=
  Text.isLetter u || Text.isDigit u || u == 95 || u == 46 || u == 45

/-- What follows the sign between a name and its value. -/
def afterSign? (t : Text) : Option Text :=
  match t.dropWhile Text.isBlank with
  | 61 :: rest => some rest
  | _ =>
    match t with
    | 58 :: u :: rest => if Text.isBlank u then some rest else none
    | _ => none

/-- The variable at the front of a text, and the end of its line. -/
def named? (t : Text) : Option ((Text × Text) × Text) := do
  let name := t.takeWhile isNameUnit
  if name.isEmpty then none
  let t ← afterSign? (t.drop name.length)
  let (value, rest) ← (quoted? t).or (plain? t)
  return ((name, value), rest)

/-- The text after a word and the white space that has to follow it. -/
def afterWord? (word t : Text) : Option Text :=
  let rest := t.drop word.length
  if word.isPrefixOf t && rest.head?.any Text.isBlank then some (rest.dropWhile Text.isBlank)
  else none

/-- The variable that a line begins with, perhaps after the word `export`, and the end of its last
line. -/
def variableOf (t : Text) : Option ((Text × Text) × Text) :=
  let t := t.dropWhile Text.isBlank
  ((afterWord? "export" t).bind named?).or (named? t)

/-- The variables of a text, in order. -/
def readVariables : Nat → Text → Environment
  | 0, _ => []
  | fuel + 1, t =>
    let (found, rest) := match variableOf t with
      | some (v, rest) => ([v], rest)
      | none => ([], t)
    found ++ match nextLine? rest with
      | some t => readVariables fuel t
      | none => []

/-- **The variables of a file**, the last one first. -/
def parse (file : Text) : Environment :=
  (readVariables (file.length + 1) (unifyLines file)).reverse

end LineAgents.EnvFile

namespace LineAgents

/-- **The environment together with a file**: the file fills in what the environment lacks. -/
def Environment.fill (env : Environment) (file : Text) : Environment := env ++ EnvFile.parse file

end LineAgents
