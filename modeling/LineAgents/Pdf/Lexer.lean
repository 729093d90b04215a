import LineAgents.Pdf.Object

/-!
# Words of PDF

The words that the bytes of a PDF document fall into. White space and comments separate them. A
number may be written loosely, with two signs or a sign in its middle; a string in parentheses may
hold balanced parentheses and escapes; a string in angle brackets is in hexadecimal, and a missing
last digit is zero. Everything else that is no bracket is a keyword. Strings, names and keywords are
texts, one unit for each byte; only three octal digits can make a unit that is no byte.
-/

namespace LineAgents.Pdf

/-- **A word.** -/
inductive Word where
  | int (n : Int)
  | real (x : Float)
  | str (codes : Text)
  | name (n : Text)
  | keyword (k : Text)
  deriving Inhabited

/-- **What is next in the bytes**: a word and the bytes after it, the end, or a byte that no word
starts with. -/
inductive Lexeme where
  | word (w : Word) (rest : Bytes)
  | finished
  | illegal

/-- The white space of PDF. -/
def isSpace (b : UInt8) : Bool := b == 32 || b == 9 || b == 10 || b == 12 || b == 13 || b == 0

/-- The bytes that end a word: parentheses, brackets, braces, the slash and the percent sign. -/
def isDelimiter (b : UInt8) : Bool :=
  b == 40 || b == 41 || b == 60 || b == 62 || b == 91 || b == 93 || b == 123 || b == 125 ||
    b == 47 || b == 37

/-- A byte inside a keyword or a name. -/
def isRegular (b : UInt8) : Bool := !isSpace b && !isDelimiter b

/-- A decimal digit. -/
def isDigit (b : UInt8) : Bool := 48 ≤ b && b ≤ 57

/-- Bytes as a text, one unit for each. -/
def textOf (bs : Bytes) : Text := bs.map (·.toUInt16)

/-- The bytes without the white space and the comments at their front, which may be inside a
comment. A comment ends with its line. -/
def skipBlanks (inComment : Bool) : Bytes → Bytes
  | [] => []
  | b :: bs =>
    if inComment then skipBlanks (b != 10 && b != 13) bs
    else if b == 37 then skipBlanks true bs
    else if isSpace b then skipBlanks false bs
    else b :: bs

/-! ### Numbers -/

/-- **A number being read**: its digits so far, the count of those after the point once there was a
point, and the digits of its exponent once there was an `e`. -/
structure Numeral where
  digits : Nat := 0
  places : Option Nat := none
  exponent : Option Nat := none
  negativeExponent : Bool := false

/-- A number with one more digit. -/
def Numeral.push (n : Numeral) (b : UInt8) : Numeral :=
  let d := b.toNat - 48
  match n.exponent with
  | some e => { n with exponent := some (e * 10 + d) }
  | none => { n with digits := n.digits * 10 + d, places := n.places.map (· + 1) }

/-- A number whose exponent starts, with a sign. -/
def Numeral.scientific (n : Numeral) (negative : Bool) : Numeral :=
  { n with exponent := some (n.exponent.getD 0), negativeExponent := negative }

/-- The rest of a number. Hyphens in its middle do not count, and a second point ends it. An `e`
starts an exponent only before a digit or a sign. -/
def numeralRest (n : Numeral) : Bytes → Numeral × Bytes
  | [] => (n, [])
  | b :: bs =>
    if isDigit b then numeralRest (n.push b) bs
    else if b == 46 && n.places.isNone then numeralRest { n with places := some 0 } bs
    else if b == 45 then numeralRest n bs
    else if b == 69 || b == 101 then
      match bs with
      | 43 :: r => numeralRest (n.scientific false) r
      | 45 :: r => numeralRest (n.scientific true) r
      | d :: r =>
        if isDigit d then numeralRest ((n.scientific n.negativeExponent).push d) r
        else (n, b :: bs)
      | [] => (n, b :: bs)
    else (n, b :: bs)

/-- The word of a number with a sign. -/
def Numeral.word (n : Numeral) (negative : Bool) : Word :=
  match n.places, n.exponent with
  | none, none => .int (if negative then -(n.digits : Int) else n.digits)
  | places, exponent =>
    let x := Float.ofScientific n.digits true (places.getD 0)
    let x := match exponent with
      | none => x
      | some e => x * Float.ofScientific 1 n.negativeExponent (min e 400)
    .real (if negative then -x else x)

/-- **A number**, from its sign, point or first digit on. A sign alone is zero before white space,
a string or the end. -/
def number (bs : Bytes) : Lexeme :=
  let (negative, bs) : Bool × Bytes := match bs with
    | 45 :: 45 :: r => (true, r)
    | 45 :: r => (true, r)
    | 43 :: r => (false, r)
    | r => (false, r)
  let bs := bs.dropWhile fun b => b == 10 || b == 13
  let (start, bs) : Numeral × Bytes := match bs with
    | 46 :: r => ({ places := some 0 }, r)
    | r => ({}, r)
  match bs with
  | [] => .word (.int 0) []
  | b :: _ =>
    if isDigit b then
      let (n, rest) := numeralRest start bs
      .word (n.word negative) rest
    else if isSpace b || b == 40 || b == 60 then .word (.int 0) bs
    else .illegal

/-! ### Strings -/

/-- An octal digit. -/
def isOctal (b : UInt8) : Bool := 48 ≤ b && b ≤ 55

/-- The value of up to three octal digits. -/
def octalValue (bs : Bytes) : UInt16 :=
  bs.foldl (fun (n : UInt16) (b : UInt8) => n * 8 + (b - 48).toUInt16) 0

/-- What a byte after a backslash stands for. -/
def escaped (b : UInt8) : UInt8 :=
  if b == 110 then 10 else if b == 114 then 13 else if b == 116 then 9
  else if b == 98 then 8 else if b == 102 then 12 else b

/-- The inside of a string in parentheses, `depth` of which are open, up to its end. -/
def literal : Nat → Nat → Bytes → Text × Bytes
  | 0, _, bs => ([], bs)
  | _, _, [] => ([], [])
  | fuel + 1, depth, b :: bs =>
    let keep (u : UInt16) (depth : Nat) (bs : Bytes) : Text × Bytes :=
      let (s, rest) := literal fuel depth bs
      (u :: s, rest)
    if b == 40 then keep 40 (depth + 1) bs
    else if b == 41 then if depth ≤ 1 then ([], bs) else keep 41 (depth - 1) bs
    else if b == 92 then
      match bs with
      | [] => ([], [])
      | 13 :: 10 :: r => literal fuel depth r
      | 13 :: r => literal fuel depth r
      | 10 :: r => literal fuel depth r
      | e :: r =>
        if isOctal e then
          let ds := (bs.take 3).takeWhile isOctal
          keep (octalValue ds) depth (bs.drop ds.length)
        else keep (escaped e).toUInt16 depth r
    else keep b.toUInt16 depth bs

/-- The value of a hexadecimal digit. -/
def hexValue? (b : UInt8) : Option Nat := Text.hexValue? b.toUInt16

/-- Hexadecimal digits as bytes; a missing last digit is zero. -/
def packHex : List Nat → Text
  | a :: b :: rest => (a * 16 + b).toUInt16 :: packHex rest
  | [a] => [(a * 16).toUInt16]
  | [] => []

/-- A string in angle brackets, from its first digit on; what is no digit does not count. -/
def hexString (bs : Bytes) : Text × Bytes :=
  (packHex ((bs.takeWhile (· != 62)).filterMap hexValue?), (bs.dropWhile (· != 62)).drop 1)

/-! ### Names and keywords -/

/-- The bytes of a name, in which a number sign and two digits stand for a byte. -/
def nameBytes : Nat → Bytes → Bytes
  | 0, _ => []
  | _, [] => []
  | fuel + 1, 35 :: a :: b :: bs =>
    match hexValue? a, hexValue? b with
    | some x, some y => (x * 16 + y).toUInt8 :: nameBytes fuel bs
    | _, _ => 35 :: nameBytes fuel (a :: b :: bs)
  | fuel + 1, b :: bs => b :: nameBytes fuel bs

/-- The rest of a keyword. Where keywords are known beforehand, a known one ends before a byte that
would make it unknown. -/
def keywordRest (known : List Text) (k : Text) : Bytes → Text × Bytes
  | [] => (k, [])
  | b :: bs =>
    let longer := k ++ [b.toUInt16]
    if !isRegular b || (known.contains k && !known.contains longer) then (k, b :: bs)
    else keywordRest known longer bs

/-- A byte of visible ASCII, or a space, or the delete character. -/
def isVisible (b : UInt8) : Bool := 32 ≤ b && b ≤ 127

/-- **The next word.** Before visible ASCII a byte of another kind is a keyword alone. -/
def nextWord (known : List Text) (bs : Bytes) : Lexeme :=
  match skipBlanks false bs with
  | [] => .finished
  | b :: r =>
    if isDigit b || b == 43 || b == 45 || b == 46 then number (b :: r)
    else if b == 40 then
      let (s, rest) := literal (r.length + 1) 1 r
      .word (.str s) rest
    else if b == 47 then
      let raw := r.takeWhile isRegular
      .word (.name (textOf (nameBytes raw.length raw))) (r.drop raw.length)
    else if b == 60 then
      match r with
      | 60 :: rest => .word (.keyword "<<") rest
      | _ =>
        let (s, rest) := hexString r
        .word (.str s) rest
    else if b == 62 then
      match r with
      | 62 :: rest => .word (.keyword ">>") rest
      | _ => .word (.keyword ">") r
    else if b == 91 || b == 93 || b == 123 || b == 125 then .word (.keyword (textOf [b])) r
    else if b == 41 then .illegal
    else if !isVisible b && r.head?.any isVisible then .word (.keyword (textOf [b])) r
    else
      let (k, rest) := keywordRest known (textOf [b]) r
      .word (.keyword k) rest

end LineAgents.Pdf
