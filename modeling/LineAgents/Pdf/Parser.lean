import LineAgents.Pdf.Lexer

/-!
# Reading objects

`LineAgents.Pdf.nextObject` reads the next object off the front of the bytes, or a keyword, which
is not part of any object. Two numbers and the keyword `R` are a reference. A dictionary that is
followed by the keyword `stream` is a stream; its length is found through a function, because it may
stand elsewhere in the document, and where it is not to be trusted the keyword that ends the stream
is looked for.
-/

namespace LineAgents.Pdf

/-- **What is next in the bytes**: an object or a keyword with the bytes after it, the end, or
something illegal. -/
inductive Item where
  | object (o : Obj) (rest : Bytes)
  | keyword (k : Text) (rest : Bytes)
  | finished
  | illegal

/-- The keyword that ends a stream. -/
def endstream : Bytes := [101, 110, 100, 115, 116, 114, 101, 97, 109]

/-- The bytes before an occurrence of others, or all of them, and the bytes from there on. -/
def splitBefore (pattern : Bytes) : Bytes → Bytes × Bytes
  | [] => ([], [])
  | b :: bs =>
    if pattern.isPrefixOf (b :: bs) then ([], b :: bs)
    else
      let (front, rest) := splitBefore pattern bs
      (b :: front, rest)

/-- The bytes after the end of the line. -/
def nextLine : Bytes → Bytes
  | 13 :: 10 :: bs => bs
  | 13 :: bs => bs
  | 10 :: bs => bs
  | _ :: bs => nextLine bs
  | [] => []

/-- The bytes of a stream of a given length, if it has one that is right, and what follows. -/
def streamBytes (length : Option Nat) (bs : Bytes) : Bytes × Bytes :=
  let start := nextLine bs
  let searched := splitBefore endstream start
  match length with
  | some n =>
    let after := start.drop n
    if endstream.isPrefixOf (after.dropWhile isSpace) then (start.take n, after) else searched
  | none => searched

mutual

/-- The next object, with words that are known beforehand, a function for lengths, and a bound on
the steps. -/
def readItem (known : List Text) (length : Obj → Option Nat) : Nat → Bytes → Item
  | 0, _ => .illegal
  | fuel + 1, bs =>
    match nextWord known bs with
    | .finished => .finished
    | .illegal => .illegal
    | .word (.real x) rest => .object (.real x) rest
    | .word (.str s) rest => .object (.str s) rest
    | .word (.name n) rest => .object (.name n) rest
    | .word (.int n) rest =>
      match nextWord known rest with
      | .word (.int _) rest' =>
        match nextWord known rest' with
        | .word (.keyword k) rest'' =>
          if k == "R" then .object (.ref n.toNat) rest'' else .object (.int n) rest
        | _ => .object (.int n) rest
      | _ => .object (.int n) rest
    | .word (.keyword k) rest =>
      if k == "[" then readList known length fuel [] rest
      else if k == "<<" then readDict known length fuel [] rest
      else if k == "true" then .object (.bool true) rest
      else if k == "false" then .object (.bool false) rest
      else if k == "null" then .object .null rest
      else .keyword k rest

/-- The members of a list up to its bracket, the last one first. -/
def readList (known : List Text) (length : Obj → Option Nat) : Nat → List Obj → Bytes → Item
  | 0, _, _ => .illegal
  | fuel + 1, acc, bs =>
    match readItem known length fuel bs with
    | .object o rest => readList known length fuel (o :: acc) rest
    | .keyword k rest =>
      if k == "]" then .object (.list acc.reverse) rest else readList known length fuel acc rest
    | .finished => .object (.list acc.reverse) []
    | .illegal => .illegal

/-- The entries of a dictionary up to its brackets, the last one first, and the stream after it. -/
def readDict (known : List Text) (length : Obj → Option Nat) :
    Nat → List (Text × Obj) → Bytes → Item
  | 0, _, _ => .illegal
  | fuel + 1, acc, bs =>
    match readItem known length fuel bs with
    | .object (.name n) rest =>
      match readItem known length fuel rest with
      | .object o rest' => readDict known length fuel ((n, o) :: acc) rest'
      | .keyword k rest' =>
        if k == ">>" then finishDict length acc rest' else readDict known length fuel acc rest'
      | .finished => .object (.dict acc) []
      | .illegal => .illegal
    | .object _ rest => readDict known length fuel acc rest
    | .keyword k rest =>
      if k == ">>" then finishDict length acc rest else readDict known length fuel acc rest
    | .finished => .object (.dict acc) []
    | .illegal => .illegal

/-- The dictionary of entries, or the stream that it starts. -/
def finishDict (length : Obj → Option Nat) (entries : List (Text × Obj)) (bs : Bytes) : Item :=
  match nextWord [] bs with
  | .word (.keyword k) rest =>
    if k == "stream" then
      let (data, rest) := streamBytes ((entries.lookup (Text.ofString "Length")).bind length) rest
      .object (.stream entries data) (rest.drop (splitBefore endstream rest).1.length |>.drop 9)
    else .object (.dict entries) bs
  | _ => .object (.dict entries) bs

end

/-- **The next object or keyword.** -/
def nextObject (known : List Text) (length : Obj → Option Nat) (bs : Bytes) : Item :=
  readItem known length (2 * bs.length + 2) bs

end LineAgents.Pdf
