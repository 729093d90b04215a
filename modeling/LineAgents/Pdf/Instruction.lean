import LineAgents.Pdf.Affine
import LineAgents.Pdf.Parser

/-!
# Instructions of a page

The content of a page is a sequence of operators, each after its operands. Those that say what text
stands where are `LineAgents.Pdf.Instruction`s; the others only have to be known well enough to tell
how many operands they take. Operands in excess are kept for a later operator that has too few, and
an operator that still has too few is left out. Something illegal ends the page, and so do more
operands than any operator takes.
-/

namespace LineAgents.Pdf

/-! ### Operators -/

/-- The operators and how many operands each takes. -/
def fixedOperators : List (Text × Nat) :=
  let group (n : Nat) (ops : List String) : List (Text × Nat) :=
    ops.map fun o => (Text.ofString o, n)
  group 0 ["q", "Q", "h", "S", "s", "f", "F", "f*", "B", "B*", "b", "b*", "n", "W", "W*"] ++
  group 0 ["BT", "ET", "T*", "BI", "ID", "EMC", "BX", "EX"] ++
  group 1 ["w", "J", "j", "M", "ri", "i", "gs", "Tc", "Tw", "Tz", "TL", "Tr", "Ts", "Tj"] ++
  group 1 ["TJ", "'", "CS", "cs", "G", "g", "sh", "EI", "Do", "MP", "BMC"] ++
  group 2 ["d", "m", "l", "Tf", "Td", "TD", "d0", "DP", "BDC"] ++
  group 3 ["RG", "rg", "\""] ++
  group 4 ["v", "y", "re", "K", "k"] ++
  group 6 ["cm", "c", "Tm", "d1"]

/-- The operators that take any number of operands. -/
def freeOperators : List Text := Text.ofStrings ["SC", "SCN", "sc", "scn"]

/-- Beginnings of words, kept together with what follows them. -/
def wordBeginnings : List Text :=
  Text.ofStrings ["BM", "BD", "true", "fa", "fal", "fals", "false", "nu", "nul", "null"]

/-- The keywords that content is read with. -/
def contentKeywords : List Text := fixedOperators.map (·.1) ++ freeOperators ++ wordBeginnings

/-! ### Instructions -/

/-- **An instruction** about text. -/
inductive Instruction where
  | save
  | restore
  | transform (m : Affine)
  | beginText
  | font (name : Text) (size : Float)
  | leading (x : Float)
  | glyphSpacing (x : Float)
  | blankSpacing (x : Float)
  | stretch (percent : Float)
  | rise (x : Float)
  | move (x y : Float)
  | moveLeading (x y : Float)
  | place (m : Affine)
  | nextLine
  | show (s : Text)
  | showPieces (pieces : List Obj)
  | nextLineShow (s : Text)
  | nextLineSpacedShow (blankSpacing glyphSpacing : Float) (s : Text)

/-- The instruction of an operator with the right number of operands, if it has one and they are of
the right kind. -/
def Instruction.of? (op : Text) (operands : List Obj) : Option Instruction :=
  let numbers := operands.filterMap Obj.number?
  if op == "q" then some .save
  else if op == "Q" then some .restore
  else if op == "BT" then some .beginText
  else if op == "T*" then some .nextLine
  else if op == "cm" then
    match numbers with
    | [a, b, c, d, e, f] => some (.transform ⟨a, b, c, d, e, f⟩)
    | _ => none
  else if op == "Tm" then
    match numbers with
    | [a, b, c, d, e, f] => some (.place ⟨a, b, c, d, e, f⟩)
    | _ => none
  else
    match operands with
    | [.name n, size] => if op == "Tf" then size.number?.map (.font n) else none
    | [.str s] =>
      if op == "Tj" then some (.show s) else if op == "'" then some (.nextLineShow s) else none
    | [.list pieces] => if op == "TJ" then some (.showPieces pieces) else none
    | [w, c, .str s] =>
      if op == "\"" then do
        let w ← w.number?
        let c ← c.number?
        return .nextLineSpacedShow w c s
      else none
    | _ =>
      match numbers with
      | [x] =>
        if op == "TL" then some (.leading x)
        else if op == "Tc" then some (.glyphSpacing x)
        else if op == "Tw" then some (.blankSpacing x)
        else if op == "Tz" then some (.stretch x)
        else if op == "Ts" then some (.rise x)
        else none
      | [x, y] =>
        if op == "Td" then some (.move x y)
        else if op == "TD" then some (.moveLeading x y)
        else none
      | _ => none

/-! ### Reading content -/

/-- **Operands that wait** for their operator, and those that were in excess, the last one first. -/
structure Operands where
  waiting : List Obj := []
  excess : List Obj := []

/-- The operands of an operator that takes `n`, if there are enough, and what waits after it. -/
def Operands.take (o : Operands) (n : Nat) : Option (List Obj) × Operands :=
  let surplus := o.waiting.length - n
  let kept := o.waiting.drop surplus
  let excess := (o.waiting.take surplus).reverse ++ o.excess
  let missing := n - kept.length
  let all := (excess.take missing).reverse ++ kept
  let left : Operands := ⟨[], excess.drop missing⟩
  if all.length < n then (none, left) else (some all, left)

/-- The instructions of bytes, given the operands so far. -/
def readInstructions : Nat → Operands → Bytes → List Instruction
  | 0, _, _ => []
  | fuel + 1, o, bs =>
    match nextObject contentKeywords (fun _ => none) bs with
    | .object .null rest => readInstructions fuel o rest
    | .object x rest =>
      if o.waiting.length < 33 then
        readInstructions fuel { o with waiting := o.waiting ++ [x] } rest
      else []
    | .keyword k rest =>
      match fixedOperators.lookup k with
      | some n =>
        let (operands, o) := o.take n
        (operands.bind (Instruction.of? k)).toList ++ readInstructions fuel o rest
      | none =>
        let o := if freeOperators.contains k then { o with waiting := [] } else o
        readInstructions fuel o rest
    | .finished => []
    | .illegal => []

/-- How many bytes remain at the start of each word, the last word first, and whether something
illegal follows them. -/
def wordStarts : Nat → List Nat → Bytes → List Nat × Bool
  | 0, acc, _ => (acc, false)
  | fuel + 1, acc, bs =>
    match nextWord contentKeywords bs with
    | .word _ rest => wordStarts fuel (bs.length :: acc) rest
    | .finished => (acc, false)
    | .illegal => (acc, true)

/-- The content that counts: all of it, or what comes before the last two words in front of
something illegal, because a reader looks two words ahead. -/
def readable (bs : Bytes) : Bytes :=
  match wordStarts (bs.length + 1) [] bs with
  | (_, false) => bs
  | (_ :: remaining :: _, true) => bs.take (bs.length - remaining)
  | (_, true) => []

/-- **The instructions of a page's content.** -/
def instructions (content : Bytes) : List Instruction :=
  let bs := readable content
  readInstructions (bs.length + 1) {} bs

end LineAgents.Pdf
