import LineAgents.Pdf.Lexer

/-!
# Maps from codes to characters

A composite font says in a stream of its own which character each of its codes stands for: between
the keywords `beginbfchar` and `endbfchar` stand pairs of strings, a code and its characters in
UTF-16, of which the first counts.
-/

namespace LineAgents.Pdf

/-- The words of bytes up to their end or to something illegal. -/
def wordsOf : Nat → Bytes → List Word
  | 0, _ => []
  | fuel + 1, bs =>
    match nextWord [] bs with
    | .word w rest => w :: wordsOf fuel rest
    | _ => []

/-- The number that a string of bytes spells, the highest byte first. -/
def codeOf (s : Text) : Nat := s.foldl (fun (n : Nat) (u : UInt16) => n * 256 + u.toNat) 0

/-- The first code point of UTF-16 bytes; what is missing of a pair counts as zero. -/
def firstCharacter? (s : Text) : Option Nat :=
  let byte (i : Nat) : Nat := (s[i]?.getD 0).toNat
  match s with
  | [] => none
  | [u] => some u.toNat
  | _ =>
    let high := byte 0 * 256 + byte 1
    if 0xD800 ≤ high && high ≤ 0xDFFF then
      some (0x10000 + high % 0x400 * 0x400 + (byte 2 * 256 + byte 3) % 0x400)
    else some high

/-- The pairs of strings between the keywords, the last one first. -/
def collectPairs (inside : Bool) (acc : List (Nat × Nat)) : List Word → List (Nat × Nat)
  | .str code :: .str text :: rest =>
    match inside, firstCharacter? text with
    | true, some c => collectPairs true ((codeOf code, c) :: acc) rest
    | _, _ => collectPairs inside acc rest
  | .keyword k :: rest =>
    if k == "beginbfchar" then collectPairs true acc rest
    else if k == "endbfchar" then collectPairs false acc rest
    else collectPairs inside acc rest
  | _ :: rest => collectPairs inside acc rest
  | [] => acc

/-- **The characters of the codes**, the last mention of a code first. -/
def characterMap (data : Bytes) : List (Nat × Nat) :=
  collectPairs false [] (wordsOf (data.length + 1) data)

end LineAgents.Pdf
