import LineAgents.Text.Utf8

/-!
# Compressed streams

Streams of a PDF document may be compressed: a sequence of blocks, in which bytes are given as they
are, as symbols of a prefix code, or as copies of earlier bytes. `LineAgents.Pdf.decompress` undoes
that. A prefix code is a tree, `LineAgents.Pdf.PrefixCode`, whose words are assigned in order from
the lengths alone. What was decompressed before a fault in the data is kept, and the checksum at the
end is not looked at.
-/

namespace LineAgents.Pdf

/-! ### Bits -/

/-- The bits of bytes, the lowest bit of each byte first. -/
def bitsOf (bs : Bytes) : List Bool :=
  bs.flatMap fun b => (List.range 8).map fun i => b.toNat.testBit i

/-- The number of some bits, the lowest first. -/
def natOfBits (bits : List Bool) : Nat := bits.foldr (fun b n => b.toNat + 2 * n) 0

/-- A number of `n` bits off the front of the bits. -/
def takeNat? (n : Nat) (bits : List Bool) : Option (Nat × List Bool) :=
  let front := bits.take n
  if front.length < n then none else some (natOfBits front, bits.drop n)

/-! ### Prefix codes -/

/-- **A prefix code**: a tree whose paths are the words and whose leaves are the symbols. -/
inductive PrefixCode where
  | unused
  | symbol (s : Nat)
  | fork (zero one : PrefixCode)

namespace PrefixCode

/-- The code with one more word. -/
def insert : PrefixCode → List Bool → Nat → PrefixCode
  | _, [], s => .symbol s
  | .fork l r, false :: w, s => .fork (l.insert w s) r
  | .fork l r, true :: w, s => .fork l (r.insert w s)
  | _, false :: w, s => .fork (insert .unused w s) .unused
  | _, true :: w, s => .fork .unused (insert .unused w s)

/-- The bits of a number in a number of places, the highest first. -/
def wordOf : Nat → Nat → List Bool
  | 0, _ => []
  | n + 1, w => w.testBit n :: wordOf n w

/-- **The code of given lengths**: shorter words come before longer ones, and of equal length the
word of a smaller symbol comes first. A symbol of length zero has no word. -/
def ofLengths (lengths : List Nat) : PrefixCode :=
  let longest := lengths.foldl max 0
  let (code, _) := ((List.range longest).map (· + 1)).foldl
    (fun (acc : PrefixCode × Nat) n =>
      lengths.zipIdx.foldl
        (fun (acc : PrefixCode × Nat) p =>
          if p.1 = n then (acc.1.insert (wordOf n acc.2) p.2, acc.2 + 1) else acc)
        (acc.1, acc.2 * 2))
    (.unused, 0)
  code

/-- The symbol of the word at the front of the bits. -/
def decode? : PrefixCode → List Bool → Option (Nat × List Bool)
  | .symbol s, bits => some (s, bits)
  | .fork l r, b :: bits => if b then r.decode? bits else l.decode? bits
  | .fork _ _, [] => none
  | .unused, _ => none

end PrefixCode

/-! ### Blocks -/

/-- The prefix codes of a block, one for bytes and lengths of copies, and one for distances. -/
structure Codes where
  literals : PrefixCode
  distances : PrefixCode

/-- The codes of a block that does not describe its own. -/
def Codes.fixed : Codes where
  literals := .ofLengths (List.replicate 144 8 ++ List.replicate 112 9 ++ List.replicate 24 7 ++
    List.replicate 8 8)
  distances := .ofLengths (List.replicate 30 5)

/-- The least length of each symbol for a copy, and how many bits more it has. -/
def lengthTable : List (Nat × Nat) := [
  (3, 0), (4, 0), (5, 0), (6, 0), (7, 0), (8, 0), (9, 0), (10, 0), (11, 1), (13, 1), (15, 1),
  (17, 1), (19, 2), (23, 2), (27, 2), (31, 2), (35, 3), (43, 3), (51, 3), (59, 3), (67, 4),
  (83, 4), (99, 4), (115, 4), (131, 5), (163, 5), (195, 5), (227, 5), (258, 0)]

/-- The least distance of each symbol, and how many bits more it has. -/
def distanceTable : List (Nat × Nat) := [
  (1, 0), (2, 0), (3, 0), (4, 0), (5, 1), (7, 1), (9, 2), (13, 2), (17, 3), (25, 3), (33, 4),
  (49, 4), (65, 5), (97, 5), (129, 6), (193, 6), (257, 7), (385, 7), (513, 8), (769, 8),
  (1025, 9), (1537, 9), (2049, 10), (3073, 10), (4097, 11), (6145, 11), (8193, 12), (12289, 12),
  (16385, 13), (24577, 13)]

/-- The order in which the lengths of the code for code lengths are given. -/
def lengthOrder : List Nat :=
  [16, 17, 18, 0, 8, 7, 9, 6, 10, 5, 11, 4, 12, 3, 13, 2, 14, 1, 15]

/-- The value of a symbol in a table, with its further bits. -/
def tableValue? (table : List (Nat × Nat)) (s : Nat) (bits : List Bool) :
    Option (Nat × List Bool) := do
  let (base, extra) ← table[s]?
  let (more, bits) ← takeNat? extra bits
  return (base + more, bits)

/-- What was written with more bytes at its end, copied one after another from a distance back. -/
def copyBack (distance : Nat) : Nat → Array UInt8 → Array UInt8
  | 0, out => out
  | n + 1, out =>
    match out[out.size - distance]? with
    | some b => copyBack distance n (out.push b)
    | none => out

/-- What a run of symbols does to what was written: it reaches the end of its block, with the bits
after it, or stops at a fault. -/
def inflateSymbols (codes : Codes) :
    Nat → Array UInt8 → List Bool → Array UInt8 × Option (List Bool)
  | 0, out, _ => (out, none)
  | fuel + 1, out, bits =>
    match codes.literals.decode? bits with
    | none => (out, none)
    | some (s, bits) =>
      if s < 256 then inflateSymbols codes fuel (out.push s.toUInt8) bits
      else if s = 256 then (out, some bits)
      else
        let copy? : Option (Nat × Nat × List Bool) := do
          let (length, bits) ← tableValue? lengthTable (s - 257) bits
          let (d, bits) ← codes.distances.decode? bits
          let (distance, bits) ← tableValue? distanceTable d bits
          return (length, distance, bits)
        match copy? with
        | none => (out, none)
        | some (length, distance, bits) =>
          if out.size < distance then (out, none)
          else inflateSymbols codes fuel (copyBack distance length out) bits

/-- Code lengths up to a count, themselves given by a code, the last one first; three symbols repeat
a length. -/
def codeLengths? (code : PrefixCode) (count : Nat) :
    Nat → List Nat → List Bool → Option (List Nat × List Bool)
  | 0, _, _ => none
  | fuel + 1, acc, bits =>
    if count ≤ acc.length then some ((acc.reverse).take count, bits)
    else do
      let (s, bits) ← code.decode? bits
      let again (base extra length : Nat) : Option (List Nat × List Bool) := do
        let (more, bits) ← takeNat? extra bits
        codeLengths? code count fuel (List.replicate (base + more) length ++ acc) bits
      if s < 16 then codeLengths? code count fuel (s :: acc) bits
      else if s = 16 then again 3 2 (acc.headD 0)
      else if s = 17 then again 3 3 0
      else again 11 7 0

/-- The codes that a block describes at its front. -/
def dynamicCodes? (bits : List Bool) : Option (Codes × List Bool) := do
  let (literals, bits) ← takeNat? 5 bits
  let (distances, bits) ← takeNat? 5 bits
  let (given, bits) ← takeNat? 4 bits
  let given := given + 4
  if bits.length < 3 * given then none
  let lengthOf (s : Nat) : Nat :=
    match lengthOrder.idxOf? s with
    | some i => if i < given then natOfBits ((bits.drop (3 * i)).take 3) else 0
    | none => 0
  let code := PrefixCode.ofLengths ((List.range 19).map lengthOf)
  let count := literals + 257
  let (lengths, bits) ← codeLengths? code (count + distances + 1) (bits.length + 1) []
    (bits.drop (3 * given))
  return (⟨.ofLengths (lengths.take count), .ofLengths (lengths.drop count)⟩, bits)

/-- The bits from the next whole byte on; a byte ends where a multiple of eight bits remains. -/
def alignBits (bits : List Bool) : List Bool := bits.drop (bits.length % 8)

/-- What a block of plain bytes does to what was written. -/
def inflateStored (out : Array UInt8) (bits : List Bool) : Array UInt8 × Option (List Bool) :=
  match takeNat? 32 (alignBits bits) with
  | none => (out, none)
  | some (n, bits) =>
    let length := n % 0x10000
    let bytes := (List.range (min length (bits.length / 8))).map fun i =>
      (natOfBits ((bits.drop (8 * i)).take 8)).toUInt8
    (out ++ bytes.toArray, if bytes.length = length then some (bits.drop (8 * length)) else none)

/-- What the blocks do to what was written, up to the one that says it is the last. -/
def inflateBlocks : Nat → Array UInt8 → List Bool → Array UInt8
  | fuel + 1, out, last :: b₀ :: b₁ :: bits =>
    let (out, next) :=
      match b₁, b₀ with
      | false, false => inflateStored out bits
      | false, true => inflateSymbols .fixed (bits.length + 1) out bits
      | true, false =>
        match dynamicCodes? bits with
        | none => (out, none)
        | some (codes, bits) => inflateSymbols codes (bits.length + 1) out bits
      | true, true => (out, none)
    match next with
    | some bits => if last then out else inflateBlocks fuel out bits
    | none => out
  | _, out, _ => out

/-- **The bytes of a compressed stream.** Two bytes before the blocks name the method; a stream of
another method is empty. -/
def decompress : Bytes → Bytes
  | method :: flags :: bs =>
    if method % 16 != 8 || (method.toNat * 256 + flags.toNat) % 31 != 0 || flags &&& 32 != 0 then []
    else (inflateBlocks (8 * bs.length) #[] (bitsOf bs)).toList
  | _ => []

end LineAgents.Pdf
