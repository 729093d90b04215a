import LineAgents.Pdf.Deflate
import LineAgents.Pdf.Parser

/-!
# Archives of objects

The bytes of a PDF document hold numbered objects, a table of where each begins, and a trailer that
names the first object of all, the root. `LineAgents.Pdf.Archive.open?` follows the table; where the
table is of no use, `LineAgents.Pdf.Archive.recover?` looks for the objects and the trailers in the
bytes themselves.
-/

namespace LineAgents.Pdf

/-- **An archive**: for each number the bytes from the beginning of its object on, the first mention
of a number counting, and the trailer. -/
structure Archive where
  objects : List (Nat × Bytes)
  trailer : Obj

/-! ### Reading numbered objects -/

/-- The bytes after the head `n g obj` of an object, and its number. -/
def objectHead? (bs : Bytes) : Option (Nat × Bytes) :=
  match nextWord [] bs with
  | .word (.int n) rest =>
    match nextWord [] rest with
    | .word (.int _) rest =>
      match nextWord [] rest with
      | .word (.keyword k) rest => if k == "obj" then some (n.toNat, rest) else none
      | _ => none
    | _ => none
  | _ => none

/-- The object at the beginning of the bytes. -/
def object? (length : Obj → Option Nat) (bs : Bytes) : Option Obj :=
  match nextObject [] length bs with
  | .object o _ => some o
  | _ => none

namespace Archive

/-- The object of a number, given how to find lengths; its head has to name it. -/
def find? (a : Archive) (length : Obj → Option Nat) (n : Nat) : Option Obj := do
  let (m, bs) ← objectHead? (← a.objects.lookup n)
  if m = n then object? length bs else none

/-- The length that an object gives, directly or as the object of a number. -/
def length? (a : Archive) : Obj → Option Nat
  | .ref n => (a.find? Obj.nat? n).bind Obj.nat?
  | o => o.nat?

/-- What an object stands for: for a reference, the object of its number. -/
def resolve (a : Archive) : Obj → Obj
  | .ref n => (a.find? a.length? n).getD .null
  | o => o

/-- What the entry of a dictionary stands for. -/
def entry (a : Archive) (o : Obj) (key : Text) : Obj := a.resolve ((o.get? key).getD .null)

/-- The root of the archive, if it leads to pages. -/
def root? (a : Archive) : Option Obj :=
  let root := a.entry a.trailer "Root"
  if root.isDict && (a.entry root "Pages").isDict then some root else none

/-- The bytes of a stream, without its compression. -/
def streamData (a : Archive) : Obj → Bytes
  | .stream entries bytes =>
    let filters := match a.entry (.dict entries) "Filter" with
      | .list fs => fs.map a.resolve
      | .null => []
      | f => [f]
    filters.foldl
      (fun bs f => match f with
        | .name n => if n == "FlateDecode" || n == "Fl" then decompress bs else []
        | _ => [])
      bytes
  | _ => []

end Archive

/-! ### The table -/

/-- The keyword before the place of the table. -/
def startxref : Bytes := [115, 116, 97, 114, 116, 120, 114, 101, 102]

/-- The bytes after the last occurrence of the keyword. -/
def afterLast (keyword : Bytes) : Bytes → Option Bytes
  | [] => none
  | b :: bs =>
    match afterLast keyword bs with
    | some found => some found
    | none => if keyword.isPrefixOf (b :: bs) then some ((b :: bs).drop keyword.length) else none

/-- The place of the table, zero where none is given. -/
def tablePlace (data : Bytes) : Nat :=
  match afterLast startxref data with
  | none => 0
  | some bs => codeDigits ((bs.dropWhile isSpace).takeWhile isDigit)
where
  /-- The number that digits spell. -/
  codeDigits (ds : Bytes) : Nat := ds.foldl (fun (n : Nat) (b : UInt8) => n * 10 + (b.toNat - 48)) 0

/-- The rows of a section of the table: the objects of a count of numbers from `first` on. -/
def tableRows? (data : Bytes) : Nat → Nat → Bytes → Option (List (Nat × Bytes) × Bytes)
  | 0, _, bs => some ([], bs)
  | count + 1, first, bs =>
    match nextWord [] bs with
    | .word (.int place) rest =>
      match nextWord [] rest with
      | .word (.int _) rest =>
        match nextWord [] rest with
        | .word (.keyword k) rest => do
          let (rows, rest) ← tableRows? data count (first + 1) rest
          if k == "n" then return ((first, data.drop place.toNat) :: rows, rest)
          else if k == "f" then return (rows, rest)
          else none
        | _ => none
      | _ => none
    | _ => none

/-- The sections of the table and the trailer after them. -/
def tableSections? (data : Bytes) : Nat → List (Nat × Bytes) → Bytes → Option Archive
  | 0, _, _ => none
  | fuel + 1, acc, bs =>
    match nextWord [] bs with
    | .word (.keyword k) rest =>
      if k == "trailer" then do
        let trailer ← object? (fun _ => none) rest
        if trailer.isDict then some ⟨acc, trailer⟩ else none
      else none
    | .word (.int first) rest =>
      match nextWord [] rest with
      | .word (.int count) rest => do
        let count := min count.toNat data.length
        let (rows, rest) ← tableRows? data count first.toNat rest
        tableSections? data fuel (acc ++ rows) rest
      | _ => none
    | _ => none

/-- The archive of a table that leads to pages. -/
def Archive.open? (data : Bytes) : Option Archive :=
  match nextWord [] (data.drop (tablePlace data)) with
  | .word (.keyword k) rest => do
    if k != "xref" then none
    let archive ← tableSections? data (data.length + 1) [] rest
    let _ ← archive.root?
    return archive
  | _ => none

/-! ### Recovery -/

/-- **What stands out in the bytes** when they are searched from the front. -/
inductive Landmark where
  | object (number : Nat) (bytes : Bytes)
  | trailer (bytes : Bytes)

/-- The keywords that the search stops at. -/
def trailerKeyword : Bytes := [116, 114, 97, 105, 108, 101, 114]

/-- The keyword before a table. -/
def tableKeyword : Bytes := [120, 114, 101, 102]

/-- The keyword after an object. -/
def endobjKeyword : Bytes := [101, 110, 100, 111, 98, 106]

/-- **Where the search is**: at the beginning of a word, inside a comment, inside other text, inside
an object, there at the beginning of a word or not. -/
inductive SearchState where
  | start
  | comment
  | other
  | object (fresh : Bool)

/-- The number of the object whose head the bytes begin with. -/
def headAt? (bs : Bytes) : Option Nat :=
  if bs.head?.any isDigit then (objectHead? bs).map (·.1) else none

/-- A byte of a word: a letter, a digit or a low line. -/
def isWordByte (b : UInt8) : Bool :=
  isDigit b || (65 ≤ b && b ≤ 90) || (97 ≤ b && b ≤ 122) || b == 95

/-- The landmarks of the bytes. An object ends at its keyword, or where the next one begins. -/
def landmarks (state : SearchState) : Bytes → List Landmark
  | [] => []
  | b :: bs =>
    let lineEnd := b == 10 || b == 13
    match state with
    | .comment => landmarks (if lineEnd then .start else .comment) bs
    | .other => landmarks (if lineEnd || b == 60 then .start else .other) bs
    | .object fresh =>
      if fresh && (endobjKeyword.isPrefixOf (b :: bs) || tableKeyword.isPrefixOf (b :: bs)) then
        landmarks .other bs
      else
        match if fresh then headAt? (b :: bs) else none with
        | some n => .object n (b :: bs) :: landmarks (.object false) bs
        | none => landmarks (.object (!isWordByte b)) bs
    | .start =>
      if b == 9 || b == 32 || lineEnd then landmarks .start bs
      else if b == 37 then landmarks .comment bs
      else if trailerKeyword.isPrefixOf (b :: bs) then
        .trailer ((b :: bs).drop trailerKeyword.length) :: landmarks .other bs
      else
        match headAt? (b :: bs) with
        | some n => .object n (b :: bs) :: landmarks (.object false) bs
        | none => landmarks .other bs

/-- The objects among landmarks, the last one first. -/
def Landmark.objects (ls : List Landmark) : List (Nat × Bytes) :=
  (ls.filterMap fun
    | .object n bs => some (n, bs)
    | .trailer _ => none).reverse

/-- The trailers among landmarks. -/
def Landmark.trailers (ls : List Landmark) : List Obj :=
  ls.filterMap fun
    | .object _ _ => none
    | .trailer bs => (object? (fun _ => none) bs).filter Obj.isDict

/-- **The archive found by searching**: of the trailers that lead to pages, the first that has an
identity, or else the last. -/
def Archive.recover? (data : Bytes) : Option Archive :=
  let ls := landmarks .start data
  let objects := Landmark.objects ls
  let candidates := (Landmark.trailers ls).filter fun t => (Archive.mk objects t).root?.isSome
  let trailer := (candidates.find? fun t => (t.get? (Text.ofString "ID")).isSome).or
    candidates.getLast?
  trailer.map (Archive.mk objects)

end LineAgents.Pdf
