import LineAgents.Text.Utf8

/-!
# Objects of PDF

What a PDF document is made of: numbers, byte strings, names, lists, dictionaries, references to
numbered objects, and streams, which are dictionaries with bytes. Names and strings are kept as
texts, one unit for each byte. A dictionary holds its last entry first, so that of two entries under
one key the later one counts.
-/

namespace LineAgents.Pdf

/-- **An object.** -/
inductive Obj where
  | null
  | bool (b : Bool)
  | int (n : Int)
  | real (x : Float)
  | str (codes : Text)
  | name (n : Text)
  | list (items : List Obj)
  | dict (entries : List (Text × Obj))
  | ref (number : Nat)
  | stream (entries : List (Text × Obj)) (bytes : Bytes)
  deriving Inhabited

namespace Obj

/-- The entries of a dictionary or of a stream. -/
def entries : Obj → List (Text × Obj)
  | .dict es => es
  | .stream es _ => es
  | _ => []

/-- The entry of a dictionary under a key. -/
def get? (o : Obj) (key : Text) : Option Obj := o.entries.lookup key

/-- Whether the object is a dictionary. -/
def isDict : Obj → Bool
  | .dict _ => true
  | _ => false

/-- The number that an object is. -/
def number? : Obj → Option Float
  | .int n => some (match n with
    | .ofNat k => Float.ofNat k
    | .negSucc k => -Float.ofNat (k + 1))
  | .real x => some x
  | _ => none

/-- The natural number that an object is. -/
def nat? : Obj → Option Nat
  | .int (.ofNat n) => some n
  | _ => none

/-- The members of a list. -/
def items : Obj → List Obj
  | .list xs => xs
  | _ => []

end Obj

end LineAgents.Pdf
