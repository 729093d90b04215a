import LineAgents.Text.Basic

/-!
# JSON values

`LineAgents.Json` is the type of JSON values. An object is a list of named fields in the order in
which they are written: names that spell an array index come first, in ascending order, and the
others follow in the order of their first appearance. `LineAgents.Fields.set` keeps that order, and
`LineAgents.Fields.ofPairs` establishes it, the last value given to a name winning.
-/

namespace LineAgents

/-- **A JSON value**; the fields of an object stand in the order in which they are written. -/
inductive Json where
  | null
  | bool (b : Bool)
  | num (x : Float)
  | str (s : Text)
  | arr (items : List Json)
  | obj (fields : List (Text × Json))
  deriving Inhabited

/-- The named fields of an object. -/
abbrev Fields := List (Text × Json)

/-! ### Names that spell an index -/

/-- The array index that a name spells: a decimal numeral without leading zeros, below
`2 ^ 32 - 1`. -/
def arrayIndex? (name : Text) : Option Nat :=
  if name.isEmpty || 10 < name.length || !name.all Text.isDigit then none
  else
    let n := name.foldl (fun n u => n * 10 + (u.toNat - 48)) 0
    if (name.head? == some 48 && name != [48]) || n > 4294967294 then none else some n

/-- Whether a name is written before another that was there first: only an index is, before every
name that is no smaller index. -/
def writtenBefore (new old : Text) : Bool :=
  match arrayIndex? new, arrayIndex? old with
  | some i, some j => i < j
  | some _, none => true
  | none, _ => false

/-! ### Named values in order -/

section
variable {α : Type}

/-- Puts a new name into its place among the names that are there. -/
def insertNamed (name : Text) (v : α) : List (Text × α) → List (Text × α)
  | [] => [(name, v)]
  | f :: fs => if writtenBefore name f.1 then (name, v) :: f :: fs else f :: insertNamed name v fs

/-- Gives `name` the value `v`: in place if the name is there, else as a new field. -/
def setNamed (name : Text) (v : α) (fs : List (Text × α)) : List (Text × α) :=
  if fs.any (·.1 == name) then fs.map fun f => if f.1 == name then (name, v) else f
  else insertNamed name v fs

/-- The named values of a sequence of assignments. -/
def collectNamed (ps : List (Text × α)) : List (Text × α) :=
  ps.foldl (fun fs p => setNamed p.1 p.2 fs) []

end

namespace Fields

/-- The value of the field `name`. -/
def get? (fs : Fields) (name : Text) : Option Json := fs.lookup name

/-- The fields with `name` set to `v`. -/
def set (fs : Fields) (name : Text) (v : Json) : Fields := setNamed name v fs

/-- The fields of an object whose members are written in the order `ps`; a later value of a name
replaces an earlier one. -/
def ofPairs (ps : List (Text × Json)) : Fields := collectNamed ps

end Fields

namespace Json

/-- The object whose members are written in the order `ps`. -/
def ofPairs (ps : List (Text × Json)) : Json := .obj (Fields.ofPairs ps)

/-- The value of a member of an object. -/
def get? : Json → Text → Option Json
  | .obj fs, name => Fields.get? fs name
  | _, _ => none

/-- The text of a string value. -/
def text? : Json → Option Text
  | .str s => some s
  | _ => none

/-- The number of a numeric value. -/
def number? : Json → Option Float
  | .num x => some x
  | _ => none

/-- Whether a value is `null`. -/
def isNull : Json → Bool
  | .null => true
  | _ => false

/-- A text if there is one, and `null` otherwise. -/
def ofText? : Option Text → Json
  | some t => .str t
  | none => .null

/-- The number that a natural number is as a double. -/
def ofNat (n : Nat) : Json := .num (Float.ofNat n)

end Json

end LineAgents
