import LineAgents.Json.Basic
import LineAgents.Number.Printer

/-!
# Data values

What a computation hands back is a **data value**: a JSON value, or one of the few things that JSON
cannot hold. An absent value is left out of an object and written `null` in a list; an integer
beyond doubles and a value that contains itself have no JSON form at all, wherever they occur.

* `LineAgents.Value.serializable` says whether a value has a JSON form, and
  `LineAgents.Value.toJson?` is that form, `none` for a value that is absent.
* `LineAgents.Value.toText` is the text of a value, the form in which a failure that is no error
  shows in a message, and `LineAgents.Value.counts` says whether there is anything to it.
-/

namespace LineAgents

/-- **A data value**: a JSON value, or something that JSON cannot hold. -/
inductive Value where
  | undefined
  | null
  | bool (b : Bool)
  | num (x : Float)
  | bigint (n : Int)
  | str (s : Text)
  | arr (items : List Value)
  | obj (fields : List (Text × Value))
  | circular
  deriving Inhabited

namespace Value

/-! ### JSON values as data values -/

mutual

/-- A JSON value as a data value. -/
def ofJson : Json → Value
  | .null => .null
  | .bool b => .bool b
  | .num x => .num x
  | .str s => .str s
  | .arr items => .arr (ofItems items)
  | .obj fields => .obj (ofFields fields)

/-- JSON values as data values. -/
def ofItems : List Json → List Value
  | [] => []
  | v :: vs => ofJson v :: ofItems vs

/-- JSON fields as fields of data values. -/
def ofFields : List (Text × Json) → List (Text × Value)
  | [] => []
  | f :: fs => ofField f :: ofFields fs

/-- A JSON field as a field of data values. -/
def ofField : Text × Json → Text × Value
  | (name, v) => (name, ofJson v)

end

/-! ### The JSON form of a value -/

mutual

/-- Whether the value has a JSON form: nothing in it is an integer beyond doubles or contains
itself. -/
def serializable : Value → Bool
  | .bigint _ | .circular => false
  | .arr items => serializableItems items
  | .obj fields => serializableFields fields
  | _ => true

/-- Whether every member has a JSON form. -/
def serializableItems : List Value → Bool
  | [] => true
  | v :: vs => serializable v && serializableItems vs

/-- Whether every field has a JSON form. -/
def serializableFields : List (Text × Value) → Bool
  | [] => true
  | f :: fs => serializableField f && serializableFields fs

/-- Whether the value of the field has a JSON form. -/
def serializableField : Text × Value → Bool
  | (_, v) => serializable v

end

mutual

/-- The JSON form of a value; an absent value has none. -/
def toJson? : Value → Option Json
  | .undefined | .bigint _ | .circular => none
  | .null => some .null
  | .bool b => some (.bool b)
  | .num x => some (.num x)
  | .str s => some (.str s)
  | .arr items => some (.arr (itemsToJson items))
  | .obj fields => some (.obj (fieldsToJson fields))

/-- The JSON forms of the members of a list, `null` for one that is absent. -/
def itemsToJson : List Value → List Json
  | [] => []
  | v :: vs => (toJson? v).getD .null :: itemsToJson vs

/-- The JSON forms of the fields of an object, without those whose value is absent. -/
def fieldsToJson : List (Text × Value) → List (Text × Json)
  | [] => []
  | f :: fs => fieldToJson f ++ fieldsToJson fs

/-- The JSON form of a field, if its value is there. -/
def fieldToJson : Text × Value → List (Text × Json)
  | (name, v) => match toJson? v with
    | some j => [(name, j)]
    | none => []

end

/-! ### The text of a value -/

/-- Whether a value counts as something: nothing does that is absent, and no `null`, `false`, zero,
undefined number or empty text does. -/
def counts : Value → Bool
  | .undefined | .null => false
  | .bool b => b
  | .num x => !(x == 0 || Number.isNaN x)
  | .bigint n => n != 0
  | .str s => !s.isEmpty
  | _ => true

/-- Absent or `null`. -/
def isNothing : Value → Bool
  | .undefined | .null => true
  | _ => false

mutual

/-- The text of a value; a list is the texts of its members with commas between them. -/
def toText : Value → Text
  | .undefined => "undefined"
  | .null => "null"
  | .bool true => "true"
  | .bool false => "false"
  | .num x => Number.toText x
  | .bigint n => if n < 0 then "-" ++ Text.ofNat n.natAbs else Text.ofNat n.natAbs
  | .str s => s
  | .arr items => Text.join "," (itemTexts items)
  | .obj _ | .circular => "[object Object]"

/-- The texts of the members of a list; an absent member and `null` have an empty one. -/
def itemTexts : List Value → List Text
  | [] => []
  | v :: vs => (if v.isNothing then [] else toText v) :: itemTexts vs

end

end Value

end LineAgents
