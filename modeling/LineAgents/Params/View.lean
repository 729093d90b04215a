import LineAgents.Params.Shape

/-!
# Parameters as a schema sees them

Before a schema looks at named parameters, those that are `null` are dropped: they count as not
given. One name is special. The value given to `__proto__` is no parameter; an object or a list in
that place becomes the **ancestor** of the parameters, in which a name that is not given is looked
up next. Behind everything stand the members that every object has, and every list; a schema finds
a function under their names.
-/

namespace LineAgents.Params

/-- **What a schema finds under a name.** -/
inductive Found where
  | absent
  | given (v : Json)
  | function

/-- The names of the members that every object has. -/
def objectMembers : List Text :=
  ["constructor", "hasOwnProperty", "isPrototypeOf", "propertyIsEnumerable", "toLocaleString",
    "toString", "valueOf", "__defineGetter__", "__defineSetter__", "__lookupGetter__",
    "__lookupSetter__"].map Text.ofString

/-- The names of the members that every list has besides. -/
def listMembers : List Text :=
  ["at", "concat", "copyWithin", "entries", "every", "fill", "filter", "find", "findIndex",
    "findLast", "findLastIndex", "flat", "flatMap", "forEach", "includes", "indexOf", "join",
    "keys", "lastIndexOf", "map", "pop", "push", "reduce", "reduceRight", "reverse", "shift",
    "slice", "some", "sort", "splice", "toReversed", "toSorted", "toSpliced", "unshift", "values",
    "with"].map Text.ofString

/-- **The parameters as a schema sees them**: those that are given, and the record behind them. -/
structure View where
  own : Fields
  ancestor : Option Json := none

/-- The view of named parameters: nulls are dropped, and the ancestor is set apart. -/
def View.of (params : Fields) : View where
  own := params.filter fun f => !f.2.isNull && f.1 != ancestorName
  ancestor := match params.get? ancestorName with
    | some (.obj fields) => some (.obj fields)
    | some (.arr items) => some (.arr items)
    | _ => none

/-- What every object holds under a name. -/
def builtin (name : Text) : Found :=
  if objectMembers.contains name then .function
  else if name == ancestorName then .given (.obj [])
  else .absent

/-- What a record behind the parameters holds under a name. -/
def inherited (name : Text) : Option Json → Found
  | some (.obj fields) => match Fields.get? fields name with
    | some v => .given v
    | none => builtin name
  | some (.arr items) =>
    match (arrayIndex? name).bind fun i => items[i]? with
    | some v => .given v
    | none =>
      if name == "length" then .given (.ofNat items.length)
      else if listMembers.contains name then .function
      else builtin name
  | _ => builtin name

/-- What a schema finds under a name. -/
def View.find (view : View) (name : Text) : Found :=
  match view.own.get? name with
  | some v => .given v
  | none => inherited name view.ancestor

end LineAgents.Params
