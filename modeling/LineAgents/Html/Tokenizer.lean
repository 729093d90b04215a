import LineAgents.Html.CharRef
import LineAgents.Html.Doctype

/-!
# Reading tokens

`LineAgents.Html.nextTokens` takes the next piece off the front of an HTML text, whose line ends
have been made line feeds. A piece is one token, or none for markup that says nothing, such as an
empty end tag or a tag that the text breaks off in. Which characters are markup depends on the mode:
after some start tags only the matching end tag is.
-/

namespace LineAgents.Html

/-! ### Line ends -/

/-- The text with a line feed for every carriage return, with or without a line feed after it. -/
def normalizeLineEnds : Text → Text
  | 13 :: 10 :: t => 10 :: normalizeLineEnds t
  | 13 :: t => 10 :: normalizeLineEnds t
  | u :: t => u :: normalizeLineEnds t
  | [] => []

/-! ### Tags -/

/-- A unit of a name: in lower case, and never null. -/
def nameUnit (u : UInt16) : UInt16 := if u == 0 then 0xFFFD else Text.asciiLower u

/-- A unit that ends the name of a tag. -/
def endsName (u : UInt16) : Bool := isSpace u || u == 47 || u == 62

/-- A value in which character references stand for their characters, up to a number of units. -/
def decodeValue : Nat → Text → Text
  | 0, _ => []
  | _, [] => []
  | fuel + 1, u :: t =>
    if u == 38 then
      match charRef? true t with
      | some (s, rest) => s ++ decodeValue fuel rest
      | none => u :: decodeValue fuel t
    else (if u == 0 then 0xFFFD else u) :: decodeValue fuel t

/-- The value of an attribute, from what follows its equals sign, and the rest; nothing if the text
breaks off in it. -/
def attributeValue? (t : Text) : Option (Text × Text) :=
  let quoted (q : UInt16) (t : Text) : Option (Text × Text) :=
    let raw := t.takeWhile (· != q)
    match t.drop raw.length with
    | [] => none
    | _ :: rest => some (decodeValue raw.length raw, rest)
  match dropSpace t with
  | [] => none
  | 34 :: rest => quoted 34 rest
  | 39 :: rest => quoted 39 rest
  | 62 :: rest => some ([], 62 :: rest)
  | t =>
    let raw := t.takeWhile fun u => !isSpace u && u != 62
    some (decodeValue raw.length raw, t.drop raw.length)

/-- Adds an attribute unless its name is there. -/
def addAttribute (a : Attribute) (attributes : List Attribute) : List Attribute :=
  if attributes.any (·.1 == a.1) then attributes else attributes ++ [a]

/-- **The attributes of a tag**, whether it closes itself, and what follows it; nothing if the text
breaks off in it. -/
def tagRest? : Nat → List Attribute → Text → Option (List Attribute × Bool × Text)
  | 0, _, _ => none
  | fuel + 1, attributes, t =>
    match dropSpace t with
    | [] => none
    | 62 :: rest => some (attributes, false, rest)
    | 47 :: 62 :: rest => some (attributes, true, rest)
    | 47 :: rest => tagRest? fuel attributes rest
    | u :: t =>
      let raw := u :: t.takeWhile fun u => !endsName u && u != 61
      let name := raw.map nameUnit
      match dropSpace (t.drop (raw.length - 1)) with
      | 61 :: rest =>
        match attributeValue? rest with
        | some (value, rest) => tagRest? fuel (addAttribute (name, value) attributes) rest
        | none => none
      | rest => tagRest? fuel (addAttribute (name, []) attributes) rest

/-- A tag from its name on: its name, its attributes, whether it closes itself, and the rest. -/
def tag? (t : Text) : Option (Text × List Attribute × Bool × Text) :=
  let raw := t.takeWhile (!endsName ·)
  (tagRest? (t.length + 1) [] (t.drop raw.length)).map fun (attributes, closing, rest) =>
    (raw.map nameUnit, attributes, closing, rest)

/-! ### Comments and sections -/

/-- What follows the end of a comment, in the body of one. -/
def afterComment : Text → Text
  | 45 :: 45 :: 62 :: t => t
  | 45 :: 45 :: 33 :: 62 :: t => t
  | _ :: t => afterComment t
  | [] => []

/-- What follows a comment, from after its opening; it may be closed at once. -/
def comment (t : Text) : Text :=
  match t with
  | 62 :: rest => rest
  | 45 :: 62 :: rest => rest
  | t => afterComment t

/-- The text of a character data section, and what follows its end. -/
def cdata : Text → Text × Text
  | 93 :: 93 :: 62 :: t => ([], t)
  | u :: t =>
    let (s, rest) := cdata t
    (u :: s, rest)
  | [] => ([], [])

/-! ### Runs of text -/

/-- The units of a text as tokens: runs of white space, nulls, and runs of anything else. -/
def runs : Nat → Text → List Token
  | 0, _ => []
  | _, [] => []
  | fuel + 1, u :: t =>
    if u == 0 then .null :: runs fuel t
    else if isSpace u then
      .blank (u :: t.takeWhile isSpace) :: runs fuel (t.dropWhile isSpace)
    else
      let ordinary (v : UInt16) : Bool := v != 0 && !isSpace v
      .text (u :: t.takeWhile ordinary) :: runs fuel (t.dropWhile ordinary)

/-- The tokens of a piece of text. -/
def textTokens (t : Text) : List Token := runs t.length t

/-- A text with the replacement character for every null. -/
def replaceNulls (t : Text) : Text := t.map fun u => if u == 0 then 0xFFFD else u

/-! ### Text up to an end tag -/

/-- Whether the end tag of a name is next. -/
def atEndTag (name t : Text) : Bool :=
  match t with
  | 60 :: 47 :: rest =>
    startsWord name rest && match rest.drop name.length with
      | u :: _ => endsName u
      | [] => false
  | _ => false

/-- The text before the end tag of a name. -/
def untilEndTag (name : Text) : Text → Text
  | [] => []
  | u :: t => if atEndTag name (u :: t) then [] else u :: untilEndTag name t

/-- **Where a script stands**: outside of comments, inside one, or inside a script in a comment,
with the number of hyphens just before. -/
inductive ScriptState where
  | outside
  | comment (hyphens : Nat)
  | nested (hyphens : Nat)
  deriving DecidableEq, Repr

/-- Whether the word `script` and the end of a name are next. -/
def atScriptWord (t : Text) : Bool :=
  startsWord "script" t && match t.drop 6 with
    | u :: _ => endsName u
    | [] => false

/-- The state of a script after one unit, with what follows it. -/
def ScriptState.after (s : ScriptState) (u : UInt16) (t : Text) : ScriptState :=
  match s with
  | .outside =>
    if u == 60 && (Text.ofString "!--").isPrefixOf t then .comment 0 else .outside
  | .comment hyphens =>
    if u == 45 then .comment (hyphens + 1)
    else if u == 62 && 2 ≤ hyphens then .outside
    else if u == 60 && atScriptWord t then .nested 0
    else .comment 0
  | .nested hyphens =>
    if u == 45 then .nested (hyphens + 1)
    else if u == 62 && 2 ≤ hyphens then .outside
    else if u == 60 && t.head? == some 47 && atScriptWord (t.drop 1) then .comment 0
    else .nested 0

/-- The text of a script before its end tag. -/
def untilScriptEnd (s : ScriptState) : Text → Text
  | [] => []
  | u :: t =>
    let nested := match s with
      | .nested _ => true
      | _ => false
    if !nested && atEndTag "script" (u :: t) then [] else u :: untilScriptEnd (s.after u t) t

/-- A text in which character references stand for their characters, up to a number of units. -/
def decodeText : Nat → Text → Text
  | 0, _ => []
  | _, [] => []
  | fuel + 1, u :: t =>
    if u == 38 then
      match charRef? false t with
      | some (s, rest) => s ++ decodeText fuel rest
      | none => u :: decodeText fuel t
    else u :: decodeText fuel t

/-! ### The next tokens -/

/-- **What is next in a text**: tokens, the text after them, and the mode for it. -/
structure Piece where
  tokens : List Token
  rest : Text
  mode : TextMode := .markup

/-- Markup, from what follows its opening bracket. Character data sections count only where
`sections` says so. -/
def markup (sections : Bool) (t : Text) : Piece :=
  match t with
  | 33 :: r =>
    if (Text.ofString "--").isPrefixOf r then ⟨[.comment], comment (r.drop 2), .markup⟩
    else if startsWord "doctype" r then
      let (token, rest) := doctype (r.drop 7)
      ⟨[token], rest, .markup⟩
    else if sections && (Text.ofString "[CDATA[").isPrefixOf r then
      let (s, rest) := cdata (r.drop 7)
      ⟨textTokens s, rest, .markup⟩
    else ⟨[.comment], afterBracket r, .markup⟩
  | 47 :: u :: r =>
    if Text.isLetter u then
      match tag? (u :: r) with
      | some (name, _, _, rest) => ⟨[.endTag name], rest, .markup⟩
      | none => ⟨[], [], .markup⟩
    else if u == 62 then ⟨[], r, .markup⟩
    else ⟨[.comment], afterBracket (u :: r), .markup⟩
  | [47] => ⟨textTokens "</", [], .markup⟩
  | 63 :: r => ⟨[.comment], afterBracket r, .markup⟩
  | u :: r =>
    if Text.isLetter u then
      match tag? (u :: r) with
      | some (name, attributes, closing, rest) =>
        ⟨[.startTag name attributes closing], rest, .markup⟩
      | none => ⟨[], [], .markup⟩
    else ⟨[.text [60]], u :: r, .markup⟩
  | [] => ⟨[.text [60]], [], .markup⟩

/-- Text that ends at an end tag, or that end tag. -/
def upTo (mode : TextMode) (body : Text) (decode : Text → Text) (t : Text) : Piece :=
  if body.isEmpty then markup false (t.drop 1)
  else ⟨textTokens (replaceNulls (decode body)), t.drop body.length, mode⟩

/-- **The next tokens of a text that is not empty.** -/
def nextTokens (mode : TextMode) (sections : Bool) (t : Text) : Piece :=
  match mode with
  | .markup =>
    match t with
    | 60 :: r => markup sections r
    | 38 :: r =>
      match charRef? false r with
      | some (s, rest) => ⟨textTokens s, rest, .markup⟩
      | none => ⟨[.text [38]], r, .markup⟩
    | t =>
      let body := t.takeWhile fun u => u != 60 && u != 38
      ⟨textTokens body, t.drop body.length, .markup⟩
  | .escapable name => upTo mode (untilEndTag name t) (fun s => decodeText s.length s) t
  | .raw name => upTo mode (untilEndTag name t) id t
  | .script => upTo mode (untilScriptEnd .outside t) id t
  | .plain => ⟨textTokens (replaceNulls t), [], .plain⟩

end LineAgents.Html
