import LineAgents.Html.Token

/-!
# Document types

A document type decides one thing that shows in the tree: whether the document follows the old
layout rules, under which a table does not end the paragraph before it. It does unless the type is
named `html` and neither of its identifiers is one of a fixed list of old ones.
-/

namespace LineAgents.Html

/-- The beginnings of public identifiers that ask for the old rules. -/
def oldPublicBeginnings : List Text := Text.ofStrings [
  "+//silmaril//dtd html pro v0r11 19970101//", "-//as//dtd html 3.0 aswedit + extensions//",
  "-//advasoft ltd//dtd html 3.0 aswedit + extensions//", "-//ietf//dtd html 2.0 level 1//",
  "-//ietf//dtd html 2.0 level 2//", "-//ietf//dtd html 2.0 strict level 1//",
  "-//ietf//dtd html 2.0 strict level 2//", "-//ietf//dtd html 2.0 strict//",
  "-//ietf//dtd html 2.0//", "-//ietf//dtd html 2.1e//", "-//ietf//dtd html 3.0//",
  "-//ietf//dtd html 3.2 final//", "-//ietf//dtd html 3.2//", "-//ietf//dtd html 3//",
  "-//ietf//dtd html level 0//", "-//ietf//dtd html level 1//", "-//ietf//dtd html level 2//",
  "-//ietf//dtd html level 3//", "-//ietf//dtd html strict level 0//",
  "-//ietf//dtd html strict level 1//", "-//ietf//dtd html strict level 2//",
  "-//ietf//dtd html strict level 3//", "-//ietf//dtd html strict//", "-//ietf//dtd html//",
  "-//metrius//dtd metrius presentational//",
  "-//microsoft//dtd internet explorer 2.0 html strict//",
  "-//microsoft//dtd internet explorer 2.0 html//",
  "-//microsoft//dtd internet explorer 2.0 tables//",
  "-//microsoft//dtd internet explorer 3.0 html strict//",
  "-//microsoft//dtd internet explorer 3.0 html//",
  "-//microsoft//dtd internet explorer 3.0 tables//", "-//netscape comm. corp.//dtd html//",
  "-//netscape comm. corp.//dtd strict html//", "-//o'reilly and associates//dtd html 2.0//",
  "-//o'reilly and associates//dtd html extended 1.0//",
  "-//o'reilly and associates//dtd html extended relaxed 1.0//",
  "-//sq//dtd html 2.0 hotmetal + extensions//",
  "-//softquad software//dtd hotmetal pro 6.0::19990601::extensions to html 4.0//",
  "-//softquad//dtd hotmetal pro 4.0::19971010::extensions to html 4.0//",
  "-//spyglass//dtd html 2.0 extended//", "-//sun microsystems corp.//dtd hotjava html//",
  "-//sun microsystems corp.//dtd hotjava strict html//",
  "-//w3c//dtd html 3 1995-03-24//", "-//w3c//dtd html 3.2 draft//",
  "-//w3c//dtd html 3.2 final//", "-//w3c//dtd html 3.2//", "-//w3c//dtd html 3.2s draft//",
  "-//w3c//dtd html 4.0 frameset//", "-//w3c//dtd html 4.0 transitional//",
  "-//w3c//dtd html experimental 19960712//", "-//w3c//dtd html experimental 970421//",
  "-//w3c//dtd w3 html//", "-//w3o//dtd w3 html 3.0//", "-//webtechs//dtd mozilla html 2.0//",
  "-//webtechs//dtd mozilla html//"]

/-- The beginnings that ask for them only when there is no system identifier. -/
def bareOldPublicBeginnings : List Text :=
  ["-//w3c//dtd html 4.01 frameset//", "-//w3c//dtd html 4.01 transitional//"]

/-- The whole public identifiers that ask for the old rules. -/
def oldPublicIds : List Text :=
  ["-//w3o//dtd w3 html strict 3.0//en//", "-/w3c/dtd html 4.0 transitional/en", "html"]

/-- The system identifier that asks for the old rules. -/
def oldSystemId : Text := "http://www.ibm.com/data/dtd/v11/ibmxhtml1-transitional.dtd"

/-- **Whether a document type asks for the old rules.** -/
def asksForOldRules (name publicId systemId : Option Text) : Bool :=
  let lower (t : Text) : Text := t.map Text.asciiLower
  if name != some "html" then true
  else if systemId.map lower == some oldSystemId then true
  else match publicId.map lower with
    | none => false
    | some p =>
      oldPublicIds.contains p || oldPublicBeginnings.any (·.isPrefixOf p) ||
        (systemId.isNone && bareOldPublicBeginnings.any (·.isPrefixOf p))

/-! ### Reading a document type -/

/-- The text without the white space at its front. -/
def dropSpace (t : Text) : Text := t.dropWhile isSpace

/-- The text after the next closing bracket. -/
def afterBracket (t : Text) : Text := (t.dropWhile (· != 62)).drop 1

/-- **An identifier in quotes**: its text, whether its closing quote is there, and the rest. A
closing bracket ends it early and is part of the rest. -/
def quotedId? : Text → Option (Text × Bool × Text)
  | q :: t =>
    if q == 34 || q == 39 then
      let body := t.takeWhile fun u => u != q && u != 62
      match t.drop body.length with
      | u :: rest => if u == q then some (body, true, rest) else some (body, false, u :: rest)
      | [] => some (body, false, [])
    else none
  | [] => none

/-- Whether a text starts with a word in any case. -/
def startsWord (word t : Text) : Bool := word.isPrefixOf ((t.take word.length).map Text.asciiLower)

/-- What follows the system identifier, or the place where it may stand. -/
def doctypeSystem (name publicId : Option Text) (mandatory : Bool) (t : Text) : Token × Text :=
  match quotedId? t with
  | some (id, true, rest) => match dropSpace rest with
    | [] => (.doctype true, [])
    | rest => (.doctype (asksForOldRules name publicId (some id)), afterBracket rest)
  | some (_, false, rest) => (.doctype true, afterBracket rest)
  | none => match t with
    | 62 :: rest => (.doctype (mandatory || asksForOldRules name publicId none), rest)
    | rest => (.doctype true, afterBracket rest)

/-- **A document type**, from what follows its keyword. -/
def doctype (t : Text) : Token × Text :=
  match dropSpace t with
  | [] => (.doctype true, [])
  | 62 :: rest => (.doctype true, rest)
  | t =>
    let raw := t.takeWhile fun u => !isSpace u && u != 62
    let name := some (raw.map Text.asciiLower)
    let rest := dropSpace (t.drop raw.length)
    if startsWord "public" rest then
      match quotedId? (dropSpace (rest.drop 6)) with
      | some (id, true, after) => doctypeSystem name (some id) false (dropSpace after)
      | some (_, false, after) => (.doctype true, afterBracket after)
      | none => (.doctype true, afterBracket rest)
    else if startsWord "system" rest then
      doctypeSystem name none true (dropSpace (rest.drop 6))
    else match rest with
      | 62 :: after => (.doctype (asksForOldRules name none none), after)
      | after => (.doctype true, afterBracket after)

end LineAgents.Html
