import LineAgents.Html.Adoption

/-!
# What tokens do

For each insertion mode, what a token does to the tree under construction. Many modes hand tokens
they have no opinion on to another mode, and some change the mode and have the token looked at
again: the answer of every rule is the tree after it, and the token if it is to be processed once
more under the new mode.
-/

namespace LineAgents.Html

/-- **The answer of a rule**: the tree after it, and the token if it has to be processed again. -/
structure Step where
  builder : Builder
  again : Option Token := none

namespace Builder

/-- The token is dealt with. -/
def done (b : Builder) : Step := ⟨b, none⟩

/-- The token is to be processed again, in a mode. -/
def retry (b : Builder) (mode : Mode) (t : Token) : Step := ⟨{ b with mode := mode }, some t⟩

/-- The tree in a mode. -/
def enter (b : Builder) (mode : Mode) : Builder := { b with mode := mode }

/-! ### Shared actions -/

/-- Whether a template is open. -/
def inTemplate (b : Builder) : Bool := b.hasOpen "template"

/-- Opens an element that is not there as a tag. -/
def insertNamed (b : Builder) (name : Text) : Builder := b.insert { name := name }

/-- Notes that the document holds something that a frameset may not replace. -/
def keepsBody (b : Builder) : Builder := { b with framesetOk := false }

/-- Opens an element and reads the text in it in another mode. -/
def readText (b : Builder) (e : Element) (m : TextMode) : Builder :=
  let b := b.insert e
  { b with textMode := m, returnMode := b.mode, mode := .text }

/-- Ends the open paragraph. -/
def closeParagraph (b : Builder) : Builder :=
  if b.inScope .button ["p"] then (b.impliedEnds ["p"]).popThrough ["p"] else b

/-- The mode of a selection, by what it stands in. -/
def selectMode (b : Builder) : List Nat → Mode
  | [] => .inSelect
  | id :: rest =>
    if b.isHtml id "template" then .inSelect
    else if b.isHtml id "table" then .inSelectInTable
    else b.selectMode rest

/-- **The mode that the open elements call for.** -/
def modeFor (b : Builder) : List Nat → Mode
  | [] => .inBody
  | id :: rest =>
    match b.element? id with
    | none => b.modeFor rest
    | some e =>
      let n := e.name
      if n == "tr" then .inRow
      else if n == "tbody" || n == "thead" || n == "tfoot" then .inTableBody
      else if n == "caption" then .inCaption
      else if n == "colgroup" then .inColumnGroup
      else if n == "table" then .inTable
      else if n == "body" then .inBody
      else if n == "frameset" then .inFrameset
      else if n == "select" then b.selectMode rest
      else if n == "template" then b.templateModes.headD .inBody
      else if n == "html" then (if b.head.isSome then .afterHead else .beforeHead)
      else if (n == "td" || n == "th") && !rest.isEmpty then .inCell
      else if n == "head" && !rest.isEmpty then .inHead
      else b.modeFor rest

/-- Sets the mode that the open elements call for. -/
def resetMode (b : Builder) : Builder := b.enter (b.modeFor b.open_)

/-- The end tag of a template. -/
def closeTemplate (b : Builder) : Builder :=
  if b.inTemplate then
    let b := (b.impliedEndsThoroughly.popThrough ["template"]).clearToMarker
    { b with templateModes := b.templateModes.tail }.resetMode
  else b

/-! ### The head -/

/-- The elements of a head that have no content. -/
def headVoidNames : List Text := ["base", "basefont", "bgsound", "link", "meta"]

/-- The elements of a head whose text is read raw. -/
def headRawNames : List Text := ["noframes", "style", "noscript"]

/-- The start tags that belong into a head wherever they stand. -/
def headNames : List Text :=
  ["base", "basefont", "bgsound", "link", "meta", "noframes", "script", "style", "template",
    "title"]

/-- A start tag of something that belongs into a head, if it is one. -/
def headStart? (b : Builder) (name : Text) (as : List Attribute) : Option Builder :=
  let e : Element := { name := name, attributes := as }
  if headVoidNames.contains name then some (b.insertVoid e)
  else if name == "title" then some (b.readText e (.escapable name))
  else if headRawNames.contains name then some (b.readText e (.raw name))
  else if name == "script" then some (b.readText e .script)
  else if name == "template" then
    let b := ((b.insert e).addMarker.keepsBody).enter .inTemplate
    some { b with templateModes := .inTemplate :: b.templateModes }
  else none

/-- The same, or nothing. -/
def headStart (b : Builder) (name : Text) (as : List Attribute) : Builder :=
  (b.headStart? name as).getD b

/-! ### The body -/

/-- The start tags of blocks. -/
def blockNames : List Text := Text.ofStrings [
  "address", "article", "aside", "blockquote", "center", "details", "dialog", "dir", "div", "dl",
  "fieldset", "figcaption", "figure", "footer", "header", "hgroup", "main", "menu", "nav", "ol",
  "p", "search", "section", "summary", "ul"]

/-- The end tags of blocks. -/
def blockEndNames : List Text := Text.ofStrings [
  "address", "article", "aside", "blockquote", "button", "center", "details", "dialog", "dir",
  "div", "dl", "fieldset", "figcaption", "figure", "footer", "header", "hgroup", "listing", "main",
  "menu", "nav", "ol", "pre", "search", "section", "summary", "ul"]

/-- The start tags of simple formatting. -/
def formattingNames : List Text :=
  ["b", "big", "code", "em", "font", "i", "s", "small", "strike", "strong", "tt", "u"]

/-- The start tags that mean nothing in a body. -/
def strayNames : List Text :=
  ["caption", "col", "colgroup", "frame", "head", "tbody", "td", "tfoot", "th", "thead", "tr"]

/-- Text in a body; text that is not blank keeps the body. -/
def bodyText (b : Builder) (t : Text) : Builder := b.reconstruct.insertText t

/-- The special elements that a new list item passes over. -/
def passedNames : List Text := ["address", "div", "p"]

/-- The start tags of elements without content that end nothing. -/
def bodyVoidNames : List Text := ["br", "img", "wbr", "area", "embed", "keygen"]

/-- Looks for the list item that a new one ends. -/
def endItem (b : Builder) (names : List Text) : List Nat → Builder
  | [] => b
  | id :: rest =>
    match b.element? id with
    | none => b.endItem names rest
    | some e =>
      if names.contains e.name then (b.impliedEnds [e.name]).popThrough [e.name]
      else if e.isSpecial && !passedNames.contains e.name then b
      else b.endItem names rest

/-- The body element, if it is open just inside of the root. -/
def body? (b : Builder) : Option Nat :=
  ((b.open_.reverse.drop 1).head?).filter (b.isHtml · "body")

/-- An element of MathML or SVG in a body. -/
def insertForeign (b : Builder) (space : Namespace) (name : Text) (as : List Attribute)
    (closing : Bool) : Builder :=
  let e : Element := {
    space := space
    name := if space == .svg then Element.svgName name else name
    attributes := as }
  if closing then b.insertVoid e else b.insert e

/-- Whether a form field is hidden. -/
def isHidden (as : List Attribute) : Bool :=
  match attribute? as "type" with
  | some v => v.map Text.asciiLower == "hidden"
  | none => false

/-- The modes in which a selection stands in a table. -/
def isTableMode (m : Mode) : Bool :=
  m == .inTable || m == .inCaption || m == .inTableBody || m == .inRow || m == .inCell

/-- A start tag in a body. -/
def bodyStart (b : Builder) (name : Text) (as : List Attribute) (closing : Bool) : Builder :=
  let e : Element := { name := name, attributes := as }
  if blockNames.contains name then b.closeParagraph.insert e
  else if formattingNames.contains name then (b.reconstruct.insert e).rememberCurrent
  else if name == "a" then
    let b := match b.formattingNamed? name with
      | some id => ((b.adopt name).removeOpen id).forget id
      | none => b
    (b.reconstruct.insert e).rememberCurrent
  else if name == "nobr" then
    let b := b.reconstruct
    let b := if b.inScope .general [name] then (b.adopt name).reconstruct else b
    (b.insert e).rememberCurrent
  else if Element.headingNames.contains name then
    let b := b.closeParagraph
    (if b.currentIsAmong Element.headingNames then b.pop else b).insert e
  else if name == "li" then
    ((b.keepsBody.endItem [name] b.open_).closeParagraph).insert e
  else if name == "dd" || name == "dt" then
    ((b.keepsBody.endItem ["dd", "dt"] b.open_).closeParagraph).insert e
  else if bodyVoidNames.contains name then
    (b.reconstruct.insertVoid e).keepsBody
  else if name == "image" then
    (b.reconstruct.insertVoid { e with name := "img" }).keepsBody
  else if name == "hr" then (b.closeParagraph.insertVoid e).keepsBody
  else if name == "rb" || name == "rtc" then
    (if b.inScope .general ["ruby"] then b.impliedEnds [] else b).insert e
  else if name == "rt" || name == "rp" then
    (if b.inScope .general ["ruby"] then b.impliedEnds ["rtc"] else b).insert e
  else if name == "pre" || name == "listing" then
    { (b.closeParagraph.insert e).keepsBody with skipLineFeed := true }
  else if name == "xmp" then
    (b.closeParagraph.reconstruct.keepsBody).readText e (.raw name)
  else if name == "svg" then b.reconstruct.insertForeign .svg name as closing
  else if name == "math" then b.reconstruct.insertForeign .mathml name as closing
  else if name == "html" then b
  else if name == "body" then
    match b.body? with
    | some _ => if b.inTemplate then b else b.keepsBody
    | none => b
  else if name == "frameset" then
    match b.framesetOk, b.body? with
    | true, some body =>
      let b := b.detach body
      (({ b with open_ := b.open_.getLast?.toList }).insert e).enter .inFrameset
    | _, _ => b
  else if name == "form" then
    if b.form.isNone || b.inTemplate then
      let b := b.closeParagraph.insert e
      if b.inTemplate then b else { b with form := some b.current }
    else b
  else if name == "table" then
    let b := if b.oldRules then b else b.closeParagraph
    ((b.insert e).keepsBody).enter .inTable
  else if name == "input" then
    let b := b.reconstruct.insertVoid e
    if isHidden as then b else b.keepsBody
  else if name == "param" || name == "track" || name == "source" then b.insertVoid e
  else if name == "button" then
    let b := if b.inScope .general [name] then (b.impliedEnds []).popThrough [name] else b
    (b.reconstruct.insert e).keepsBody
  else if name == "applet" || name == "object" || name == "marquee" then
    (b.reconstruct.insert e).addMarker.keepsBody
  else if name == "iframe" then b.keepsBody.readText e (.raw name)
  else if name == "noembed" || name == "noscript" then b.readText e (.raw name)
  else if name == "select" then
    let b := (b.reconstruct.insert e).keepsBody
    b.enter (if isTableMode b.mode then .inSelectInTable else .inSelect)
  else if name == "option" || name == "optgroup" then
    ((if b.currentIs "option" then b.pop else b).reconstruct).insert e
  else if name == "textarea" then
    { b.keepsBody.readText e (.escapable name) with skipLineFeed := true }
  else if name == "plaintext" then
    { b.closeParagraph.insert e with textMode := .plain }
  else if strayNames.contains name then b
  else match b.headStart? name as with
    | some b => b
    | none => b.reconstruct.insert e

/-- Closes elements up to one of a name, if it is found in a scope, with implied end tags but for
some names. -/
def closeIn (b : Builder) (s : Element.Scope) (name : Text) (except : List Text) : Builder :=
  if b.inScope s [name] then (b.impliedEnds except).popThrough [name] else b

/-- The end tag of a form. -/
def closeForm (b : Builder) : Builder :=
  let template := b.inTemplate
  let form := b.form
  let b := if template then b else { b with form := none }
  if (form.isSome || template) && b.inScope .general ["form"] then
    let b := b.impliedEnds []
    if template then b.popThrough ["form"]
    else match form with
      | some id => b.removeOpen id
      | none => b
  else b

/-- An end tag in a body. -/
def bodyEnd (b : Builder) (name : Text) : Step :=
  if formattingNames.contains name || name == "a" || name == "nobr" then (b.adopt name).done
  else if name == "p" then
    (if b.inScope .button [name] then b else b.insertNamed name).closeParagraph.done
  else if blockEndNames.contains name then (b.closeIn .general name []).done
  else if name == "li" then (b.closeIn .list name [name]).done
  else if name == "dd" || name == "dt" then (b.closeIn .general name [name]).done
  else if Element.headingNames.contains name then
    (if b.inScope .general Element.headingNames then
      (b.impliedEnds []).popThrough Element.headingNames
    else b).done
  else if name == "br" then
    (b.reconstruct.insertVoid { name := name }).keepsBody.done
  else if name == "body" then
    (if b.inScope .general ["body"] then b.enter .afterBody else b).done
  else if name == "html" then
    if b.inScope .general ["body"] then b.retry .afterBody (.endTag name) else b.done
  else if name == "form" then b.closeForm.done
  else if name == "applet" || name == "object" || name == "marquee" then
    (if b.inScope .general [name] then
      ((b.impliedEnds []).popThrough [name]).clearToMarker
    else b).done
  else if name == "template" then b.closeTemplate.done
  else (b.closeNamed name).done

/-- The end of the text while a template may be open. -/
def endInTemplate (b : Builder) : Step :=
  if b.inTemplate then
    let b := (b.popThrough ["template"]).clearToMarker
    ⟨{ b with templateModes := b.templateModes.tail }.resetMode, some .eof⟩
  else b.done

/-- **A token in a body.** -/
def inBody (b : Builder) : Token → Step
  | .blank t => (b.bodyText t).done
  | .text t => (b.bodyText t).keepsBody.done
  | .null => b.done
  | .comment => (b.insertComment b.current).done
  | .doctype _ => b.done
  | .startTag name as closing => (b.bodyStart name as closing).done
  | .endTag name => b.bodyEnd name
  | .eof => if b.templateModes.isEmpty then b.done else b.endInTemplate

/-! ### Before the body -/

/-- A token before anything else. -/
def inInitial (b : Builder) (t : Token) : Step :=
  match t with
  | .blank _ => b.done
  | .comment => (b.insertComment 0).done
  | .doctype oldRules => ({ b with oldRules := oldRules }.enter .beforeHtml).done
  | t => { b with oldRules := true }.retry .beforeHtml t

/-- The end tags that count before and in a head. -/
def earlyEndNames : List Text := ["head", "body", "html", "br"]

/-- A token before the root element. -/
def inBeforeHtml (b : Builder) (t : Token) : Step :=
  let other := (b.insertNamed "html").retry .beforeHead t
  match t with
  | .blank _ | .doctype _ => b.done
  | .comment => (b.insertComment 0).done
  | .startTag name as _ =>
    if name == "html" then ((b.insert { name := name, attributes := as }).enter .beforeHead).done
    else other
  | .endTag name => if earlyEndNames.contains name then other else b.done
  | _ => other

/-- A token before the head. -/
def inBeforeHead (b : Builder) (t : Token) : Step :=
  let start (as : List Attribute) : Builder :=
    let b := b.insert { name := "head", attributes := as }
    { b with head := some b.current }
  let other := (start []).retry .inHead t
  match t with
  | .blank _ | .doctype _ => b.done
  | .comment => (b.insertComment b.current).done
  | .startTag name as _ =>
    if name == "html" then b.done
    else if name == "head" then ((start as).enter .inHead).done
    else other
  | .endTag name => if earlyEndNames.contains name then other else b.done
  | _ => other

/-- A token in the head. -/
def inHead (b : Builder) (t : Token) : Step :=
  let other := b.pop.retry .afterHead t
  match t with
  | .blank u => (b.insertText u).done
  | .comment => (b.insertComment b.current).done
  | .doctype _ => b.done
  | .startTag name as _ =>
    if name == "html" || name == "head" then b.done
    else match b.headStart? name as with
      | some b => b.done
      | none => other
  | .endTag name =>
    if name == "head" then (b.pop.enter .afterHead).done
    else if name == "body" || name == "html" || name == "br" then other
    else if name == "template" then b.closeTemplate.done
    else b.done
  | _ => other

/-- A token after the head. -/
def inAfterHead (b : Builder) (t : Token) : Step :=
  let other := (b.insertNamed "body").retry .inBody t
  match t with
  | .blank u => (b.insertText u).done
  | .comment => (b.insertComment b.current).done
  | .doctype _ => b.done
  | .startTag name as _ =>
    if name == "html" || name == "head" then b.done
    else if name == "body" then
      (((b.insert { name := name, attributes := as }).keepsBody).enter .inBody).done
    else if name == "frameset" then
      ((b.insert { name := name, attributes := as }).enter .inFrameset).done
    else if headNames.contains name then
      match b.head with
      | some h => (({ b with open_ := h :: b.open_ }.headStart name as).removeOpen h).done
      | none => (b.headStart name as).done
    else other
  | .endTag name =>
    if name == "body" || name == "html" || name == "br" then other
    else if name == "template" then b.closeTemplate.done
    else b.done
  | _ => other

/-- A token in text that is read up to an end tag. -/
def inText (b : Builder) (t : Token) : Step :=
  match t with
  | .blank u | .text u => (b.insertText u).done
  | .endTag _ => (b.pop.enter b.returnMode).done
  | .eof => b.pop.retry b.returnMode t
  | _ => b.done

/-! ### Tables -/

/-- A token in a table that has no place in it: what it puts into the body goes in front of the
table. -/
def outOfTable (b : Builder) (t : Token) : Step :=
  let s := { b with fosterParenting := true }.inBody t
  { s with builder := { s.builder with fosterParenting := b.fosterParenting } }

/-- The elements that bound a table, its sections, its rows. -/
def tableContext : List Text := ["table", "template", "html"]

/-- What bounds a section of a table. -/
def sectionContext : List Text := ["tbody", "tfoot", "thead", "template", "html"]

/-- What bounds a row of a table. -/
def rowContext : List Text := ["tr", "template", "html"]

/-- The sections of a table. -/
def sectionNames : List Text := ["tbody", "tfoot", "thead"]

/-- The end tags that mean nothing in a table. -/
def strayTableEnds : List Text := [
  "body", "caption", "col", "colgroup", "html", "tbody", "td", "tfoot", "th", "thead", "tr"]

/-- Closes the table, if one is open. -/
def closeTable (b : Builder) : Builder := (b.popThrough ["table"]).resetMode

/-- Text in a table: it is collected first, and looked at when something else comes. -/
def tableCharacters (b : Builder) (t : Token) : Step :=
  if b.currentIsAmong Element.tableStructureNames then
    { b with tableText := [], tableTextMatters := false, returnMode := b.mode }.retry
      .inTableText t
  else b.outOfTable t

/-- **A token in a table.** -/
def inTable (b : Builder) (t : Token) : Step :=
  match t with
  | .blank _ | .text _ | .null => b.tableCharacters t
  | .comment => (b.insertComment b.current).done
  | .doctype _ => b.done
  | .eof => b.inBody t
  | .startTag name as closing =>
    let e : Element := { name := name, attributes := as }
    if name == "caption" then
      (((b.popTo tableContext).addMarker.insert e).enter .inCaption).done
    else if name == "colgroup" then (((b.popTo tableContext).insert e).enter .inColumnGroup).done
    else if name == "col" then
      ((b.popTo tableContext).insertNamed "colgroup").retry .inColumnGroup t
    else if sectionNames.contains name then
      (((b.popTo tableContext).insert e).enter .inTableBody).done
    else if name == "td" || name == "th" || name == "tr" then
      ((b.popTo tableContext).insertNamed "tbody").retry .inTableBody t
    else if name == "table" then
      if b.inScope .table [name] then ⟨b.closeTable, some (.startTag name as closing)⟩ else b.done
    else if name == "style" || name == "script" || name == "template" then
      (b.headStart name as).done
    else if name == "input" && isHidden as then (b.insertVoid e).done
    else if name == "form" then
      if b.form.isNone && !b.inTemplate then
        let b := b.insert e
        ({ b with form := some b.current }.pop).done
      else b.done
    else b.outOfTable t
  | .endTag name =>
    if name == "table" then
      (if b.inScope .table [name] then b.closeTable else b).done
    else if name == "template" then b.closeTemplate.done
    else if strayTableEnds.contains name then b.done
    else b.outOfTable t

/-- A token after text in a table: the text stays where it is if it is blank, and goes in front of
the table otherwise. -/
def inTableText (b : Builder) (t : Token) : Step :=
  match t with
  | .blank u => { b with tableText := u :: b.tableText }.done
  | .text u => { b with tableText := u :: b.tableText, tableTextMatters := true }.done
  | .null => b.done
  | t =>
    let text := b.tableText.reverse.flatten
    let b := if text.isEmpty then b
      else if b.tableTextMatters then (b.outOfTable (.text text)).builder
      else b.insertText text
    b.retry b.returnMode t

/-- The start tags that end a caption or a cell. -/
def tablePartNames : List Text :=
  ["caption", "col", "colgroup", "tbody", "td", "tfoot", "th", "thead", "tr"]

/-- Closes the caption. -/
def closeCaption (b : Builder) : Builder :=
  (((b.impliedEnds []).popThrough ["caption"]).clearToMarker).enter .inTable

/-- A token in a caption. -/
def inCaption (b : Builder) (t : Token) : Step :=
  match t with
  | .startTag name _ _ =>
    if tablePartNames.contains name then
      if b.inScope .table ["caption"] then ⟨b.closeCaption, some t⟩ else b.done
    else b.inBody t
  | .endTag name =>
    if name == "caption" then
      (if b.inScope .table [name] then b.closeCaption else b).done
    else if name == "table" then
      if b.inScope .table ["caption"] then ⟨b.closeCaption, some t⟩ else b.done
    else if strayTableEnds.contains name then b.done
    else b.inBody t
  | t => b.inBody t

/-- A token in a group of columns. -/
def inColumnGroup (b : Builder) (t : Token) : Step :=
  let other := if b.currentIs "colgroup" then b.pop.retry .inTable t else b.done
  match t with
  | .blank u => (b.insertText u).done
  | .comment => (b.insertComment b.current).done
  | .doctype _ => b.done
  | .startTag name as _ =>
    if name == "html" then b.done
    else if name == "col" then (b.insertVoid { name := name, attributes := as }).done
    else if name == "template" then (b.headStart name as).done
    else other
  | .endTag name =>
    if name == "colgroup" then
      (if b.currentIs name then b.pop.enter .inTable else b).done
    else if name == "template" then b.closeTemplate.done
    else if name == "col" then b.done
    else other
  | .eof => b.inBody t
  | _ => other

/-- A token in a section of a table. -/
def inTableBody (b : Builder) (t : Token) : Step :=
  let leave := if b.inScope .table sectionNames then
      (b.popTo sectionContext).pop.retry .inTable t
    else b.done
  match t with
  | .startTag name as _ =>
    if name == "tr" then
      (((b.popTo sectionContext).insert { name := name, attributes := as }).enter .inRow).done
    else if name == "th" || name == "td" then
      ((b.popTo sectionContext).insertNamed "tr").retry .inRow t
    else if tablePartNames.contains name then leave
    else b.inTable t
  | .endTag name =>
    if sectionNames.contains name then
      (if b.inScope .table [name] then (b.popTo sectionContext).pop.enter .inTable else b).done
    else if name == "table" then leave
    else if strayTableEnds.contains name then b.done
    else b.inTable t
  | t => b.inTable t

/-- A token in a row. -/
def inRow (b : Builder) (t : Token) : Step :=
  let leave (mode : Mode) : Builder := (b.popTo rowContext).pop.enter mode
  match t with
  | .startTag name as _ =>
    if name == "th" || name == "td" then
      let b := (b.popTo rowContext).insert { name := name, attributes := as }
      (b.enter .inCell).addMarker.done
    else if tablePartNames.contains name then
      if b.inScope .table ["tr"] then ⟨leave .inTableBody, some t⟩ else b.done
    else b.inTable t
  | .endTag name =>
    if name == "tr" then
      (if b.inScope .table [name] then leave .inTableBody else b).done
    else if name == "table" then
      if b.inScope .table ["tr"] then ⟨leave .inTableBody, some t⟩ else b.done
    else if sectionNames.contains name then
      if b.inScope .table [name] && b.inScope .table ["tr"] then ⟨leave .inTableBody, some t⟩
      else b.done
    else if strayTableEnds.contains name then b.done
    else b.inTable t
  | t => b.inTable t

/-- Closes the cell. -/
def closeCell (b : Builder) : Builder :=
  (((b.impliedEnds []).popThrough ["td", "th"]).clearToMarker).enter .inRow

/-- A token in a cell. -/
def inCell (b : Builder) (t : Token) : Step :=
  match t with
  | .startTag name _ _ =>
    if tablePartNames.contains name then
      if b.inScope .table ["td", "th"] then ⟨b.closeCell, some t⟩ else b.done
    else b.inBody t
  | .endTag name =>
    if name == "td" || name == "th" then
      (if b.inScope .table [name] then
        (((b.impliedEnds []).popThrough [name]).clearToMarker).enter .inRow
      else b).done
    else if name == "table" || name == "tr" || sectionNames.contains name then
      if b.inScope .table [name] then ⟨b.closeCell, some t⟩ else b.done
    else if strayTableEnds.contains name then b.done
    else b.inBody t
  | t => b.inBody t

/-! ### Selections -/

/-- Closes the selection. -/
def closeSelect (b : Builder) : Builder := (b.popThrough ["select"]).resetMode

/-- A tree with the innermost element closed if it has a name. -/
def popIf (b : Builder) (name : Text) : Builder := if b.currentIs name then b.pop else b

/-- The start tags that end a selection. -/
def selectEndingNames : List Text := ["input", "keygen", "textarea", "select"]

/-- A token in a selection. -/
def inSelect (b : Builder) (t : Token) : Step :=
  match t with
  | .blank u | .text u => (b.insertText u).done
  | .null | .doctype _ => b.done
  | .comment => (b.insertComment b.current).done
  | .eof => b.inBody t
  | .startTag name as _ =>
    let e : Element := { name := name, attributes := as }
    if name == "option" then ((b.popIf "option").insert e).done
    else if name == "optgroup" then (((b.popIf "option").popIf "optgroup").insert e).done
    else if name == "hr" then (((b.popIf "option").popIf "optgroup").insertVoid e).done
    else if selectEndingNames.contains name then
      if b.inScope .select ["select"] then
        if name == "select" then b.closeSelect.done else ⟨b.closeSelect, some t⟩
      else b.done
    else if name == "script" || name == "template" then (b.headStart name as).done
    else b.done
  | .endTag name =>
    if name == "optgroup" then
      let b := if b.currentIs "option" && b.isHtml ((b.open_.drop 1).headD 0) "optgroup" then b.pop
        else b
      (b.popIf "optgroup").done
    else if name == "option" then (b.popIf "option").done
    else if name == "select" then
      (if b.inScope .select ["select"] then b.closeSelect else b).done
    else if name == "template" then b.closeTemplate.done
    else b.done

/-- The tags that end a selection in a table. -/
def selectEndNames : List Text :=
  ["caption", "table", "tbody", "tfoot", "thead", "tr", "td", "th"]

/-- A token in a selection in a table. -/
def inSelectInTable (b : Builder) (t : Token) : Step :=
  match t with
  | .startTag name _ _ =>
    if selectEndNames.contains name then ⟨b.closeSelect, some t⟩ else b.inSelect t
  | .endTag name =>
    if selectEndNames.contains name then
      if b.inScope .table [name] then ⟨b.closeSelect, some t⟩ else b.done
    else b.inSelect t
  | t => b.inSelect t

/-! ### Templates, framesets, and after the body -/

/-- The mode in which a template goes on, for a start tag in it. -/
def templateMode (name : Text) : Mode :=
  if name == "caption" || name == "colgroup" || sectionNames.contains name then .inTable
  else if name == "col" then .inColumnGroup
  else if name == "tr" then .inTableBody
  else if name == "td" || name == "th" then .inRow
  else .inBody

/-- A token in a template. -/
def inTemplateMode (b : Builder) (t : Token) : Step :=
  match t with
  | .startTag name as _ =>
    if headNames.contains name then (b.headStart name as).done
    else
      let mode := templateMode name
      { b with templateModes := mode :: b.templateModes.tail }.retry mode t
  | .endTag name => if name == "template" then b.closeTemplate.done else b.done
  | .eof => b.endInTemplate
  | t => b.inBody t

/-- A token after the body. -/
def inAfterBody (b : Builder) (t : Token) : Step :=
  match t with
  | .blank _ => b.inBody t
  | .comment => (b.insertComment (b.open_.getLastD 0)).done
  | .doctype _ | .eof => b.done
  | .startTag name _ _ => if name == "html" then b.done else b.retry .inBody t
  | .endTag name => if name == "html" then (b.enter .afterAfterBody).done else b.retry .inBody t
  | t => b.retry .inBody t

/-- A token after everything. -/
def inAfterAfterBody (b : Builder) (t : Token) : Step :=
  match t with
  | .blank _ => b.inBody t
  | .comment => (b.insertComment 0).done
  | .doctype _ | .eof => b.done
  | .startTag name _ _ => if name == "html" then b.done else b.retry .inBody t
  | t => b.retry .inBody t

/-- A token in a frameset. -/
def inFrameset (b : Builder) (t : Token) : Step :=
  match t with
  | .blank u => (b.insertText u).done
  | .comment => (b.insertComment b.current).done
  | .startTag name as _ =>
    let e : Element := { name := name, attributes := as }
    if name == "frameset" then (b.insert e).done
    else if name == "frame" then (b.insertVoid e).done
    else if name == "noframes" then (b.headStart name as).done
    else b.done
  | .endTag name =>
    if name == "frameset" && b.open_.length > 1 then
      let b := b.pop
      (if b.currentIs "frameset" then b else b.enter .afterFrameset).done
    else b.done
  | _ => b.done

/-- A token after a frameset. -/
def inAfterFrameset (b : Builder) (t : Token) : Step :=
  match t with
  | .blank u => (b.insertText u).done
  | .comment => (b.insertComment b.current).done
  | .startTag name as _ => (if name == "noframes" then b.headStart name as else b).done
  | .endTag name => (if name == "html" then b.enter .afterAfterFrameset else b).done
  | _ => b.done

/-- A token after everything in a document of frames. -/
def inAfterAfterFrameset (b : Builder) (t : Token) : Step :=
  match t with
  | .blank _ => b.inBody t
  | .comment => (b.insertComment 0).done
  | .startTag name as _ => (if name == "noframes" then b.headStart name as else b).done
  | _ => b.done

/-! ### Foreign content -/

/-- **A token by the rules of the mode.** -/
def byMode (b : Builder) (t : Token) : Step :=
  match b.mode with
  | .initial => b.inInitial t
  | .beforeHtml => b.inBeforeHtml t
  | .beforeHead => b.inBeforeHead t
  | .inHead => b.inHead t
  | .afterHead => b.inAfterHead t
  | .inBody => b.inBody t
  | .text => b.inText t
  | .inTable => b.inTable t
  | .inTableText => b.inTableText t
  | .inCaption => b.inCaption t
  | .inColumnGroup => b.inColumnGroup t
  | .inTableBody => b.inTableBody t
  | .inRow => b.inRow t
  | .inCell => b.inCell t
  | .inSelect => b.inSelect t
  | .inSelectInTable => b.inSelectInTable t
  | .inTemplate => b.inTemplateMode t
  | .afterBody => b.inAfterBody t
  | .inFrameset => b.inFrameset t
  | .afterFrameset => b.inAfterFrameset t
  | .afterAfterBody => b.inAfterAfterBody t
  | .afterAfterFrameset => b.inAfterAfterFrameset t

/-- The innermost open element, if it is foreign. -/
def foreign? (b : Builder) : Option Element := (b.element? b.current).filter (·.space != .html)

/-- Whether text is read in foreign content: the innermost open element is foreign and holds
neither HTML nor text. -/
def inForeign (b : Builder) : Bool :=
  match b.foreign? with
  | some e => !e.holdsHtml && !e.holdsMathText
  | none => false

/-- Whether a start tag is one of foreign content. -/
def startsForeign (b : Builder) (name : Text) : Bool :=
  match b.foreign? with
  | none => false
  | some e =>
    if name == "svg" && e.space == .mathml && e.name == "annotation-xml" then false
    else b.inForeign ||
      ((name == "mglyph" || name == "malignmark") && !e.holdsHtml)

/-- Leaves foreign content, up to an element in which HTML may stand. -/
def leaveForeign (b : Builder) : Builder :=
  { b with open_ := b.open_.dropWhile fun id =>
      match b.element? id with
      | some e => e.space != .html && !e.holdsHtml && !e.holdsMathText
      | none => false }

/-- An end tag in foreign content: it closes the innermost element of its name in any case, unless
an HTML element is in between, which decides then. -/
def foreignEnd (b : Builder) (name : Text) : List Nat → Step
  | [] | [_] => b.done
  | id :: rest =>
    match b.element? id with
    | none => b.foreignEnd name rest
    | some e =>
      if e.space == .html then b.byMode (.endTag name)
      else if e.name.map Text.asciiLower == name then { b with open_ := rest }.done
      else b.foreignEnd name rest

/-- **A token**, by the rules of foreign content if it belongs there, else by those of the mode. -/
def process (b : Builder) (t : Token) : Step :=
  match t with
  | .blank u => if b.inForeign then (b.insertText u).done else b.byMode t
  | .text u => if b.inForeign then (b.insertText u).keepsBody.done else b.byMode t
  | .null => if b.inForeign then (b.insertText [0xFFFD]).done else b.byMode t
  | .startTag name as closing =>
    if b.startsForeign name then
      if Element.breaksOut name as then b.leaveForeign.byMode t
      else match b.foreign? with
        | some e => (b.insertForeign e.space name as closing).done
        | none => b.byMode t
    else b.byMode t
  | .endTag name =>
    if b.foreign?.isSome then
      if name == "p" || name == "br" then b.leaveForeign.byMode t
      else b.foreignEnd name b.open_
    else b.byMode t
  | .comment => if b.foreign?.isSome then (b.insertComment b.current).done else b.byMode t
  | t => b.byMode t

/-- Processes a token, and again as often as it is asked for, up to a number of times. -/
def processAll : Nat → Builder → Token → Builder
  | 0, b, _ => b
  | n + 1, b, t =>
    match b.process t with
    | ⟨b, none⟩ => b
    | ⟨b, some t⟩ => processAll n b t

/-- A token without the line feed at its front, if one is dropped there. -/
def withoutLineFeed (b : Builder) (t : Token) : Option Token :=
  match b.skipLineFeed, t with
  | true, .blank (10 :: rest) => if rest.isEmpty then none else some (.blank rest)
  | _, t => some t

/-- **Takes a token into the tree.** -/
def take (b : Builder) (t : Token) : Builder :=
  match b.withoutLineFeed t with
  | some t =>
    processAll (b.open_.length + b.templateModes.length + 32) { b with skipLineFeed := false } t
  | none => { b with skipLineFeed := false }

end Builder

end LineAgents.Html
