import LineAgents.Html.Token

/-!
# Elements

An element has a namespace, a name and attributes. This file holds the classes of elements that
decide how a tree is built: which elements are special, which bound the scope of others, which end
tags are implied, and which names and start tags are treated differently outside of HTML.
-/

namespace LineAgents.Html

/-- **The namespaces** of elements. -/
inductive Namespace where
  | html
  | svg
  | mathml
  deriving DecidableEq, Repr

/-- **An element**, without its content. -/
structure Element where
  space : Namespace := .html
  name : Text
  attributes : List Attribute := []

namespace Element

/-- Whether the element is the HTML element of a name. -/
def isHtml (e : Element) (name : Text) : Bool := e.space == .html && e.name == name

/-- Whether the element is one of some HTML elements. -/
def isAmong (e : Element) (names : List Text) : Bool := e.space == .html && names.contains e.name

/-! ### Special elements -/

/-- The special HTML elements. -/
def specialNames : List Text := Text.ofStrings [
  "address", "applet", "area", "article", "aside", "base", "basefont", "bgsound", "blockquote",
  "body", "br", "button", "caption", "center", "col", "colgroup", "dd", "details", "dir", "div",
  "dl", "dt", "embed", "fieldset", "figcaption", "figure", "footer", "form", "frame", "frameset",
  "h1", "h2", "h3", "h4", "h5", "h6", "head", "header", "hgroup", "hr", "html", "iframe", "img",
  "input", "li", "link", "listing", "main", "marquee", "menu", "meta", "nav", "noembed",
  "noframes", "noscript", "object", "ol", "p", "param", "plaintext", "pre", "script", "search",
  "section", "select", "source", "style", "summary", "table", "tbody", "td", "template",
  "textarea", "tfoot", "th", "thead", "title", "tr", "track", "ul", "wbr", "xmp"]

/-- The MathML elements that hold text, and the one that holds annotations. -/
def mathScopeNames : List Text := ["mi", "mo", "mn", "ms", "mtext", "annotation-xml"]

/-- The SVG elements that hold HTML. -/
def svgScopeNames : List Text := ["foreignObject", "desc", "title"]

/-- Whether the element is special. -/
def isSpecial (e : Element) : Bool :=
  match e.space with
  | .html => specialNames.contains e.name
  | .mathml => mathScopeNames.contains e.name
  | .svg => svgScopeNames.contains e.name

/-! ### Scopes -/

/-- **The scopes** in which an open element is looked for. -/
inductive Scope where
  | general
  | list
  | button
  | table
  | select
  deriving DecidableEq, Repr

/-- The HTML elements that bound every general scope. -/
def scopeNames : List Text :=
  ["applet", "caption", "html", "table", "td", "th", "marquee", "object", "template"]

/-- Whether the element bounds a scope. -/
def bounds (e : Element) (s : Scope) : Bool :=
  match s with
  | .table => e.isAmong ["html", "table", "template"]
  | .select => !e.isAmong ["optgroup", "option"]
  | _ =>
    match e.space with
    | .html =>
      scopeNames.contains e.name ||
        (s == .list && (e.name == "ol" || e.name == "ul")) || (s == .button && e.name == "button")
    | .mathml => mathScopeNames.contains e.name
    | .svg => svgScopeNames.contains e.name

/-! ### Implied end tags -/

/-- The elements that end without an end tag. -/
def impliedNames : List Text :=
  ["dd", "dt", "li", "optgroup", "option", "p", "rb", "rp", "rt", "rtc"]

/-- The elements that end without an end tag when a template is closed. -/
def thoroughNames : List Text :=
  impliedNames ++
    Text.ofStrings ["caption", "colgroup", "tbody", "td", "tfoot", "th", "thead", "tr"]

/-! ### Classes of names -/

/-- The headings. -/
def headingNames : List Text := ["h1", "h2", "h3", "h4", "h5", "h6"]

/-- The elements whose content belongs in front of the table when it may not stand in it. -/
def tableStructureNames : List Text := ["table", "tbody", "tfoot", "thead", "tr"]

/-! ### Foreign elements -/

/-- The SVG elements whose names are not in lower case. -/
def svgNames : List Text := Text.ofStrings [
  "altGlyph", "altGlyphDef", "altGlyphItem", "animateColor", "animateMotion", "animateTransform",
  "clipPath", "feBlend", "feColorMatrix", "feComponentTransfer", "feComposite",
  "feConvolveMatrix", "feDiffuseLighting", "feDisplacementMap", "feDistantLight", "feFlood",
  "feFuncA", "feFuncB", "feFuncG", "feFuncR", "feGaussianBlur", "feImage", "feMerge",
  "feMergeNode", "feMorphology", "feOffset", "fePointLight", "feSpecularLighting", "feSpotLight",
  "feTile", "feTurbulence", "foreignObject", "glyphRef", "linearGradient", "radialGradient",
  "textPath"]

/-- The SVG name of a tag name in lower case. -/
def svgName (name : Text) : Text :=
  (svgNames.find? fun n => n.map Text.asciiLower == name).getD name

/-- The start tags that end foreign content. -/
def breakoutNames : List Text := Text.ofStrings [
  "b", "big", "blockquote", "body", "br", "center", "code", "dd", "div", "dl", "dt", "em", "embed",
  "h1", "h2", "h3", "h4", "h5", "h6", "head", "hr", "i", "img", "li", "listing", "menu", "meta",
  "nobr", "ol", "p", "pre", "ruby", "s", "small", "span", "strong", "strike", "sub", "sup",
  "table", "tt", "u", "ul", "var"]

/-- Whether a start tag ends foreign content. -/
def breaksOut (name : Text) (attributes : List Attribute) : Bool :=
  breakoutNames.contains name ||
    (name == "font" && attributes.any fun a =>
      a.1 == "color" || a.1 == "face" || a.1 == "size")

/-- Whether text in the element is read as MathML text. -/
def holdsMathText (e : Element) : Bool :=
  e.space == .mathml && e.name != "annotation-xml" && mathScopeNames.contains e.name

/-- The encodings of annotations that hold HTML. -/
def htmlEncodings : List Text := ["text/html", "application/xhtml+xml"]

/-- Whether the element holds HTML although it is foreign. -/
def holdsHtml (e : Element) : Bool :=
  match e.space with
  | .html => false
  | .svg => svgScopeNames.contains e.name
  | .mathml =>
    e.name == "annotation-xml" &&
      match attribute? e.attributes "encoding" with
      | some v => htmlEncodings.contains (v.map Text.asciiLower)
      | none => false

end Element

end LineAgents.Html
