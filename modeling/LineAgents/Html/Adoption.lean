import LineAgents.Html.Builder

/-!
# Misnested formatting

When the end tag of a formatting element comes while blocks inside it are still open, the element
has to end and yet go on inside those blocks. `LineAgents.Html.Builder.adopt` arranges that: it
takes the outermost of these blocks, wraps its content in a copy of the formatting element, moves
the block out, and does so again until nothing is misnested, at most eight times.
-/

namespace LineAgents.Html

namespace Builder

/-- What an end tag that means nothing special closes: open elements up to the innermost of its
name, unless a special element is in between. -/
def closeNamed (b : Builder) (name : Text) : Builder :=
  search b.open_
where
  /-- Goes through open elements from inside out; the outermost is never closed. -/
  search : List Nat → Builder
    | [] | [_] => b
    | id :: rest =>
      match b.element? id with
      | some e =>
        if e.name == name then
          let implied := (b.impliedEnds [name]).open_
          { b with open_ := implied.drop (implied.length - rest.length) }
        else if e.isSpecial then b
        else search rest
      | none => search rest

/-- The open elements that are inside of one, the innermost first. -/
def inside (b : Builder) (id : Nat) : List Nat := b.open_.takeWhile (· != id)

/-- The outermost special element that is open inside of one. -/
def furthestBlock? (b : Builder) (id : Nat) : Option Nat :=
  ((b.inside id).filter fun i => match b.element? i with
    | some e => e.isSpecial
    | none => false).getLast?

/-- The open element just outside of one. -/
def outer? (b : Builder) (id : Nat) : Option Nat :=
  ((b.open_.dropWhile (· != id)).drop 1).head?

/-- A copy of an element, without a place. -/
def copy (b : Builder) (id : Nat) : Nat × Builder :=
  b.create (.element ((b.element? id).getD { name := [] }))

/-- **The state of a climb** from a block to the formatting element outside of it: what was moved
last, and the entry in front of which the copy will be remembered. -/
structure Climb where
  last : Nat
  bookmark : Nat

/-- Climbs over the open elements between a block and a formatting element: those that are
remembered are copied around what was moved last, the others are closed. Only the first three
stay remembered. -/
def climb (b : Builder) (block : Nat) (c : Climb) : Nat → List Nat → Climb × Builder
  | _, [] => (c, b)
  | i, id :: rest =>
    if b.formatting.contains (.element id) then
      if 3 ≤ i then climb ((b.forget id).removeOpen id) block c (i + 1) rest
      else
        let (new, b) := b.copy id
        let swap (x : Nat) : Nat := if x == id then new else x
        let b := { b with
          open_ := b.open_.map swap
          formatting := b.formatting.map fun (x : Entry) =>
            if x == Entry.element id then Entry.element new else x }
        let bookmark := if c.last == block then new else swap c.bookmark
        let b := (b.detach c.last).append new c.last
        climb b block ⟨new, bookmark⟩ (i + 1) rest
    else climb (b.removeOpen id) block c (i + 1) rest

/-- Puts what was moved into the element outside of the formatting element, or in front of the
table if it may not stand there. -/
def settle (b : Builder) (outer last : Nat) : Builder :=
  if b.isAmong outer Element.tableStructureNames then b.fosterNode last else b.append outer last

/-- Inserts an entry in front of another. -/
def insertEntry (new bookmark : Entry) (entries : List Entry) : List Entry :=
  entries.flatMap fun x => if x == bookmark then [new, x] else [x]

/-- Wraps the content of a block in a copy of the formatting element, which takes its place among
the open and the remembered elements. -/
def rewrap (b : Builder) (formatting block bookmark : Nat) : Builder :=
  let (new, b) := b.copy formatting
  let b := (b.moveChildren block new).append block new
  let b := { b with formatting := insertEntry (.element new) (.element bookmark) b.formatting }
  let b := (b.forget formatting).removeOpen formatting
  { b with open_ := b.open_.flatMap fun x => if x == block then [new, x] else [x] }

/-- One round for the end tag of a name; nothing when there is no more to do. -/
def adoptOnce (b : Builder) (name : Text) : Builder × Bool :=
  match b.formattingNamed? name with
  | none => (b.closeNamed name, false)
  | some f =>
    if !b.open_.contains f then (b.forget f, false)
    else if !b.inScope .general [name] then (b, false)
    else match b.furthestBlock? f with
      | none => ({ b.forget f with open_ := (b.open_.dropWhile (· != f)).drop 1 }, false)
      | some block =>
        let between := ((b.inside f).dropWhile (· != block)).drop 1
        let (c, b) := b.climb block ⟨block, f⟩ 0 between
        let b := match b.outer? f with
          | some outer => (b.detach c.last).settle outer c.last
          | none => b.detach c.last
        (b.rewrap f block c.bookmark, true)

/-- Up to a number of rounds. -/
def adoptRounds (name : Text) : Nat → Builder → Builder
  | 0, b => b
  | n + 1, b =>
    let (b, more) := b.adoptOnce name
    if more then adoptRounds name n b else b

/-- **The end tag of a formatting element.** -/
def adopt (b : Builder) (name : Text) : Builder := adoptRounds name 8 b

end Builder

end LineAgents.Html
