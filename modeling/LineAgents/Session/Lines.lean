import LineAgents.Text.Utf8

/-!
# Lines from a byte stream

Input arrives as bytes, in chunks that may be cut anywhere, and is read as lines. The reader takes
one byte at a time, so how the stream was cut cannot matter. Two things are carried along:

* the bytes of a character that has not arrived in full; they become units once the character is
  complete, or once a byte follows that cannot belong to it;
* the units of the line that has not ended, and whether the last unit was a carriage return.

A line ends at a line feed, at a carriage return, or at the two together. When the stream ends,
what is left of a line counts as a line unless it is empty, and what is left of a character is
dropped.

Where an empty chunk arrives between a carriage return and its line feed, a reader of lines may
forget the one and take the other for the end of a further line, which is empty. This one does not.
The difference never shows in what a session writes, since blank lines are passed over
(`LineAgents.Session`).
-/

namespace LineAgents.Lines

/-! ### Bytes to units -/

/-- The number of bytes in the character that a byte announces. -/
def announced (b : UInt8) : Nat :=
  if b < 0xC0 then 1 else if b < 0xE0 then 2 else if b < 0xF0 then 3 else if b < 0xF8 then 4 else 1

/-- A byte that can only continue a character. -/
def isContinuation (b : UInt8) : Bool := 0x80 ≤ b && b < 0xC0

/-- A byte at the start of a character: the units it gives, and what it leaves to wait for. -/
def startCharacter (b : UInt8) : Text × Bytes :=
  if announced b > 1 then ([], [b]) else (Utf8.decode [b], [])

/-- One byte after the waiting bytes of a character: the units it gives, and what waits then. -/
def takeByte (waiting : Bytes) (b : UInt8) : Text × Bytes :=
  match waiting with
  | [] => startCharacter b
  | lead :: _ =>
    if isContinuation b then
      if waiting.length + 1 < announced lead then ([], waiting ++ [b])
      else (Utf8.decode (waiting ++ [b]), [])
    else
      let (units, rest) := startCharacter b
      (Utf8.decode waiting ++ units, rest)

/-! ### Units to lines -/

/-- **The line that has not ended**: its units, last one first, and whether a carriage return came
just before it. -/
structure OpenLine where
  reversed : Text := []
  afterReturn : Bool := false

/-- One unit: the line it ends, if it ends one, and the line that is open then. -/
def OpenLine.take (l : OpenLine) (u : UInt16) : List Text × OpenLine :=
  if u == 10 then
    if l.afterReturn then ([], {}) else ([l.reversed.reverse], {})
  else if u == 13 then ([l.reversed.reverse], ⟨[], true⟩)
  else ([], ⟨u :: l.reversed, false⟩)

/-- Units one after the other. -/
def OpenLine.takeAll (l : OpenLine) : Text → List Text × OpenLine
  | [] => ([], l)
  | u :: us =>
    let (ended, l') := l.take u
    let (more, l'') := l'.takeAll us
    (ended ++ more, l'')

/-! ### The reader -/

/-- **The reader of lines** between two bytes. -/
structure Reader where
  waiting : Bytes := []
  line : OpenLine := {}

namespace Reader

/-- One byte: the lines it ends, and the reader after it. -/
def take (r : Reader) (b : UInt8) : List Text × Reader :=
  let (units, waiting) := takeByte r.waiting b
  let (ended, line) := r.line.takeAll units
  (ended, ⟨waiting, line⟩)

/-- Bytes one after the other. -/
def feed (r : Reader) : Bytes → List Text × Reader
  | [] => ([], r)
  | b :: bs =>
    let (ended, r') := r.take b
    let (more, r'') := r'.feed bs
    (ended ++ more, r'')

/-- The last line, when the stream ends without a line end. -/
def finish (r : Reader) : List Text :=
  if r.line.reversed.isEmpty then [] else [r.line.reversed.reverse]

end Reader

/-- **The lines of a whole byte stream.** -/
def ofBytes (bs : Bytes) : List Text :=
  let (ended, r) := ({} : Reader).feed bs
  ended ++ r.finish

end LineAgents.Lines
