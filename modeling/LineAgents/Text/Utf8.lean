import LineAgents.Text.CodePoint

/-!
# UTF-8

Bytes are read by a machine that keeps what it still expects: how many continuation bytes, the
range the next one has to lie in, and the bits read so far. `LineAgents.Utf8.scan` gives one entry
for each character and one `none` for each maximal run of bytes that starts a character and never
becomes one. From that one list come both readers:

* `LineAgents.Utf8.decode` puts the replacement character where the bytes are ill-formed;
* `LineAgents.Utf8.decode?` gives no text at all in that case.

`LineAgents.Utf8.encode` writes a text; a lone surrogate has no bytes of its own and is written as
the replacement character.
-/

namespace LineAgents

/-- A finite sequence of bytes. -/
abbrev Bytes := List UInt8

namespace Utf8

/-! ### Reading -/

/-- **The state of the reader**: at the start of a character, or inside one with `left`
continuation bytes to come, the next of them between `lo` and `hi`, and `acc` read so far. -/
inductive Reader where
  | ready
  | inside (left : Nat) (lo hi : UInt8) (acc : Nat)
  deriving DecidableEq, Repr

/-- What the reader does with a byte at the start of a character. -/
def Reader.start (b : UInt8) : List (Option Nat) × Reader :=
  if b < 0x80 then ([some b.toNat], .ready)
  else if b < 0xC2 then ([none], .ready)
  else if b < 0xE0 then ([], .inside 1 0x80 0xBF (b.toNat - 0xC0))
  else if b == 0xE0 then ([], .inside 2 0xA0 0xBF 0)
  else if b == 0xED then ([], .inside 2 0x80 0x9F 0xD)
  else if b < 0xF0 then ([], .inside 2 0x80 0xBF (b.toNat - 0xE0))
  else if b == 0xF0 then ([], .inside 3 0x90 0xBF 0)
  else if b < 0xF4 then ([], .inside 3 0x80 0xBF (b.toNat - 0xF0))
  else if b == 0xF4 then ([], .inside 3 0x80 0x8F 4)
  else ([none], .ready)

/-- One byte: what it completes, and the state after it. A byte out of the expected range ends
the character before it as ill-formed and starts the next. -/
def Reader.step : Reader → UInt8 → List (Option Nat) × Reader
  | .ready, b => start b
  | .inside left lo hi acc, b =>
    if lo ≤ b && b ≤ hi then
      if left ≤ 1 then ([some (acc * 64 + (b.toNat - 0x80))], .ready)
      else ([], .inside (left - 1) 0x80 0xBF (acc * 64 + (b.toNat - 0x80)))
    else
      let (out, next) := start b
      (none :: out, next)

/-- What is left of a character when the bytes end. -/
def Reader.finish : Reader → List (Option Nat)
  | .ready => []
  | .inside .. => [none]

/-- The characters of a byte sequence, read on from a state; `none` stands for ill-formed bytes. -/
def scanFrom (s : Reader) : Bytes → List (Option Nat)
  | [] => s.finish
  | b :: bs => (s.step b).1 ++ scanFrom (s.step b).2 bs

/-- The characters of a byte sequence; `none` stands for ill-formed bytes. -/
def scan (bs : Bytes) : List (Option Nat) := scanFrom .ready bs

/-- The replacement character. -/
def replacement : Nat := 0xFFFD

/-- The text of a byte sequence, the replacement character standing for ill-formed bytes. -/
def decode (bs : Bytes) : Text := Text.ofCodePoints ((scan bs).map (·.getD replacement))

/-- The text of a well-formed byte sequence. -/
def decode? (bs : Bytes) : Option Text := ((scan bs).mapM id).map Text.ofCodePoints

/-! ### Writing -/

/-- The bytes of one code point; a surrogate has none of its own. -/
def encodePoint (c : Nat) : Bytes :=
  if c < 0x80 then [c.toUInt8]
  else if c < 0x800 then [(0xC0 + c / 64).toUInt8, (0x80 + c % 64).toUInt8]
  else if !Text.isScalar c then [0xEF, 0xBF, 0xBD]
  else if c < 0x10000 then
    [(0xE0 + c / 4096).toUInt8, (0x80 + c / 64 % 64).toUInt8, (0x80 + c % 64).toUInt8]
  else
    [(0xF0 + c / 262144).toUInt8, (0x80 + c / 4096 % 64).toUInt8, (0x80 + c / 64 % 64).toUInt8,
      (0x80 + c % 64).toUInt8]

/-- The UTF-8 bytes of a text. -/
def encode (t : Text) : Bytes := t.codePoints.flatMap encodePoint

end Utf8

end LineAgents
