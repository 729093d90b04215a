import LineAgents.Text.Utf8

/-!
# Base64

A lenient reader of base64 texts. Both alphabets are accepted side by side, a unit of neither is
passed over, and the first padding sign ends the data. Four digits give three bytes; the bits a
last incomplete group leaves over are dropped, so a single digit at the end gives nothing.
-/

namespace LineAgents.Base64

/-- The value of a base64 digit of either alphabet. -/
def digitValue? (u : UInt16) : Option Nat :=
  if 65 ≤ u && u ≤ 90 then some (u.toNat - 65)
  else if 97 ≤ u && u ≤ 122 then some (u.toNat - 71)
  else if 48 ≤ u && u ≤ 57 then some (u.toNat + 4)
  else if u == 43 || u == 45 then some 62
  else if u == 47 || u == 95 then some 63
  else none

/-- The digits before the first padding sign, each unit read by its low byte. -/
def digits (t : Text) : List Nat :=
  ((t.map (· &&& 0xFF)).takeWhile (· != 61)).filterMap digitValue?

/-- The bytes of a list of digits, six bits each. -/
def pack : List Nat → Bytes
  | a :: b :: c :: d :: rest =>
    (a * 4 + b / 16).toUInt8 :: (b % 16 * 16 + c / 4).toUInt8 :: (c % 4 * 64 + d).toUInt8 ::
      pack rest
  | [a, b, c] => [(a * 4 + b / 16).toUInt8, (b % 16 * 16 + c / 4).toUInt8]
  | [a, b] => [(a * 4 + b / 16).toUInt8]
  | _ => []

/-- The bytes of a base64 text. -/
def decode (t : Text) : Bytes := pack (digits t)

end LineAgents.Base64
