import LineAgents.Number.Shortest
import LineAgents.Text.Basic

/-!
# Numbers as text

A finite number is written with the digits of its shortest decimal: positionally when the point
falls no further than twenty-one digits to the right or six zeros to the left, and otherwise with
an exponent, which always has a sign and never a leading zero (`1e+21`, `1e-7`). Both zeros are
written `0`.
-/

namespace LineAgents.Number

/-- The digits of a positive decimal without trailing zeros, and the place of its point: the value
is `0.d₁d₂… * 10 ^ point`. -/
def Decimal.places (d : Decimal) : Text × Int :=
  let ds := Text.ofNat d.digits
  (Text.dropTrailing 48 ds, ds.length + d.scale)

/-- The text of an exponent, with its sign. -/
def exponentText (e : Int) : Text :=
  if e < 0 then "e-" ++ Text.ofNat e.natAbs else "e+" ++ Text.ofNat e.natAbs

/-- A positive decimal, by its digits and the place of its point. -/
def layOut (ds : Text) (point : Int) : Text :=
  let k := ds.length
  if k ≤ point ∧ point ≤ 21 then ds ++ List.replicate (point.toNat - k) 48
  else if 0 < point ∧ point ≤ 21 then ds.take point.toNat ++ "." ++ ds.drop point.toNat
  else if -6 < point ∧ point ≤ 0 then [48, 46] ++ List.replicate (-point).toNat 48 ++ ds
  else match ds with
    | [d] => [d] ++ exponentText (point - 1)
    | d :: rest => [d] ++ "." ++ rest ++ exponentText (point - 1)
    | [] => []

/-- The text of a positive finite number. -/
def positiveText (x : Float) : Text :=
  let (ds, point) := (shortest x).places
  layOut ds point

/-- The text of a number. -/
def toText (x : Float) : Text :=
  if isNaN x then "NaN"
  else if !isFinite x then (if isNegative x then "-Infinity" else "Infinity")
  else if x == 0 then "0"
  else if isNegative x then "-" ++ positiveText (-x)
  else positiveText x

end LineAgents.Number
