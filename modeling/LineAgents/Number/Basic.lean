/-!
# Double-precision numbers

The numbers of the protocol are IEEE doubles. This file takes them apart and adds the few
operations on them that the agents need: dropping the fraction, rounding, and passing to and from
integers. Each is defined on the bits of the number, so that it can be computed and reasoned about
by the same means.
-/

namespace LineAgents.Number

/-- The eleven bits of the exponent field. -/
def exponentField (x : Float) : Nat := x.toBits.toNat / 0x10000000000000 % 0x800

/-- The fifty-two bits of the fraction field. -/
def fractionField (x : Float) : Nat := x.toBits.toNat % 0x10000000000000

/-- The sign bit. -/
def isNegative (x : Float) : Bool := 0x8000000000000000 ≤ x.toBits.toNat

/-- Neither infinite nor not a number. -/
def isFinite (x : Float) : Bool := exponentField x != 2047

/-- Not a number. -/
def isNaN (x : Float) : Bool := exponentField x == 2047 && fractionField x != 0

/-- Positive infinity. -/
def infinity : Float := Float.ofBits 0x7FF0000000000000

/-- The value that stands for no number. -/
def nan : Float := Float.ofBits 0x7FF8000000000000

/-- The integer factor of a finite number: its value is `mantissa x * 2 ^ exponent x` up to sign. -/
def mantissa (x : Float) : Nat :=
  if exponentField x == 0 then fractionField x else 0x10000000000000 + fractionField x

/-- The power of two of a finite number. -/
def exponent (x : Float) : Int :=
  if exponentField x == 0 then -1074 else (exponentField x : Int) - 1075

/-- The number without its fraction, the sign of a zero kept. -/
def trunc (x : Float) : Float :=
  if exponentField x ≥ 1075 then x
  else if exponentField x < 1023 then Float.ofBits (x.toBits &&& 0x8000000000000000)
  else Float.ofBits (x.toBits &&& ~~~((1 <<< (1075 - exponentField x).toUInt64) - 1))

/-- The size of the integer part of a finite number. -/
def truncNat (x : Float) : Nat :=
  match exponent x with
  | .ofNat e => mantissa x <<< e
  | .negSucc e => mantissa x >>> (e + 1)

/-- The greatest integer that is not above the number. -/
def floor (x : Float) : Float :=
  let t := trunc x
  if t > x then t - 1 else t

/-- The nearest integer, a half going up. -/
def round (x : Float) : Float :=
  if isFinite x then
    let f := floor x
    if x - f ≥ 0.5 then f + 1 else f
  else x

/-- Whether the number is finite and has no fraction. -/
def isInteger (x : Float) : Bool := isFinite x && trunc x == x

/-- The number nearest to an integer. -/
def ofInt : Int → Float
  | .ofNat n => Float.ofNat n
  | .negSucc n => -Float.ofNat (n + 1)

end LineAgents.Number
