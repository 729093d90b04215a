import LineAgents.Number.Basic

/-!
# The shortest decimal of a number

Among the decimals that read back as a given positive double, the one to print has the fewest
digits and, of those, lies nearest to the number. The reals that round to a double `m * 2 ^ q`
form an interval around it, half a step to either side (a quarter below a power of two), with its
ends included exactly when `m` is even. For one digit, two digits, and so on up to seventeen, the
two points of that decimal grid next to the number are tried; the first grid with a point in the
interval wins. All of it is exact arithmetic on natural numbers.
-/

namespace LineAgents.Number

/-- **A positive decimal**: the natural number `digits` times ten to the power `scale`. -/
structure Decimal where
  digits : Nat
  scale : Int
  deriving DecidableEq, Repr

/-- **The reals that round to a double**, over the common denominator `den`: from `value - below`
to `value + above`, the ends included when `closed`. -/
structure Interval where
  value : Nat
  below : Nat
  above : Nat
  den : Nat
  closed : Bool

/-- The reals that round to the positive finite number `x`. -/
def roundingInterval (x : Float) : Interval :=
  let m := mantissa x
  let closed := m % 2 == 0
  let narrow := fractionField x == 0 && exponentField x > 1
  match exponent x with
  | .ofNat e =>
    let unit := 1 <<< e
    ⟨4 * m * unit, if narrow then unit else 2 * unit, 2 * unit, 4, closed⟩
  | .negSucc e => ⟨4 * m, if narrow then 1 else 2, 2, 4 <<< (e + 1), closed⟩

/-- Whether the decimal `a / b` lies in the interval. -/
def Interval.contains (i : Interval) (a b : Nat) : Bool :=
  let point := a * i.den
  let lower := (i.value - i.below) * b
  let upper := (i.value + i.above) * b
  if i.closed then lower ≤ point && point ≤ upper else lower < point && point < upper

/-- Ten to an integer power, as a numerator and a denominator. -/
def tenPower : Int → Nat × Nat
  | .ofNat e => (Nat.pow 10 e, 1)
  | .negSucc e => (1, Nat.pow 10 (e + 1))

/-- The number of decimal digits of the integer part of `num / den`, or, when that is zero, minus
the number of zeros that follow the point. -/
def decimalOrder (num den : Nat) : Int :=
  if num ≥ den then ((Nat.toDigits 10 (num / den)).length : Int)
  else 1 - ((Nat.toDigits 10 ((den - 1) / num)).length : Int)

/-- The better of the two neighbours of the number on the grid of step ten to the power `scale`,
if one of them lies in the interval: the nearer one, and of two as near the even one. -/
def Interval.onGrid? (i : Interval) (scale : Int) : Option Decimal :=
  let (up, down) := tenPower scale
  let a := i.value * down / (i.den * up)
  let low := i.contains (a * up) down
  let high := i.contains ((a + 1) * up) down
  let twice := 2 * i.value * down
  let middle := (2 * a + 1) * (i.den * up)
  match low, high with
  | false, false => none
  | true, false => some ⟨a, scale⟩
  | false, true => some ⟨a + 1, scale⟩
  | true, true =>
    if twice < middle || (twice == middle && a % 2 == 0) then some ⟨a, scale⟩
    else some ⟨a + 1, scale⟩

/-- The first grid with a hit, of those with `n` digits, `n + 1` digits, … -/
def Interval.search (i : Interval) (order : Int) (n : Nat) : Nat → Decimal
  | 0 => ⟨i.value / i.den, 0⟩
  | tries + 1 =>
    match i.onGrid? (order - n) with
    | some d => d
    | none => i.search order (n + 1) tries

/-- The decimal with the fewest digits that reads back as the positive finite number `x`. -/
def shortest (x : Float) : Decimal :=
  let i := roundingInterval x
  i.search (decimalOrder i.value i.den) 1 17

end LineAgents.Number
