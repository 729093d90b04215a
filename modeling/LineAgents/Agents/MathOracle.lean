import LineAgents.Params.Schema
import LineAgents.Protocol.Handler

/-!
# Square roots and factorials

The calculator takes a number and the name of an operation. A square root is a double. A factorial
is exact: the fraction of its argument is dropped, and the value is a number as long as doubles
count one by one, and its decimal digits as a text beyond that.
-/

namespace LineAgents.MathOracle

/-! ### Factorials -/

/-- `acc` times so many numbers from `i` on as there are steps. -/
def multiplyUp : (steps i acc : Nat) → Nat
  | 0, _, acc => acc
  | steps + 1, i, acc => multiplyUp steps (i + 1) (acc * i)

/-- The product of the natural numbers from 1 to `n`, multiplied up from 2. -/
def product (n : Nat) : Nat := multiplyUp (n - 1) 2 1

/-- The greatest natural number whose factorial is computed. -/
def greatest : Nat := 10000

/-- The greatest natural number up to which doubles count one by one. -/
def greatestExact : Nat := 9007199254740991

/-- A natural number as a number if doubles hold it exactly, and by its digits otherwise. -/
def exactValue (n : Nat) : Json :=
  if n ≤ greatestExact then .ofNat n else .str (Text.ofNat n)

/-- **The factorial of a number** whose fraction is dropped. -/
def factorial (x : Float) : Except Failure Json :=
  let k := Number.trunc x
  if k < 0 then .error (.validation "factorial is not defined for negative values")
  else if !Number.isFinite k || Number.truncNat k > greatest then
    .error (.validation ("factorial is limited to numbers up to " ++ Text.ofNat greatest))
  else .ok (exactValue (product (Number.truncNat k)))

/-! ### The agent -/

/-- The parameters: a number, and an operation. -/
def schema : Params.Schema := [
  { name := "number", rule := .number "number" },
  { name := "operation", rule := .text none (some "operation must be a string") none,
    default? := some (.str "sqrt") }]

/-- The square root of a number that is not negative. -/
def squareRoot (x : Float) : Except Failure Json :=
  if x < 0 then .error (.validation "sqrt is not defined for negative numbers")
  else .ok (.num x.sqrt)

/-- The value of an operation. -/
def evaluate (operation : Text) (x : Float) : Except Failure Json :=
  if operation = "sqrt" then squareRoot x
  else if operation = "factorial" then factorial x
  else .error (.unsupported "Unknown operation")

/-- **The agent.** -/
def capability : Capability where
  card := .declare "MathOracle-v1" "Calculates square roots and factorial."
    ["number", "operation"] 0.5 "1.0.0" (some ["math", "sqrt", "factorial", "calculator"])
  positions := [
    { name := "number" },
    { name := "operation", default? := some (.str "sqrt") }]
  compute params := .lift do
    let p ← schema.parse params
    evaluate (p.text "operation") (p.number "number")

end LineAgents.MathOracle
