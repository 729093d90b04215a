import LineAgents.Agents.MathOracle
import LineAgents.Proofs.Json.RoundTrip
import LineAgents.Proofs.Number.Integers
import Mathlib.Data.Nat.Factorial.Basic

/-!
# Factorials without rounding

A factorial soon outgrows the range in which doubles count one by one: eighteen is the last argument
whose factorial lies within it, and ten thousand the last one that is taken at all. So an answer
changes its form on the way, from a number to a text of digits, and a client that reads either form
must come to the same natural number, with nothing rounded away.

* `LineAgents.MathOracle.multiplyUp_factorial` is the invariant of the loop: whoever has multiplied
  up to `i` holds the factorial of `i`.
* `LineAgents.MathOracle.Exact` says what it is for an answer to hold a natural number, in the form
  that its size asks for.
* `LineAgents.MathOracle.factorial_of_double` goes through all doubles. Those whose integer part,
  toward zero, is a natural number up to ten thousand are answered exactly, the negative fractions
  above minus one among them; all others, with the infinities and what is no number, are refused.
-/

namespace LineAgents.MathOracle

open Number (IsDigits digitValues valueOf CutsTo)
open scoped Nat

/-! ### The loop -/

/-- **The loop multiplies up a factorial.** -/
theorem multiplyUp_factorial (steps i : ℕ) : multiplyUp steps (i + 1) i ! = (i + steps)! := by
  -- the accumulator holds the factorial of the number before the next factor
  induction steps generalizing i with
  | zero => rfl
  | succ steps ih =>
    have hstep : i ! * (i + 1) = (i + 1)! := by rw [Nat.factorial_succ, mul_comm]
    rw [multiplyUp, hstep, ih, Nat.add_right_comm, Nat.add_assoc]

theorem product_eq (n : ℕ) : product n = n ! := by
  cases n with
  | zero => rfl
  | succ n =>
    have hloop := multiplyUp_factorial n 1
    rw [Nat.factorial_one, Nat.add_comm 1 n] at hloop
    exact hloop

/-! ### The form of an answer -/

/-- **An answer that holds a natural number**: a double of that value below two to the power
fifty-three, and from there on its digits, without sign, exponent or leading zero. -/
inductive Exact : Json → ℕ → Prop
  /-- A number, which is not rounded. -/
  | number {x : Float} {n : ℕ} (hsmall : n ≤ 2 ^ 53 - 1) (hfinite : Number.isFinite x = true)
    (hvalue : Number.value x = n) : Exact (.num x) n
  /-- Digits, which spell the number in base ten. -/
  | digits {t : Text} {n : ℕ} (hlarge : 2 ^ 53 - 1 < n) (hdigits : IsDigits t)
    (hhead : t.head? ≠ some 48) (hvalue : valueOf 10 (digitValues t) = n) : Exact (.str t) n

section

variable {n : ℕ}

theorem exact_exactValue (n : ℕ) : Exact (exactValue n) n := by
  rw [exactValue, greatestExact]
  split_ifs with hsmall
  · have hn : n < 2 ^ 53 := by omega
    exact .number (by omega) (Number.fields_ofNat hn).1 (Number.value_ofNat hn)
  · exact .digits (by omega) (Number.isDigits_ofNat n) (Number.head_ofNat (by omega))
      (Number.valueOf_ofNat n)

/-- **An exact answer is read back as it was written.** Only a zero might be read as another one,
and the natural number of an answer is none. -/
theorem parse?_render_exactValue (hn : n ≠ 0) :
    Json.parse? (exactValue n).render = some (exactValue n) := by
  rw [Json.parse?_render, exactValue, greatestExact]
  split_ifs with hsmall
  · obtain ⟨hfinite, -, hmagnitude⟩ := Number.fields_ofNat (n := n) (by omega)
    have hmantissa : Number.mantissa (Float.ofNat n) ≠ 0 := by
      rw [ne_eq, ← Number.size_eq_zero_iff, ← Number.magnitude_eq_zero_iff, hmagnitude]
      exact_mod_cast hn
    rw [Json.ofNat, Json.reread, if_pos hfinite,
      Number.unsignZero_of_mantissa_ne hfinite hmantissa]
  · rw [Json.reread]

end

/-! ### All doubles -/

/-- **What the factorial of a double is**: that of its integer part, if this is a natural number up
to ten thousand, in exact form and to be read back as it was written; and otherwise a refusal. -/
theorem factorial_of_double (x : Float) :
    (∀ k ≤ 10000, CutsTo x k →
      ∃ v, factorial x = .ok v ∧ Exact v k ! ∧ Json.parse? v.render = some v) ∧
    ((∀ k ≤ 10000, ¬CutsTo x k) → ∃ message, factorial x = .error (.validation message)) := by
  constructor
  · intro k hk hcut
    obtain ⟨hfinite, hneg, htrunc⟩ := Number.cutsTo_iff.mp hcut
    have hlimit : (!Number.isFinite (Number.trunc x) ||
        decide (Number.truncNat (Number.trunc x) > greatest)) = false := by
      rw [hfinite, htrunc, decide_eq_false (show ¬k > greatest from not_lt.mpr hk)]
      rfl
    have hvalue : factorial x = .ok (exactValue k !) := by
      rw [factorial, if_neg hneg, hlimit, if_neg Bool.false_ne_true, htrunc, product_eq]
    exact ⟨exactValue k !, hvalue, exact_exactValue k !,
      parse?_render_exactValue (Nat.factorial_ne_zero k)⟩
  · intro hnone
    unfold factorial
    dsimp only
    split_ifs with hneg hlimit
    · exact ⟨_, rfl⟩
    · exact ⟨_, rfl⟩
    · -- what passes both tests has a natural number for its integer part
      rw [Bool.or_eq_true, Bool.not_eq_true', decide_eq_true_iff, not_or, Bool.not_eq_false,
        not_lt] at hlimit
      exact absurd (Number.cutsTo_iff.mpr ⟨hlimit.1, hneg, rfl⟩) (hnone _ hlimit.2)

/-- A negative fraction is cut to zero, and what is no number is refused. -/
theorem factorial_of_negative_half :
    (∃ v, factorial (-0.5) = .ok v ∧ Exact v 0! ∧ Json.parse? v.render = some v) ∧
      ∃ message, factorial Number.nan = .error (.validation message) :=
  ⟨(factorial_of_double (-0.5)).1 0 (by norm_num) (Number.cutsTo_iff.mpr (by decide)),
    (factorial_of_double Number.nan).2 fun _ _ hcut => absurd hcut.1 (by decide)⟩

end LineAgents.MathOracle
