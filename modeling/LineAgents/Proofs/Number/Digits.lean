import LineAgents.Number.Literal
import LineAgents.Number.Printer
import LineAgents.Proofs.Text.CodePoint
import Mathlib.Data.List.Basic
import Mathlib.Data.List.Induction
import Mathlib.Data.List.TakeWhile
import Mathlib.Tactic.NormNum
import Mathlib.Tactic.Ring

/-!
# Digits, written and read

The digits that are written for a natural number spell it (`LineAgents.Number.valueOf_ofNat`) and do
not begin with a zero (`LineAgents.Number.head_ofNat`). A run of digits is taken off the front of a
text as it stands (`LineAgents.Number.takeDigits_append`), and so is the text of an exponent
(`LineAgents.Number.takeExponent_append`).
-/

namespace LineAgents.Number

/-- **A run of digits.** -/
def IsDigits (t : Text) : Prop := ∀ u ∈ t, Text.isDigit u = true

/-- The values of the digits of a run. -/
def digitValues (t : Text) : List ℕ := t.map fun u => u.toNat - 48

theorem isDigit_iff {u : UInt16} : Text.isDigit u = true ↔ 48 ≤ u.toNat ∧ u.toNat ≤ 57 := by
  rw [Text.isDigit, Bool.and_eq_true, decide_eq_true_eq, decide_eq_true_eq, UInt16.le_iff_toNat_le,
    UInt16.le_iff_toNat_le]
  rfl

/-- Digits are visible. -/
theorem IsDigits.visible {t : Text} (h : IsDigits t) : t.Visible := by
  intro u hu
  have hdigit := isDigit_iff.mp (h u hu)
  omega

/-! ### The value of a run of digits -/

section

variable {s t : Text}

theorem isDigits_nil : IsDigits [] := by
  intro u hu
  cases hu

theorem isDigits_append : IsDigits (s ++ t) ↔ IsDigits s ∧ IsDigits t := List.forall_mem_append

theorem digitValues_append : digitValues (s ++ t) = digitValues s ++ digitValues t :=
  List.map_append

theorem length_digitValues (t : Text) : (digitValues t).length = t.length := List.length_map _

theorem isDigits_zeros (n : ℕ) : IsDigits (List.replicate n 48) := by
  intro u hu
  rw [List.eq_of_mem_replicate hu]
  rfl

theorem digitValues_zeros (n : ℕ) : digitValues (List.replicate n 48) = List.replicate n 0 :=
  List.map_replicate

end

/-- A digit more at the end makes the number so many times larger as the base is. -/
theorem valueOf_concat (b : ℕ) (xs : List ℕ) (y : ℕ) :
    valueOf b (xs ++ [y]) = valueOf b xs * b + y := by
  rw [valueOf, List.foldl_append]
  rfl

/-- The digits in front count as many powers of the base more as there are digits behind them. -/
theorem valueOf_append (b : ℕ) (xs ys : List ℕ) :
    valueOf b (xs ++ ys) = valueOf b xs * b ^ ys.length + valueOf b ys := by
  induction ys using List.reverseRecOn with
  | nil =>
    rw [List.append_nil, List.length_nil, pow_zero, mul_one]
    rfl
  | append_singleton ys y ih =>
    rw [← List.append_assoc, valueOf_concat, valueOf_concat, ih, List.length_append,
      List.length_singleton, pow_succ]
    ring

theorem valueOf_zeros (b n : ℕ) : valueOf b (List.replicate n 0) = 0 := by
  induction n with
  | zero => rfl
  | succ n ih => rw [List.replicate_succ', valueOf_concat, ih, zero_mul]

/-! ### The digits of a natural number -/

/-- The code unit of a single digit. -/
theorem unit_digitChar : ∀ d < 10, Text.isDigit (Text.unit d.digitChar) = true ∧
    digitValues [Text.unit d.digitChar] = [d] ∧ (Text.unit d.digitChar = 48 → d = 0) := by
  decide

theorem ofNat_of_lt {n : ℕ} (hn : n < 10) : Text.ofNat n = [Text.unit n.digitChar] := by
  rw [Text.ofNat, Nat.toDigits_of_lt_base hn, List.map_singleton]

/-- The last digit is written after the digits of the tens. -/
theorem ofNat_of_le {n : ℕ} (hn : 10 ≤ n) :
    Text.ofNat n = Text.ofNat (n / 10) ++ [Text.unit (n % 10).digitChar] := by
  rw [Text.ofNat, Nat.toDigits_of_base_le (by norm_num) hn, List.map_append, List.map_singleton]
  rfl

theorem ofNat_ne_nil (n : ℕ) : Text.ofNat n ≠ [] := by
  rw [Text.ofNat, ne_eq, List.map_eq_nil_iff]
  exact Nat.toDigits_ne_nil

theorem isDigits_ofNat (n : ℕ) : IsDigits (Text.ofNat n) := by
  induction n using Nat.strongRecOn with
  | _ n ih =>
    by_cases hn : n < 10
    · rw [ofNat_of_lt hn, IsDigits, List.forall_mem_singleton]
      exact (unit_digitChar n hn).1
    · rw [ofNat_of_le (by omega), isDigits_append]
      refine ⟨ih (n / 10) (by omega), List.forall_mem_singleton.mpr ?_⟩
      exact (unit_digitChar (n % 10) (by omega)).1

/-- **The digits of a natural number spell it.** -/
theorem valueOf_ofNat (n : ℕ) : valueOf 10 (digitValues (Text.ofNat n)) = n := by
  induction n using Nat.strongRecOn with
  | _ n ih =>
    by_cases hn : n < 10
    · rw [ofNat_of_lt hn, (unit_digitChar n hn).2.1]
      exact Nat.zero_add n
    · rw [ofNat_of_le (by omega), digitValues_append, (unit_digitChar (n % 10) (by omega)).2.1,
        valueOf_concat, ih (n / 10) (by omega)]
      omega

/-- **The digits of a positive number do not begin with a zero.** -/
theorem head_ofNat {n : ℕ} (hn : n ≠ 0) : (Text.ofNat n).head? ≠ some 48 := by
  induction n using Nat.strongRecOn with
  | _ n ih =>
    by_cases hlt : n < 10
    · rw [ofNat_of_lt hlt, List.head?_cons]
      intro h
      exact hn ((unit_digitChar n hlt).2.2 (Option.some.inj h))
    · rw [ofNat_of_le (by omega), List.head?_append_of_ne_nil _ (ofNat_ne_nil _)]
      exact ih (n / 10) (by omega) (by omega)

/-- What is dropped from the end of a text is a run of the unit that is dropped. -/
theorem dropTrailing_append (u : UInt16) (t : Text) :
    ∃ n, t = Text.dropTrailing u t ++ List.replicate n u := by
  have hrun : t.reverse.takeWhile (· == u) =
      List.replicate (t.reverse.takeWhile (· == u)).length u :=
    List.eq_replicate_iff.mpr
      ⟨rfl, fun v hv => eq_of_beq (List.mem_takeWhile_imp (p := (· == u)) hv)⟩
  refine ⟨(t.reverse.takeWhile (· == u)).length, ?_⟩
  rw [Text.dropTrailing, ← List.reverse_replicate, ← hrun, ← List.reverse_append,
    List.takeWhile_append_dropWhile, List.reverse_reverse]

/-- What is left does not end in the unit that is dropped. -/
theorem getLast?_dropTrailing (u : UInt16) (t : Text) :
    (Text.dropTrailing u t).getLast? ≠ some u := by
  rw [Text.dropTrailing, List.getLast?_reverse]
  intro h
  have hhead := List.head?_dropWhile_not (· == u) t.reverse
  rw [h] at hhead
  simp at hhead

/-! ### Taking digits -/

/-- **A run of digits is taken as it stands**, up to what is not a digit. -/
theorem takeDigits_append {ds rest : Text} (hds : IsDigits ds)
    (hrest : ∀ u ∈ rest.head?, Text.isDigit u = false) :
    takeDigits (ds ++ rest) = (digitValues ds, rest) := by
  have hnone : rest.takeWhile Text.isDigit = [] ∧ rest.dropWhile Text.isDigit = rest := by
    cases rest with
    | nil => exact ⟨rfl, rfl⟩
    | cons u rest =>
      have hu := hrest u rfl
      exact ⟨List.takeWhile_cons_of_neg (by rw [hu]; exact Bool.false_ne_true),
        List.dropWhile_cons_of_neg (by rw [hu]; exact Bool.false_ne_true)⟩
  rw [takeDigits, List.takeWhile_append_of_pos hds, List.dropWhile_append_of_pos hds, hnone.1,
    hnone.2, List.append_nil]
  rfl

/-- **The text of an exponent is taken as it stands.** -/
theorem takeExponent_append (e : ℤ) {rest : Text}
    (hrest : ∀ u ∈ rest.head?, Text.isDigit u = false) :
    takeExponent (exponentText e ++ rest) = (e, rest) := by
  have htake := takeDigits_append (isDigits_ofNat e.natAbs) hrest
  have hvalue := valueOf_ofNat e.natAbs
  have hne : digitValues (Text.ofNat e.natAbs) ≠ [] := by
    rw [digitValues, ne_eq, List.map_eq_nil_iff]
    exact ofNat_ne_nil _
  generalize digitValues (Text.ofNat e.natAbs) = ds at *
  cases ds with
  | nil => exact absurd rfl hne
  | cons d ds =>
    rw [exponentText]
    by_cases he : e < 0
    · have htext : ("e-" : Text) ++ Text.ofNat e.natAbs ++ rest =
          101 :: 45 :: (Text.ofNat e.natAbs ++ rest) := rfl
      rw [if_pos he, htext, takeExponent]
      simp only [htake, hvalue, if_true]
      rw [if_pos (by decide)]
      congr 1
      omega
    · have htext : ("e+" : Text) ++ Text.ofNat e.natAbs ++ rest =
          101 :: 43 :: (Text.ofNat e.natAbs ++ rest) := rfl
      rw [if_neg he, htext, takeExponent]
      simp only [htake, hvalue, Bool.false_eq_true, if_false]
      rw [if_pos (by decide)]
      congr 1
      omega

/-- Without the letter of an exponent nothing is taken. -/
theorem takeExponent_of_head {rest : Text} (hrest : ∀ u ∈ rest.head?, u ≠ 101 ∧ u ≠ 69) :
    takeExponent rest = (0, rest) := by
  cases rest with
  | nil => rfl
  | cons u rest =>
    obtain ⟨hlower, hupper⟩ := hrest u rfl
    have hletter : ¬((u == 101 || u == 69) = true) := by
      rw [Bool.or_eq_true, beq_iff_eq, beq_iff_eq]
      exact not_or.mpr ⟨hlower, hupper⟩
    simp only [takeExponent]
    rw [if_neg hletter]

end LineAgents.Number
