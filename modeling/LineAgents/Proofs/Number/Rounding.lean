import Mathlib

/-!
# Rounding to a double

The arithmetic of doubles goes through one function, `Float.Model.UnpackedFloat.roundWithAccuracy`:
it is given a mantissa, an exponent, and how far the exact value lies above them, and it cuts the
mantissa to fifty-three bits, to the nearest and of two as near to the even one. This file says what
comes out, in exact rationals.

* `LineAgents.Number.Places` is what a mantissa with its two residual bits says about a value, and
  shifting keeps it true (`LineAgents.Number.Places.shiftRight`).
* `LineAgents.Number.Canonical` singles out one mantissa and exponent for every positive double, and
  `LineAgents.Number.RoundsTo` is the interval of the values around it that belong to it.
* `LineAgents.Number.roundWithAccuracy_eq` is the result: a value in the interval of a double is
  rounded to that double. Multiplying and dividing follow from it
  (`LineAgents.Number.mul_finite_eq`, `LineAgents.Number.div_finite_eq`).
-/

namespace LineAgents.Number

open Float.Model Float.Model.UnpackedFloat

/-! ### What the residual bits say -/

/-- The mantissa, and half a step more if the round bit is set. -/
def lowerEnd (em : ExtendedMantissa) : ℚ :=
  em.mantissa + if em.roundBit then 1 / 2 else 0

/-- **Where a value lies** by an extended mantissa: at the lower end of its half step, or strictly
inside the half step if the sticky bit is set. -/
def Places (em : ExtendedMantissa) (q : ℚ) : Prop :=
  if em.stickyBit then lowerEnd em < q ∧ q < lowerEnd em + 1 / 2 else q = lowerEnd em

theorem places_exact (m : ℕ) : Places (.ofMantissaAndAccuracy m .exact) m := by
  change (m : ℚ) = m + 0
  rw [add_zero]

theorem mantissa_ofMantissaAndAccuracy (m : ℕ) (a : Accuracy) :
    (ExtendedMantissa.ofMantissaAndAccuracy m a).mantissa = m := by
  cases a with
  | exact => rfl
  | inexact o => cases o <;> rfl

/-- A value lies less than a step above the mantissa. -/
theorem Places.bounds {em : ExtendedMantissa} {q : ℚ} (h : Places em q) :
    (em.mantissa : ℚ) ≤ q ∧ q < em.mantissa + 1 := by
  obtain ⟨m, r, s⟩ := em
  cases r <;> cases s <;>
    simp only [Places, lowerEnd, if_true, if_false, Bool.false_eq_true] at h <;>
    constructor <;> linarith

/-- The bit that is cut off a mantissa becomes its half step. -/
theorem lowerEnd_shiftRightOne (em : ExtendedMantissa) :
    lowerEnd em.shiftRightOne = em.mantissa / 2 := by
  have hm : ((em.mantissa % 2 : ℕ) : ℚ) + 2 * ((em.mantissa / 2 : ℕ) : ℚ) = em.mantissa := by
    exact_mod_cast Nat.mod_add_div em.mantissa 2
  rw [lowerEnd, ExtendedMantissa.shiftRightOne]
  rcases Nat.mod_two_eq_zero_or_one em.mantissa with hbit | hbit
  · rw [hbit] at hm ⊢
    simp only [bne_self_eq_false, Bool.false_eq_true, if_false]
    push_cast at hm
    linarith
  · rw [hbit] at hm ⊢
    simp only [show ((1 : ℕ) != 0) = true from rfl, if_true]
    push_cast at hm
    linarith

/-- Half the value is placed by the mantissa that has lost a bit. -/
theorem Places.shiftRightOne {em : ExtendedMantissa} {q : ℚ} (h : Places em q) :
    Places em.shiftRightOne (q / 2) := by
  rw [Places, lowerEnd_shiftRightOne]
  obtain ⟨m, r, s⟩ := em
  cases r <;> cases s <;> simp only [Places, lowerEnd, ExtendedMantissa.shiftRightOne, if_true,
    if_false, Bool.false_eq_true, Bool.or_false, Bool.or_true] at h ⊢
  · linarith
  all_goals constructor <;> linarith

/-- **Shifting keeps the place of a value.** -/
theorem Places.shiftRight {em : ExtendedMantissa} {q : ℚ} (h : Places em q) (n : ℕ) :
    Places (em >>> n) (q / 2 ^ n) := by
  change Places (n.repeat ExtendedMantissa.shiftRightOne em) _
  induction n with
  | zero => rwa [pow_zero, div_one]
  | succ n ih =>
    rw [pow_succ, ← div_div]
    exact ih.shiftRightOne

/-! ### The nearest mantissa -/

/-- **The nearest natural number**, of two as near the even one. -/
def Nearest (n : ℕ) (q : ℚ) : Prop :=
  (n : ℚ) - 1 / 2 ≤ q ∧ q ≤ n + 1 / 2 ∧
    (n % 2 = 1 → (n : ℚ) - 1 / 2 < q ∧ q < n + 1 / 2)

/-- The nearest natural number is the one below the value or the one above it. -/
theorem Nearest.eq_or_eq {em : ExtendedMantissa} {q : ℚ} (h : Places em q) {n : ℕ}
    (hn : Nearest n q) : n = em.mantissa ∨ n = em.mantissa + 1 := by
  obtain ⟨hlow, hhigh⟩ := h.bounds
  obtain ⟨h1, h2, -⟩ := hn
  have hle : (em.mantissa : ℚ) < (n + 1 : ℕ) := by
    push_cast
    linarith
  have hge : (n : ℚ) < (em.mantissa + 2 : ℕ) := by
    push_cast
    linarith
  have hle' := Nat.cast_lt.mp hle
  have hge' := Nat.cast_lt.mp hge
  omega

/-- **The rounded mantissa is the nearest one.** -/
theorem Places.roundedMantissa_eq {em : ExtendedMantissa} {q : ℚ} (h : Places em q) {n : ℕ}
    (hn : Nearest n q) : em.roundedMantissa = n := by
  have hcases := hn.eq_or_eq h
  obtain ⟨h1, h2, hodd⟩ := hn
  obtain ⟨m, r, s⟩ := em
  rcases hcases with rfl | rfl
  · -- rounding down: the value is in the middle only if the mantissa is even
    cases r <;> cases s <;> simp only [Places, lowerEnd, if_true, if_false, Bool.false_eq_true] at h
    · rfl
    · rfl
    · have heven : n % 2 = 0 := by
        rcases Nat.mod_two_eq_zero_or_one n with hn | hn
        · exact hn
        · have hlt := (hodd hn).2
          linarith
      change n + n % 2 = n
      rw [heven, Nat.add_zero]
    · linarith
  · -- rounding up: the value is in the middle only if the mantissa is odd
    push_cast at h1 h2 hodd
    cases r <;> cases s <;> simp only [Places, lowerEnd, if_true, if_false, Bool.false_eq_true] at h
    · linarith
    · linarith
    · have hm : m % 2 = 1 := by
        rcases Nat.mod_two_eq_zero_or_one m with hm | hm
        · have hlt := (hodd (by omega)).1
          linarith
        · exact hm
      change m + m % 2 = m + 1
      rw [hm]
    · rfl

/-! ### Doubles, and the values that belong to them -/

/-- **The mantissa and the exponent of a positive double**: as many bits as there is room for, and
no exponent below or above the range. -/
structure Canonical (m : ℕ) (e : ℤ) : Prop where
  pos : 0 < m
  lt : m < 2 ^ 53
  min_le : -1074 ≤ e
  le_max : e ≤ 971
  full : e = -1074 ∨ 2 ^ 52 ≤ m

/-- How far below a double the values begin that belong to it: half a step, but only a quarter
where the steps below are half as long. -/
def marginBelow (m : ℕ) (e : ℤ) : ℚ := if m = 2 ^ 52 ∧ -1074 < e then 1 / 4 else 1 / 2

/-- **The values that belong to a double**: from the margin below it to half a step above, both
ends included when the mantissa is even. -/
def RoundsTo (v : ℚ) (m : ℕ) (e : ℤ) : Prop :=
  (m - marginBelow m e) * 2 ^ e ≤ v ∧ v ≤ (m + 1 / 2) * 2 ^ e ∧
    (m % 2 = 1 → (m - marginBelow m e) * 2 ^ e < v ∧ v < (m + 1 / 2) * 2 ^ e)

/-- The exponent that the format wants for a value below two to the power `l`. -/
theorem targetExponent_eq (l : ℤ) :
    Format.binary64.targetExponent l = max (l - 53) (-1074) := rfl

/-- A number with its exponent lies between two powers of two. -/
theorem bounds_of_places {m : ℕ} {a : Accuracy} {q : ℚ} {e : ℤ}
    (h : Places (.ofMantissaAndAccuracy m a) q) :
    q * 2 ^ e < 2 ^ totalExponent m e ∧
      (m ≠ 0 → (2 : ℚ) ^ (totalExponent m e - 1) ≤ q * 2 ^ e) := by
  obtain ⟨hlow, hhigh⟩ := h.bounds
  rw [mantissa_ofMantissaAndAccuracy] at hlow hhigh
  have hpos : (0 : ℚ) < 2 ^ e := by positivity
  constructor
  · have hq : q < 2 ^ (m.log2 + 1) := by
      have hm : ((m + 1 : ℕ) : ℚ) ≤ ((2 ^ (m.log2 + 1) : ℕ) : ℚ) := Nat.cast_le.mpr Nat.lt_log2_self
      push_cast at hm
      linarith
    rw [totalExponent, zpow_add₀ (by norm_num)]
    refine mul_lt_mul_of_pos_right ?_ hpos
    exact_mod_cast hq
  · intro hm0
    have hq : (2 : ℚ) ^ m.log2 ≤ q := by
      have hm : ((2 ^ m.log2 : ℕ) : ℚ) ≤ (m : ℚ) := Nat.cast_le.mpr (Nat.log2_self_le hm0)
      push_cast at hm
      linarith
    rw [totalExponent, show (m.log2 : ℤ) + 1 + e - 1 = m.log2 + e by ring,
      zpow_add₀ (by norm_num)]
    refine mul_le_mul_of_nonneg_right ?_ hpos.le
    exact_mod_cast hq

section

variable {m n : ℕ} {e t l : ℤ} {v : ℚ}

theorem marginBelow_pos (m : ℕ) (e : ℤ) : 0 < marginBelow m e := by
  rw [marginBelow]
  split <;> norm_num

theorem marginBelow_le (m : ℕ) (e : ℤ) : marginBelow m e ≤ 1 / 2 := by
  rw [marginBelow]
  split <;> norm_num

/-- A value strictly inside the interval belongs to the double. -/
theorem RoundsTo.of_lt (hlow : (m - marginBelow m e) * 2 ^ e < v)
    (hhigh : v < (m + 1 / 2) * 2 ^ e) : RoundsTo v m e :=
  ⟨hlow.le, hhigh.le, fun _ => ⟨hlow, hhigh⟩⟩

/-- A value that belongs to a double lies below the next power of two. -/
theorem RoundsTo.lt_zpow (h : RoundsTo v m e) (hm : m < 2 ^ 53) : v < 2 ^ (e + 53) := by
  have hm' : ((m + 1 : ℕ) : ℚ) ≤ ((2 ^ 53 : ℕ) : ℚ) := Nat.cast_le.mpr hm
  push_cast at hm'
  have hpos : (0 : ℚ) < 2 ^ e := by positivity
  calc v ≤ (m + 1 / 2) * 2 ^ e := h.2.1
    _ < 2 ^ 53 * 2 ^ e := mul_lt_mul_of_pos_right (by linarith) hpos
    _ = 2 ^ (e + 53) := by rw [zpow_add₀ (by norm_num), mul_comm]; norm_num

/-- A value that belongs to a double with all its bits does not lie far below it. -/
theorem RoundsTo.zpow_lt (h : RoundsTo v m e) (hm : 2 ^ 52 ≤ m) :
    (2 : ℚ) ^ (e + 51) < v ∧ (m ≠ 2 ^ 52 → (2 : ℚ) ^ (e + 52) < v) := by
  have hpos : (0 : ℚ) < 2 ^ e := by positivity
  have hmargin := marginBelow_le m e
  constructor
  · have hm' : (2 : ℚ) ^ 52 ≤ m := by exact_mod_cast hm
    calc (2 : ℚ) ^ (e + 51) = 2 ^ 51 * 2 ^ e := by
          rw [zpow_add₀ (by norm_num), mul_comm]; norm_num
      _ < (m - marginBelow m e) * 2 ^ e := mul_lt_mul_of_pos_right (by linarith) hpos
      _ ≤ v := h.1
  · intro hne
    have hm' : (2 : ℚ) ^ 52 + 1 ≤ m := by exact_mod_cast (by omega : 2 ^ 52 + 1 ≤ m)
    calc (2 : ℚ) ^ (e + 52) = 2 ^ 52 * 2 ^ e := by
          rw [zpow_add₀ (by norm_num), mul_comm]; norm_num
      _ < (m - marginBelow m e) * 2 ^ e := mul_lt_mul_of_pos_right (by linarith) hpos
      _ ≤ v := h.1

/-- **The exponent that is aimed at** is that of the double, or the one below it when the value lies
below a power of two and will be rounded up to it. -/
theorem RoundsTo.target_cases (h : RoundsTo v m e) (hc : Canonical m e) (hlt : v < 2 ^ l)
    (hle : (2 : ℚ) ^ (l - 1) ≤ v ∨ Format.binary64.targetExponent l = -1074) :
    Format.binary64.targetExponent l = e ∨
      Format.binary64.targetExponent l = e - 1 ∧ m = 2 ^ 52 ∧ v < 2 ^ (e + 52) := by
  have hmin := hc.min_le
  rw [targetExponent_eq] at hle ⊢
  have hupper : max (l - 53) (-1074) ≤ e := by
    rcases hle with hle | hle
    · have hl : l - 1 < e + 53 :=
        (zpow_lt_zpow_iff_right₀ (by norm_num : (1 : ℚ) < 2)).mp
          (lt_of_le_of_lt hle (h.lt_zpow hc.lt))
      omega
    · omega
  rcases hc.full with hfull | hfull
  · exact Or.inl (by omega)
  · -- with all its bits the double bounds the value from below, a power of two by one bit less
    by_cases he : e = -1074
    · exact Or.inl (by omega)
    · obtain ⟨h51, h52⟩ := h.zpow_lt hfull
      have hl : e + 51 < l :=
        (zpow_lt_zpow_iff_right₀ (by norm_num : (1 : ℚ) < 2)).mp (lt_trans h51 hlt)
      by_cases hm : m = 2 ^ 52
      · by_cases hl52 : e + 52 < l
        · exact Or.inl (by omega)
        · refine Or.inr ⟨by omega, hm, lt_of_lt_of_le hlt ?_⟩
          exact zpow_le_zpow_right₀ (by norm_num) (by omega)
      · have hl' : e + 52 < l :=
          (zpow_lt_zpow_iff_right₀ (by norm_num : (1 : ℚ) < 2)).mp (lt_trans (h52 hm) hlt)
        exact Or.inl (by omega)

/-- The double is the nearest mantissa for its own exponent. -/
theorem RoundsTo.nearest (h : RoundsTo v m e) : Nearest m (v / 2 ^ e) := by
  have hpos : (0 : ℚ) < 2 ^ e := by positivity
  have hmargin := marginBelow_le m e
  obtain ⟨h1, h2, h3⟩ := h
  refine ⟨?_, (div_le_iff₀ hpos).mpr h2, fun hodd => ⟨?_, (div_lt_iff₀ hpos).mpr (h3 hodd).2⟩⟩
  · have hle := (le_div_iff₀ hpos).mpr h1
    linarith
  · have hlt := (lt_div_iff₀ hpos).mpr (h3 hodd).1
    linarith

/-- Just below a power of two, the nearest mantissa of one exponent less is that power of two. -/
theorem RoundsTo.nearest_below (h : RoundsTo v (2 ^ 52) e) (he : -1074 < e)
    (hv : v < 2 ^ (e + 52)) : Nearest (2 ^ 53) (v / 2 ^ (e - 1)) := by
  have hpos : (0 : ℚ) < 2 ^ e := by positivity
  have hhalf : (2 : ℚ) ^ (e - 1) = 2 ^ e / 2 := by
    rw [zpow_sub_one₀ (by norm_num)]
    ring
  have hdiv : v / 2 ^ (e - 1) = 2 * (v / 2 ^ e) := by
    rw [hhalf]
    field_simp
  have hlow : (2 : ℚ) ^ 52 - 1 / 4 ≤ v / 2 ^ e := by
    have h1 := h.1
    rw [marginBelow, if_pos ⟨rfl, he⟩] at h1
    push_cast at h1
    exact (le_div_iff₀ hpos).mpr h1
  have hhigh : v / 2 ^ e < 2 ^ 52 := by
    rw [div_lt_iff₀ hpos]
    refine lt_of_lt_of_eq hv ?_
    rw [zpow_add₀ (by norm_num), mul_comm]
    norm_num
  rw [hdiv, Nearest]
  norm_num at hlow hhigh ⊢
  constructor <;> linarith

/-- What was rounded once needs no more rounding, but may have one bit too many. -/
theorem shiftToTargetExponent_exact (hn : n ≤ 2 ^ 53) (ht : -1074 ≤ t) :
    shiftToTargetExponent .binary64 n t .exact =
      if n = 2 ^ 53 then (⟨2 ^ 52, false, false⟩, t + 1) else (⟨n, false, false⟩, t) := by
  rw [shiftToTargetExponent, shiftToExponent, targetExponent_eq, totalExponent]
  split_ifs with hfull
  · have hlog : n.log2 = 53 := by rw [hfull, Nat.log2_two_pow]
    have hshift : (max ((n.log2 : ℤ) + 1 + t - 53) (-1074) - t).toNat = 1 := by omega
    rw [hshift, hfull]
    rfl
  · have hlog : n.log2 < 53 := by
      rcases Nat.eq_zero_or_pos n with rfl | hpos
      · decide
      · exact (Nat.log2_lt hpos.ne').mpr (by omega)
    have hshift : (max ((n.log2 : ℤ) + 1 + t - 53) (-1074) - t).toNat = 0 := by omega
    rw [hshift]
    simp only [Nat.cast_zero, add_zero]
    rfl

theorem shiftToTargetExponent_rounded (hc : Canonical m e)
    (h : n = m ∧ t = e ∨ n = 2 ^ 53 ∧ m = 2 ^ 52 ∧ t = e - 1) (ht : -1074 ≤ t) :
    shiftToTargetExponent .binary64 n t .exact = (⟨m, false, false⟩, e) := by
  have hlt := hc.lt
  rcases h with ⟨rfl, rfl⟩ | ⟨rfl, rfl, rfl⟩
  · rw [shiftToTargetExponent_exact hlt.le ht, if_neg hlt.ne]
  · rw [shiftToTargetExponent_exact le_rfl ht, if_pos rfl, sub_add_cancel]

/-- **A value that belongs to a double is rounded to it.** -/
theorem roundWithAccuracy_eq {a : Accuracy} {q : ℚ} {m' : ℕ} {e' : ℤ} (s : Sign)
    (h : Places (.ofMantissaAndAccuracy m' a) q) (hc : Canonical m e)
    (hv : RoundsTo (q * 2 ^ e') m e)
    (he : e' ≤ Format.binary64.targetExponent (totalExponent m' e')) :
    roundWithAccuracy .binary64 s m' e' a = .finite s m e hc.pos := by
  obtain ⟨hlt, hle⟩ := bounds_of_places (e := e') h
  have hle' : (2 : ℚ) ^ (totalExponent m' e' - 1) ≤ q * 2 ^ e' ∨
      Format.binary64.targetExponent (totalExponent m' e') = -1074 := by
    by_cases hm : m' = 0
    · refine Or.inr ?_
      rw [hm, targetExponent_eq, totalExponent, Nat.log2_zero] at he ⊢
      omega
    · exact Or.inl (hle hm)
  have htarget := hv.target_cases hc hlt hle'
  generalize hT : Format.binary64.targetExponent (totalExponent m' e') = T at *
  -- the first shift
  have hshift : (2 : ℚ) ^ T = 2 ^ e' * 2 ^ (T - e').toNat := by
    rw [← zpow_natCast, ← zpow_add₀ (by norm_num)]
    congr 1
    omega
  have hplace : Places (ExtendedMantissa.ofMantissaAndAccuracy m' a >>> (T - e').toNat)
      (q * 2 ^ e' / 2 ^ T) := by
    have hpos : (2 : ℚ) ^ e' ≠ 0 := by positivity
    have hq : q * 2 ^ e' / 2 ^ T = q / 2 ^ (T - e').toNat := by
      rw [hshift]
      field_simp
    rw [hq]
    exact h.shiftRight _
  have hfirst : shiftToTargetExponent .binary64 m' e' a =
      (ExtendedMantissa.ofMantissaAndAccuracy m' a >>> (T - e').toNat, T) := by
    rw [shiftToTargetExponent, hT, shiftToExponent]
    congr 1
    omega
  -- the rounded mantissa, and the second shift
  have hsecond : shiftToTargetExponent .binary64
      (ExtendedMantissa.ofMantissaAndAccuracy m' a >>> (T - e').toNat).roundedMantissa T .exact =
        (⟨m, false, false⟩, e) := by
    rcases htarget with rfl | ⟨rfl, rfl, hbelow⟩
    · rw [hplace.roundedMantissa_eq hv.nearest]
      exact shiftToTargetExponent_rounded hc (Or.inl ⟨rfl, rfl⟩) hc.min_le
    · have hmin : -1074 < e := by
        rw [targetExponent_eq] at hT
        omega
      rw [hplace.roundedMantissa_eq (hv.nearest_below hmin hbelow)]
      exact shiftToTargetExponent_rounded hc (Or.inr ⟨rfl, rfl, rfl⟩) (by omega)
  rw [roundWithAccuracy, hfirst]
  simp only [hsecond]
  rw [dif_neg hc.pos.ne']

end

/-! ### Products and quotients -/

/-- With enough bits, or an exponent at the lower end, nothing is aimed at below what is there. -/
theorem le_targetExponent {m : ℕ} {e : ℤ} (h : 2 ^ 52 ≤ m ∨ e ≤ -1074) :
    e ≤ Format.binary64.targetExponent (totalExponent m e) := by
  rw [targetExponent_eq, totalExponent]
  rcases h with h | h
  · have hm : m ≠ 0 := by omega
    have hlog : 52 ≤ m.log2 := (Nat.le_log2 hm).mpr h
    omega
  · omega

section

variable {m m₁ m₂ : ℕ} {e e₁ e₂ : ℤ}

/-- **A product is rounded to the double it belongs to.** -/
theorem mul_finite_eq (h₁ : 0 < m₁) (h₂ : 0 < m₂) (hbits : 2 ^ 52 ≤ m₁ * m₂) (hc : Canonical m e)
    (hv : RoundsTo ((m₁ * 2 ^ e₁) * (m₂ * 2 ^ e₂)) m e) :
    UnpackedFloat.mul .binary64 (.finite .positive m₁ e₁ h₁) (.finite .positive m₂ e₂ h₂) =
      .finite .positive m e hc.pos := by
  have hvalue : ((m₁ * m₂ : ℕ) : ℚ) * 2 ^ (e₁ + e₂) = (m₁ * 2 ^ e₁) * (m₂ * 2 ^ e₂) := by
    rw [zpow_add₀ (by norm_num)]
    push_cast
    ring
  rw [← hvalue] at hv
  exact roundWithAccuracy_eq _ (places_exact _) hc hv (le_targetExponent (Or.inl hbits))

/-- The remainder of a division places the quotient. -/
theorem places_accuracyOfFraction (n : ℕ) {d : ℕ} (hd : 0 < d) :
    Places (.ofMantissaAndAccuracy (n / d) (accuracyOfFraction (n % d) d)) (n / d) := by
  have hd' : (0 : ℚ) < d := Nat.cast_pos.mpr hd
  have hn : (n : ℚ) = ((n / d : ℕ) : ℚ) * d + ((n % d : ℕ) : ℚ) := by
    exact_mod_cast (Nat.div_add_mod' n d).symm
  have hrest : ((n % d : ℕ) : ℚ) < d := Nat.cast_lt.mpr (Nat.mod_lt n hd)
  have hquot : (n : ℚ) / d = ((n / d : ℕ) : ℚ) + ((n % d : ℕ) : ℚ) / d := by
    rw [hn]
    field_simp
  rw [hquot, accuracyOfFraction]
  generalize n / d = k
  generalize n % d = r at *
  split
  · rename_i hr
    rw [hr, Nat.cast_zero, zero_div, add_zero]
    exact places_exact k
  · rename_i hr
    have hr' : (0 : ℚ) < r := Nat.cast_pos.mpr (Nat.pos_of_ne_zero hr)
    have hpos : (0 : ℚ) < r / d := div_pos hr' hd'
    have hone : (r : ℚ) / d < 1 := (div_lt_one hd').mpr hrest
    -- the remainder against half of the divisor decides the two residual bits
    rcases lt_trichotomy (2 * r) d with hlt | heq | hgt
    · have hhalf : (r : ℚ) / d < 1 / 2 := by
        rw [div_lt_iff₀ hd']
        have hcast : ((2 * r : ℕ) : ℚ) < d := Nat.cast_lt.mpr hlt
        push_cast at hcast
        linarith
      rw [Nat.compare_eq_lt.mpr hlt]
      change (k : ℚ) + 0 < _ ∧ _ < (k : ℚ) + 0 + 1 / 2
      constructor <;> linarith
    · have hhalf : (r : ℚ) / d = 1 / 2 := by
        rw [div_eq_iff hd'.ne', ← heq]
        push_cast
        ring
      rw [Nat.compare_eq_eq.mpr heq, hhalf]
      change (k : ℚ) + 1 / 2 = k + 1 / 2
      rfl
    · have hhalf : 1 / 2 < (r : ℚ) / d := by
        rw [lt_div_iff₀ hd']
        have hcast : (d : ℚ) < ((2 * r : ℕ) : ℚ) := Nat.cast_lt.mpr hgt
        push_cast at hcast
        linarith
      rw [Nat.compare_eq_gt.mpr hgt]
      change (k : ℚ) + 1 / 2 < _ ∧ _ < (k : ℚ) + 1 / 2 + 1 / 2
      constructor <;> linarith

/-- **A quotient is rounded to the double it belongs to.** -/
theorem div_finite_eq (h₁ : 0 < m₁) (h₂ : 0 < m₂) (hc : Canonical m e)
    (hv : RoundsTo ((m₁ * 2 ^ e₁) / (m₂ * 2 ^ e₂)) m e) :
    UnpackedFloat.div .binary64 (.finite .positive m₁ e₁ h₁) (.finite .positive m₂ e₂ h₂) =
      .finite .positive m e hc.pos := by
  -- the exponent of the quotient, and the bits that are moved in front of the division for it
  let t := min (e₁ - e₂)
    (Format.binary64.targetExponent (totalExponent m₁ e₁ - totalExponent m₂ e₂))
  let k := (e₁ - e₂ - t).toNat
  have hk : (k : ℤ) = e₁ - e₂ - t := Int.toNat_of_nonneg (by omega)
  have hvalue : ((m₁ <<< k : ℕ) : ℚ) / m₂ * 2 ^ t = (m₁ * 2 ^ e₁) / (m₂ * 2 ^ e₂) := by
    have hm₂ : (m₂ : ℚ) ≠ 0 := Nat.cast_ne_zero.mpr h₂.ne'
    have he₁ : (2 : ℚ) ^ e₁ = 2 ^ k * 2 ^ t * 2 ^ e₂ := by
      rw [← zpow_natCast, hk, ← zpow_add₀ (by norm_num), ← zpow_add₀ (by norm_num)]
      congr 1
      ring
    rw [Nat.shiftLeft_eq, he₁]
    push_cast
    field_simp
  have hbits : 2 ^ 52 ≤ m₁ <<< k / m₂ ∨ t ≤ -1074 := by
    by_cases ht : t ≤ -1074
    · exact Or.inr ht
    · refine Or.inl ((Nat.le_div_iff_mul_le h₂).mpr ?_)
      have hlt : m₂ < 2 ^ (m₂.log2 + 1) := Nat.lt_log2_self
      have hle : 2 ^ m₁.log2 ≤ m₁ := Nat.log2_self_le h₁.ne'
      have hexp : 52 + (m₂.log2 + 1) ≤ m₁.log2 + k := by
        have htarget : t ≤ max (totalExponent m₁ e₁ - totalExponent m₂ e₂ - 53) (-1074) :=
          min_le_right _ _
        rw [totalExponent, totalExponent] at htarget
        omega
      calc 2 ^ 52 * m₂ ≤ 2 ^ 52 * 2 ^ (m₂.log2 + 1) := Nat.mul_le_mul_left _ hlt.le
        _ = 2 ^ (52 + (m₂.log2 + 1)) := (pow_add 2 _ _).symm
        _ ≤ 2 ^ (m₁.log2 + k) := Nat.pow_le_pow_right (by norm_num) hexp
        _ = 2 ^ m₁.log2 * 2 ^ k := pow_add 2 _ _
        _ ≤ m₁ * 2 ^ k := Nat.mul_le_mul_right _ hle
        _ = m₁ <<< k := (Nat.shiftLeft_eq _ _).symm
  rw [← hvalue] at hv
  exact roundWithAccuracy_eq _ (places_accuracyOfFraction _ h₂) hc hv (le_targetExponent hbits)

end

end LineAgents.Number
