import LineAgents.Number.Literal
import LineAgents.Proofs.Number.Bits

/-!
# The double of a decimal

`LineAgents.Number.ofDecimal` finds the double of a decimal in several ways: for short digits and
small exponents by one operation on two exact doubles, in general by exact arithmetic, and without
any when the decimal is far out of range. All of them agree on what counts
(`LineAgents.Number.ofDecimal_eq`): a decimal in the interval of a double is read as that double.
-/

namespace LineAgents.Number

open Float.Model Float.Model.UnpackedFloat

/-! ### Exact doubles -/

section

variable {m k : ℕ} {e : ℤ} {v : ℚ}

/-- A double belongs to itself. -/
theorem roundsTo_self (m : ℕ) (e : ℤ) : RoundsTo (m * 2 ^ e) m e := by
  have hpos : (0 : ℚ) < 2 ^ e := by positivity
  have hmargin := marginBelow_pos m e
  exact .of_lt (mul_lt_mul_of_pos_right (by linarith) hpos)
    (mul_lt_mul_of_pos_right (by linarith) hpos)

theorem unpack_pack_finite {s : Sign} {h : 0 < m} (hc : Canonical m e) :
    (Float.Model.pack (.finite s m e h)).unpack = .finite s m e h := by
  obtain ⟨hfinite, hsign, hmantissa, hexponent⟩ := fields_of_pack_finite (s := s) (h := h) hc
  have hunpack := unpack_toModel hfinite
  rw [dif_neg (by rw [hmantissa]; exact hc.pos.ne')] at hunpack
  simp only [hsign, hmantissa, hexponent] at hunpack
  exact hunpack

/-- The mantissa of a natural number with fifty-three bits. -/
theorem canonical_of_nat (hm : m ≠ 0) (hlt : m < 2 ^ 53) :
    Canonical (m * 2 ^ (52 - m.log2)) (m.log2 - 52) := by
  have hlog : m.log2 < 53 := (Nat.log2_lt hm).mpr hlt
  have hle : 2 ^ 52 ≤ m * 2 ^ (52 - m.log2) :=
    calc 2 ^ 52 = 2 ^ m.log2 * 2 ^ (52 - m.log2) := by
          rw [← pow_add]
          congr 1
          omega
      _ ≤ m * 2 ^ (52 - m.log2) := Nat.mul_le_mul_right _ (Nat.log2_self_le hm)
  have hlt' : m * 2 ^ (52 - m.log2) < 2 ^ 53 :=
    calc m * 2 ^ (52 - m.log2) < 2 ^ (m.log2 + 1) * 2 ^ (52 - m.log2) :=
          Nat.mul_lt_mul_of_pos_right Nat.lt_log2_self (by positivity)
      _ = 2 ^ 53 := by
          rw [← pow_add]
          congr 1
          omega
  exact ⟨by omega, hlt', by omega, by omega, Or.inr hle⟩

/-- Shifting a number up until it has fifty-three bits loses nothing. -/
theorem round_nat (hm : m ≠ 0) (hlt : m < 2 ^ 53) :
    UnpackedFloat.round .binary64 .positive m 0 = .finite .positive (m * 2 ^ (52 - m.log2))
      (m.log2 - 52) (canonical_of_nat hm hlt).pos := by
  have hlog : m.log2 < 53 := (Nat.log2_lt hm).mpr hlt
  have htarget : Format.binary64.targetExponent (totalExponent m 0) = m.log2 - 52 := by
    rw [targetExponent_eq, totalExponent]
    omega
  have hdecrease : decreaseExponent m 0 (m.log2 - 52) =
      (m * 2 ^ (52 - m.log2), (m.log2 : ℤ) - 52) := by
    rw [decreaseExponent, show (0 - ((m.log2 : ℤ) - 52)).toNat = 52 - m.log2 by omega,
      Nat.shiftLeft_eq]
    congr 1
    omega
  have hc := canonical_of_nat hm hlt
  rw [UnpackedFloat.round, htarget, hdecrease]
  refine roundWithAccuracy_eq _ (places_exact _) hc (roundsTo_self _ _) (le_targetExponent ?_)
  exact hc.full.symm.imp_right fun h => h.le

/-- **A natural number with at most fifty-three bits is a double.** -/
theorem unpack_toFloat (hm : m ≠ 0) (hlt : m < 2 ^ 53) :
    ∃ (m' : ℕ) (e' : ℤ) (h : 0 < m'),
      m.toUInt64.toFloat.toModel.unpack = .finite .positive m' e' h ∧
      2 ^ 52 ≤ m' ∧ (m' : ℚ) * 2 ^ e' = m := by
  have hc := canonical_of_nat hm hlt
  have hlog : m.log2 < 53 := (Nat.log2_lt hm).mpr hlt
  refine ⟨_, (m.log2 : ℤ) - 52, hc.pos, ?_, ?_, ?_⟩
  · have hnat : m.toUInt64.toNat = m := Nat.mod_eq_of_lt (by omega)
    have hnormalize : UnpackedFloat.ofUInt64 .binary64 m.toUInt64 =
        UnpackedFloat.round .binary64 .positive m 0 := by
      rw [UnpackedFloat.ofUInt64, UnpackedFloat.ofNat, UnpackedFloat.ofInt,
        UnpackedFloat.normalize, hnat,
        show compare (m : ℤ) 0 = .gt from Int.compare_eq_gt.mpr (by omega)]
      simp only [Int.toNat_natCast]
    change (Float.Model.pack (UnpackedFloat.ofUInt64 .binary64 m.toUInt64)).unpack = _
    rw [hnormalize, round_nat hm hlt, unpack_pack_finite hc]
  · exact hc.full.resolve_left (by omega)
  · push_cast
    rw [mul_assoc, ← zpow_natCast, ← zpow_add₀ (by norm_num),
      show ((52 - m.log2 : ℕ) : ℤ) + ((m.log2 : ℤ) - 52) = 0 by omega, zpow_zero, mul_one]

/-- The entries of the table of powers of ten, by their fields. -/
theorem powersOfTen_fields : ∀ k : Fin Float.exactlyRepresentablePowersOfTen.size,
    let x := Float.exactlyRepresentablePowersOfTen[k]
    isFinite x = true ∧ isNegative x = false ∧ 2 ^ 52 ≤ mantissa x ∧
      mantissa x * 2 ^ (exponent x).toNat = 10 ^ k.val * 2 ^ (-exponent x).toNat := by
  decide +kernel

/-- **The table of powers of ten is exact.** -/
theorem unpack_powerOfTen (hk : k < Float.exactlyRepresentablePowersOfTen.size) :
    ∃ (m' : ℕ) (e' : ℤ) (h : 0 < m'),
      Float.exactlyRepresentablePowersOfTen[k].toModel.unpack = .finite .positive m' e' h ∧
      2 ^ 52 ≤ m' ∧ (m' : ℚ) * 2 ^ e' = 10 ^ k := by
  obtain ⟨hfinite, hsign, hbits, hvalue⟩ := powersOfTen_fields ⟨k, hk⟩
  simp only [Fin.getElem_fin] at hfinite hsign hbits hvalue
  generalize Float.exactlyRepresentablePowersOfTen[k] = x at *
  have hpos : 0 < mantissa x := by omega
  refine ⟨mantissa x, exponent x, hpos, ?_, hbits, ?_⟩
  · rw [unpack_toModel hfinite, dif_neg hpos.ne']
    simp only [signOf, hsign, Bool.false_eq_true, if_false]
  · have hvalue' : (mantissa x : ℚ) * 2 ^ (exponent x).toNat =
        10 ^ k * 2 ^ (-exponent x).toNat := by
      exact_mod_cast hvalue
    have hexponent : exponent x = ((exponent x).toNat : ℤ) - ((-exponent x).toNat : ℤ) := by omega
    rw [hexponent, zpow_sub₀ (by norm_num), zpow_natCast, zpow_natCast, ← mul_div_assoc,
      div_eq_iff (by positivity)]
    exact hvalue'

end

/-! ### The size of a decimal -/

section

variable {m d k : ℕ} {e s : ℤ}

/-- A value that belongs to a double is not out of range. -/
theorem RoundsTo.range {v : ℚ} (h : RoundsTo v m e) (hc : Canonical m e) :
    (2 : ℚ) ^ (-1076 : ℤ) < v ∧ v < 2 ^ (1024 : ℤ) := by
  constructor
  · have hm : (1 : ℚ) ≤ m := by exact_mod_cast hc.pos
    have hmargin := marginBelow_le m e
    calc (2 : ℚ) ^ (-1076 : ℤ) < 2 ^ (-1 + e) :=
          zpow_lt_zpow_right₀ (by norm_num) (by have := hc.min_le; omega)
      _ = 1 / 2 * 2 ^ e := by
          rw [zpow_add₀ (by norm_num)]
          norm_num
      _ ≤ (m - marginBelow m e) * 2 ^ e :=
          mul_le_mul_of_nonneg_right (by linarith) (by positivity)
      _ ≤ v := h.1
  · exact lt_of_lt_of_le (h.lt_zpow hc.lt)
      (zpow_le_zpow_right₀ (by norm_num) (by have := hc.le_max; omega))

/-- A decimal that belongs to a double is not zero. -/
theorem RoundsTo.digits_ne_zero (h : RoundsTo (d * 10 ^ s) m e) (hc : Canonical m e) : d ≠ 0 := by
  rintro rfl
  have hlow := (h.range hc).1
  rw [Nat.cast_zero, zero_mul] at hlow
  exact absurd hlow (not_lt.mpr (by positivity))

/-- A power of ten lies beyond the power of two with thrice its exponent. -/
theorem zpow_two_le_zpow_ten (hs : 0 ≤ s) : (2 : ℚ) ^ (3 * s) ≤ 10 ^ s := by
  rw [zpow_mul]
  exact zpow_le_zpow_left₀ hs (by norm_num) (by norm_num)

theorem zpow_ten_le_zpow_two (hs : s ≤ 0) : (10 : ℚ) ^ s ≤ 2 ^ (3 * s) := by
  have h := zpow_two_le_zpow_ten (s := -s) (by omega)
  rw [mul_neg, zpow_neg, zpow_neg] at h
  exact (inv_le_inv₀ (by positivity) (by positivity)).mp h

/-- A natural number has as many digits as its size says. -/
theorem toDigits_bounds (hd : d ≠ 0) :
    10 ^ ((Nat.toDigits 10 d).length - 1) ≤ d ∧ d < 10 ^ (Nat.toDigits 10 d).length := by
  have hpos : 0 < (Nat.toDigits 10 d).length := Nat.length_toDigits_pos
  constructor
  · by_contra hlt
    by_cases hone : (Nat.toDigits 10 d).length - 1 = 0
    · rw [hone] at hlt
      omega
    · have hle := (Nat.length_toDigits_le_iff (by norm_num) (by omega)).mpr (not_le.mp hlt)
      omega
  · exact (Nat.length_toDigits_le_iff (by norm_num) hpos).mp le_rfl

/-- The place of the first digit of a decimal bounds it on both sides. -/
theorem decimal_bounds (hd : d ≠ 0) :
    (10 : ℚ) ^ ((Nat.toDigits 10 d).length + s - 1) ≤ d * 10 ^ s ∧
      d * 10 ^ s < (10 : ℚ) ^ ((Nat.toDigits 10 d).length + s) := by
  have hlen : 0 < (Nat.toDigits 10 d).length := Nat.length_toDigits_pos
  have hten : (0 : ℚ) < 10 ^ s := by positivity
  obtain ⟨hle, hlt⟩ := toDigits_bounds hd
  generalize (Nat.toDigits 10 d).length = n at *
  have hle' : (10 : ℚ) ^ (n - 1) ≤ d := by exact_mod_cast hle
  have hlt' : (d : ℚ) < 10 ^ n := by exact_mod_cast hlt
  constructor
  · rw [show (n : ℤ) + s - 1 = ((n - 1 : ℕ) : ℤ) + s by omega, zpow_add₀ (by norm_num),
      zpow_natCast]
    exact mul_le_mul_of_nonneg_right hle' hten.le
  · rw [zpow_add₀ (by norm_num), zpow_natCast]
    exact mul_lt_mul_of_pos_right hlt' hten

/-- A number has no more decimal digits than bits. -/
theorem length_toDigits_le_log2 (hd : d ≠ 0) : (Nat.toDigits 10 d).length ≤ d.log2 + 1 := by
  have hpow : 2 ^ ((Nat.toDigits 10 d).length - 1) < 2 ^ (d.log2 + 1) :=
    calc 2 ^ ((Nat.toDigits 10 d).length - 1) ≤ 10 ^ ((Nat.toDigits 10 d).length - 1) :=
          Nat.pow_le_pow_left (by norm_num) _
      _ ≤ d := (toDigits_bounds hd).1
      _ < 2 ^ (d.log2 + 1) := Nat.lt_log2_self
  have hlt := (Nat.pow_lt_pow_iff_right (by norm_num)).mp hpow
  omega

/-- **The first digit of a decimal that belongs to a double** is within four hundred places of the
point. -/
theorem RoundsTo.size_bounds (h : RoundsTo (d * 10 ^ s) m e) (hc : Canonical m e) :
    -400 ≤ ((Nat.toDigits 10 d).length : ℤ) + s ∧ ((Nat.toDigits 10 d).length : ℤ) + s ≤ 400 := by
  obtain ⟨hlow, hhigh⟩ := h.range hc
  obtain ⟨hle, hlt⟩ := decimal_bounds (s := s) (h.digits_ne_zero hc)
  constructor
  · by_contra hsize
    have hbelow : d * 10 ^ s ≤ (2 : ℚ) ^ (-1076 : ℤ) :=
      calc (d : ℚ) * 10 ^ s ≤ 10 ^ ((Nat.toDigits 10 d).length + s) := hlt.le
        _ ≤ 2 ^ (3 * (((Nat.toDigits 10 d).length : ℤ) + s)) := zpow_ten_le_zpow_two (by omega)
        _ ≤ 2 ^ (-1076 : ℤ) := zpow_le_zpow_right₀ (by norm_num) (by omega)
    exact absurd hlow hbelow.not_gt
  · by_contra hsize
    have hbeyond : (2 : ℚ) ^ (1024 : ℤ) ≤ d * 10 ^ s :=
      calc (2 : ℚ) ^ (1024 : ℤ) ≤ 2 ^ (3 * (((Nat.toDigits 10 d).length : ℤ) + s - 1)) :=
            zpow_le_zpow_right₀ (by norm_num) (by omega)
        _ ≤ 10 ^ ((Nat.toDigits 10 d).length + s - 1) := zpow_two_le_zpow_ten (by omega)
        _ ≤ d * 10 ^ s := hle
    exact absurd hhigh hbeyond.not_gt

/-! ### Decimals by exact arithmetic -/

/-- **The model of reading a decimal** rounds to the double that the decimal belongs to. -/
theorem model_ofScientific_eq (hc : Canonical m e) (hv : RoundsTo (d * 10 ^ s) m e) :
    UnpackedFloat.ofScientific .binary64 d s = .finite .positive m e hc.pos := by
  have hd := hv.digits_ne_zero hc
  obtain ⟨hlow, hhigh⟩ := hv.size_bounds hc
  have hlen := length_toDigits_le_log2 hd
  -- the two guards against powers of ten that are too large
  have hmax : ¬s > 2 ^ 11 := by omega
  have hmin : ¬s < -((2 ^ 11 : ℤ) + d.log2) := by omega
  rw [UnpackedFloat.ofScientific, dif_neg hd, if_neg hmax, if_neg hmin]
  by_cases hs : 0 ≤ s
  · -- the digits are shifted up, so that the product has all the bits that rounding wants
    have hvalue : ((d <<< 53 : ℕ) : ℚ) * 2 ^ (-((53 : ℕ) : ℤ)) *
        ((10 ^ s.toNat : ℕ) * 2 ^ (0 : ℤ)) = d * 10 ^ s := by
      have hpow : (10 : ℚ) ^ s.toNat = 10 ^ s := by
        rw [← zpow_natCast, Int.toNat_of_nonneg hs]
      rw [Nat.shiftLeft_eq]
      push_cast
      rw [hpow, zpow_neg, zpow_ofNat, mul_one, show (9007199254740992 : ℚ) = 2 ^ 53 by norm_num,
        mul_inv_cancel_right₀ (by positivity)]
    have hbits : 2 ^ 52 ≤ d <<< 53 * 10 ^ s.toNat := by
      have hten : 0 < 10 ^ s.toNat := by positivity
      have hshift : 2 ^ 52 ≤ d <<< 53 := by
        rw [Nat.shiftLeft_eq]
        omega
      exact hshift.trans (Nat.le_mul_of_pos_right _ hten)
    rw [← hvalue] at hv
    rw [if_pos hs]
    exact mul_finite_eq _ _ hbits hc hv
  · have hvalue : ((d : ℕ) : ℚ) * 2 ^ (0 : ℤ) / ((10 ^ (-s).toNat : ℕ) * 2 ^ (0 : ℤ)) =
        d * 10 ^ s := by
      have hpow : (10 : ℚ) ^ (-s).toNat = 10 ^ (-s) := by
        rw [← zpow_natCast, Int.toNat_of_nonneg (by omega)]
      push_cast
      rw [hpow, zpow_neg]
      field_simp
    rw [← hvalue] at hv
    rw [if_neg hs]
    exact div_finite_eq _ _ hc hv

/-! ### Reading a decimal -/

/-- **Reading a decimal** gives the double that the decimal belongs to, whether it goes through the
table of powers of ten or through exact arithmetic. -/
theorem ofScientific_eq (negative : Bool) (hc : Canonical m e)
    (hv : RoundsTo (d * 10 ^ (if negative then -(k : ℤ) else k)) m e) :
    Float.ofScientific d negative k =
      Float.ofModel (Float.Model.pack (.finite .positive m e hc.pos)) := by
  have hd := hv.digits_ne_zero hc
  rw [Float.ofScientific]
  by_cases hfast : d < 2 ^ 53 ∧ k ≤ 22
  · -- the digits and the power of ten are doubles, and one operation rounds once
    have hk : k < Float.exactlyRepresentablePowersOfTen.size := Nat.lt_succ_of_le hfast.2
    obtain ⟨m₁, e₁, h₁, hunpack₁, hbits₁, hvalue₁⟩ := unpack_toFloat hd hfast.1
    obtain ⟨m₂, e₂, h₂, hunpack₂, hbits₂, hvalue₂⟩ := unpack_powerOfTen hk
    rw [dif_pos hfast]
    cases negative with
    | true =>
      have hquotient : RoundsTo ((m₁ * 2 ^ e₁) / (m₂ * 2 ^ e₂)) m e := by
        rw [if_pos rfl, zpow_neg, zpow_natCast, ← div_eq_mul_inv] at hv
        rwa [hvalue₁, hvalue₂]
      rw [if_pos rfl, ← div_finite_eq h₁ h₂ hc hquotient, ← hunpack₁, ← hunpack₂]
      rfl
    | false =>
      have hproduct : RoundsTo ((m₁ * 2 ^ e₁) * (m₂ * 2 ^ e₂)) m e := by
        rw [if_neg Bool.false_ne_true, zpow_natCast] at hv
        rwa [hvalue₁, hvalue₂]
      have hbits : 2 ^ 52 ≤ m₁ * m₂ := hbits₁.trans (Nat.le_mul_of_pos_right _ h₂)
      rw [if_neg Bool.false_ne_true, ← mul_finite_eq h₁ h₂ hbits hc hproduct, ← hunpack₁,
        ← hunpack₂]
      rfl
  · rw [dif_neg hfast]
    cases negative with
    | true =>
      have hmodel := model_ofScientific_eq hc (s := Int.negOfNat k) (by rwa [Int.negOfNat_eq])
      rw [← hmodel]
      rfl
    | false =>
      have hmodel := model_ofScientific_eq hc (s := Int.ofNat k) hv
      rw [← hmodel]
      rfl

/-- **A decimal of a double's interval is read as that double.** The decimal is not too long or too
short to be read either. -/
theorem ofDecimal_eq {x : Float} (hx : isFinite x = true) (hsign : isNegative x = false)
    (hm : mantissa x ≠ 0) (hv : RoundsTo (d * 10 ^ s) (mantissa x) (exponent x)) :
    ofDecimal d s = x := by
  have hc := canonical hx hm
  have hd := hv.digits_ne_zero hc
  obtain ⟨hlow, hhigh⟩ := hv.size_bounds hc
  have hpack : Float.ofModel
      (Float.Model.pack (.finite .positive (mantissa x) (exponent x) hc.pos)) = x := by
    obtain ⟨-, hsign', hmantissa, hexponent⟩ :=
      fields_of_pack_finite (s := .positive) (h := hc.pos) hc
    refine eq_of_fields ?_ hmantissa hexponent
    rw [hsign', signOf, hsign, if_neg Bool.false_ne_true]
  rw [ofDecimal, if_neg (by simpa using hd)]
  simp only [if_neg hhigh.not_gt, if_neg hlow.not_gt]
  by_cases hs : 0 ≤ s
  · have hnat : (s.toNat : ℤ) = s := Int.toNat_of_nonneg hs
    rw [if_pos hs, ofScientific_eq false hc (by rwa [if_neg Bool.false_ne_true, hnat])]
    exact hpack
  · have hnat : ((-s).toNat : ℤ) = -s := Int.toNat_of_nonneg (by omega)
    rw [if_neg hs, ofScientific_eq true hc (by rwa [if_pos rfl, hnat, neg_neg])]
    exact hpack

end

end LineAgents.Number
