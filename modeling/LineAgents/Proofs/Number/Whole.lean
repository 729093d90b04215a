import LineAgents.Proofs.Number.Order

/-!
# Whole parts of doubles

A double that counts something stands for as many as its whole part says: none if it is negative,
and without bound if it is infinite (`LineAgents.Number.wholePart`). The size of the integer part
that is read off the bits is the floor of the value (`LineAgents.Number.truncNat_eq_floor`), and
dropping the fraction of a double keeps its whole part (`LineAgents.Number.wholePart_trunc`).
-/

namespace LineAgents.Number

open Float.Model Float.Model.UnpackedFloat

/-! ### Values -/

/-- **The value of a finite double.** -/
def value (x : Float) : ℚ :=
  match signOf x with
  | .positive => mantissa x * 2 ^ exponent x
  | .negative => -(mantissa x * 2 ^ exponent x)

/-- **The whole part of a double that counts something**: no bound at infinity, and none below
zero or where it is no number. -/
def wholePart (x : Float) : ℕ∞ :=
  if isFinite x then (⌊value x⌋₊ : ℕ)
  else if 0 < x then ⊤
  else 0

section

variable {x : Float}

/-- **The integer part that is read off the bits is the floor**, whatever the sign. -/
theorem truncNat_eq_floor (x : Float) : truncNat x = ⌊(mantissa x : ℚ) * 2 ^ exponent x⌋₊ := by
  unfold truncNat
  cases exponent x with
  | ofNat e =>
    have hvalue : (mantissa x : ℚ) * 2 ^ Int.ofNat e = (mantissa x <<< e : ℕ) := by
      rw [Nat.shiftLeft_eq]
      push_cast
      rfl
    rw [hvalue, Nat.floor_natCast]
  | negSucc e =>
    have hvalue : (mantissa x : ℚ) * 2 ^ Int.negSucc e = (mantissa x : ℚ) / (2 ^ (e + 1) : ℕ) := by
      rw [zpow_negSucc, ← div_eq_mul_inv]
      push_cast
      rfl
    rw [hvalue, Nat.floor_div_natCast, Nat.floor_natCast]
    exact Nat.shiftRight_eq_div_pow _ _

theorem wholePart_of_finite (h : isFinite x = true) :
    wholePart x = match signOf x with
      | .positive => (truncNat x : ℕ∞)
      | .negative => 0 := by
  rw [wholePart, if_pos h, value]
  cases signOf x with
  | positive =>
    dsimp only
    rw [truncNat_eq_floor]
  | negative =>
    have hle : -((mantissa x : ℚ) * 2 ^ exponent x) ≤ 0 := neg_nonpos.mpr (by positivity)
    dsimp only
    rw [Nat.floor_of_nonpos hle]
    rfl

/-- A double of size zero has no integer part. -/
theorem truncNat_of_size (h : size x = 0) : truncNat x = 0 := by
  rw [truncNat_eq_floor, size_eq_zero_iff.mp h]
  simp

/-- What is not above zero has none. -/
theorem wholePart_of_not_pos (h : ¬0 < x) : wholePart x = 0 := by
  cases hfinite : isFinite x with
  | false => rw [wholePart, hfinite, if_neg Bool.false_ne_true, if_neg h]
  | true =>
    have hnan : isNaN x = false := Bool.eq_false_iff.mpr (not_isNaN hfinite)
    rw [lt_iff_rank_lt rfl hnan, rank_zero, rank] at h
    rw [wholePart_of_finite hfinite]
    cases hs : signOf x with
    | negative => rfl
    | positive =>
      rw [hs] at h
      dsimp only at h ⊢
      rw [truncNat_of_size (by omega)]
      rfl

theorem wholePart_of_neg (h : x < 0) : wholePart x = 0 := wholePart_of_not_pos (not_lt_of_lt h)

/-- **From zero on the whole part is read off the bits**; a zero may have either sign. -/
theorem wholePart_of_not_neg (hnan : isNaN x = false) (h : ¬x < 0) :
    wholePart x = if isFinite x then (truncNat x : ℕ∞) else ⊤ := by
  rw [lt_iff_rank_lt hnan rfl, rank_zero, rank] at h
  cases hfinite : isFinite x with
  | true =>
    rw [wholePart_of_finite hfinite, if_pos rfl]
    cases hs : signOf x with
    | positive => rfl
    | negative =>
      rw [hs] at h
      dsimp only at h ⊢
      rw [truncNat_of_size (by omega)]
      rfl
  | false =>
    have hsize := size_of_infinite hfinite hnan
    have hpos : 0 < x := by
      rw [lt_iff_rank_lt rfl hnan, rank_zero, rank]
      cases hs : signOf x with
      | positive => dsimp only; omega
      | negative => rw [hs] at h; dsimp only at h; omega
    rw [wholePart, hfinite, if_neg Bool.false_ne_true, if_neg Bool.false_ne_true, if_pos hpos]

/-! ### Dropping the fraction -/

/-- Bits that are not those of a double that is no number are kept as they are. -/
theorem toBits_ofBits {b : UInt64} (h : b.toNat / 2 ^ 52 % 2 ^ 11 ≠ 2047) :
    (Float.ofBits b).toBits = b := by
  have hexponent : @unpackExponent .binary64 b.toBitVec ≠ -1#_ := by
    intro heq
    have hnat := toNat_unpackExponent (b := b.toBitVec)
    rw [heq] at hnat
    exact h hnat.symm
  have hkept : @isNaNBits .binary64 b.toBitVec = false :=
    decide_eq_false fun hnan => hexponent hnan.1
  change UInt64.ofBitVec (pack .binary64 (unpack .binary64 b.toBitVec)) = b
  rw [pack_unpack, if_neg (by rw [hkept]; decide)]

/-- Clearing the lowest bits of a word. -/
theorem toNat_and_not_mask (b : UInt64) {s : ℕ} (hs : s < 64) :
    (b &&& ~~~((1 <<< s.toUInt64) - 1)).toNat = b.toNat / 2 ^ s * 2 ^ s := by
  have hpow : 2 ^ s < 2 ^ 64 := Nat.pow_lt_pow_right (by norm_num) hs
  have hpos : 0 < 2 ^ s := Nat.two_pow_pos s
  have hshift : ((1 : UInt64) <<< s.toUInt64).toNat = 2 ^ s := by
    rw [UInt64.toNat_shiftLeft, Nat.toUInt64_eq, UInt64.toNat_ofNat_of_lt' (hs.trans (by decide)),
      Nat.mod_eq_of_lt hs, UInt64.toNat_one, Nat.one_shiftLeft, Nat.mod_eq_of_lt hpow]
  have hmask : (((1 : UInt64) <<< s.toUInt64) - 1).toNat = 2 ^ s - 1 := by
    rw [UInt64.toNat_sub_of_le _ _ (by rw [UInt64.le_iff_toNat_le, hshift]; exact hpos), hshift]
    rfl
  have hnot : (~~~(((1 : UInt64) <<< s.toUInt64) - 1)).toNat = 2 ^ 64 - (2 ^ s - 1 + 1) := by
    rw [UInt64.toNat_not, hmask]
    change 2 ^ 64 - 1 - (2 ^ s - 1) = _
    omega
  rw [UInt64.toNat_and, hnot, ← Nat.shiftRight_eq_div_pow, ← Nat.shiftLeft_eq]
  refine Nat.eq_of_testBit_eq fun i => ?_
  rw [Nat.testBit_and, Nat.testBit_two_pow_sub_succ (by omega), Nat.testBit_two_pow_sub_one,
    Nat.testBit_shiftLeft, Nat.testBit_shiftRight]
  by_cases hi : s ≤ i
  · have hlow : ¬i < s := by omega
    rw [Nat.add_sub_cancel' hi]
    by_cases hword : i < 64
    · simp [hi, hlow, hword]
    · have hbit : b.toNat.testBit i = false :=
        Nat.testBit_lt_two_pow (b.toNat_lt.trans_le (Nat.pow_le_pow_right (by norm_num) (by omega)))
      simp [hbit]
  · simp [hi, Nat.lt_of_not_le hi]

/-- A double with a fraction has as many bits of it as its exponent is negative. -/
theorem truncNat_of_exponent {s : ℕ} (h : exponent x = -s) : truncNat x = mantissa x / 2 ^ s := by
  unfold truncNat
  rw [h]
  cases s with
  | zero => exact (Nat.div_one _).symm
  | succ s => exact Nat.shiftRight_eq_div_pow _ _

/-- Below one there is no whole part. -/
theorem truncNat_eq_zero (h : exponentField x < 1023) : truncNat x = 0 := by
  have hfraction : fractionField x < 2 ^ 52 := Nat.mod_lt _ (by norm_num)
  have hm : mantissa x < 2 ^ 53 := by
    rw [mantissa_eq]
    split_ifs <;> omega
  obtain ⟨s, hs, hlong⟩ : ∃ s : ℕ, exponent x = -s ∧ 53 ≤ s := by
    refine ⟨(-exponent x).toNat, ?_, ?_⟩ <;>
    · rw [exponent_eq]
      split_ifs <;> omega
  rw [truncNat_of_exponent hs]
  exact Nat.div_eq_of_lt (hm.trans_le (Nat.pow_le_pow_right (by norm_num) hlong))

theorem wholePart_congr {y : Float} (hx : isFinite x = true) (hy : isFinite y = true)
    (hsign : signOf y = signOf x) (hwhole : truncNat y = truncNat x) :
    wholePart y = wholePart x := by
  rw [wholePart_of_finite hx, wholePart_of_finite hy, hsign, hwhole]

/-- Below one nothing but the sign is left. -/
theorem fields_of_sign {b : UInt64} (hb : b.toNat = x.toBits.toNat / 2 ^ 63 * 2 ^ 63) :
    signOf (Float.ofBits b) = signOf x ∧ exponentField (Float.ofBits b) = 0 ∧
      fractionField (Float.ofBits b) = 0 := by
  have hbits := x.toBits.toNat_lt
  have hkept := toBits_ofBits (b := b) (by omega)
  refine ⟨?_, ?_, ?_⟩
  · rw [signOf_eq, signOf_eq, hkept]
    exact if_congr (by omega) rfl rfl
  · rw [exponentField_eq, hkept]
    omega
  · rw [fractionField_eq, hkept]
    omega

/-- Clearing the bits behind the point keeps those before it. -/
theorem div_mul_of_pow_le {q f s : ℕ} (hs : s ≤ 52) :
    (q * 2 ^ 52 + f) / 2 ^ s * 2 ^ s = q * 2 ^ 52 + f / 2 ^ s * 2 ^ s := by
  have hpow : 2 ^ 52 = 2 ^ (52 - s) * 2 ^ s := by rw [← pow_add, Nat.sub_add_cancel hs]
  rw [hpow, ← mul_assoc, add_comm, Nat.add_mul_div_right _ _ (Nat.two_pow_pos s), add_mul, add_comm]

/-- From one on the bits of the fraction that lie behind the point are cleared. -/
theorem fields_of_cleared {s : ℕ} (hs : s ≤ 52) (h : exponentField x < 2047) {b : UInt64}
    (hb : b.toNat = x.toBits.toNat / 2 ^ s * 2 ^ s) :
    signOf (Float.ofBits b) = signOf x ∧ exponentField (Float.ofBits b) = exponentField x ∧
      fractionField (Float.ofBits b) = fractionField x / 2 ^ s * 2 ^ s := by
  have hfield := exponentField_eq x
  have hfraction := fractionField_eq x
  have hsplit : x.toBits.toNat = x.toBits.toNat / 2 ^ 52 * 2 ^ 52 + fractionField x := by omega
  have hless : fractionField x / 2 ^ s * 2 ^ s ≤ fractionField x := Nat.div_mul_le_self _ _
  rw [hsplit, div_mul_of_pow_le hs] at hb
  have hkept := toBits_ofBits (b := b) (by omega)
  refine ⟨?_, ?_, ?_⟩
  · rw [signOf_eq, signOf_eq, hkept]
    exact if_congr (by omega) rfl rfl
  · rw [exponentField_eq, hkept]
    omega
  · rw [fractionField_eq, hkept]
    omega

/-- **What dropping the fraction does to the bits**, by how large the double is: it keeps a double
that has no place for a fraction, leaves a zero of one below one, and clears the bits behind the
point in between. The sign is kept throughout. -/
theorem trunc_cases (x : Float) :
    1075 ≤ exponentField x ∧ trunc x = x ∨
    exponentField x < 1023 ∧ signOf (trunc x) = signOf x ∧ exponentField (trunc x) = 0 ∧
      fractionField (trunc x) = 0 ∨
    ∃ s, 0 < s ∧ s ≤ 52 ∧ exponentField x + s = 1075 ∧ signOf (trunc x) = signOf x ∧
      exponentField (trunc x) = exponentField x ∧
      fractionField (trunc x) = fractionField x / 2 ^ s * 2 ^ s := by
  unfold trunc
  split_ifs with hlarge hsmall
  · exact Or.inl ⟨hlarge, rfl⟩
  · exact Or.inr (Or.inl ⟨hsmall,
      fields_of_sign (toNat_and_not_mask x.toBits (s := 63) (by norm_num))⟩)
  · exact Or.inr (Or.inr ⟨1075 - exponentField x, by omega, by omega, by omega,
      fields_of_cleared (by omega) (by omega) (toNat_and_not_mask x.toBits (by omega))⟩)

/-- The bits behind the point, for a double from one on that may have some. -/
theorem fields_of_places {s : ℕ} (hs : s ≤ 52) (h : exponentField x + s = 1075) :
    mantissa x = 2 ^ 52 + fractionField x ∧ exponent x = -s := by
  rw [mantissa_eq, exponent_eq, if_neg (by omega), if_neg (by omega)]
  exact ⟨rfl, by omega⟩

/-- Cut off its bits behind the point, the mantissa is the integer part. -/
theorem truncNat_of_places {s : ℕ} (hs : s ≤ 52) (h : exponentField x + s = 1075) :
    truncNat x * 2 ^ s = 2 ^ 52 + fractionField x / 2 ^ s * 2 ^ s := by
  obtain ⟨hmantissa, hexponent⟩ := fields_of_places hs h
  have hcut := div_mul_of_pow_le (q := 1) (f := fractionField x) hs
  rw [one_mul] at hcut
  rw [truncNat_of_exponent hexponent, hmantissa, hcut]

/-- **Dropping the fraction keeps the whole part.** -/
theorem wholePart_trunc (x : Float) : wholePart (trunc x) = wholePart x := by
  obtain ⟨-, hkept⟩ | ⟨hsmall, hsign, hexponent, hfraction⟩ |
    ⟨s, hpos, hs, hplaces, hsign, hexponent, hfraction⟩ := trunc_cases x
  · rw [hkept]
  · refine wholePart_congr (bne_iff_ne.mpr (by omega)) (bne_iff_ne.mpr (by omega)) hsign ?_
    rw [truncNat_eq_zero hsmall, truncNat_eq_zero (by omega)]
  · refine wholePart_congr (bne_iff_ne.mpr (by omega)) (bne_iff_ne.mpr (by omega)) hsign ?_
    refine Nat.eq_of_mul_eq_mul_right (Nat.two_pow_pos s) ?_
    rw [truncNat_of_places hs hplaces, truncNat_of_places hs (by omega), hfraction,
      Nat.mul_div_cancel _ (Nat.two_pow_pos s)]

end

end LineAgents.Number
