import LineAgents.Proofs.Number.Defined

/-!
# How far rounding goes

`LineAgents.Number.roundWithAccuracy_eq` names the double that a value is rounded to, and asks for
the double. Here the value is not known, only the mantissa and the exponent that are rounded, and
what is wanted is where the result may lie.

* `LineAgents.Number.roundWithAccuracy_cases`: rounding ends at the exponent it aims at or, when the
  last carry makes one bit too many, at the next one, and what it ends with is canonical unless it
  is out of range.
* `LineAgents.Number.isFinite_sqrt`: a square root halves the exponent, so that the root of a finite
  double is finite. The root of an infinity is the infinity.
-/

namespace LineAgents.Number

open Float.Model Float.Model.UnpackedFloat

/-! ### Rounding without a value -/

section

variable {m : ℕ} {e : ℤ}

theorem mantissa_shiftRight (em : ExtendedMantissa) (n : ℕ) :
    (em >>> n).mantissa = em.mantissa / 2 ^ n := by
  change (n.repeat ExtendedMantissa.shiftRightOne em).mantissa = _
  induction n with
  | zero => exact (Nat.div_one _).symm
  | succ n ih =>
    change (n.repeat ExtendedMantissa.shiftRightOne em).mantissa / 2 = _
    rw [ih, Nat.div_div_eq_div_mul, pow_succ]

theorem roundedMantissa_bounds (em : ExtendedMantissa) :
    em.mantissa ≤ em.roundedMantissa ∧ em.roundedMantissa ≤ em.mantissa + 1 := by
  obtain ⟨m, r, s⟩ := em
  cases r <;> cases s
  · exact ⟨le_rfl, Nat.le_succ m⟩
  · exact ⟨le_rfl, Nat.le_succ m⟩
  · change m ≤ m + m % 2 ∧ m + m % 2 ≤ m + 1
    omega
  · exact ⟨Nat.le_succ m, le_rfl⟩

/-- A mantissa that is cut to the exponent aimed at has no more than fifty-three bits, and all of
them unless the exponent is the least one. -/
theorem div_two_pow_bounds {T : ℤ} (hT : Format.binary64.targetExponent (totalExponent m e) = T)
    (he : e ≤ T) : m / 2 ^ (T - e).toNat < 2 ^ 53 ∧
      (T = -1074 ∨ 2 ^ 52 ≤ m / 2 ^ (T - e).toNat) := by
  rw [targetExponent_eq, totalExponent] at hT
  constructor
  · refine Nat.div_lt_of_lt_mul (Nat.lt_log2_self.trans_le ?_)
    rw [← pow_add]
    exact Nat.pow_le_pow_right (by norm_num) (by omega)
  · by_cases hlow : T = -1074
    · exact Or.inl hlow
    · have hlog : m.log2 = 52 + (T - e).toNat := by omega
      have hm : m ≠ 0 := by
        rintro rfl
        rw [Nat.log2_zero] at hlog
        omega
      refine Or.inr ((Nat.le_div_iff_mul_le (by positivity)).mpr ?_)
      rw [← pow_add, ← hlog]
      exact Nat.log2_self_le hm

/-- **Where rounding ends.** Aiming at an exponent, it gives a zero, which only the least exponent
allows, or a mantissa that is canonical for that exponent or the next, as far as doubles go. -/
theorem roundWithAccuracy_cases (s : Sign) (a : Accuracy) {T : ℤ}
    (hT : Format.binary64.targetExponent (totalExponent m e) = T) (he : e ≤ T) :
    T = -1074 ∧ roundWithAccuracy .binary64 s m e a = .zero s ∨
      ∃ m' e' h, roundWithAccuracy .binary64 s m e a = .finite s m' e' h ∧
        (e' = T ∨ e' = T + 1) ∧ (e' ≤ 971 → Canonical m' e') := by
  have hmin : -1074 ≤ T := by
    rw [← hT, targetExponent_eq]
    exact le_max_right _ _
  have hfirst : shiftToTargetExponent .binary64 m e a =
      (ExtendedMantissa.ofMantissaAndAccuracy m a >>> (T - e).toNat, T) := by
    rw [shiftToTargetExponent, hT, shiftToExponent]
    congr 1
    omega
  obtain ⟨hlt, hfull⟩ := div_two_pow_bounds hT he
  obtain ⟨hdown, hup⟩ :=
    roundedMantissa_bounds (ExtendedMantissa.ofMantissaAndAccuracy m a >>> (T - e).toNat)
  rw [mantissa_shiftRight, mantissa_ofMantissaAndAccuracy] at hdown hup
  rw [roundWithAccuracy, hfirst]
  dsimp only
  generalize (ExtendedMantissa.ofMantissaAndAccuracy m a >>> (T - e).toNat).roundedMantissa = n at *
  rw [shiftToTargetExponent_exact (n := n) (by omega) hmin]
  by_cases hn : n = 2 ^ 53
  · -- the carry: a power of two with one bit less and one exponent more
    rw [if_pos hn]
    exact Or.inr ⟨2 ^ 52, T + 1, by norm_num, rfl, Or.inr rfl,
      fun hmax => ⟨by norm_num, by norm_num, by omega, hmax, Or.inr le_rfl⟩⟩
  · rw [if_neg hn]
    by_cases hzero : n = 0
    · exact Or.inl ⟨by omega, dif_pos hzero⟩
    · exact Or.inr ⟨n, T, Nat.pos_of_ne_zero hzero, dif_neg hzero, Or.inl rfl,
        fun hmax => ⟨by omega, by omega, hmin, hmax, by omega⟩⟩

end

/-! ### In range and out of it -/

section

variable {s : Sign} {m : ℕ} {e : ℤ}

/-- What is packed with too great an exponent is an infinity. -/
theorem isFinite_pack_of_lt {h : 0 < m} (he : 971 < e) :
    isFinite (Float.ofModel (Float.Model.pack (.finite s m e h))) = false := by
  have hbiased : 2 ^ Format.binary64.exponentBits ≤
      (e + (Format.binary64.exponentBias : ℤ) +
        (Format.binary64.mantissaBitsWithoutImplicit : ℕ)).toNat + 1 := by
    change 2 ^ 11 ≤ (e + 1023 + 52).toNat + 1
    omega
  rw [isFinite, exponentField_pack, UnpackedFloat.pack]
  simp only [if_pos hbiased]
  cases s <;> decide

/-- Rounding that does not aim beyond the last exponent but one gives a finite double. -/
theorem isFinite_pack_roundWithAccuracy (a : Accuracy) {T : ℤ}
    (hT : Format.binary64.targetExponent (totalExponent m e) = T) (he : e ≤ T) (hmax : T ≤ 970) :
    isFinite (Float.ofModel (Float.Model.pack (roundWithAccuracy .binary64 s m e a))) = true := by
  rcases roundWithAccuracy_cases s a hT he with ⟨-, hzero⟩ | ⟨m', e', h, hfinite, he', hc⟩
  · rw [hzero]
    cases s <;> decide
  · rw [hfinite]
    exact (fields_of_pack_finite (hc (by omega))).1

end

/-! ### Square roots -/

section

variable {x : Float}

/-- The root of a number has half its bits. -/
theorem log2_sqrt {n : ℕ} (hn : n ≠ 0) : n.sqrt.log2 = n.log2 / 2 := by
  have hpos : n.sqrt ≠ 0 := (Nat.sqrt_pos.mpr (Nat.pos_of_ne_zero hn)).ne'
  refine (Nat.log2_eq_iff hpos).mpr ⟨Nat.le_sqrt.mpr ?_, Nat.sqrt_lt.mpr ?_⟩
  · rw [← pow_add]
    exact (Nat.pow_le_pow_right (by norm_num) (by omega)).trans (Nat.log2_self_le hn)
  · rw [← pow_add]
    exact Nat.lt_log2_self.trans_le (Nat.pow_le_pow_right (by norm_num) (by omega))

theorem log2_shiftLeft {n : ℕ} (hn : n ≠ 0) (k : ℕ) : (n <<< k).log2 = n.log2 + k := by
  rw [Nat.shiftLeft_eq]
  refine (Nat.log2_eq_iff (Nat.mul_ne_zero hn (by positivity))).mpr ⟨?_, ?_⟩
  · rw [pow_add]
    exact Nat.mul_le_mul_right _ (Nat.log2_self_le hn)
  · rw [show n.log2 + k + 1 = n.log2 + 1 + k by omega, pow_add]
    exact Nat.mul_lt_mul_of_pos_right Nat.lt_log2_self (by positivity)

/-- **The root of a finite double is finite**: it aims at half the exponent. -/
theorem isFinite_pack_sqrt {m : ℕ} {e : ℤ} (hc : Canonical m e) :
    isFinite (Float.ofModel (Float.Model.pack
      (UnpackedFloat.sqrt .binary64 (.finite .positive m e hc.pos)))) = true := by
  have hm := hc.pos.ne'
  have hlog : m.log2 < 53 := (Nat.log2_lt hm).mpr hc.lt
  have hmax := hc.le_max
  -- the exponent of the root, and the bits that are moved in front of the root for it
  let t := min (e.ediv 2) (Format.binary64.targetExponent ((totalExponent m e + 1).ediv 2))
  let k := (e - 2 * t).toNat
  have ht : t ≤ e / 2 := min_le_left _ _
  have hk : (k : ℤ) = e - 2 * t := Int.toNat_of_nonneg (by omega)
  have hshifted : m <<< k ≠ 0 := by
    rw [Nat.shiftLeft_eq]
    exact Nat.mul_ne_zero hm (by positivity)
  have htotal : totalExponent (m <<< k).sqrt t = (totalExponent m e + 1) / 2 := by
    rw [totalExponent, totalExponent, log2_sqrt hshifted, log2_shiftLeft hm]
    omega
  refine isFinite_pack_roundWithAccuracy _ (congrArg _ htotal) (min_le_right _ _) ?_
  rw [targetExponent_eq, totalExponent]
  omega

/-- A root is finite as far as the number is. -/
theorem isFinite_sqrt (hnan : isNaN x = false) (h : ¬x < 0) : isFinite x.sqrt = isFinite x := by
  rw [lt_iff_rank_lt hnan rfl, rank_zero, rank] at h
  cases hfinite : isFinite x with
  | false =>
    -- a negative infinity is less than zero
    have hsign : signOf x = .positive := by
      have hsize := size_of_infinite hfinite hnan
      cases hs : signOf x with
      | positive => rfl
      | negative => rw [hs] at h; dsimp only at h; omega
    change isFinite (Float.ofModel (Float.Model.pack
      (UnpackedFloat.sqrt .binary64 x.toModel.unpack))) = false
    rw [unpack_toModel_of_infinite hfinite hnan, hsign]
    decide
  | true =>
    change isFinite (Float.ofModel (Float.Model.pack
      (UnpackedFloat.sqrt .binary64 x.toModel.unpack))) = true
    rw [unpack_toModel hfinite]
    by_cases hm : mantissa x = 0
    · rw [dif_pos hm]
      cases signOf x <;> decide
    · have hsign : signOf x = .positive := by
        have hsize : size x ≠ 0 := fun h0 => hm (size_eq_zero_iff.mp h0)
        cases hs : signOf x with
        | positive => rfl
        | negative => rw [hs] at h; dsimp only at h; omega
      rw [dif_neg hm, hsign]
      exact isFinite_pack_sqrt (canonical hfinite hm)

/-- The one number from zero on that is not finite. -/
theorem eq_infinity (hnan : isNaN x = false) (h : ¬x < 0) (hfinite : isFinite x = false) :
    x = infinity := by
  rw [lt_iff_rank_lt hnan rfl, rank_zero, rank] at h
  have hsize := size_of_infinite hfinite hnan
  have hbits : infinity.toBits.toNat = 2047 * 2 ^ 52 := by decide
  refine eq_of_toBits ?_
  rw [toBits_eq x, hbits]
  cases hs : signOf x with
  | positive =>
    rw [size] at hsize
    rw [show Sign.positive.toBitVec.toNat = 0 from rfl, Nat.zero_mul, Nat.zero_add, hsize]
  | negative => rw [hs] at h; dsimp only at h; omega

end

end LineAgents.Number
