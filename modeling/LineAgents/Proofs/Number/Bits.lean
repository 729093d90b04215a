import LineAgents.Number.Basic
import LineAgents.Proofs.Number.Rounding

/-!
# The bits of a double

What the bits of a double say in two languages, and that both say the same: the fields that the
library takes from them (`LineAgents.Number.mantissa`, `LineAgents.Number.exponent`,
`LineAgents.Number.isNegative`), and the form that the arithmetic of doubles works on, which is
unpacked from the bits before an operation and packed into bits after it.
-/

namespace LineAgents.Number

open Float.Model Float.Model.UnpackedFloat

/-! ### Fields of a bit pattern -/

section

variable (b : BitVec Format.binary64.numBits)

theorem toNat_unpackMantissa : (unpackMantissa b).toNat = b.toNat % 2 ^ 52 := by
  rw [unpackMantissa, BitVec.toNat_cast, BitVec.extractLsb_toNat, Nat.shiftRight_zero]
  rfl

theorem toNat_unpackExponent : (unpackExponent b).toNat = b.toNat / 2 ^ 52 % 2 ^ 11 := by
  rw [unpackExponent, BitVec.toNat_cast, BitVec.extractLsb_toNat, Nat.shiftRight_eq_div_pow]
  rfl

theorem toNat_unpackSign : (unpackSign b).toNat = b.toNat / 2 ^ 63 := by
  have hb : b.toNat < 2 ^ 64 := b.isLt
  rw [unpackSign, BitVec.toNat_cast, BitVec.extractLsb_toNat, Nat.shiftRight_eq_div_pow]
  change b.toNat / 2 ^ 63 % 2 = b.toNat / 2 ^ 63
  omega

end

theorem toNat_packComponents (s : Sign) (x : BitVec 11) (y : BitVec 52) :
    (packComponents .binary64 s x y).toNat =
      s.toBitVec.toNat * 2 ^ 63 + x.toNat * 2 ^ 52 + y.toNat := by
  rw [packComponents]
  change ((s.toBitVec ++ x) ++ y).toNat = _
  rw [BitVec.toNat_append, BitVec.toNat_append, ← Nat.shiftLeft_add_eq_or_of_lt y.isLt,
    ← Nat.shiftLeft_add_eq_or_of_lt x.isLt, Nat.shiftLeft_eq, Nat.shiftLeft_eq]
  ring

/-! ### Doubles by their fields -/

/-- The sign of a double. -/
def signOf (x : Float) : Sign := if isNegative x then .negative else .positive

theorem exponentField_eq (x : Float) : exponentField x = x.toBits.toNat / 2 ^ 52 % 2 ^ 11 := rfl

theorem fractionField_eq (x : Float) : fractionField x = x.toBits.toNat % 2 ^ 52 := rfl

theorem signOf_eq (x : Float) :
    signOf x = if 2 ^ 63 ≤ x.toBits.toNat then .negative else .positive := by
  rw [signOf, isNegative]
  exact if_congr decide_eq_true_iff rfl rfl

theorem mantissa_eq (x : Float) :
    mantissa x = if exponentField x = 0 then fractionField x else 2 ^ 52 + fractionField x := by
  rw [mantissa]
  exact if_congr beq_iff_eq rfl rfl

theorem exponent_eq (x : Float) :
    exponent x = if exponentField x = 0 then -1074 else (exponentField x : ℤ) - 1075 := by
  rw [exponent]
  exact if_congr beq_iff_eq rfl rfl

/-- A double is its bits. -/
theorem eq_of_toBits {x y : Float} (h : x.toBits.toNat = y.toBits.toNat) : x = y := by
  obtain ⟨⟨bx, hx⟩⟩ := x
  obtain ⟨⟨by', hy⟩⟩ := y
  have hbits : bx = by' := UInt64.toNat_inj.mp h
  subst hbits
  rfl

/-- The bits of a double are its sign, its exponent and its fraction. -/
theorem toBits_eq (x : Float) : x.toBits.toNat =
    (signOf x).toBitVec.toNat * 2 ^ 63 + exponentField x * 2 ^ 52 + fractionField x := by
  have hx : x.toBits.toNat < 2 ^ 64 := x.toBits.toNat_lt
  rw [signOf_eq, exponentField_eq, fractionField_eq]
  by_cases h : 2 ^ 63 ≤ x.toBits.toNat
  · rw [if_pos h]
    change _ = 1 * 2 ^ 63 + _ + _
    omega
  · rw [if_neg h]
    change _ = 0 * 2 ^ 63 + _ + _
    omega

section

variable {x : Float}

theorem not_isNaN (h : isFinite x = true) : ¬isNaN x = true := by
  rw [isFinite, bne_iff_ne] at h
  rw [isNaN, Bool.and_eq_true, beq_iff_eq]
  exact fun hnan => h hnan.1

theorem exponentField_lt (h : isFinite x = true) : exponentField x < 2047 := by
  have hlt : exponentField x < 2 ^ 11 := Nat.mod_lt _ (by norm_num)
  rw [isFinite, bne_iff_ne] at h
  omega

/-- **The mantissa and exponent of a finite double are canonical**, unless it is a zero. -/
theorem canonical (h : isFinite x = true) (hm : mantissa x ≠ 0) :
    Canonical (mantissa x) (exponent x) := by
  have hfraction : fractionField x < 2 ^ 52 := Nat.mod_lt _ (by norm_num)
  have hexponent := exponentField_lt h
  rw [mantissa_eq] at hm ⊢
  rw [exponent_eq]
  by_cases h0 : exponentField x = 0
  · rw [if_pos h0] at hm ⊢
    rw [if_pos h0]
    exact ⟨by omega, by omega, by omega, by omega, Or.inl rfl⟩
  · rw [if_neg h0] at hm ⊢
    rw [if_neg h0]
    exact ⟨by omega, by omega, by omega, by omega, Or.inr (by omega)⟩

/-- The sign that is unpacked. -/
theorem ofBitVec_unpackSign (x : Float) :
    Sign.ofBitVec (@unpackSign .binary64 x.toModel.toBits.toBitVec) = signOf x := by
  have hsign := toNat_unpackSign x.toModel.toBits.toBitVec
  have hx : x.toBits.toNat < 2 ^ 64 := x.toBits.toNat_lt
  change _ = x.toBits.toNat / 2 ^ 63 at hsign
  rw [Sign.ofBitVec, signOf_eq]
  by_cases h : 2 ^ 63 ≤ x.toBits.toNat
  · have hne : @unpackSign .binary64 x.toModel.toBits.toBitVec ≠ 0#1 := by
      intro h0
      rw [h0] at hsign
      change 0 = _ at hsign
      omega
    rw [if_neg hne, if_pos h]
  · have heq : @unpackSign .binary64 x.toModel.toBits.toBitVec = 0#1 := by
      refine BitVec.eq_of_toNat_eq ?_
      rw [hsign]
      change _ = 0
      omega
    rw [if_pos heq, if_neg h]

/-- **What is unpacked from a finite double.** -/
theorem unpack_toModel (h : isFinite x = true) : x.toModel.unpack =
    if hm : mantissa x = 0 then .zero (signOf x)
    else .finite (signOf x) (mantissa x) (exponent x) (Nat.pos_of_ne_zero hm) := by
  have hmantissa : (@unpackMantissa .binary64 x.toModel.toBits.toBitVec).toNat =
      fractionField x := toNat_unpackMantissa _
  have hexponent : (@unpackExponent .binary64 x.toModel.toBits.toBitVec).toNat =
      exponentField x := toNat_unpackExponent _
  have hlt := exponentField_lt h
  have hfinite : @unpackExponent .binary64 x.toModel.toBits.toBitVec ≠ -1#_ := by
    intro heq
    rw [heq] at hexponent
    change 2047 = exponentField x at hexponent
    omega
  rw [Float.Model.unpack, UnpackedFloat.unpack]
  simp only [ofBitVec_unpackSign]
  rw [if_neg hfinite]
  have hzero : @unpackExponent .binary64 x.toModel.toBits.toBitVec = 0#_ ↔
      exponentField x = 0 := by
    rw [← hexponent]
    exact ⟨fun h0 => by rw [h0]; rfl, fun h0 => BitVec.eq_of_toNat_eq h0⟩
  have hwhole : @unpackMantissa .binary64 x.toModel.toBits.toBitVec = 0#_ ↔
      fractionField x = 0 := by
    rw [← hmantissa]
    exact ⟨fun h0 => by rw [h0]; rfl, fun h0 => BitVec.eq_of_toNat_eq h0⟩
  by_cases h0 : exponentField x = 0
  · -- no bit in front of the fraction
    have hm : mantissa x = fractionField x := by rw [mantissa_eq, if_pos h0]
    have he : exponent x = -1074 := by rw [exponent_eq, if_pos h0]
    rw [if_pos (hzero.mpr h0)]
    by_cases hf : fractionField x = 0
    · rw [dif_pos (hwhole.mpr hf), dif_pos (hm.trans hf)]
    · rw [dif_neg (fun hw => hf (hwhole.mp hw)), dif_neg (by rw [hm]; exact hf)]
      simp only [hm, he, hmantissa, hexponent, h0]
      rfl
  · -- one bit in front of it
    have hm : mantissa x = 2 ^ 52 + fractionField x := by rw [mantissa_eq, if_neg h0]
    have he : exponent x = exponentField x - 1075 := by rw [exponent_eq, if_neg h0]
    have happend : (1#1 ++ @unpackMantissa .binary64 x.toModel.toBits.toBitVec).toNat =
        2 ^ 52 + fractionField x := by
      rw [BitVec.toNat_append, ← Nat.shiftLeft_add_eq_or_of_lt (BitVec.isLt _), hmantissa]
      rfl
    rw [if_neg (fun hz => h0 (hzero.mp hz)), dif_neg (by omega)]
    simp only [hm, he, happend, hexponent]
    rfl

/-- **A double is its sign, its mantissa and its exponent.** -/
theorem eq_of_fields {y : Float} (hs : signOf x = signOf y) (hm : mantissa x = mantissa y)
    (he : exponent x = exponent y) : x = y := by
  have hfx : fractionField x < 2 ^ 52 := Nat.mod_lt _ (by norm_num)
  have hfy : fractionField y < 2 ^ 52 := Nat.mod_lt _ (by norm_num)
  rw [mantissa_eq, mantissa_eq] at hm
  rw [exponent_eq, exponent_eq] at he
  refine eq_of_toBits ?_
  rw [toBits_eq x, toBits_eq y, hs]
  split_ifs at hm he <;> omega

end

/-! ### Doubles that are packed -/

section

variable {m : ℕ} {e : ℤ} {s : Sign} {h : 0 < m}

/-- The bits that a canonical mantissa and exponent are packed into. -/
theorem toNat_pack_finite (hc : Canonical m e) :
    (UnpackedFloat.pack .binary64 (.finite s m e h)).toNat = s.toBitVec.toNat * 2 ^ 63 +
      if m < 2 ^ 52 then m else (e + 1075).toNat * 2 ^ 52 + (m - 2 ^ 52) := by
  have hmin := hc.min_le
  have hmax := hc.le_max
  have hlt := hc.lt
  have hbiased : (e + (Format.binary64.exponentBias : ℤ) + (52 : ℕ)).toNat = (e + 1075).toNat := by
    change (e + 1023 + 52).toNat = _
    congr 1
    ring
  rw [UnpackedFloat.pack]
  simp only [hbiased]
  rw [if_neg (show ¬2 ^ 11 ≤ (e + 1075).toNat + 1 by omega)]
  by_cases hm : m < 2 ^ 52
  · -- no bit in front of the fraction: the exponent field is zero
    have hlog : m.log2 < 52 := (Nat.log2_lt h.ne').mpr hm
    rw [if_neg (show ¬m.log2 + 1 = Format.binary64.mantissaBits from fun h53 => by
      change m.log2 + 1 = 53 at h53
      omega), if_pos hm, toNat_packComponents]
    change _ + 0 * 2 ^ 52 + m % 2 ^ 52 = _
    omega
  · have hlog : m.log2 = 52 := (Nat.log2_eq_iff h.ne').mpr ⟨by omega, hlt⟩
    have hbits : m.log2 + 1 = Format.binary64.mantissaBits := by
      rw [hlog]
      rfl
    rw [if_pos hbits, if_neg hm, toNat_packComponents]
    change _ + (e + 1075).toNat % 2 ^ 11 * 2 ^ 52 + m % 2 ^ 52 = _
    omega

/-- **A canonical mantissa and exponent are kept by packing.** -/
theorem fields_of_pack_finite (hc : Canonical m e) :
    let x := Float.ofModel (Float.Model.pack (.finite s m e h))
    isFinite x = true ∧ signOf x = s ∧ mantissa x = m ∧ exponent x = e := by
  intro x
  have hbits : x.toBits.toNat = s.toBitVec.toNat * 2 ^ 63 +
      if m < 2 ^ 52 then m else (e + 1075).toNat * 2 ^ 52 + (m - 2 ^ 52) :=
    toNat_pack_finite (h := h) hc
  have hmin := hc.min_le
  have hmax := hc.le_max
  have hlt := hc.lt
  have hfull := hc.full
  have hsign : s.toBitVec.toNat < 2 := s.toBitVec.isLt
  have hfield : exponentField x = if m < 2 ^ 52 then 0 else (e + 1075).toNat := by
    rw [exponentField_eq, hbits]
    split_ifs <;> omega
  have hfraction : fractionField x = if m < 2 ^ 52 then m else m - 2 ^ 52 := by
    rw [fractionField_eq, hbits]
    split_ifs <;> omega
  refine ⟨?_, ?_, ?_, ?_⟩
  · rw [isFinite, bne_iff_ne, hfield]
    split_ifs <;> omega
  · rw [signOf_eq, hbits]
    cases s with
    | negative => rw [show Sign.negative.toBitVec.toNat = 1 from rfl, if_pos (by omega)]
    | positive =>
      rw [show Sign.positive.toBitVec.toNat = 0 from rfl, if_neg]
      split_ifs <;> omega
  · rw [mantissa_eq, hfield, hfraction]
    split_ifs <;> omega
  · rw [exponent_eq, hfield]
    split_ifs <;> omega

end

/-! ### The sign of a double -/

section

variable {x : Float}

/-- **Negation changes the sign and nothing else.** -/
theorem fields_neg (h : isFinite x = true) (hm : mantissa x ≠ 0) :
    isFinite (-x) = true ∧ signOf (-x) = -signOf x ∧ mantissa (-x) = mantissa x ∧
      exponent (-x) = exponent x := by
  have hneg : -x = Float.ofModel (Float.Model.pack
      (.finite (-signOf x) (mantissa x) (exponent x) (Nat.pos_of_ne_zero hm))) := by
    change Float.ofModel (Float.Model.pack x.toModel.unpack.neg) = _
    rw [unpack_toModel h, dif_neg hm]
    rfl
  rw [hneg]
  exact fields_of_pack_finite (canonical h hm)

theorem neg_neg_eq (h : isFinite x = true) (hm : mantissa x ≠ 0) : - -x = x := by
  obtain ⟨hfinite, hsign, hmantissa, hexponent⟩ := fields_neg h hm
  obtain ⟨-, hsign', hmantissa', hexponent'⟩ := fields_neg hfinite (by rw [hmantissa]; exact hm)
  refine eq_of_fields ?_ (hmantissa'.trans hmantissa) (hexponent'.trans hexponent)
  rw [hsign', hsign]
  cases signOf x <;> rfl

/-- **A finite double equals zero when its mantissa is zero**, whatever its sign. -/
theorem beq_zero_iff (h : isFinite x = true) : (x == 0) = true ↔ mantissa x = 0 := by
  have hzero : (0 : Float).toModel.unpack = .zero .positive := rfl
  have hbeq : (x == 0) = x.toModel.unpack.beq (0 : Float).toModel.unpack := rfl
  rw [hbeq, hzero, unpack_toModel h]
  by_cases hm : mantissa x = 0
  · rw [dif_pos hm]
    exact ⟨fun _ => hm, fun _ => rfl⟩
  · rw [dif_neg hm]
    refine ⟨fun hb => ?_, fun h0 => absurd h0 hm⟩
    cases hs : signOf x <;> rw [hs] at hb <;> exact absurd hb Bool.false_ne_true

/-- A zero without a sign is zero. -/
theorem eq_zero (hm : mantissa x = 0) (hs : isNegative x = false) : x = 0 := by
  have hexponent : exponent x = -1074 := by
    rw [mantissa_eq] at hm
    rw [exponent_eq]
    split_ifs at hm ⊢
    · rfl
    · omega
  refine eq_of_fields ?_ ?_ ?_
  · rw [signOf, hs, if_neg Bool.false_ne_true]
    rfl
  · rw [hm]
    decide
  · rw [hexponent]
    decide

end

end LineAgents.Number
