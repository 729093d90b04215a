import LineAgents.Proofs.Number.Bits

/-!
# The order of doubles

Doubles that are numbers are compared as integers are: by the exponent and the fraction, read as
one number and taken negative under a sign (`LineAgents.Number.rank`). The infinities come out at
the two ends and the two zeros together, so `<` and `==` are the order and the equality of the ranks
(`LineAgents.Number.lt_iff_rank_lt`, `LineAgents.Number.beq_iff_rank_eq`).
-/

namespace LineAgents.Number

open Float.Model Float.Model.UnpackedFloat

/-! ### Ranks -/

/-- The exponent and the fraction of a double, read as one number. -/
def size (x : Float) : ℕ := exponentField x * 2 ^ 52 + fractionField x

/-- **The rank of a double** among all that are numbers. -/
def rank (x : Float) : ℤ :=
  match signOf x with
  | .positive => size x
  | .negative => -size x

theorem rank_zero : rank 0 = 0 := by decide

section

variable {x y : Float}

/-- What is unpacked from an infinity. -/
theorem unpack_toModel_of_infinite (h : isFinite x = false) (hnan : isNaN x = false) :
    x.toModel.unpack = .infinity (signOf x) := by
  have hmantissa : (@unpackMantissa .binary64 x.toModel.toBits.toBitVec).toNat =
      fractionField x := toNat_unpackMantissa _
  have hexponent : (@unpackExponent .binary64 x.toModel.toBits.toBitVec).toNat =
      exponentField x := toNat_unpackExponent _
  have hfull : exponentField x = 2047 := by simpa [isFinite] using h
  have hfraction : fractionField x = 0 := by simpa [isNaN, hfull] using hnan
  rw [Float.Model.unpack, UnpackedFloat.unpack]
  simp only [ofBitVec_unpackSign]
  rw [if_pos (BitVec.eq_of_toNat_eq (show _ = 2047 from hexponent.trans hfull)),
    if_pos (BitVec.eq_of_toNat_eq (show _ = 0 from hmantissa.trans hfraction))]

/-- What is unpacked from what is no number. -/
theorem unpack_toModel_of_isNaN (h : isNaN x = true) : x.toModel.unpack = .notANumber := by
  have hmantissa : (@unpackMantissa .binary64 x.toModel.toBits.toBitVec).toNat =
      fractionField x := toNat_unpackMantissa _
  have hexponent : (@unpackExponent .binary64 x.toModel.toBits.toBitVec).toNat =
      exponentField x := toNat_unpackExponent _
  rw [isNaN, Bool.and_eq_true, beq_iff_eq, bne_iff_ne] at h
  have hfraction : @unpackMantissa .binary64 x.toModel.toBits.toBitVec ≠ 0#_ := by
    intro heq
    rw [heq] at hmantissa
    exact h.2 hmantissa.symm
  rw [Float.Model.unpack, UnpackedFloat.unpack]
  dsimp only
  rw [if_pos (BitVec.eq_of_toNat_eq (show _ = 2047 from hexponent.trans h.1)), if_neg hfraction]

theorem size_of_infinite (h : isFinite x = false) (hnan : isNaN x = false) :
    size x = 2047 * 2 ^ 52 := by
  have hfull : exponentField x = 2047 := by simpa [isFinite] using h
  have hfraction : fractionField x = 0 := by simpa [isNaN, hfull] using hnan
  rw [size, hfull, hfraction, add_zero]

theorem size_lt (h : isFinite x = true) : size x < 2047 * 2 ^ 52 := by
  have hfraction : fractionField x < 2 ^ 52 := Nat.mod_lt _ (by norm_num)
  have hexponent := exponentField_lt h
  unfold size
  omega

theorem size_eq_zero_iff : size x = 0 ↔ mantissa x = 0 := by
  rw [size, mantissa_eq]
  split_ifs <;> omega

/-- **Of two finite doubles that of the greater exponent is the greater one**, and for equal
exponents that of the greater mantissa. -/
theorem size_lt_iff : size x < size y ↔
    exponent x < exponent y ∨ exponent x = exponent y ∧ mantissa x < mantissa y := by
  have hx : fractionField x < 2 ^ 52 := Nat.mod_lt _ (by norm_num)
  have hy : fractionField y < 2 ^ 52 := Nat.mod_lt _ (by norm_num)
  rw [size, size, mantissa_eq, mantissa_eq, exponent_eq, exponent_eq]
  split_ifs <;> omega

/-- Sizes compare as the unpacked doubles do. -/
theorem compare_then_compare :
    (compare (exponent x) (exponent y)).then (compare (mantissa x) (mantissa y)) =
      compare (size x : ℤ) (size y) := by
  have hlt := size_lt_iff (x := x) (y := y)
  have hgt := size_lt_iff (x := y) (y := x)
  rcases lt_trichotomy (size x) (size y) with h | h | h
  · rw [compare_lt_iff_lt.mpr (Int.ofNat_lt.mpr h)]
    rcases hlt.mp h with he | ⟨he, hm⟩
    · rw [compare_lt_iff_lt.mpr he]
      rfl
    · rw [compare_eq_iff_eq.mpr he, compare_lt_iff_lt.mpr hm]
      rfl
  · have he : exponent x = exponent y := by omega
    have hm : mantissa x = mantissa y := by omega
    rw [h, compare_eq_iff_eq.mpr rfl, compare_eq_iff_eq.mpr he, compare_eq_iff_eq.mpr hm]
    rfl
  · rw [compare_gt_iff_gt.mpr (Int.ofNat_lt.mpr h)]
    rcases hgt.mp h with he | ⟨he, hm⟩
    · rw [compare_gt_iff_gt.mpr he]
      rfl
    · rw [compare_eq_iff_eq.mpr he.symm, compare_gt_iff_gt.mpr hm]
      rfl

/-- How a comparison comes out. -/
theorem some_lt_eq {a b : ℤ} (h : a < b) : some Ordering.lt = some (compare a b) :=
  congrArg some (compare_lt_iff_lt.mpr h).symm

theorem some_gt_eq {a b : ℤ} (h : b < a) : some Ordering.gt = some (compare a b) :=
  congrArg some (compare_gt_iff_gt.mpr h).symm

theorem compare_neg_neg (a b : ℤ) : compare (-a) (-b) = (compare a b).swap := by
  rcases lt_trichotomy a b with h | h | h
  · rw [compare_lt_iff_lt.mpr h, compare_gt_iff_gt.mpr (by omega)]
    rfl
  · rw [h, compare_eq_iff_eq.mpr rfl, compare_eq_iff_eq.mpr rfl]
    rfl
  · rw [compare_gt_iff_gt.mpr h, compare_lt_iff_lt.mpr (by omega)]
    rfl

/-- **Doubles that are numbers compare as their ranks do.** -/
theorem compare_unpack (hx : isNaN x = false) (hy : isNaN y = false) :
    x.toModel.unpack.compare y.toModel.unpack = some (compare (rank x) (rank y)) := by
  have hzx := size_eq_zero_iff (x := x)
  have hzy := size_eq_zero_iff (x := y)
  rw [rank, rank]
  cases hfx : isFinite x <;> cases hfy : isFinite y
  · rw [unpack_toModel_of_infinite hfx hx, unpack_toModel_of_infinite hfy hy,
      size_of_infinite hfx hx, size_of_infinite hfy hy]
    cases signOf x <;> cases signOf y <;> rfl
  · -- an infinity lies beyond every finite double, whatever that is
    have hsx := size_of_infinite hfx hx
    have hsy := size_lt hfy
    rw [unpack_toModel_of_infinite hfx hx, unpack_toModel hfy]
    cases signOf x <;> split <;> cases signOf y <;> dsimp only
    all_goals first | exact some_gt_eq (by omega) | exact some_lt_eq (by omega)
  · have hsx := size_lt hfx
    have hsy := size_of_infinite hfy hy
    rw [unpack_toModel_of_infinite hfy hy, unpack_toModel hfx]
    cases signOf y <;> split <;> cases signOf x <;> dsimp only
    all_goals first | exact some_gt_eq (by omega) | exact some_lt_eq (by omega)
  · rw [unpack_toModel hfx, unpack_toModel hfy]
    by_cases hmx : mantissa x = 0 <;> by_cases hmy : mantissa y = 0
    · rw [dif_pos hmx, dif_pos hmy]
      cases signOf x <;> cases signOf y <;> dsimp only <;>
        exact congrArg some (compare_eq_iff_eq.mpr (by omega)).symm
    · rw [dif_pos hmx, dif_neg hmy]
      cases signOf y <;> cases signOf x <;> dsimp only
      all_goals first | exact some_gt_eq (by omega) | exact some_lt_eq (by omega)
    · rw [dif_neg hmx, dif_pos hmy]
      cases signOf x <;> cases signOf y <;> dsimp only
      all_goals first | exact some_gt_eq (by omega) | exact some_lt_eq (by omega)
    · -- two doubles of one sign are compared by their sizes
      rw [dif_neg hmx, dif_neg hmy]
      cases signOf x <;> cases signOf y <;> dsimp only
      · rw [compare_neg_neg, ← compare_then_compare]
        rfl
      · exact some_lt_eq (by omega)
      · exact some_gt_eq (by omega)
      · rw [← compare_then_compare]
        rfl

theorem lt_iff_compare :
    x < y ↔ x.toModel.unpack.compare y.toModel.unpack = some .lt := by
  have hlt : x < y ↔ (x.toModel.unpack.compare y.toModel.unpack == some .lt) = true :=
    decide_eq_true_iff
  rw [hlt, beq_iff_eq]

/-- Only numbers are less or greater than others. -/
theorem not_isNaN_of_lt (h : x < y) : isNaN x = false ∧ isNaN y = false := by
  rw [lt_iff_compare] at h
  refine ⟨Bool.eq_false_iff.mpr fun hx => ?_, Bool.eq_false_iff.mpr fun hy => ?_⟩
  · rw [unpack_toModel_of_isNaN hx] at h
    cases h
  · rw [unpack_toModel_of_isNaN hy] at h
    cases hx : x.toModel.unpack <;> rw [hx] at h <;> cases h

/-- **A double is less than another when its rank is.** -/
theorem lt_iff_rank_lt (hx : isNaN x = false) (hy : isNaN y = false) :
    x < y ↔ rank x < rank y := by
  rw [lt_iff_compare, compare_unpack hx hy, Option.some_inj, compare_lt_iff_lt]

/-- No double is less and greater than another. -/
theorem not_lt_of_lt (h : x < y) : ¬y < x := by
  obtain ⟨hx, hy⟩ := not_isNaN_of_lt h
  rw [lt_iff_rank_lt hx hy] at h
  rw [lt_iff_rank_lt hy hx]
  exact Int.not_lt.mpr (Int.le_of_lt h)

/-- **Two doubles are equal when their ranks are.** -/
theorem beq_iff_rank_eq (hx : isNaN x = false) (hy : isNaN y = false) :
    (x == y) = true ↔ rank x = rank y := by
  have hcompare := compare_unpack hx hy
  have hbeq : (x == y) = (x.toModel.unpack.compare y.toModel.unpack == some .eq) := rfl
  rw [hbeq, hcompare, beq_iff_eq, Option.some_inj, compare_eq_iff_eq]

end

end LineAgents.Number
