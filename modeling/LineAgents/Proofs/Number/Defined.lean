import LineAgents.Proofs.Number.Decimal
import LineAgents.Proofs.Number.Order

/-!
# What is read is a number

The one double that is no number comes of no decimal: packing gives it for nothing else
(`LineAgents.Number.isNaN_pack`), and reading packs what was multiplied, divided or rounded from
finite parts (`LineAgents.Number.isNaN_ofDecimal`). Negation keeps numbers apart from it as well
(`LineAgents.Number.isNaN_neg`).
-/

namespace LineAgents.Number

open Float.Model Float.Model.UnpackedFloat

/-! ### Packing -/

section

variable {u : UnpackedFloat}

theorem exponentField_pack : exponentField (Float.ofModel (Float.Model.pack u)) =
    (unpackExponent (UnpackedFloat.pack .binary64 u)).toNat :=
  (toNat_unpackExponent (b := UnpackedFloat.pack .binary64 u)).symm

theorem fractionField_pack : fractionField (Float.ofModel (Float.Model.pack u)) =
    (unpackMantissa (UnpackedFloat.pack .binary64 u)).toNat :=
  (toNat_unpackMantissa (b := UnpackedFloat.pack .binary64 u)).symm

/-- **Only what is no number is packed as none.** -/
theorem isNaN_pack (h : u ≠ .notANumber) :
    isNaN (Float.ofModel (Float.Model.pack u)) = false := by
  rw [isNaN, exponentField_pack, fractionField_pack]
  cases u with
  | notANumber => exact absurd rfl h
  | infinity s => cases s <;> decide
  | zero s => cases s <;> decide
  | finite s m e hm =>
    rw [UnpackedFloat.pack]
    dsimp only
    split_ifs with hlarge hfull
    · cases s <;> decide
    · -- a full mantissa: the exponent field stays below the one that is set apart
      have hfield : (e + (Format.binary64.exponentBias : ℤ) + (52 : ℕ)).toNat % 2 ^ 11 ≠ 2047 := by
        omega
      rw [unpackExponent_packComponents, BitVec.toNat_ofNat, beq_false_of_ne hfield]
      rfl
    · rw [unpackExponent_packComponents]
      rfl

theorem isNaN_iff_unpack {x : Float} : isNaN x = true ↔ x.toModel.unpack = .notANumber := by
  refine ⟨unpack_toModel_of_isNaN, fun h => ?_⟩
  by_contra hnum
  rw [Bool.not_eq_true] at hnum
  cases hfinite : isFinite x with
  | true =>
    rw [unpack_toModel hfinite] at h
    split at h <;> cases h
  | false =>
    rw [unpack_toModel_of_infinite hfinite hnum] at h
    cases h

/-- The negative of a number is one. -/
theorem isNaN_neg {x : Float} (h : isNaN x = false) : isNaN (-x) = false := by
  refine isNaN_pack (u := x.toModel.unpack.neg) fun hneg => ?_
  have hx : x.toModel.unpack ≠ .notANumber := fun hx => by
    rw [isNaN_iff_unpack.mpr hx] at h
    cases h
  cases hu : x.toModel.unpack <;> rw [hu] at hneg hx
  · cases hneg
  · exact hx rfl
  · cases hneg
  · cases hneg

end

/-! ### Reading -/

/-- What is rounded is a number. -/
theorem roundWithAccuracy_ne (s : Sign) (m : ℕ) (e : ℤ) (a : Accuracy) :
    roundWithAccuracy .binary64 s m e a ≠ .notANumber := by
  rw [roundWithAccuracy]
  dsimp only
  split <;> exact UnpackedFloat.noConfusion

theorem mul_finite_ne {s₁ s₂ : Sign} {m₁ m₂ : ℕ} {e₁ e₂ : ℤ} (h₁ : 0 < m₁) (h₂ : 0 < m₂) :
    mul .binary64 (.finite s₁ m₁ e₁ h₁) (.finite s₂ m₂ e₂ h₂) ≠ .notANumber :=
  roundWithAccuracy_ne _ _ _ _

theorem div_finite_ne {s₁ s₂ : Sign} {m₁ m₂ : ℕ} {e₁ e₂ : ℤ} (h₁ : 0 < m₁) (h₂ : 0 < m₂) :
    div .binary64 (.finite s₁ m₁ e₁ h₁) (.finite s₂ m₂ e₂ h₂) ≠ .notANumber :=
  roundWithAccuracy_ne _ _ _ _

theorem model_ofScientific_ne (d : ℕ) (s : ℤ) :
    UnpackedFloat.ofScientific .binary64 d s ≠ .notANumber := by
  rw [UnpackedFloat.ofScientific]
  split_ifs
  · exact UnpackedFloat.noConfusion
  · exact UnpackedFloat.noConfusion
  · exact UnpackedFloat.noConfusion
  · exact mul_finite_ne _ _
  · exact div_finite_ne _ _

theorem isNaN_ofScientific {d : ℕ} (hd : d ≠ 0) (negative : Bool) (k : ℕ) :
    isNaN (Float.ofScientific d negative k) = false := by
  rw [Float.ofScientific]
  by_cases hfast : d < 2 ^ 53 ∧ k ≤ 22
  · have hk : k < Float.exactlyRepresentablePowersOfTen.size := Nat.lt_succ_of_le hfast.2
    obtain ⟨m₁, e₁, h₁, hunpack₁, -, -⟩ := unpack_toFloat hd hfast.1
    obtain ⟨m₂, e₂, h₂, hunpack₂, -, -⟩ := unpack_powerOfTen hk
    rw [dif_pos hfast]
    cases negative with
    | true =>
      rw [if_pos rfl]
      refine isNaN_pack (u := div .binary64 _ _) ?_
      rw [hunpack₁, hunpack₂]
      exact div_finite_ne h₁ h₂
    | false =>
      rw [if_neg Bool.false_ne_true]
      refine isNaN_pack (u := mul .binary64 _ _) ?_
      rw [hunpack₁, hunpack₂]
      exact mul_finite_ne h₁ h₂
  · rw [dif_neg hfast]
    exact isNaN_pack (model_ofScientific_ne _ _)

/-- **A decimal is read as a number.** -/
theorem isNaN_ofDecimal (m : ℕ) (e : ℤ) : isNaN (ofDecimal m e) = false := by
  rw [ofDecimal]
  by_cases hm : m = 0
  · rw [if_pos (by simpa using hm)]
    rfl
  · rw [if_neg (by simpa using hm)]
    dsimp only
    split_ifs
    · rfl
    · rfl
    · exact isNaN_ofScientific hm _ _
    · exact isNaN_ofScientific hm _ _

end LineAgents.Number
