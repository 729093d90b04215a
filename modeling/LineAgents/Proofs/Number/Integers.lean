import LineAgents.Proofs.Number.Digits
import LineAgents.Proofs.Number.Extent
import LineAgents.Proofs.Number.Whole
import LineAgents.Proofs.Text.Blank

/-!
# Doubles that are integers

Below two to the power fifty-three every natural number is a double, and doubles that are natural
numbers are handled as the numbers they are. The bits are left behind here: a double is its sign
and its size as a rational number (`LineAgents.Number.eq_of_magnitude`).

* `LineAgents.Number.lt_iff_value_lt`: finite doubles are ordered as their values.
* `LineAgents.Number.isInteger_iff`: the test for an integer asks whether the value has no fraction.
* `LineAgents.Number.value_trunc`: cutting a finite double keeps the integer part of its value,
  toward zero.
* `LineAgents.Number.ofDecimal_eq_ofNat_iff`: a numeral of digits alone is read as a natural number
  of this range only when it spells that number. A greater one is read as a greater double, not
  always as the number it spells; that none of them falls back into the range is where
  `LineAgents.Number.roundWithAccuracy_cases` comes in.
* `LineAgents.Number.ofText_of_isDigits`: such a numeral is a text of digits.
-/

namespace LineAgents.Number

open Float.Model Float.Model.UnpackedFloat

/-! ### Sizes as rational numbers -/

/-- **The size of a finite double**, as a rational number. -/
def magnitude (x : Float) : ℚ := mantissa x * 2 ^ exponent x

section

variable {x y : Float}

theorem magnitude_nonneg (x : Float) : 0 ≤ magnitude x :=
  mul_nonneg (Nat.cast_nonneg _) (by positivity)

theorem magnitude_eq_zero_iff : magnitude x = 0 ↔ size x = 0 := by
  have hpos : (2 : ℚ) ^ exponent x ≠ 0 := by positivity
  rw [size_eq_zero_iff, magnitude, mul_eq_zero, or_iff_left hpos, Nat.cast_eq_zero]

theorem truncNat_eq_floor_magnitude (x : Float) : truncNat x = ⌊magnitude x⌋₊ :=
  truncNat_eq_floor x

theorem value_eq (x : Float) : value x = match signOf x with
    | .positive => magnitude x
    | .negative => -magnitude x := rfl

theorem value_zero : value 0 = 0 := by
  rw [value_eq, magnitude_eq_zero_iff.mpr (by decide)]
  rfl

/-- The mantissa and the exponent of any double, zeros and infinities included. -/
theorem fields_bounds (x : Float) :
    mantissa x < 2 ^ 53 ∧ -1074 ≤ exponent x ∧ (exponent x = -1074 ∨ 2 ^ 52 ≤ mantissa x) := by
  have hfraction : fractionField x < 2 ^ 52 := Nat.mod_lt _ (by norm_num)
  rw [mantissa_eq, exponent_eq]
  split_ifs with h0
  · exact ⟨by omega, le_rfl, Or.inl rfl⟩
  · exact ⟨by omega, by omega, Or.inr (by omega)⟩

/-- **Sizes are ordered as the rational numbers are**: a greater exponent stands for more than any
mantissa can. -/
theorem magnitude_lt_of_size_lt (h : size x < size y) : magnitude x < magnitude y := by
  rcases size_lt_iff.mp h with hexponent | ⟨hexponent, hmantissa⟩
  · obtain ⟨hlt, hmin, -⟩ := fields_bounds x
    have hfull : 2 ^ 52 ≤ mantissa y := (fields_bounds y).2.2.resolve_left (by omega)
    have hpos : (0 : ℚ) < 2 ^ exponent x := by positivity
    calc magnitude x < 2 ^ 53 * 2 ^ exponent x :=
          mul_lt_mul_of_pos_right (by exact_mod_cast hlt) hpos
      _ = 2 ^ 52 * 2 ^ (exponent x + 1) := by
          rw [zpow_add_one₀ (by norm_num)]
          ring
      _ ≤ mantissa y * 2 ^ exponent y :=
          mul_le_mul (by exact_mod_cast hfull)
            (zpow_le_zpow_right₀ (by norm_num) (by omega)) (by positivity) (Nat.cast_nonneg _)
  · rw [magnitude, magnitude, hexponent]
    exact mul_lt_mul_of_pos_right (Nat.cast_lt.mpr hmantissa) (by positivity)

theorem size_eq_of_magnitude (h : magnitude x = magnitude y) : size x = size y := by
  rcases lt_trichotomy (size x) (size y) with hlt | heq | hgt
  · exact absurd h (magnitude_lt_of_size_lt hlt).ne
  · exact heq
  · exact absurd h (magnitude_lt_of_size_lt hgt).ne'

theorem magnitude_eq_of_size (h : size x = size y) : magnitude x = magnitude y := by
  have hlt := size_lt_iff (x := x) (y := y)
  have hgt := size_lt_iff (x := y) (y := x)
  rw [magnitude, magnitude, show mantissa x = mantissa y by omega,
    show exponent x = exponent y by omega]

theorem size_lt_iff_magnitude_lt : size x < size y ↔ magnitude x < magnitude y := by
  refine ⟨magnitude_lt_of_size_lt, fun h => lt_of_not_ge fun hge => ?_⟩
  rcases hge.eq_or_lt with heq | hlt
  · exact absurd (magnitude_eq_of_size heq) h.ne'
  · exact absurd (magnitude_lt_of_size_lt hlt) h.not_gt

/-- **A double is its sign and its size.** -/
theorem eq_of_magnitude (hs : signOf x = signOf y) (h : magnitude x = magnitude y) : x = y := by
  have hsize := size_eq_of_magnitude h
  have hlt := size_lt_iff (x := x) (y := y)
  have hgt := size_lt_iff (x := y) (y := x)
  exact eq_of_fields hs (by omega) (by omega)

/-- **Finite doubles are ordered as their values are.** -/
theorem lt_iff_value_lt (hx : isFinite x = true) (hy : isFinite y = true) :
    x < y ↔ value x < value y := by
  have hlt := size_lt_iff_magnitude_lt (x := x) (y := y)
  have hgt := size_lt_iff_magnitude_lt (x := y) (y := x)
  have hzx := magnitude_eq_zero_iff (x := x)
  have hzy := magnitude_eq_zero_iff (x := y)
  have hx0 := magnitude_nonneg x
  have hy0 := magnitude_nonneg y
  rw [lt_iff_rank_lt (Bool.eq_false_iff.mpr (not_isNaN hx)) (Bool.eq_false_iff.mpr (not_isNaN hy)),
    rank, rank, value_eq, value_eq]
  cases signOf x <;> cases signOf y <;> dsimp only
  · rw [neg_lt_neg_iff, neg_lt_neg_iff, Nat.cast_lt]
    exact hgt
  · -- from below zero to above it: only two zeros are not in order
    constructor
    · intro h
      by_contra hle
      have hboth : magnitude x = 0 ∧ magnitude y = 0 := ⟨by linarith, by linarith⟩
      have hsizes := hzx.mp hboth.1
      have hsizes' := hzy.mp hboth.2
      omega
    · intro h
      by_contra hle
      rw [hzx.mpr (by omega), hzy.mpr (by omega)] at h
      exact absurd h (by norm_num)
  · exact ⟨fun h => absurd h (by omega), fun h => absurd h (by linarith)⟩
  · rw [Nat.cast_lt]
    exact hlt

end

/-! ### Integers -/

section

variable {x : Float}

/-- Dropping the fraction keeps the sign, and keeps finite what is finite. -/
theorem signOf_trunc (x : Float) :
    signOf (trunc x) = signOf x ∧ isFinite (trunc x) = isFinite x := by
  obtain ⟨-, hkept⟩ | ⟨hsmall, hs, hexponent, -⟩ | ⟨s, hpos, -, hplaces, hs, hexponent, -⟩ :=
    trunc_cases x
  · rw [hkept]
    exact ⟨rfl, rfl⟩
  · refine ⟨hs, (bne_iff_ne.mpr ?_).trans (bne_iff_ne.mpr ?_).symm⟩ <;> omega
  · refine ⟨hs, (bne_iff_ne.mpr ?_).trans (bne_iff_ne.mpr ?_).symm⟩ <;> omega

/-- **Without its fraction a double has the size of its integer part.** -/
theorem magnitude_trunc (x : Float) : magnitude (trunc x) = truncNat x := by
  obtain ⟨hlarge, hkept⟩ | ⟨hsmall, -, hexponent, hfraction⟩ |
    ⟨s, hpos, hs, hplaces, -, hexponent, hfraction⟩ := trunc_cases x
  · -- no place for a fraction
    have hwhole : ∃ e : ℕ, exponent x = e := by
      rw [exponent_eq, if_neg (by omega)]
      exact ⟨exponentField x - 1075, by omega⟩
    obtain ⟨e, he⟩ := hwhole
    have hvalue : (mantissa x : ℚ) * 2 ^ exponent x = (mantissa x * 2 ^ e : ℕ) := by
      rw [he, zpow_natCast]
      push_cast
      rfl
    rw [hkept, truncNat_eq_floor, magnitude, hvalue, Nat.floor_natCast]
  · rw [truncNat_eq_zero hsmall, Nat.cast_zero, magnitude_eq_zero_iff, size, hexponent, hfraction,
      zero_mul, zero_add]
  · obtain ⟨hm, he⟩ := fields_of_places (x := trunc x) hs (by omega)
    have hcut : mantissa (trunc x) = truncNat x * 2 ^ s := by
      rw [hm, hfraction, truncNat_of_places hs hplaces]
    have hpow : (2 : ℚ) ^ s ≠ 0 := by positivity
    rw [magnitude, hcut, he, zpow_neg, zpow_natCast]
    push_cast
    rw [mul_assoc, mul_inv_cancel₀ hpow, mul_one]

/-- For a finite double the test for an integer compares sizes: dropping the fraction keeps the
sign. -/
theorem isInteger_iff_size (h : isFinite x = true) :
    isInteger x = true ↔ size (trunc x) = size x := by
  obtain ⟨hsign, hfinite⟩ := signOf_trunc x
  have hnan : isNaN x = false ∧ isNaN (trunc x) = false :=
    ⟨Bool.eq_false_iff.mpr (not_isNaN h), Bool.eq_false_iff.mpr (not_isNaN (hfinite.trans h))⟩
  rw [isInteger, h, Bool.true_and, beq_iff_rank_eq hnan.2 hnan.1, rank, rank, hsign]
  cases signOf x <;> dsimp only <;> omega

/-- **The test for an integer** asks for a finite double without a fraction. -/
theorem isInteger_iff :
    isInteger x = true ↔ isFinite x = true ∧ magnitude x = truncNat x := by
  cases h : isFinite x with
  | false => simp only [isInteger, h, Bool.false_and, Bool.false_eq_true, false_and]
  | true =>
    have hsize : size (trunc x) = size x ↔ magnitude (trunc x) = magnitude x :=
      ⟨magnitude_eq_of_size, size_eq_of_magnitude⟩
    rw [isInteger_iff_size h, hsize, magnitude_trunc, eq_comm, eq_self_iff_true, true_and]

/-- An integer that is not below zero has the value of its integer part. -/
theorem value_of_isInteger (h : isInteger x = true) (hneg : ¬x < 0) : value x = truncNat x := by
  obtain ⟨hfinite, hmagnitude⟩ := isInteger_iff.mp h
  rw [lt_iff_value_lt hfinite rfl, value_zero, not_lt, value_eq] at hneg
  rw [value_eq, ← hmagnitude]
  cases hs : signOf x with
  | positive => rfl
  | negative =>
    -- of the integers with a sign only a zero is meant
    have hpos := magnitude_nonneg x
    rw [hs] at hneg
    dsimp only at hneg ⊢
    linarith

/-- **A positive integer**, as the double of one. -/
def IsPositiveInteger (x : Float) : Prop := isFinite x = true ∧ ∃ n : ℕ, 0 < n ∧ value x = n

/-- The two tests for a positive integer ask for one. -/
theorem isPositiveInteger_iff : IsPositiveInteger x ↔ isInteger x = true ∧ 0 < x := by
  constructor
  · rintro ⟨hfinite, n, hn, hvalue⟩
    have hpos : (0 : ℚ) < value x := by
      rw [hvalue]
      exact_mod_cast hn
    have hmagnitude : magnitude x = n := by
      rw [value_eq] at hpos hvalue
      cases hs : signOf x with
      | positive =>
        rw [hs] at hvalue
        exact hvalue
      | negative =>
        rw [hs] at hpos
        exact absurd hpos (not_lt.mpr (neg_nonpos.mpr (magnitude_nonneg x)))
    refine ⟨isInteger_iff.mpr ⟨hfinite, ?_⟩, ?_⟩
    · rw [truncNat_eq_floor_magnitude, hmagnitude, Nat.floor_natCast]
    · rwa [lt_iff_value_lt rfl hfinite, value_zero]
  · rintro ⟨hinteger, hpos⟩
    have hfinite := (isInteger_iff.mp hinteger).1
    have hvalue := value_of_isInteger hinteger (not_lt_of_lt hpos)
    rw [lt_iff_value_lt rfl hfinite, value_zero, hvalue] at hpos
    exact ⟨hfinite, truncNat x, by exact_mod_cast hpos, hvalue⟩

/-- What equals zero is a finite double of that value, with a sign or without. -/
theorem beq_zero_iff_value (hnan : isNaN x = false) :
    (x == 0) = true ↔ isFinite x = true ∧ value x = 0 := by
  rw [beq_iff_rank_eq hnan rfl, rank_zero, rank, value_eq]
  cases hfinite : isFinite x with
  | false =>
    have hsize := size_of_infinite hfinite hnan
    refine iff_of_false ?_ fun h => Bool.false_ne_true h.1
    cases signOf x <;> dsimp only <;> omega
  | true =>
    have hzero := magnitude_eq_zero_iff (x := x)
    rw [eq_self_iff_true, true_and]
    cases signOf x <;> dsimp only
    · rw [neg_eq_zero, neg_eq_zero, Nat.cast_eq_zero, hzero]
    · rw [Nat.cast_eq_zero, hzero]

/-- What has no fraction left is an integer, if it is finite. -/
theorem isInteger_trunc (h : isFinite x = true) : isInteger (trunc x) = true := by
  refine isInteger_iff.mpr ⟨(signOf_trunc x).2.trans h, ?_⟩
  rw [truncNat_eq_floor_magnitude, magnitude_trunc, Nat.floor_natCast]

/-! ### Integer parts -/

/-- **The integer part of a rational number**, toward zero. -/
def towardZero (q : ℚ) : ℤ := if 0 ≤ q then ⌊q⌋ else ⌈q⌉

theorem towardZero_neg {q : ℚ} (h : 0 ≤ q) : towardZero (-q) = -towardZero q := by
  rw [towardZero, towardZero, if_pos h]
  split_ifs with hneg
  · have hzero : q = 0 := le_antisymm (neg_nonneg.mp hneg) h
    rw [hzero, neg_zero, Int.floor_zero, neg_zero]
  · exact Int.ceil_neg

/-- **Dropping the fraction of a double drops that of its value**, toward zero. -/
theorem value_trunc (x : Float) : value (trunc x) = towardZero (value x) := by
  have hpart : (towardZero (magnitude x) : ℚ) = truncNat x := by
    rw [towardZero, if_pos (magnitude_nonneg x), truncNat_eq_floor_magnitude]
    exact (natCast_floor_eq_intCast_floor (magnitude_nonneg x)).symm
  rw [value_eq, value_eq, (signOf_trunc x).1, magnitude_trunc, ← hpart]
  cases signOf x with
  | positive => rfl
  | negative => rw [towardZero_neg (magnitude_nonneg x), Int.cast_neg]

/-- **A double whose integer part is a natural number**: it is finite, and nothing but the fraction
of its value is dropped, toward zero. -/
def CutsTo (x : Float) (k : ℕ) : Prop := isFinite x = true ∧ towardZero (value x) = k

/-- Whether an integer part is natural is read off the double without its fraction. -/
theorem cutsTo_iff {k : ℕ} : CutsTo x k ↔
    isFinite (trunc x) = true ∧ ¬trunc x < 0 ∧ truncNat (trunc x) = k := by
  rw [CutsTo, (signOf_trunc x).2]
  refine and_congr_right fun hfinite => ?_
  have hinteger := isInteger_trunc hfinite
  have hcast : towardZero (value x) = k ↔ value (trunc x) = k := by
    rw [value_trunc]
    exact_mod_cast Iff.rfl
  rw [hcast]
  constructor
  · intro hvalue
    have hneg : ¬trunc x < 0 := by
      rw [lt_iff_value_lt (isInteger_iff.mp hinteger).1 rfl, value_zero, hvalue]
      exact not_lt.mpr (Nat.cast_nonneg k)
    refine ⟨hneg, ?_⟩
    rw [value_of_isInteger hinteger hneg] at hvalue
    exact_mod_cast hvalue
  · rintro ⟨hneg, rfl⟩
    exact value_of_isInteger hinteger hneg

end

/-! ### Natural numbers -/

section

variable {m n : ℕ}

/-- **A natural number with at most fifty-three bits is a double.** -/
theorem fields_ofNat (hn : n < 2 ^ 53) :
    isFinite (Float.ofNat n) = true ∧ signOf (Float.ofNat n) = .positive ∧
      magnitude (Float.ofNat n) = n := by
  by_cases h0 : n = 0
  · have hmagnitude : magnitude 0 = ((0 : ℕ) : ℚ) := by
      rw [Nat.cast_zero, magnitude_eq_zero_iff]
      decide
    rw [h0]
    exact ⟨by decide, rfl, hmagnitude⟩
  · have hc := canonical_of_nat h0 hn
    have hlog : n.log2 < 53 := (Nat.log2_lt h0).mpr hn
    have hvalue : ((n * 2 ^ (52 - n.log2) : ℕ) : ℚ) * 2 ^ ((n.log2 : ℤ) - 52) = n := by
      push_cast
      rw [mul_assoc, ← zpow_natCast, ← zpow_add₀ (by norm_num),
        show ((52 - n.log2 : ℕ) : ℤ) + ((n.log2 : ℤ) - 52) = 0 by omega, zpow_zero, mul_one]
    have hread : RoundsTo (n * 10 ^ (if false then -((0 : ℕ) : ℤ) else (0 : ℕ)))
        (n * 2 ^ (52 - n.log2)) (n.log2 - 52) := by
      have hself := roundsTo_self (n * 2 ^ (52 - n.log2)) (n.log2 - 52)
      rw [hvalue] at hself
      rwa [if_neg Bool.false_ne_true, zpow_natCast, pow_zero, mul_one]
    obtain ⟨hfinite, hsign, hmantissa, hexponent⟩ :=
      fields_of_pack_finite (s := .positive) (h := hc.pos) hc
    change isFinite (Float.ofScientific n false 0) = true ∧
      signOf (Float.ofScientific n false 0) = .positive ∧
      magnitude (Float.ofScientific n false 0) = n
    rw [ofScientific_eq false hc hread, magnitude, hmantissa, hexponent]
    exact ⟨hfinite, hsign, hvalue⟩

theorem value_ofNat (hn : n < 2 ^ 53) : value (Float.ofNat n) = n := by
  obtain ⟨-, hsign, hmagnitude⟩ := fields_ofNat hn
  rw [value_eq, hsign]
  exact hmagnitude

/-- The double of a natural number is an integer, with that number as its integer part. -/
theorem isInteger_ofNat (hn : n < 2 ^ 53) :
    isInteger (Float.ofNat n) = true ∧ truncNat (Float.ofNat n) = n := by
  obtain ⟨hfinite, -, hmagnitude⟩ := fields_ofNat hn
  have htrunc : truncNat (Float.ofNat n) = n := by
    rw [truncNat_eq_floor]
    change ⌊magnitude (Float.ofNat n)⌋₊ = n
    rw [hmagnitude, Nat.floor_natCast]
  refine ⟨isInteger_iff.mpr ⟨hfinite, ?_⟩, htrunc⟩
  rw [hmagnitude, htrunc]

/-- **A positive integer of this range is the double of its integer part.** -/
theorem eq_ofNat_of_isInteger {x : Float} (h : isInteger x = true) (hs : signOf x = .positive)
    (hx : truncNat x < 2 ^ 53) : x = Float.ofNat (truncNat x) := by
  obtain ⟨-, hsign, hmagnitude⟩ := fields_ofNat hx
  refine eq_of_magnitude (hs.trans hsign.symm) ?_
  rw [hmagnitude, (isInteger_iff.mp h).2]

/-! ### Numerals of digits alone -/

theorem ofDecimal_of_lt (hm : m < 2 ^ 53) : ofDecimal m 0 = Float.ofNat m := by
  by_cases h0 : m = 0
  · rw [h0]
    rfl
  · obtain ⟨hfinite, hsign, hmagnitude⟩ := fields_ofNat hm
    have hpositive : isNegative (Float.ofNat m) = false := by
      rw [signOf] at hsign
      split_ifs at hsign with hneg
      exact Bool.eq_false_iff.mpr hneg
    have hnonzero : mantissa (Float.ofNat m) ≠ 0 := by
      intro hzero
      rw [magnitude, hzero, Nat.cast_zero, zero_mul] at hmagnitude
      exact h0 (by exact_mod_cast hmagnitude.symm)
    refine ofDecimal_eq hfinite hpositive hnonzero ?_
    rw [zpow_zero, mul_one, ← hmagnitude]
    exact roundsTo_self _ _

/-- **A greater numeral is read as a greater double**, if as a finite one. -/
theorem magnitude_ofDecimal_of_le (hm : 2 ^ 53 ≤ m) (hfinite : isFinite (ofDecimal m 0) = true) :
    2 ^ 53 ≤ magnitude (ofDecimal m 0) := by
  have h0 : m ≠ 0 := by omega
  have hlog : 53 ≤ m.log2 := (Nat.le_log2 h0).mpr hm
  have hread : ofDecimal m 0 = infinity ∨ ofDecimal m 0 = Float.ofModel (Float.Model.pack
      (roundWithAccuracy .binary64 .positive (m <<< 53 * 10 ^ 0) (-(53 : ℤ) + 0) .exact)) := by
    rw [ofDecimal, if_neg (by simpa using h0)]
    dsimp only
    rw [if_neg (show ¬((Nat.toDigits 10 m).length : ℤ) + 0 < -400 by omega), if_pos le_rfl]
    split_ifs
    · exact Or.inl rfl
    · rw [Float.ofScientific, dif_neg (by omega)]
      refine Or.inr (congrArg (fun u => Float.ofModel (Float.Model.pack u)) ?_)
      change UnpackedFloat.ofScientific .binary64 m 0 = _
      rw [UnpackedFloat.ofScientific, dif_neg h0, if_neg (by decide), if_neg ?_, if_pos le_rfl]
      · rfl
      · change ¬(0 : ℤ) < -(2 ^ 11 + m.log2)
        omega
  have hfinal : totalExponent (m <<< 53 * 10 ^ 0) (-(53 : ℤ) + 0) = m.log2 + 1 := by
    rw [totalExponent, pow_zero, mul_one, log2_shiftLeft h0]
    omega
  have htarget : Format.binary64.targetExponent
      (totalExponent (m <<< 53 * 10 ^ 0) (-(53 : ℤ) + 0)) = m.log2 - 52 := by
    rw [hfinal, targetExponent_eq]
    omega
  rcases hread with hread | hread
  · rw [hread] at hfinite
    exact absurd hfinite (by decide)
  · rcases roundWithAccuracy_cases .positive .exact htarget (by omega) with
      ⟨hmin, -⟩ | ⟨m', e', hpos, hround, he', hc⟩
    · omega
    · rw [hread, hround] at hfinite ⊢
      have hmax : e' ≤ 971 := by
        by_contra hlt
        rw [isFinite_pack_of_lt (by omega)] at hfinite
        cases hfinite
      obtain ⟨-, -, hmantissa, hexponent⟩ :=
        fields_of_pack_finite (s := .positive) (h := hpos) (hc hmax)
      have hfull : 2 ^ 52 ≤ m' := (hc hmax).full.resolve_left (by omega)
      rw [magnitude, hmantissa, hexponent]
      calc (2 : ℚ) ^ 53 = (2 : ℚ) ^ 52 * (2 : ℚ) ^ (1 : ℤ) := by norm_num
        _ ≤ (m' : ℚ) * 2 ^ e' := mul_le_mul (by exact_mod_cast hfull)
            (zpow_le_zpow_right₀ (by norm_num) (by omega)) (by positivity) (Nat.cast_nonneg _)

/-- **A numeral of digits alone is read as a natural number of this range only when it spells that
number.** -/
theorem ofDecimal_eq_ofNat_iff (hn : n < 2 ^ 53) : ofDecimal m 0 = Float.ofNat n ↔ m = n := by
  obtain ⟨hfinite, -, hmagnitude⟩ := fields_ofNat hn
  constructor
  · intro h
    rcases Nat.lt_or_ge m (2 ^ 53) with hm | hm
    · rw [ofDecimal_of_lt hm] at h
      have hcast : ((m : ℕ) : ℚ) = n := by rw [← (fields_ofNat hm).2.2, h, hmagnitude]
      exact_mod_cast hcast
    · have hle := magnitude_ofDecimal_of_le hm (by rw [h]; exact hfinite)
      rw [h, hmagnitude] at hle
      exact absurd (show 2 ^ 53 ≤ n by exact_mod_cast hle) (by omega)
  · rintro rfl
    exact ofDecimal_of_lt hn

/-- A digit is no white space. -/
theorem isBlank_of_isDigit {u : UInt16} (h : Text.isDigit u = true) : Text.isBlank u = false := by
  obtain ⟨hlow, hhigh⟩ := isDigit_iff.mp h
  simp only [Text.isBlank, Bool.or_eq_false_iff, Bool.and_eq_false_iff, decide_eq_false_iff_not,
    beq_eq_false_iff_ne, ne_eq, UInt16.le_iff_toNat_le, ← UInt16.toNat_inj]
  simp only [UInt16.reduceToNat]
  omega

theorem IsDigits.trim_eq {t : Text} (h : IsDigits t) : t.trim = t := by
  refine Text.Trimmed.trim_eq ⟨fun u hu => ?_, fun u hu => ?_⟩
  · exact isBlank_of_isDigit (h u (List.mem_of_mem_head? hu))
  · exact isBlank_of_isDigit (h u (List.mem_of_mem_getLast? hu))

/-- **A run of digits is read in base ten**, also when it begins with a zero. -/
theorem ofText_of_isDigits {t : Text} (h : IsDigits t) (hne : t ≠ []) :
    ofText t = ofDecimal (valueOf 10 (digitValues t)) 0 := by
  have htake : takeDigits (t ++ []) = (digitValues t, []) := takeDigits_append h nofun
  rw [List.append_nil] at htake
  have hvalues : (digitValues t).isEmpty = false := by
    rw [List.isEmpty_eq_false_iff, digitValues, ne_eq, List.map_eq_nil_iff]
    exact hne
  have hdecimal : decimal? t = some (ofDecimal (valueOf 10 (digitValues t)) 0, []) := by
    rw [decimal?, htake]
    simp only [hvalues, Bool.false_and, Bool.false_eq_true, if_false, List.append_nil]
    rfl
  have hletters : t ≠ "Infinity" := by
    rintro rfl
    exact absurd (h 73 List.mem_cons_self) (by decide)
  have hunsigned : unsigned? t = some (ofDecimal (valueOf 10 (digitValues t)) 0) := by
    rw [unsigned?, if_neg (by simpa using hletters), hdecimal]
  have htrimmed : ofTrimmed? t = unsigned? t := by
    have hunit : ∀ u ∈ t, ∀ v, Text.isDigit v = false → u ≠ v := by
      rintro u hu v hv rfl
      rw [h u hu] at hv
      cases hv
    unfold ofTrimmed?
    split
    · exact absurd rfl hne
    · exact absurd rfl (hunit 45 List.mem_cons_self 45 (by decide))
    · exact absurd rfl (hunit 43 List.mem_cons_self 43 (by decide))
    · -- after a zero the letters of the other bases do not follow
      rename_i u r
      have hu := hunit u (List.mem_cons_of_mem _ List.mem_cons_self)
      rw [if_neg (by simpa using ⟨hu 120 (by decide), hu 88 (by decide)⟩),
        if_neg (by simpa using ⟨hu 111 (by decide), hu 79 (by decide)⟩),
        if_neg (by simpa using ⟨hu 98 (by decide), hu 66 (by decide)⟩)]
    · rfl
  rw [ofText, h.trim_eq, htrimmed, hunsigned]
  rfl

end

end LineAgents.Number
