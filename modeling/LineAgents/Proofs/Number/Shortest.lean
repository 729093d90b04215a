import LineAgents.Number.Shortest
import LineAgents.Proofs.Number.Decimal

/-!
# The shortest decimal belongs to its double

`LineAgents.Number.shortest` looks for a decimal of one digit, of two, and so on up to seventeen,
and takes the first that it finds in the interval of the double. That it always finds one is a
matter of sizes: with seventeen digits a step of the decimal grid is shorter than the interval, and
where the interval is narrow, at a power of two, it is shorter even than the part above the double
(`LineAgents.Number.Interval.Describes.onGrid?_ne_none`).
-/

namespace LineAgents.Number

/-! ### The interval of a double -/

/-- **An interval describes the values that belong to a double.** -/
structure Interval.Describes (i : Interval) (m : ℕ) (e : ℤ) : Prop where
  den_pos : 0 < i.den
  value_eq : (i.value : ℚ) = m * 2 ^ e * i.den
  below_le : i.below ≤ i.value
  below_eq : (i.below : ℚ) = marginBelow m e * 2 ^ e * i.den
  above_eq : (i.above : ℚ) = 1 / 2 * 2 ^ e * i.den
  closed_iff : i.closed = true ↔ m % 2 = 0

/-- The quarter below is for powers of two that are not at the lower end of the range. -/
theorem narrow_iff {x : Float} :
    (fractionField x == 0 && exponentField x > 1) = true ↔
      mantissa x = 2 ^ 52 ∧ -1074 < exponent x := by
  have hfraction : fractionField x < 2 ^ 52 := Nat.mod_lt _ (by norm_num)
  rw [mantissa_eq, exponent_eq]
  simp only [Bool.and_eq_true, beq_iff_eq, decide_eq_true_eq, gt_iff_lt]
  split_ifs <;> omega

theorem roundingInterval_describes {x : Float} (hm : mantissa x ≠ 0) :
    (roundingInterval x).Describes (mantissa x) (exponent x) := by
  have hnarrow := narrow_iff (x := x)
  have hmargin : marginBelow (mantissa x) (exponent x) =
      if (fractionField x == 0 && exponentField x > 1) = true then 1 / 4 else 1 / 2 := by
    rw [marginBelow]
    exact if_congr hnarrow.symm rfl rfl
  rw [roundingInterval]
  generalize (fractionField x == 0 && exponentField x > 1) = narrow at *
  generalize mantissa x = m at *
  have hclosed : (m % 2 == 0) = true ↔ m % 2 = 0 := beq_iff_eq
  cases he : exponent x with
  | ofNat e =>
    -- the double is an integer: everything is counted in quarters
    have hunit : 0 < 2 ^ e := by positivity
    have hle : 1 * 2 ^ e ≤ m * 2 ^ e := Nat.mul_le_mul_right _ (by omega)
    rw [he] at hmargin
    simp only [Nat.shiftLeft_eq, one_mul]
    refine ⟨by norm_num, ?_, ?_, ?_, ?_, hclosed⟩ <;> dsimp only
    · rw [Int.ofNat_eq_natCast, zpow_natCast]
      push_cast
      ring
    · rw [mul_assoc]
      split <;> omega
    · rw [hmargin, Int.ofNat_eq_natCast, zpow_natCast]
      split <;> push_cast <;> ring
    · rw [Int.ofNat_eq_natCast, zpow_natCast]
      push_cast
      ring
  | negSucc e =>
    -- the step of the double goes into the denominator
    have hunit : (2 : ℚ) ^ (e + 1) ≠ 0 := by positivity
    rw [he] at hmargin
    simp only [Nat.shiftLeft_eq]
    refine ⟨by positivity, ?_, ?_, ?_, ?_, hclosed⟩ <;> dsimp only
    · rw [zpow_negSucc]
      push_cast
      field_simp
    · split <;> omega
    · rw [hmargin, zpow_negSucc]
      split
      · push_cast
        field_simp
      · push_cast
        field_simp
        norm_num
    · rw [zpow_negSucc]
      push_cast
      field_simp
      norm_num

section

variable {i : Interval} {m : ℕ} {e : ℤ}

/-- **The decimals in the interval are those that belong to the double.** -/
theorem Interval.Describes.contains_iff (h : i.Describes m e) {a b : ℕ} (hb : 0 < b) :
    i.contains a b = true ↔ RoundsTo (a / b) m e := by
  have hden : (0 : ℚ) < i.den := Nat.cast_pos.mpr h.den_pos
  have hb' : (0 : ℚ) < b := Nat.cast_pos.mpr hb
  have hlower : (((i.value - i.below) * b : ℕ) : ℚ) =
      (m - marginBelow m e) * 2 ^ e * b * i.den := by
    rw [Nat.cast_mul, Nat.cast_sub h.below_le, h.value_eq, h.below_eq]
    ring
  have hupper : (((i.value + i.above) * b : ℕ) : ℚ) = (m + 1 / 2) * 2 ^ e * b * i.den := by
    rw [Nat.cast_mul, Nat.cast_add, h.value_eq, h.above_eq]
    ring
  have hpoint : ((a * i.den : ℕ) : ℚ) = a * i.den := Nat.cast_mul _ _
  -- each comparison of natural numbers is one of the value with an end of the interval
  have hle₁ : (i.value - i.below) * b ≤ a * i.den ↔
      (m - marginBelow m e) * 2 ^ e ≤ (a : ℚ) / b := by
    rw [← Nat.cast_le (α := ℚ), hlower, hpoint, mul_le_mul_iff_left₀ hden, le_div_iff₀ hb']
  have hle₂ : a * i.den ≤ (i.value + i.above) * b ↔ (a : ℚ) / b ≤ (m + 1 / 2) * 2 ^ e := by
    rw [← Nat.cast_le (α := ℚ), hupper, hpoint, mul_le_mul_iff_left₀ hden, div_le_iff₀ hb']
  have hlt₁ : (i.value - i.below) * b < a * i.den ↔
      (m - marginBelow m e) * 2 ^ e < (a : ℚ) / b := by
    rw [← Nat.cast_lt (α := ℚ), hlower, hpoint, mul_lt_mul_iff_left₀ hden, lt_div_iff₀ hb']
  have hlt₂ : a * i.den < (i.value + i.above) * b ↔ (a : ℚ) / b < (m + 1 / 2) * 2 ^ e := by
    rw [← Nat.cast_lt (α := ℚ), hupper, hpoint, mul_lt_mul_iff_left₀ hden, div_lt_iff₀ hb']
  have hclosed := h.closed_iff
  rw [Interval.contains, RoundsTo]
  by_cases heven : m % 2 = 0
  · rw [if_pos (hclosed.mpr heven), Bool.and_eq_true, decide_eq_true_eq, decide_eq_true_eq, hle₁,
      hle₂]
    exact ⟨fun ⟨h₁, h₂⟩ => ⟨h₁, h₂, fun hodd => by omega⟩, fun ⟨h₁, h₂, _⟩ => ⟨h₁, h₂⟩⟩
  · rw [if_neg (fun hc => heven (hclosed.mp hc)), Bool.and_eq_true, decide_eq_true_eq,
      decide_eq_true_eq, hlt₁, hlt₂]
    exact ⟨fun h' => ⟨h'.1.le, h'.2.le, fun _ => h'⟩, fun ⟨_, _, h'⟩ => h' (by omega)⟩

/-- Ten to a power is the quotient that is computed for it. -/
theorem tenPower_spec (s : ℤ) : 0 < (tenPower s).1 ∧ 0 < (tenPower s).2 ∧
    ((tenPower s).1 : ℚ) / (tenPower s).2 = 10 ^ s := by
  cases s with
  | ofNat s =>
    refine ⟨Nat.pow_pos (by norm_num), Nat.one_pos, ?_⟩
    rw [tenPower, Nat.pow_eq, Int.ofNat_eq_natCast, zpow_natCast]
    push_cast
    rw [div_one]
  | negSucc s =>
    refine ⟨Nat.one_pos, Nat.pow_pos (by norm_num), ?_⟩
    rw [tenPower, Nat.pow_eq, zpow_negSucc]
    push_cast
    rw [one_div]

/-- The point of a decimal grid below the double. -/
def Interval.gridPoint (i : Interval) (s : ℤ) : ℕ :=
  i.value * (tenPower s).2 / (i.den * (tenPower s).1)

theorem Interval.Describes.grid_contains_iff (h : i.Describes m e) (s : ℤ) (a : ℕ) :
    i.contains (a * (tenPower s).1) (tenPower s).2 = true ↔ RoundsTo (a * 10 ^ s) m e := by
  obtain ⟨-, hdown, hpower⟩ := tenPower_spec s
  rw [h.contains_iff hdown, Nat.cast_mul, mul_div_assoc, hpower]

/-- The double lies between two neighbours on the grid. -/
theorem Interval.Describes.gridPoint_bounds (h : i.Describes m e) (s : ℤ) :
    (i.gridPoint s : ℚ) * 10 ^ s ≤ m * 2 ^ e ∧
      m * 2 ^ e < ((i.gridPoint s + 1 : ℕ) : ℚ) * 10 ^ s := by
  obtain ⟨hup, hdown, hpower⟩ := tenPower_spec s
  have hden : (0 : ℚ) < i.den := Nat.cast_pos.mpr h.den_pos
  have hup' : (0 : ℚ) < (tenPower s).1 := Nat.cast_pos.mpr hup
  have hdown' : (0 : ℚ) < (tenPower s).2 := Nat.cast_pos.mpr hdown
  have hstep : (i.den : ℚ) * (tenPower s).1 = 10 ^ s * (i.den * (tenPower s).2) := by
    rw [← hpower]
    field_simp
  have hvalue : (i.value : ℚ) * (tenPower s).2 = m * 2 ^ e * (i.den * (tenPower s).2) := by
    rw [h.value_eq]
    ring
  have hscale : (0 : ℚ) < i.den * (tenPower s).2 := mul_pos hden hdown'
  constructor
  · have hle : i.gridPoint s * (i.den * (tenPower s).1) ≤ i.value * (tenPower s).2 :=
      Nat.div_mul_le_self _ _
    have hle' : (i.gridPoint s : ℚ) * (i.den * (tenPower s).1) ≤ i.value * (tenPower s).2 := by
      exact_mod_cast hle
    rw [hstep, hvalue, ← mul_assoc (i.gridPoint s : ℚ)] at hle'
    exact le_of_mul_le_mul_right hle' hscale
  · have hlt : i.value * (tenPower s).2 < (i.gridPoint s + 1) * (i.den * (tenPower s).1) :=
      (Nat.div_lt_iff_lt_mul (Nat.mul_pos h.den_pos hup)).mp (Nat.lt_succ_self _)
    have hlt' : (i.value : ℚ) * (tenPower s).2 <
        ((i.gridPoint s + 1 : ℕ) : ℚ) * (i.den * (tenPower s).1) := by
      exact_mod_cast hlt
    rw [hstep, hvalue, ← mul_assoc ((i.gridPoint s + 1 : ℕ) : ℚ)] at hlt'
    exact lt_of_mul_lt_mul_right hlt' hscale.le

/-- What a grid offers is a point of it, below or above the double, that lies in the interval. -/
theorem Interval.onGrid?_eq_some {s : ℤ} {d : Decimal} (hd : i.onGrid? s = some d) :
    d.scale = s ∧ i.contains (d.digits * (tenPower s).1) (tenPower s).2 = true := by
  simp only [Interval.onGrid?] at hd
  split at hd
  · exact absurd hd (by simp)
  · rename_i hlow hhigh
    cases hd
    exact ⟨rfl, hlow⟩
  · rename_i hlow hhigh
    cases hd
    exact ⟨rfl, hhigh⟩
  · rename_i hlow hhigh
    split at hd
    · cases hd
      exact ⟨rfl, hlow⟩
    · cases hd
      exact ⟨rfl, hhigh⟩

/-- A grid that offers nothing has no point next to the double in the interval. -/
theorem Interval.onGrid?_eq_none {s : ℤ} (hd : i.onGrid? s = none) :
    i.contains (i.gridPoint s * (tenPower s).1) (tenPower s).2 = false ∧
      i.contains ((i.gridPoint s + 1) * (tenPower s).1) (tenPower s).2 = false := by
  simp only [Interval.onGrid?] at hd
  split at hd
  · rename_i hlow hhigh
    exact ⟨hlow, hhigh⟩
  · exact absurd hd (by simp)
  · exact absurd hd (by simp)
  · split at hd <;> exact absurd hd (by simp)

/-- **A decimal that a grid offers belongs to the double.** -/
theorem Interval.Describes.onGrid? (h : i.Describes m e) {s : ℤ} {d : Decimal}
    (hd : i.onGrid? s = some d) : RoundsTo (d.digits * 10 ^ d.scale) m e := by
  obtain ⟨hscale, hcontains⟩ := Interval.onGrid?_eq_some hd
  rw [hscale]
  exact (h.grid_contains_iff s d.digits).mp hcontains

/-- **A fine enough grid offers a decimal.** -/
theorem Interval.Describes.onGrid?_ne_none (h : i.Describes m e) (hc : Canonical m e) {s : ℤ}
    (hs : (10 : ℚ) ^ (s + 16) ≤ m * 2 ^ e) : i.onGrid? s ≠ none := by
  intro hnone
  obtain ⟨hlow, hhigh⟩ := Interval.onGrid?_eq_none hnone
  rw [← Bool.not_eq_true, h.grid_contains_iff] at hlow hhigh
  obtain ⟨hle, hlt⟩ := h.gridPoint_bounds s
  -- sixteen places behind the first digit, a step of the grid is less than a step of the doubles
  have hstep : (10 : ℚ) ^ s * 10 ^ 16 ≤ m * 2 ^ e := by
    rw [zpow_add₀ (by norm_num), zpow_ofNat] at hs
    exact hs
  have hpos : (0 : ℚ) < 2 ^ e := by positivity
  generalize i.gridPoint s = a at *
  push_cast at hlt hhigh
  have hmargin := marginBelow_le m e
  have hmargin' : (0 : ℚ) < marginBelow m e * 2 ^ e := mul_pos (marginBelow_pos m e) hpos
  by_cases hnarrow : m = 2 ^ 52 ∧ -1074 < e
  · -- the point above is nearer than half a step of the doubles
    have hm : (m : ℚ) = 2 ^ 52 := by exact_mod_cast hnarrow.1
    rw [hm] at hstep hlt hle
    refine hhigh (.of_lt ?_ ?_) <;> rw [hm] <;> linarith
  · -- if the point above is too far away, the one below is near enough
    have hm : (m : ℚ) * 2 ^ e < 2 ^ 53 * 2 ^ e :=
      mul_lt_mul_of_pos_right (by exact_mod_cast hc.lt) hpos
    have hhalf : marginBelow m e = 1 / 2 := if_neg hnarrow
    by_cases habove : ((a : ℚ) + 1) * 10 ^ s < (m + 1 / 2) * 2 ^ e
    · exact hhigh (.of_lt (by linarith) habove)
    · refine hlow (.of_lt ?_ ?_)
      · rw [hhalf]
        linarith
      · linarith

/-- The place of the first digit of the double. -/
theorem zpow_decimalOrder_le {num den : ℕ} (hnum : 0 < num) (hden : 0 < den) :
    (10 : ℚ) ^ (decimalOrder num den - 1) ≤ num / den := by
  have hden' : (0 : ℚ) < den := Nat.cast_pos.mpr hden
  rw [decimalOrder]
  by_cases hone : num ≥ den
  · -- the first digit of the integer part
    have hwhole : num / den ≠ 0 := (Nat.div_pos hone hden).ne'
    have hlen : 0 < (Nat.toDigits 10 (num / den)).length := Nat.length_toDigits_pos
    have hle := (toDigits_bounds hwhole).1
    have hle' : (10 : ℚ) ^ ((Nat.toDigits 10 (num / den)).length - 1) ≤ ((num / den : ℕ) : ℚ) := by
      exact_mod_cast hle
    rw [if_pos hone, ← Nat.cast_pred hlen, zpow_natCast]
    exact hle'.trans Nat.cast_div_le
  · -- the zeros behind the point, by the digits of the inverse
    have hinverse : (den - 1) / num ≠ 0 := (Nat.div_pos (by omega) hnum).ne'
    have hlt := (Nat.div_lt_iff_lt_mul hnum).mp (toDigits_bounds hinverse).2
    generalize (Nat.toDigits 10 ((den - 1) / num)).length = n at *
    have hle : (den : ℚ) ≤ 10 ^ n * num := by exact_mod_cast (by omega : den ≤ 10 ^ n * num)
    rw [if_neg hone, show (1 : ℤ) - n - 1 = -n by ring, zpow_neg, zpow_natCast,
      le_div_iff₀ hden', inv_mul_le_iff₀ (by positivity)]
    exact hle

/-- **The search succeeds** with seventeen digits at the latest. -/
theorem Interval.Describes.search (h : i.Describes m e) (hc : Canonical m e) {order : ℤ}
    (horder : (10 : ℚ) ^ (order - 1) ≤ m * 2 ^ e) {n tries : ℕ} (hn : n ≤ 17)
    (htries : n + tries = 18) :
    let d := i.search order n tries
    RoundsTo (d.digits * 10 ^ d.scale) m e := by
  induction tries generalizing n with
  | zero => omega
  | succ tries ih =>
    rw [Interval.search]
    cases hgrid : i.onGrid? (order - n) with
    | some d => exact h.onGrid? hgrid
    | none =>
      -- on the last grid there is a hit, and before it the search goes on
      by_cases hlast : n = 17
      · refine absurd hgrid (h.onGrid?_ne_none hc ?_)
        rw [hlast, show order - (17 : ℕ) + 16 = order - 1 by push_cast; ring]
        exact horder
      · exact ih (by omega) (by omega)

end

/-- **The shortest decimal belongs to its double.** -/
theorem shortest_roundsTo {x : Float} (hx : isFinite x = true) (hm : mantissa x ≠ 0) :
    RoundsTo ((shortest x).digits * 10 ^ (shortest x).scale) (mantissa x) (exponent x) := by
  have hc := canonical hx hm
  have h := roundingInterval_describes hm
  have hden : (0 : ℚ) < (roundingInterval x).den := Nat.cast_pos.mpr h.den_pos
  have hpos : (0 : ℚ) < mantissa x * 2 ^ exponent x :=
    mul_pos (Nat.cast_pos.mpr hc.pos) (by positivity)
  have hvalue : 0 < (roundingInterval x).value := by
    rw [← Nat.cast_pos (α := ℚ), h.value_eq]
    exact mul_pos hpos hden
  have horder := zpow_decimalOrder_le hvalue h.den_pos
  rw [h.value_eq, mul_div_assoc, div_self hden.ne', mul_one] at horder
  exact h.search hc horder (by norm_num) rfl

end LineAgents.Number
