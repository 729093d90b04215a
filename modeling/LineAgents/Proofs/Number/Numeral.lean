import LineAgents.Proofs.Number.Digits
import LineAgents.Proofs.Number.Shortest

/-!
# Numerals

A number is laid out in five ways: as an integer, with a point among its digits, with zeros between
the point and the digits, and with an exponent, after one digit or after several. All five are
numerals of one form, `LineAgents.Number.Numeral`, and all five say the same: the digits, times the
power of ten that the place of the point asks for (`LineAgents.Number.isNumeral_layOut`). What is
printed for a positive number belongs to it (`LineAgents.Number.isNumeral_positiveText`).
-/

namespace LineAgents.Number

/-- **A decimal numeral without a sign**: an integer part that does not begin with a zero unless it
is one, digits behind the point if there are any, and an exponent if there is one. -/
structure Numeral where
  whole : Text
  fraction : Text
  exponent : Option ℤ
  whole_digits : IsDigits whole
  whole_ne_nil : whole ≠ []
  leading : whole.head? = some 48 → whole = [48]
  fraction_digits : IsDigits fraction

namespace Numeral

variable (n : Numeral)

/-- The point and the digits behind it. -/
def fractionText : Text := if n.fraction = [] then [] else 46 :: n.fraction

/-- The exponent with its letter. -/
def exponentPart : Text := n.exponent.elim [] exponentText

/-- The text of a numeral. -/
def text : Text := n.whole ++ (n.fractionText ++ n.exponentPart)

/-- The number that the digits on both sides of the point spell. -/
def digits : ℕ := valueOf 10 (digitValues n.whole ++ digitValues n.fraction)

/-- The power of ten that the digits are taken times. -/
def scale : ℤ := n.exponent.getD 0 - n.fraction.length

/-- **The value of a numeral.** -/
def value : ℚ := n.digits * 10 ^ n.scale

end Numeral

/-- **A text is a numeral of a value.** -/
def IsNumeral (t : Text) (v : ℚ) : Prop := ∃ n : Numeral, n.text = t ∧ n.value = v

/-- The text of an exponent begins with its letter. -/
theorem exponentText_eq_cons (e : ℤ) : ∃ t, exponentText e = 101 :: t := by
  rw [exponentText]
  split
  · exact ⟨_, rfl⟩
  · exact ⟨_, rfl⟩

theorem exponentText_visible (e : ℤ) : (exponentText e).Visible := by
  have hdigits := (isDigits_ofNat e.natAbs).visible
  rw [exponentText]
  split
  · exact .append (by decide) hdigits
  · exact .append (by decide) hdigits

/-- A numeral begins with a digit. -/
theorem Numeral.text_eq_cons (n : Numeral) : ∃ u t, n.text = u :: t ∧ Text.isDigit u = true := by
  obtain ⟨u, t, hwhole⟩ := List.exists_cons_of_ne_nil n.whole_ne_nil
  refine ⟨u, t ++ (n.fractionText ++ n.exponentPart), ?_, n.whole_digits u ?_⟩
  · rw [Numeral.text, hwhole, List.cons_append]
  · rw [hwhole]
    exact List.mem_cons_self

/-- A numeral is visible. -/
theorem Numeral.visible (n : Numeral) : n.text.Visible := by
  have hfraction : n.fractionText.Visible := by
    rw [Numeral.fractionText]
    split
    · decide
    · exact List.forall_mem_cons.mpr ⟨by decide, n.fraction_digits.visible⟩
  have hexponent : n.exponentPart.Visible := by
    rw [Numeral.exponentPart]
    cases n.exponent with
    | none => decide
    | some e => exact exponentText_visible e
  exact n.whole_digits.visible.append (hfraction.append hexponent)

/-! ### The five layouts -/

section

variable {ds : Text}

/-- **An integer**: zeros in front of the point. -/
theorem isNumeral_integer (hds : IsDigits ds) (hne : ds ≠ []) (hhead : ds.head? ≠ some 48) (k : ℕ) :
    IsNumeral (ds ++ List.replicate k 48) (valueOf 10 (digitValues ds) * 10 ^ (k : ℤ)) := by
  have hwhole : (ds ++ List.replicate k 48).head? ≠ some 48 := by
    rwa [List.head?_append_of_ne_nil _ hne]
  refine ⟨⟨ds ++ List.replicate k 48, [], none, isDigits_append.mpr ⟨hds, isDigits_zeros k⟩,
    List.append_ne_nil_of_left_ne_nil hne _, fun h => absurd h hwhole, isDigits_nil⟩,
    List.append_nil _, ?_⟩
  have hdigits : valueOf 10 (digitValues (ds ++ List.replicate k 48) ++ digitValues []) =
      valueOf 10 (digitValues ds) * 10 ^ k := by
    rw [digitValues_append, digitValues_zeros, List.append_assoc, valueOf_append]
    change _ + valueOf 10 (List.replicate k 0 ++ []) = _
    rw [List.append_nil, valueOf_zeros, List.length_append, List.length_replicate]
    rfl
  simp only [Numeral.value, Numeral.digits, Numeral.scale, hdigits]
  push_cast
  simp

/-- **A point among the digits.** -/
theorem isNumeral_pointed (hds : IsDigits ds) (hhead : ds.head? ≠ some 48) {k : ℕ} (hk : 0 < k)
    (hlt : k < ds.length) :
    IsNumeral (ds.take k ++ 46 :: ds.drop k)
      (valueOf 10 (digitValues ds) * 10 ^ ((k : ℤ) - ds.length)) := by
  have hwhole : (ds.take k).head? ≠ some 48 := by
    rwa [List.head?_take, if_neg hk.ne']
  have hdrop : ds.drop k ≠ [] := by
    rw [ne_eq, List.drop_eq_nil_iff]
    omega
  have htake : ds.take k ≠ [] := by
    rw [ne_eq, List.take_eq_nil_iff]
    rintro (rfl | rfl)
    · exact absurd hk (lt_irrefl 0)
    · exact absurd hlt (Nat.not_lt_zero k)
  refine ⟨⟨ds.take k, ds.drop k, none, fun u hu => hds u (List.mem_of_mem_take hu), htake,
    fun h => absurd h hwhole, fun u hu => hds u (List.mem_of_mem_drop hu)⟩, ?_, ?_⟩
  · simp only [Numeral.text, Numeral.fractionText, Numeral.exponentPart, if_neg hdrop]
    rw [Option.elim_none, List.append_nil]
  · have hscale : (0 : ℤ) - (ds.drop k).length = k - ds.length := by
      rw [List.length_drop]
      omega
    simp only [Numeral.value, Numeral.digits, Numeral.scale, ← digitValues_append,
      List.take_append_drop, Option.getD_none, hscale]

/-- **Zeros behind the point.** -/
theorem isNumeral_zeros (hds : IsDigits ds) (hne : ds ≠ []) (k : ℕ) :
    IsNumeral (48 :: 46 :: (List.replicate k 48 ++ ds))
      (valueOf 10 (digitValues ds) * 10 ^ (-(k : ℤ) - ds.length)) := by
  refine ⟨⟨[48], List.replicate k 48 ++ ds, none, isDigits_zeros 1, List.cons_ne_nil _ _,
    fun _ => rfl, isDigits_append.mpr ⟨isDigits_zeros k, hds⟩⟩, ?_, ?_⟩
  · have hfraction : List.replicate k 48 ++ ds ≠ [] := List.append_ne_nil_of_right_ne_nil _ hne
    simp only [Numeral.text, Numeral.fractionText, Numeral.exponentPart, if_neg hfraction]
    rw [Option.elim_none, List.append_nil]
    rfl
  · have hdigits : valueOf 10 (digitValues [48] ++ digitValues (List.replicate k 48 ++ ds)) =
        valueOf 10 (digitValues ds) := by
      rw [digitValues_append, digitValues_zeros, ← List.append_assoc, valueOf_append,
        show digitValues [48] ++ List.replicate k 0 = List.replicate (k + 1) 0 from rfl,
        valueOf_zeros, zero_mul, zero_add]
    have hscale : (0 : ℤ) - (List.replicate k 48 ++ ds).length = -k - ds.length := by
      rw [List.length_append, List.length_replicate]
      omega
    simp only [Numeral.value, Numeral.digits, Numeral.scale, hdigits, Option.getD_none, hscale]

/-- **An exponent**, behind one digit or several. -/
theorem isNumeral_exponent {d : UInt16} (hds : IsDigits (d :: ds)) (hhead : d ≠ 48) (e : ℤ) :
    IsNumeral (d :: ((if ds = [] then [] else 46 :: ds) ++ exponentText e))
      (valueOf 10 (digitValues (d :: ds)) * 10 ^ (e - ds.length)) := by
  obtain ⟨hd, hds⟩ := List.forall_mem_cons.mp hds
  exact ⟨⟨[d], ds, some e, List.forall_mem_singleton.mpr hd, List.cons_ne_nil _ _,
    fun h => absurd (Option.some.inj h) hhead, hds⟩, rfl, rfl⟩

/-- **However it is laid out, a decimal becomes a numeral of its value.** -/
theorem isNumeral_layOut (hds : IsDigits ds) (hne : ds ≠ []) (hhead : ds.head? ≠ some 48)
    (point : ℤ) :
    IsNumeral (layOut ds point) (valueOf 10 (digitValues ds) * 10 ^ (point - ds.length)) := by
  have hlen : 0 < ds.length := List.length_pos_of_ne_nil hne
  simp only [layOut]
  by_cases hinteger : (ds.length : ℤ) ≤ point ∧ point ≤ 21
  · rw [if_pos hinteger, show point - ds.length = ((point.toNat - ds.length : ℕ) : ℤ) by omega]
    exact isNumeral_integer hds hne hhead _
  rw [if_neg hinteger]
  by_cases hpoint : 0 < point ∧ point ≤ 21
  · have hcast : (point.toNat : ℤ) = point := Int.toNat_of_nonneg (by omega)
    rw [if_pos hpoint, List.append_assoc, ← hcast]
    exact isNumeral_pointed hds hhead (by omega) (by omega)
  rw [if_neg hpoint]
  by_cases hzeros : -6 < point ∧ point ≤ 0
  · have hcast : ((-point).toNat : ℤ) = -point := Int.toNat_of_nonneg (by omega)
    rw [if_pos hzeros, show point - ds.length = -((-point).toNat : ℤ) - ds.length by omega]
    exact isNumeral_zeros hds hne _
  rw [if_neg hzeros]
  cases ds with
  | nil => exact absurd rfl hne
  | cons d rest =>
    have hd : d ≠ 48 := fun h => hhead (congrArg some h)
    have hexponent := isNumeral_exponent hds hd (point - 1)
    rw [show point - ((d :: rest).length : ℤ) = point - 1 - rest.length by
      rw [List.length_cons]
      push_cast
      ring]
    cases rest with
    | nil => exact hexponent
    | cons u rest => exact hexponent

end

/-! ### A printed number -/

/-- **A positive decimal is printed as a numeral of its value**: the zeros at the end of its digits
are left out and the point takes them into account. -/
theorem Decimal.isNumeral_places (d : Decimal) (hd : d.digits ≠ 0) :
    IsNumeral (layOut d.places.1 d.places.2) (d.digits * 10 ^ d.scale) := by
  obtain ⟨k, hk⟩ := dropTrailing_append 48 (Text.ofNat d.digits)
  have hhead := head_ofNat hd
  have hdigits := isDigits_ofNat d.digits
  have hvalue := valueOf_ofNat d.digits
  have hplaces : d.places = (Text.dropTrailing 48 (Text.ofNat d.digits),
      ((Text.ofNat d.digits).length : ℤ) + d.scale) := rfl
  rw [hplaces]
  generalize Text.dropTrailing 48 (Text.ofNat d.digits) = ds at *
  rw [hk] at hhead hdigits hvalue ⊢
  have hne : ds ≠ [] := by
    rintro rfl
    cases k with
    | zero => exact ofNat_ne_nil d.digits hk
    | succ k => exact hhead rfl
  rw [List.head?_append_of_ne_nil _ hne] at hhead
  have hprinted := isNumeral_layOut (isDigits_append.mp hdigits).1 hne hhead
    (((ds ++ List.replicate k 48).length : ℤ) + d.scale)
  have hscale : ((ds ++ List.replicate k 48).length : ℤ) + d.scale - ds.length = k + d.scale := by
    rw [List.length_append, List.length_replicate]
    push_cast
    ring
  have hzeros : (d.digits : ℚ) * 10 ^ d.scale =
      valueOf 10 (digitValues ds) * 10 ^ ((k : ℤ) + d.scale) := by
    rw [← hvalue, digitValues_append, valueOf_append, digitValues_zeros, valueOf_zeros,
      List.length_replicate, zpow_add₀ (by norm_num), zpow_natCast]
    push_cast
    ring
  rw [hscale] at hprinted
  rw [hzeros]
  exact hprinted

/-- **A positive number is printed as a numeral that belongs to it.** -/
theorem isNumeral_positiveText {x : Float} (hx : isFinite x = true) (hm : mantissa x ≠ 0) :
    ∃ v, IsNumeral (positiveText x) v ∧ RoundsTo v (mantissa x) (exponent x) := by
  have hv := shortest_roundsTo hx hm
  exact ⟨_, (shortest x).isNumeral_places (hv.digits_ne_zero (canonical hx hm)), hv⟩

end LineAgents.Number
