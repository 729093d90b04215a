import LineAgents.Json.Parser
import LineAgents.Json.Printer
import LineAgents.Proofs.Json.Quote
import LineAgents.Proofs.Number.Numeral

/-!
# A number that is written and read again

A finite number is written as a numeral, with a sign in front if it is negative, and the numeral is
read back as the number, because it belongs to it (`LineAgents.Json.takeNumber?_toText`). The one
thing that is lost is the sign of a zero: both zeros are written `0`. The numeral may stand in front
of any text that nothing of a number runs into, `LineAgents.Json.EndsNumber`.
-/

namespace LineAgents

/-! ### Zeros -/

/-- The number that is read where `x` was written: a zero has lost its sign. -/
def Number.unsignZero (x : Float) : Float := if x == 0 then 0 else x

/-- **A plain number**: finite, and no negative zero. -/
def Number.Plain (x : Float) : Prop :=
  isFinite x = true ∧ (mantissa x = 0 → isNegative x = false)

instance : DecidablePred Number.Plain := fun x =>
  inferInstanceAs (Decidable (Number.isFinite x = true ∧ (_ → _)))

section

variable {x : Float}

theorem Number.unsignZero_of_mantissa_eq (hx : isFinite x = true) (hm : mantissa x = 0) :
    unsignZero x = 0 :=
  if_pos ((beq_zero_iff hx).mpr hm)

theorem Number.unsignZero_of_mantissa_ne (hx : isFinite x = true) (hm : mantissa x ≠ 0) :
    unsignZero x = x :=
  if_neg fun h => hm ((beq_zero_iff hx).mp h)

theorem Number.unsignZero_eq_self (h : Plain x) : unsignZero x = x := by
  obtain ⟨hx, hsign⟩ := h
  by_cases hm : mantissa x = 0
  · rw [unsignZero_of_mantissa_eq hx hm]
    exact (eq_zero hm (hsign hm)).symm
  · exact unsignZero_of_mantissa_ne hx hm

theorem Number.unsignZero_finite (h : isFinite x = true) :
    isFinite (unsignZero x) = true ∧ unsignZero (unsignZero x) = unsignZero x := by
  by_cases hm : mantissa x = 0
  · rw [unsignZero_of_mantissa_eq h hm]
    exact ⟨by decide, unsignZero_of_mantissa_eq (by decide) (by decide)⟩
  · rw [unsignZero_of_mantissa_ne h hm]
    exact ⟨h, unsignZero_of_mantissa_ne h hm⟩

end

namespace Json

open Number

/-! ### Reading a numeral -/

/-- **A text that nothing of a number runs into.** -/
def EndsNumber (rest : Text) : Prop :=
  ∀ u ∈ rest.head?, Text.isDigit u = false ∧ u ≠ 46 ∧ u ≠ 101 ∧ u ≠ 69

section

variable {rest : Text}

/-- Behind the digits of a numeral comes no further digit and no second point. -/
theorem head_exponentPart (n : Numeral) (h : EndsNumber rest) :
    ∀ u ∈ (n.exponentPart ++ rest).head?, Text.isDigit u = false ∧ u ≠ 46 := by
  rw [Numeral.exponentPart]
  cases n.exponent with
  | none =>
    intro u hu
    obtain ⟨hdigit, hpoint, -⟩ := h u hu
    exact ⟨hdigit, hpoint⟩
  | some e =>
    obtain ⟨t, ht⟩ := exponentText_eq_cons e
    rw [Option.elim_some, ht]
    rintro u ⟨⟩
    exact ⟨rfl, by decide⟩

/-- Behind the integer part of a numeral comes no further digit. -/
theorem head_fractionText (n : Numeral) (h : EndsNumber rest) :
    ∀ u ∈ (n.fractionText ++ (n.exponentPart ++ rest)).head?, Text.isDigit u = false := by
  rw [Numeral.fractionText]
  split
  · exact fun u hu => (head_exponentPart n h u hu).1
  · rintro u ⟨⟩
    rfl

theorem takeWhole?_whole (n : Numeral) (h : EndsNumber rest) :
    takeWhole? (n.text ++ rest) =
      some (digitValues n.whole, n.fractionText ++ (n.exponentPart ++ rest)) := by
  have hdigits := n.whole_digits
  have hleading := n.leading
  rw [Numeral.text, List.append_assoc, List.append_assoc, takeWhole?,
    takeDigits_append hdigits (head_fractionText n h)]
  rcases hwhole : n.whole with _ | ⟨u, _ | ⟨v, w⟩⟩
  · exact absurd hwhole n.whole_ne_nil
  · -- a lone digit, which may be a zero
    rw [show digitValues [u] = [u.toNat - 48] from rfl]
    cases u.toNat - 48 <;> rfl
  · -- several digits, the first of which is not a zero
    rw [hwhole] at hdigits hleading
    have hdigit := isDigit_iff.mp (hdigits u List.mem_cons_self)
    have hzero : u.toNat ≠ 48 := by
      intro hu
      cases hleading (congrArg some (UInt16.toNat_inj.mp hu))
    rw [show digitValues (u :: v :: w) = (u.toNat - 48) :: (v.toNat - 48) :: digitValues w from rfl]
    cases hu : u.toNat - 48 with
    | zero => omega
    | succ d => rfl

theorem takeFraction?_fractionText (n : Numeral) (h : EndsNumber rest) :
    takeFraction? (n.fractionText ++ (n.exponentPart ++ rest)) =
      some (digitValues n.fraction, n.exponentPart ++ rest) := by
  have hhead := head_exponentPart n h
  rw [Numeral.fractionText]
  by_cases hfraction : n.fraction = []
  · rw [if_pos hfraction, hfraction, List.nil_append]
    generalize n.exponentPart ++ rest = t at *
    cases t with
    | nil => rfl
    | cons u t =>
      have hpoint := (hhead u rfl).2
      rw [takeFraction?]
      · rfl
      · rintro r ⟨⟩
        exact hpoint rfl
  · have htake := takeDigits_append n.fraction_digits fun u hu => (hhead u hu).1
    rw [if_neg hfraction, List.cons_append, takeFraction?, htake]
    cases hcons : n.fraction with
    | nil => exact absurd hcons hfraction
    | cons u t => rfl

theorem takeExponent?_exponentPart (n : Numeral) (h : EndsNumber rest) :
    takeExponent? (n.exponentPart ++ rest) = some (n.exponent.getD 0, rest) := by
  have htake : takeExponent (n.exponentPart ++ rest) = (n.exponent.getD 0, rest) := by
    rw [Numeral.exponentPart]
    cases n.exponent with
    | none => exact takeExponent_of_head fun u hu => (h u hu).2.2
    | some e => exact takeExponent_append e fun u hu => (h u hu).1
  have hletter : ¬(rest.head? == some 101 || rest.head? == some 69) = true := by
    rw [Bool.or_eq_true, beq_iff_eq, beq_iff_eq]
    rintro (hlower | hupper)
    · exact (h 101 hlower).2.2.1 rfl
    · exact (h 69 hupper).2.2.2 rfl
  rw [takeExponent?, htake]
  exact if_neg hletter

/-- **A numeral is read as it was written.** -/
theorem takeUnsigned?_text (n : Numeral) (h : EndsNumber rest) :
    takeUnsigned? (n.text ++ rest) = some (ofDecimal n.digits n.scale, rest) := by
  simp only [takeUnsigned?, takeWhole?_whole n h, takeFraction?_fractionText n h,
    takeExponent?_exponentPart n h, Option.bind_eq_bind, Option.bind_some, length_digitValues]
  rfl

end

/-! ### Writing a number -/

section

variable {x : Float}

/-- **A finite number is written as a numeral that is read back as it**, with or without a sign. -/
theorem exists_numeral (hx : isFinite x = true) : ∃ n : Numeral,
    toText x = n.text ∧ ofDecimal n.digits n.scale = unsignZero x ∨
      toText x = 45 :: n.text ∧ -ofDecimal n.digits n.scale = unsignZero x := by
  rw [toText, if_neg (not_isNaN hx), if_neg (by rw [hx]; exact Bool.false_ne_true)]
  by_cases hm : mantissa x = 0
  · -- both zeros
    refine ⟨⟨[48], [], none, isDigits_zeros 1, List.cons_ne_nil _ _, fun _ => rfl, isDigits_nil⟩,
      Or.inl ⟨?_, ?_⟩⟩
    · rw [if_pos ((beq_zero_iff hx).mpr hm)]
      rfl
    · rw [unsignZero_of_mantissa_eq hx hm]
      rfl
  · rw [if_neg (by rwa [beq_zero_iff hx]), unsignZero_of_mantissa_ne hx hm]
    by_cases hsign : isNegative x = true
    · obtain ⟨hx', hsign', hm', -⟩ := fields_neg hx hm
      have hpositive : isNegative (-x) = false := by
        rw [signOf, signOf, hsign, if_pos rfl] at hsign'
        by_contra h
        rw [if_pos (Bool.not_eq_false _ ▸ h)] at hsign'
        cases hsign'
      rw [← hm'] at hm
      obtain ⟨v, ⟨n, htext, hvalue⟩, hv⟩ := isNumeral_positiveText hx' hm
      rw [← hvalue] at hv
      refine ⟨n, Or.inr ⟨?_, ?_⟩⟩
      · rw [if_pos hsign, htext]
        rfl
      · rw [ofDecimal_eq hx' hpositive hm hv]
        exact neg_neg_eq hx (hm' ▸ hm)
    · obtain ⟨v, ⟨n, htext, hvalue⟩, hv⟩ := isNumeral_positiveText hx hm
      rw [← hvalue] at hv
      refine ⟨n, Or.inl ⟨?_, ofDecimal_eq hx (Bool.eq_false_of_not_eq_true hsign) hm hv⟩⟩
      rw [if_neg hsign, htext]

theorem toText_eq_cons (hx : isFinite x = true) :
    ∃ u t, toText x = u :: t ∧ (Text.isDigit u = true ∨ u = 45) := by
  obtain ⟨n, ⟨htext, -⟩ | ⟨htext, -⟩⟩ := exists_numeral hx
  · obtain ⟨u, t, hcons, hu⟩ := n.text_eq_cons
    exact ⟨u, t, htext.trans hcons, Or.inl hu⟩
  · exact ⟨45, n.text, htext, Or.inr rfl⟩

theorem printable_toText (hx : isFinite x = true) : Printable (toText x) := by
  obtain ⟨n, ⟨htext, -⟩ | ⟨htext, -⟩⟩ := exists_numeral hx
  · rw [htext]
    exact printable_of_visible n.visible
  · rw [htext]
    exact .cons (by decide) (by decide) (printable_of_visible n.visible)

/-- **A finite number is read as it was written**, but for the sign of a zero. -/
theorem takeNumber?_toText (hx : isFinite x = true) {rest : Text} (h : EndsNumber rest) :
    takeNumber? (toText x ++ rest) = some (unsignZero x, rest) := by
  obtain ⟨n, ⟨htext, hread⟩ | ⟨htext, hread⟩⟩ := exists_numeral hx
  · have hunsigned := takeUnsigned?_text n h
    obtain ⟨u, t, hcons, hu⟩ := n.text_eq_cons
    rw [htext, ← hread, ← hunsigned, hcons, takeNumber?]
    rintro r ⟨⟩
    cases hu
  · rw [htext, List.cons_append, takeNumber?, takeUnsigned?_text n h, Option.map_some, ← hread]

end

end Json

end LineAgents
