import LineAgents.Text.CodePoint
import Mathlib.Data.List.Basic

/-!
# Units and code points

A text is spelt by its code points (`LineAgents.Text.ofCodePoints_codePoints`). The code points of
two texts one after the other are those of the first and then those of the second, unless a
surrogate pair is cut in two between them; a text without lone surrogates ends where a code point
ends, so nothing is cut (`LineAgents.Text.codePoints_append`). Texts without lone surrogates can be
built up from that, unit by unit and piece by piece.
-/

namespace LineAgents.Text

/-! ### Units and code points -/

theorem isHigh_iff (u : UInt16) : isHigh u = true ↔ 0xD800 ≤ u.toNat ∧ u.toNat ≤ 0xDBFF := by
  simp [isHigh, UInt16.le_iff_toNat_le]

theorem isLow_iff (u : UInt16) : isLow u = true ↔ 0xDC00 ≤ u.toNat ∧ u.toNat ≤ 0xDFFF := by
  simp [isLow, UInt16.le_iff_toNat_le]

theorem isLow_eq_false_of_isHigh {u : UInt16} (h : isHigh u = true) : isLow u = false := by
  rw [isHigh_iff] at h
  rw [Bool.eq_false_iff, Ne, isLow_iff]
  omega

theorem isHigh_eq_false_of_isLow {u : UInt16} (h : isLow u = true) : isHigh u = false := by
  rw [isLow_iff] at h
  rw [Bool.eq_false_iff, Ne, isHigh_iff]
  omega

theorem isScalar_iff (c : Nat) :
    isScalar c = true ↔ c < 0xD800 ∨ 0xE000 ≤ c ∧ c ≤ 0x10FFFF := by
  simp [isScalar]

/-- A unit is spelt by itself. -/
theorem unitsOf_toNat (u : UInt16) : unitsOf u.toNat = [u] := by
  have hu : u.toNat < 0x10000 := u.toNat_lt
  rw [unitsOf, if_pos hu]
  simp

/-- The code point of a surrogate pair is spelt by that pair. -/
theorem unitsOf_pair {u v : UInt16} (hu : isHigh u = true) (hv : isLow v = true) :
    unitsOf (pair u v) = [u, v] := by
  rw [isHigh_iff] at hu
  rw [isLow_iff] at hv
  obtain ⟨hp, h1, h2⟩ : ¬pair u v < 0x10000 ∧
      0xD800 + (pair u v - 0x10000) / 0x400 = u.toNat ∧
      0xDC00 + (pair u v - 0x10000) % 0x400 = v.toNat := by
    unfold pair
    generalize u.toNat = a at *
    generalize v.toNat = b at *
    omega
  rw [unitsOf, if_neg hp, h1, h2]
  simp

/-- The code point of a surrogate pair lies above `2 ^ 16`. -/
theorem le_pair {u v : UInt16} (hu : isHigh u = true) (hv : isLow v = true) :
    0x10000 ≤ pair u v ∧ pair u v ≤ 0x10FFFF := by
  rw [isHigh_iff] at hu
  rw [isLow_iff] at hv
  unfold pair
  generalize u.toNat = a at *
  generalize v.toNat = b at *
  omega

/-- **A text is spelt by its code points.** -/
theorem ofCodePoints_codePoints (t : Text) : ofCodePoints t.codePoints = t := by
  induction t using codePoints.induct with
  | case1 => rfl
  | case2 u => simp [codePoints, ofCodePoints, unitsOf_toNat]
  | case3 u v t h ih =>
    obtain ⟨hu, hv⟩ := Bool.and_eq_true _ _ ▸ h
    rw [codePoints, if_pos h]
    rw [ofCodePoints] at ih ⊢
    rw [List.flatMap_cons, unitsOf_pair hu hv, ih]
    rfl
  | case4 u v t h ih =>
    rw [codePoints, if_neg h]
    rw [ofCodePoints] at ih ⊢
    rw [List.flatMap_cons, unitsOf_toNat, ih]
    rfl

/-- Only the empty text has no code points. -/
theorem eq_nil_of_codePoints_eq_nil {t : Text} (h : t.codePoints = []) : t = [] := by
  rw [← ofCodePoints_codePoints t, h]
  rfl

/-! ### Texts without lone surrogates -/

/-- A unit that is no first half of a pair is a code point of its own. -/
theorem codePoints_cons {u : UInt16} (hu : isHigh u = false) (t : Text) :
    codePoints (u :: t) = u.toNat :: codePoints t := by
  cases t with
  | nil => rfl
  | cons v t => rw [codePoints, if_neg (by simp [hu])]

theorem codePoints_pair {u v : UInt16} (hu : isHigh u = true) (hv : isLow v = true) (t : Text) :
    codePoints (u :: v :: t) = pair u v :: codePoints t := by
  rw [codePoints, if_pos (by rw [hu, hv]; rfl)]

theorem isHigh_eq_false_of_isScalar {u : UInt16} (h : isScalar u.toNat = true) :
    isHigh u = false := by
  rw [isScalar_iff] at h
  rw [Bool.eq_false_iff, Ne, isHigh_iff]
  omega

/-- **Nothing is cut after a text without lone surrogates.** -/
theorem codePoints_append {s : Text} (h : s.wellFormed = true) (t : Text) :
    codePoints (s ++ t) = codePoints s ++ codePoints t := by
  induction s using codePoints.induct with
  | case1 => rfl
  | case2 u =>
    have hu : isScalar u.toNat = true := by simpa [wellFormed, codePoints] using h
    exact codePoints_cons (isHigh_eq_false_of_isScalar hu) t
  | case3 u v s hpair ih =>
    obtain ⟨hu, hv⟩ := (Bool.and_eq_true _ _).mp hpair
    rw [wellFormed, codePoints_pair hu hv, List.all_cons, Bool.and_eq_true] at h
    rw [List.cons_append, List.cons_append, codePoints_pair hu hv, codePoints_pair hu hv,
      ih h.2, List.cons_append]
  | case4 u v s hpair ih =>
    rw [wellFormed, codePoints, if_neg hpair, List.all_cons, Bool.and_eq_true] at h
    have hu := isHigh_eq_false_of_isScalar h.1
    rw [List.cons_append, codePoints_cons hu, codePoints_cons hu, ih h.2, List.cons_append]

theorem wellFormed_append {s t : Text} (hs : s.wellFormed = true) (ht : t.wellFormed = true) :
    (s ++ t).wellFormed = true := by
  rw [wellFormed, codePoints_append hs, List.all_append, Bool.and_eq_true]
  exact ⟨hs, ht⟩

/-- A unit outside the surrogates may stand before a text without lone ones. -/
theorem wellFormed_cons {u : UInt16} {t : Text} (hu : isScalar u.toNat = true)
    (ht : t.wellFormed = true) : wellFormed (u :: t) = true := by
  rw [wellFormed, codePoints_cons (isHigh_eq_false_of_isScalar hu), List.all_cons,
    Bool.and_eq_true]
  exact ⟨hu, ht⟩

/-- So may a surrogate pair. -/
theorem wellFormed_pair {u v : UInt16} {t : Text} (hu : isHigh u = true) (hv : isLow v = true)
    (ht : t.wellFormed = true) : wellFormed (u :: v :: t) = true := by
  rw [wellFormed, codePoints_pair hu hv, List.all_cons, Bool.and_eq_true]
  have hpair := le_pair hu hv
  exact ⟨(isScalar_iff _).mpr (Or.inr ⟨Nat.le_trans (by decide) hpair.1, hpair.2⟩), ht⟩

/-! ### Cutting a text -/

/-- **Nothing is cut between two texts unless a surrogate pair is.** -/
theorem codePoints_append_of_apart {s t : Text}
    (h : ∀ u ∈ s.getLast?, ∀ v ∈ t.head?, isHigh u = true → isLow v = false) :
    codePoints (s ++ t) = codePoints s ++ codePoints t := by
  induction s using codePoints.induct with
  | case1 => rfl
  | case2 u =>
    cases t with
    | nil => rfl
    | cons v t =>
      have hpair : ¬(isHigh u && isLow v) = true := by simpa using h u rfl v rfl
      exact if_neg hpair
  | case3 u v s hpair ih =>
    obtain ⟨hu, hv⟩ := (Bool.and_eq_true _ _).mp hpair
    rw [List.cons_append, List.cons_append, codePoints_pair hu hv, codePoints_pair hu hv,
      ih fun w hw => h w (List.mem_getLast?_cons (List.mem_getLast?_cons hw)), List.cons_append]
  | case4 u v s hpair ih =>
    rw [List.cons_append, List.cons_append, codePoints, codePoints, if_neg hpair, if_neg hpair,
      List.cons_append, ← ih fun w hw => h w (List.mem_getLast?_cons hw), List.cons_append]

/-- **A text can be cut wherever its code points can.** -/
theorem exists_of_codePoints_eq_append {t : Text} {cs ds : List Nat}
    (h : t.codePoints = cs ++ ds) :
    ∃ a b, t = a ++ b ∧ a.codePoints = cs ∧ b.codePoints = ds := by
  induction t using codePoints.induct generalizing cs with
  | case1 =>
    obtain ⟨rfl, rfl⟩ := List.append_eq_nil_iff.mp h.symm
    exact ⟨[], [], rfl, rfl, rfl⟩
  | case2 u =>
    cases cs with
    | nil => exact ⟨[], [u], rfl, rfl, h⟩
    | cons c cs =>
      obtain ⟨rfl, hrest⟩ := List.cons.inj h
      obtain ⟨rfl, rfl⟩ := List.append_eq_nil_iff.mp hrest.symm
      exact ⟨[u], [], rfl, rfl, rfl⟩
  | case3 u v t hpair ih =>
    obtain ⟨hu, hv⟩ := (Bool.and_eq_true _ _).mp hpair
    cases cs with
    | nil => exact ⟨[], u :: v :: t, rfl, rfl, h⟩
    | cons c cs =>
      rw [codePoints_pair hu hv] at h
      obtain ⟨rfl, hrest⟩ := List.cons.inj h
      obtain ⟨a, b, rfl, rfl, rfl⟩ := ih hrest
      exact ⟨u :: v :: a, b, rfl, codePoints_pair hu hv a, rfl⟩
  | case4 u v t hpair ih =>
    cases cs with
    | nil => exact ⟨[], u :: v :: t, rfl, rfl, h⟩
    | cons c cs =>
      rw [codePoints, if_neg hpair] at h
      obtain ⟨rfl, hrest⟩ := List.cons.inj h
      obtain ⟨a, b, hab, rfl, rfl⟩ := ih hrest
      refine ⟨u :: a, b, by rw [hab, List.cons_append], ?_, rfl⟩
      -- the first part is empty or goes on with `v`, which makes no pair with `u`
      cases a with
      | nil => rfl
      | cons w a =>
        obtain rfl : v = w := (List.cons.inj hab).1
        rw [codePoints, if_neg hpair]

/-- A code point lies below the end of the last plane. -/
theorem le_of_mem_codePoints {t : Text} {c : Nat} (h : c ∈ t.codePoints) : c ≤ 0x10FFFF := by
  induction t using codePoints.induct with
  | case1 => cases h
  | case2 u =>
    have hu := u.toNat_lt
    obtain rfl := List.mem_singleton.mp h
    omega
  | case3 u v t hpair ih =>
    obtain ⟨hu, hv⟩ := (Bool.and_eq_true _ _).mp hpair
    rw [codePoints_pair hu hv] at h
    rcases List.mem_cons.mp h with hc | h
    · rw [hc]
      exact (le_pair hu hv).2
    · exact ih h
  | case4 u v t hpair ih =>
    rw [codePoints, if_neg hpair] at h
    rcases List.mem_cons.mp h with hc | h
    · have hu := u.toNat_lt
      omega
    · exact ih h

/-- The code point of a unit outside the surrogates stands in a text only where the unit does. -/
theorem mem_of_toNat_mem_codePoints {t : Text} {u : UInt16} (h : u.toNat ∈ t.codePoints) :
    u ∈ t := by
  rw [← ofCodePoints_codePoints t, ofCodePoints, List.mem_flatMap]
  exact ⟨u.toNat, h, by rw [unitsOf_toNat]; exact List.mem_singleton_self u⟩

/-- A code point above `2 ^ 16` is spelt by a surrogate pair. -/
theorem exists_unitsOf_eq_pair {c : Nat} (h : 0x10000 ≤ c) (h' : c ≤ 0x10FFFF) :
    ∃ u v, unitsOf c = [u, v] ∧ isHigh u = true ∧ isLow v = true := by
  rw [unitsOf, if_neg (Nat.not_lt.mpr h)]
  refine ⟨_, _, rfl, (isHigh_iff _).mpr ?_, (isLow_iff _).mpr ?_⟩ <;>
  · simp only [Nat.toUInt16_eq, UInt16.toNat_ofNat']
    omega

theorem wellFormed_unitsOf {c : Nat} (hc : isScalar c = true) : (unitsOf c).wellFormed = true := by
  rcases Nat.lt_or_ge c 0x10000 with hsmall | hlarge
  · have hunit : c.toUInt16.toNat = c := UInt16.toNat_ofNat_of_lt' hsmall
    rw [unitsOf, if_pos hsmall]
    exact wellFormed_cons (by rw [hunit, hc]) rfl
  · have hbound : c ≤ 0x10FFFF := by
      rw [isScalar_iff] at hc
      omega
    obtain ⟨u, v, huv, hu, hv⟩ := exists_unitsOf_eq_pair hlarge hbound
    rw [huv]
    exact wellFormed_pair hu hv rfl

/-- **Code points that are no surrogates spell a text without lone ones.** -/
theorem wellFormed_ofCodePoints {cs : List Nat} (h : ∀ c ∈ cs, isScalar c = true) :
    (ofCodePoints cs).wellFormed = true := by
  induction cs with
  | nil => rfl
  | cons c cs ih =>
    obtain ⟨hc, hcs⟩ := List.forall_mem_cons.mp h
    rw [ofCodePoints, List.flatMap_cons]
    exact wellFormed_append (wellFormed_unitsOf hc) (ih hcs)

/-- A pair that spells a code point stands for it. -/
theorem pair_of_unitsOf_eq {c : Nat} {u v : UInt16} (h : unitsOf c = [u, v])
    (hc : c ≤ 0x10FFFF) : pair u v = c := by
  rw [unitsOf] at h
  split at h
  · exact absurd (congrArg List.length h) (by simp)
  · rename_i hlarge
    simp only [List.cons.injEq, and_true] at h
    obtain ⟨hu, hv⟩ := h
    unfold pair
    simp only [← hu, ← hv, Nat.toUInt16_eq, UInt16.toNat_ofNat']
    omega

/-- A scalar value is the one code point of the units that spell it. -/
theorem codePoints_unitsOf {c : Nat} (hc : isScalar c = true) : (unitsOf c).codePoints = [c] := by
  rcases Nat.lt_or_ge c 0x10000 with hsmall | hlarge
  · have hunit : c.toUInt16.toNat = c := UInt16.toNat_ofNat_of_lt' hsmall
    rw [unitsOf, if_pos hsmall, codePoints, hunit]
  · have hbound : c ≤ 0x10FFFF := by
      rw [isScalar_iff] at hc
      omega
    obtain ⟨u, v, huv, hu, hv⟩ := exists_unitsOf_eq_pair hlarge hbound
    rw [huv, codePoints_pair hu hv, pair_of_unitsOf_eq huv hbound]
    rfl

/-- **Scalar values are the code points of the text that they spell.** -/
theorem codePoints_ofCodePoints {cs : List Nat} (h : ∀ c ∈ cs, isScalar c = true) :
    (ofCodePoints cs).codePoints = cs := by
  induction cs with
  | nil => rfl
  | cons c cs ih =>
    obtain ⟨hc, hcs⟩ := List.forall_mem_cons.mp h
    rw [ofCodePoints] at ih ⊢
    rw [List.flatMap_cons, codePoints_append (wellFormed_unitsOf hc), codePoints_unitsOf hc, ih hcs]
    rfl

/-! ### Visible texts -/

/-- **A text of visible ASCII units.** -/
def Visible (t : Text) : Prop := ∀ u ∈ t, 32 ≤ u.toNat ∧ u.toNat < 0x80

instance (t : Text) : Decidable (Visible t) :=
  List.decidableBAll _ t

theorem Visible.append {s t : Text} (hs : Visible s) (ht : Visible t) : Visible (s ++ t) :=
  List.forall_mem_append.mpr ⟨hs, ht⟩

/-- A visible text has no surrogates. -/
theorem wellFormed_of_visible {t : Text} (h : Visible t) : t.wellFormed = true := by
  induction t with
  | nil => rfl
  | cons u t ih =>
    have hu : u.toNat < 0xD800 := Nat.lt_trans (h u List.mem_cons_self).2 (by decide)
    exact wellFormed_cons ((isScalar_iff _).mpr (Or.inl hu))
      (ih fun v hv => h v (List.mem_cons_of_mem u hv))

end LineAgents.Text
