import LineAgents.Json.Parser
import LineAgents.Json.Printer
import LineAgents.Proofs.Text.CodePoint
import Mathlib.Tactic.SplitIfs

/-!
# Strings in quotes

The inside of a string is written one unit at a time, a surrogate pair as it is, and read back one
unit at a time. So one unit is enough: whatever `LineAgents.Json.writeUnit` makes of it,
`LineAgents.Json.takeString?` takes it back first (`LineAgents.Json.takeString?_writeUnit`), and the
string that was quoted is the string that is read (`LineAgents.Json.takeString?_writeUnits`).

The text of a string is also fit to stand on a line and to be sent: it has no control character and
no lone surrogate (`LineAgents.Json.printable_quote`).
-/

namespace LineAgents.Json

/-! ### Hexadecimal digits -/

theorem hexValue?_hexDigit {n : Nat} (h : n < 16) : Text.hexValue? (hexDigit n) = some n := by
  have hall : ∀ n < 16, Text.hexValue? (hexDigit n) = some n := by decide
  exact hall n h

/-- A unit is read back from its four digits. -/
theorem unitOfHex?_hexDigits (u : UInt16) :
    unitOfHex? (hexDigit (u.toNat / 4096)) (hexDigit (u.toNat / 256 % 16))
      (hexDigit (u.toNat / 16 % 16)) (hexDigit (u.toNat % 16)) = some u := by
  have hu : u.toNat < 65536 := u.toNat_lt
  have hsum : u.toNat / 4096 * 4096 + u.toNat / 256 % 16 * 256 + u.toNat / 16 % 16 * 16 +
      u.toNat % 16 = u.toNat := by
    generalize u.toNat = n at *
    omega
  have hfirst : u.toNat / 4096 < 16 := by
    generalize u.toNat = n at *
    omega
  rw [unitOfHex?, hexValue?_hexDigit hfirst, hexValue?_hexDigit (Nat.mod_lt _ (by decide)),
    hexValue?_hexDigit (Nat.mod_lt _ (by decide)), hexValue?_hexDigit (Nat.mod_lt _ (by decide))]
  simp only [Option.pure_def, Option.bind_eq_bind, Option.bind_some, hsum]
  simp

/-! ### Reading a string back -/

/-- A unit that needs no escape stands for itself. -/
theorem takeString?_cons {u : UInt16} (h34 : u ≠ 34) (h92 : u ≠ 92) (h32 : ¬u < 32) (t : Text) :
    takeString? (u :: t) = (takeString? t).map fun p => (u :: p.1, p.2) := by
  rw [takeString?]
  · have hcond : ¬(decide (u < 32) || u == 92) = true := by
      simp [h32, h92]
    rw [if_neg hcond]
    cases takeString? t <;> rfl
  all_goals simp_all

/-- A letter after a backslash stands for one unit. -/
theorem takeString?_escape {e u : UInt16} (h117 : e ≠ 117) (he : escaped? e = some u) (t : Text) :
    takeString? (92 :: e :: t) = (takeString? t).map fun p => (u :: p.1, p.2) := by
  rw [takeString?]
  · rw [he]
    cases takeString? t <;> rfl
  · exact fun a b c d t' h => absurd h h117

theorem takeString?_escapeUnit (u : UInt16) (t : Text) :
    takeString? (escapeUnit u ++ t) = (takeString? t).map fun p => (u :: p.1, p.2) := by
  rw [escapeUnit]
  simp only [List.cons_append, List.nil_append]
  rw [takeString?, unitOfHex?_hexDigits]
  cases takeString? t <;> rfl

/-- **The three ways of writing a unit**: a letter after a backslash, four hexadecimal digits, or
the unit itself. -/
theorem writeUnit_cases (u : UInt16) :
    (∃ e : UInt16, writeUnit u = [92, e] ∧ e ≠ 117 ∧ escaped? e = some u ∧
      32 ≤ e.toNat ∧ e.toNat < 0x80) ∨
    writeUnit u = escapeUnit u ∨
    writeUnit u = [u] ∧ u ≠ 34 ∧ u ≠ 92 ∧ ¬u < 32 ∧ Text.isScalar u.toNat = true := by
  rw [writeUnit]
  by_cases h34 : u = 34
  · subst h34
    exact Or.inl ⟨34, by decide⟩
  by_cases h92 : u = 92
  · subst h92
    exact Or.inl ⟨92, by decide⟩
  by_cases h8 : u = 8
  · subst h8
    exact Or.inl ⟨98, by decide⟩
  by_cases h9 : u = 9
  · subst h9
    exact Or.inl ⟨116, by decide⟩
  by_cases h10 : u = 10
  · subst h10
    exact Or.inl ⟨110, by decide⟩
  by_cases h12 : u = 12
  · subst h12
    exact Or.inl ⟨102, by decide⟩
  by_cases h13 : u = 13
  · subst h13
    exact Or.inl ⟨114, by decide⟩
  -- no letter is left, so the unit is a control character, a surrogate, or plain
  refine Or.inr ?_
  simp only [h34, h92, h8, h9, h10, h12, h13, beq_iff_eq, Bool.or_eq_true, or_self, if_false]
  split
  · exact Or.inl rfl
  · rename_i hplain
    obtain ⟨h32, hsurrogate⟩ := not_or.mp hplain
    refine Or.inr ⟨rfl, h34, h92, by simpa using h32, ?_⟩
    simp only [Bool.and_eq_true, decide_eq_true_eq, UInt16.le_iff_toNat_le, UInt16.toNat_ofNat]
      at hsurrogate
    rw [Text.isScalar_iff]
    have hu := u.toNat_lt
    generalize u.toNat = n at *
    omega

/-- **A unit is read back first**, however it was written. -/
theorem takeString?_writeUnit (u : UInt16) (t : Text) :
    takeString? (writeUnit u ++ t) = (takeString? t).map fun p => (u :: p.1, p.2) := by
  rcases writeUnit_cases u with ⟨e, h, h117, he, -⟩ | h | ⟨h, h34, h92, h32, -⟩
  · rw [h]
    exact takeString?_escape h117 he t
  · rw [h]
    exact takeString?_escapeUnit u t
  · rw [h]
    exact takeString?_cons h34 h92 h32 t

/-- **A string is read back**, up to its closing quote. -/
theorem takeString?_writeUnits (s rest : Text) :
    takeString? (writeUnits s ++ 34 :: rest) = some (s, rest) := by
  induction s using writeUnits.induct with
  | case1 => rw [writeUnits, List.nil_append, takeString?]
  | case2 u =>
    rw [writeUnits, takeString?_writeUnit, takeString?]
    rfl
  | case3 u v s h ih =>
    obtain ⟨hu, hv⟩ := (Bool.and_eq_true _ _).mp h
    rw [Text.isHigh_iff] at hu
    rw [Text.isLow_iff] at hv
    -- a surrogate pair is written as it is, and neither half of it needs an escape
    have hplain : ∀ w : UInt16, 0xD800 ≤ w.toNat → w ≠ 34 ∧ w ≠ 92 ∧ ¬w < 32 := fun w hw => by
      refine ⟨fun h => ?_, fun h => ?_, fun h => ?_⟩
      · rw [h] at hw
        exact absurd hw (by decide)
      · rw [h] at hw
        exact absurd hw (by decide)
      · exact absurd (Nat.lt_of_le_of_lt hw h) (by decide)
    obtain ⟨hu34, hu92, hu32⟩ := hplain u hu.1
    obtain ⟨hv34, hv92, hv32⟩ := hplain v (Nat.le_trans (by decide) hv.1)
    rw [writeUnits, if_pos h, List.cons_append, List.cons_append,
      takeString?_cons hu34 hu92 hu32, takeString?_cons hv34 hv92 hv32, ih]
    rfl
  | case4 u v s h ih =>
    rw [writeUnits, if_neg h, List.append_assoc, takeString?_writeUnit, ih]
    rfl

/-! ### Printable texts -/

/-- **A text that can be sent on one line**: no control character and no lone surrogate. -/
structure Printable (t : Text) : Prop where
  noControl : ∀ u ∈ t, 32 ≤ u.toNat
  wellFormed : t.wellFormed = true

theorem printable_nil : Printable [] := ⟨by simp, rfl⟩

theorem Printable.append {s t : Text} (hs : Printable s) (ht : Printable t) :
    Printable (s ++ t) where
  noControl u hu := (List.mem_append.mp hu).elim (hs.noControl u) (ht.noControl u)
  wellFormed := Text.wellFormed_append hs.wellFormed ht.wellFormed

theorem Printable.cons {u : UInt16} {t : Text} (h32 : 32 ≤ u.toNat)
    (hu : Text.isScalar u.toNat = true) (ht : Printable t) : Printable (u :: t) where
  noControl v hv := (List.mem_cons.mp hv).elim (fun h => h ▸ h32) (ht.noControl v)
  wellFormed := Text.wellFormed_cons hu ht.wellFormed

/-- A visible text is printable. -/
theorem printable_of_visible {t : Text} (h : t.Visible) : Printable t where
  noControl u hu := (h u hu).1
  wellFormed := Text.wellFormed_of_visible h

/-- A printable text has neither of the two line ends in it. -/
theorem Printable.not_mem_lineEnd {t : Text} (h : Printable t) : 10 ∉ t ∧ 13 ∉ t :=
  ⟨fun hm => absurd (h.noControl 10 hm) (by decide),
    fun hm => absurd (h.noControl 13 hm) (by decide)⟩

theorem printable_escapeUnit (u : UInt16) : Printable (escapeUnit u) := by
  have hdigit : ∀ n < 16, 32 ≤ (hexDigit n).toNat ∧ (hexDigit n).toNat < 0x80 := by decide
  have hu : u.toNat / 4096 < 16 := by
    have h := u.toNat_lt
    generalize u.toNat = n at *
    omega
  refine printable_of_visible ?_
  intro v hv
  simp only [escapeUnit, List.mem_cons, List.not_mem_nil, or_false] at hv
  rcases hv with rfl | rfl | rfl | rfl | rfl | rfl
  · decide
  · decide
  · exact hdigit _ hu
  · exact hdigit _ (Nat.mod_lt _ (by decide))
  · exact hdigit _ (Nat.mod_lt _ (by decide))
  · exact hdigit _ (Nat.mod_lt _ (by decide))

theorem printable_writeUnit (u : UInt16) : Printable (writeUnit u) := by
  rcases writeUnit_cases u with ⟨e, h, -, -, he⟩ | h | ⟨h, -, -, h32, hu⟩
  · rw [h]
    refine printable_of_visible fun v hv => ?_
    rcases List.mem_cons.mp hv with rfl | hv
    · decide
    · rw [List.mem_singleton.mp hv]
      exact he
  · rw [h]
    exact printable_escapeUnit u
  · rw [h]
    exact printable_nil.cons (Nat.le_of_not_lt h32) hu

theorem printable_writeUnits (s : Text) : Printable (writeUnits s) := by
  induction s using writeUnits.induct with
  | case1 => exact printable_nil
  | case2 u => exact printable_writeUnit u
  | case3 u v s h ih =>
    obtain ⟨hu, hv⟩ := (Bool.and_eq_true _ _).mp h
    rw [writeUnits, if_pos h]
    refine ⟨fun w hw => ?_, Text.wellFormed_pair hu hv ih.wellFormed⟩
    rw [Text.isHigh_iff] at hu
    rw [Text.isLow_iff] at hv
    rcases List.mem_cons.mp hw with rfl | hw
    · exact Nat.le_trans (by decide) hu.1
    · rcases List.mem_cons.mp hw with rfl | hw
      · exact Nat.le_trans (by decide) hv.1
      · exact ih.noControl w hw
  | case4 u v s h ih =>
    rw [writeUnits, if_neg h]
    exact (printable_writeUnit u).append ih

/-- **A string in quotes is printable**, whatever it holds. -/
theorem printable_quote (s : Text) : Printable (quote s) :=
  .cons (by decide) (by decide)
    ((printable_writeUnits s).append (.cons (by decide) (by decide) printable_nil))

end LineAgents.Json
