import LineAgents.Text.Basic
import Mathlib.Data.Nat.Find

/-!
# What searching a text finds

`LineAgents.Text.find?` gives the first position at which a pattern occurs, and nothing when it
occurs nowhere: `LineAgents.Text.find?_eq_some_iff` and `LineAgents.Text.find?_eq_none_iff`. A text
contains a pattern exactly when the pattern is a contiguous part of it
(`LineAgents.Text.contains_iff`). What is cut out around a part shows the part
(`LineAgents.Text.part_of_slice`).
-/

namespace LineAgents.Text

variable {pat t : Text} {i : ℕ}

/-- A pattern begins somewhere in a text exactly when it is a contiguous part of it. -/
theorem infix_iff_exists_drop : pat <:+: t ↔ ∃ i, pat <+: t.drop i := by
  constructor
  · rintro ⟨before, after, rfl⟩
    refine ⟨before.length, ?_⟩
    rw [List.append_assoc, List.drop_left]
    exact List.prefix_append pat after
  · rintro ⟨i, h⟩
    exact h.isInfix.trans (List.drop_suffix i t).isInfix

/-- **The place found is the first one at which the pattern begins.** -/
theorem find?_eq_some_iff :
    find? pat t = some i ↔ pat <+: t.drop i ∧ ∀ j < i, ¬pat <+: t.drop j := by
  induction t generalizing i with
  | nil =>
    cases pat with
    | nil =>
      cases i with
      | zero => simp [find?]
      | succ i =>
        refine ⟨fun h => ?_, fun h => absurd List.nil_prefix (h.2 0 (Nat.succ_pos i))⟩
        simp [find?] at h
    | cons u pat => simp [find?]
  | cons u t ih =>
    rw [find?]
    by_cases h : pat.isPrefixOf (u :: t) = true
    · rw [if_pos h]
      have h0 : pat <+: (u :: t).drop 0 := List.isPrefixOf_iff_prefix.mp h
      constructor
      · intro hi
        cases hi
        exact ⟨h0, fun j hj => absurd hj (Nat.not_lt_zero j)⟩
      · rintro ⟨-, hleast⟩
        rcases Nat.eq_zero_or_pos i with rfl | hi
        · rfl
        · exact absurd h0 (hleast 0 hi)
    · rw [if_neg h]
      have h0 : ¬pat <+: u :: t := fun hpre => h (List.isPrefixOf_iff_prefix.mpr hpre)
      cases i with
      | zero => simp [h0]
      | succ i =>
        rw [Option.map_eq_some_iff]
        simp only [Nat.add_right_cancel_iff, exists_eq_right, List.drop_succ_cons, ih]
        refine and_congr_right fun _ => ⟨fun hleast j hj => ?_, fun hleast j hj => ?_⟩
        · cases j with
          | zero => exact h0
          | succ j => exact hleast j (Nat.lt_of_succ_lt_succ hj)
        · exact hleast (j + 1) (Nat.succ_lt_succ hj)

/-- **Nothing is found exactly when the pattern is no part of the text.** -/
theorem find?_eq_none_iff : find? pat t = none ↔ ¬pat <:+: t := by
  rw [infix_iff_exists_drop]
  constructor
  · rintro hnone ⟨i, hi⟩
    -- among the places at which the pattern begins there is a first one, and it would be found
    have hex : ∃ i, pat <+: t.drop i := ⟨i, hi⟩
    classical
    have hfound := find?_eq_some_iff.mpr ⟨Nat.find_spec hex, fun j hj => Nat.find_min hex hj⟩
    rw [hnone] at hfound
    cases hfound
  · intro hno
    cases hfind : find? pat t with
    | none => rfl
    | some i => exact absurd ⟨i, (find?_eq_some_iff.mp hfind).1⟩ hno

/-- **A text contains its contiguous parts.** -/
theorem contains_iff : contains t pat = true ↔ pat <:+: t := by
  rw [contains, Option.isSome_iff_ne_none, Ne, find?_eq_none_iff, not_not]

/-! ### Cutting out -/

/-- What is cut out begins where the cut does. -/
theorem slice_prefix_drop (i j : ℕ) (t : Text) : t.slice i j <+: t.drop i := by
  rw [slice, List.drop_take]
  exact List.take_prefix _ _

theorem length_slice_le (i j : ℕ) (t : Text) : (t.slice i j).length ≤ j - i := by
  rw [slice, List.length_drop, List.length_take]
  omega

/-- A part that lies between the two ends of a cut is cut out whole. -/
theorem part_of_slice {part t : Text} {i j q : ℕ} (hpart : part <+: t.drop q) (hi : i ≤ q)
    (hj : q + part.length ≤ j) : part <:+: t.slice i j := by
  have htake : part <+: (t.take j).drop q := by
    rw [List.drop_take, List.prefix_take_iff]
    exact ⟨hpart, by omega⟩
  obtain ⟨d, rfl⟩ := Nat.exists_eq_add_of_le hi
  rw [← List.drop_drop] at htake
  exact htake.isInfix.trans (List.drop_suffix d _).isInfix

end LineAgents.Text
