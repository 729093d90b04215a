import LineAgents.Proofs.Text.Pieces
import LineAgents.Text.Blank
import Mathlib.Data.List.TakeWhile

/-!
# What trimming leaves

Trimming takes white space off both ends of a text and nothing else
(`LineAgents.Text.exists_eq_append_trim`). What it leaves is **trimmed**: it neither begins nor ends
with white space (`LineAgents.Text.trimmed_trim`), and a trimmed text is left as it is
(`LineAgents.Text.Trimmed.trim_eq`). Trimmed texts that are joined make a trimmed text
(`LineAgents.Text.trimmed_join`).

Of the units that are not white space trimming loses none (`LineAgents.Text.visible_trim`).
-/

namespace LineAgents.Text

variable {t : Text} {ts : List Text} {u : UInt16}

/-- The blanks by their numbers. -/
theorem isBlank_iff (u : UInt16) : isBlank u = true ↔
    (9 ≤ u.toNat ∧ u.toNat ≤ 13) ∨ u.toNat = 0x20 ∨ u.toNat = 0xA0 ∨ u.toNat = 0x1680 ∨
      (0x2000 ≤ u.toNat ∧ u.toNat ≤ 0x200A) ∨ u.toNat = 0x2028 ∨ u.toNat = 0x2029 ∨
      u.toNat = 0x202F ∨ u.toNat = 0x205F ∨ u.toNat = 0x3000 ∨ u.toNat = 0xFEFF := by
  simp only [isBlank, Bool.or_eq_true, Bool.and_eq_true, decide_eq_true_eq, beq_iff_eq,
    UInt16.le_iff_toNat_le, ← UInt16.toNat_inj, UInt16.toNat_ofNat, or_assoc]

/-! ### The units that are not white space -/

/-- **The units of a text that are not white space**, in order. -/
def visible (t : Text) : Text := t.filter (!isBlank ·)

@[simp] theorem visible_append (s t : Text) : visible (s ++ t) = visible s ++ visible t :=
  List.filter_append s t

theorem visible_eq_nil_iff : visible t = [] ↔ ∀ u ∈ t, isBlank u = true := by
  simp [visible, List.filter_eq_nil_iff]

theorem visible_cons_of_blank (h : isBlank u = true) (t : Text) : visible (u :: t) = visible t :=
  List.filter_cons_of_neg (by simpa using h)

theorem visible_cons_of_not_blank (h : isBlank u = false) (t : Text) :
    visible (u :: t) = u :: visible t :=
  List.filter_cons_of_pos (by simpa using h)

/-- Joining by white space does not change what is visible. -/
theorem visible_join {between : Text} (h : ∀ u ∈ between, isBlank u = true) (ts : List Text) :
    visible (join between ts) = visible ts.flatten :=
  filter_join _ (visible_eq_nil_iff.mpr h) ts

/-- What is visible in pieces is what is visible in each. -/
theorem visible_flatten (ts : List Text) : visible ts.flatten = (ts.map visible).flatten := by
  rw [visible, List.filter_flatten]
  rfl

/-! ### Trimming -/

/-- **Trimming takes white space off both ends** and nothing else. -/
theorem exists_eq_append_trim (t : Text) :
    ∃ front back, t = front ++ (t.trim ++ back) ∧ (∀ u ∈ front, isBlank u = true) ∧
      ∀ u ∈ back, isBlank u = true := by
  refine ⟨t.takeWhile isBlank, (t.trimStart.reverse.takeWhile isBlank).reverse, ?_,
    fun u hu => List.mem_takeWhile_imp hu,
    fun u hu => List.mem_takeWhile_imp (List.mem_reverse.mp hu)⟩
  have hback : t.trimStart = t.trim ++ (t.trimStart.reverse.takeWhile isBlank).reverse := by
    rw [trim, trimEnd, ← List.reverse_append, List.takeWhile_append_dropWhile, List.reverse_reverse]
  rw [← hback]
  exact List.takeWhile_append_dropWhile.symm

theorem trim_isInfix (t : Text) : t.trim <:+: t := by
  obtain ⟨front, back, heq, -, -⟩ := exists_eq_append_trim t
  exact ⟨front, back, by rw [List.append_assoc, ← heq]⟩

/-- **No unit that is not white space is lost** by trimming. -/
@[simp] theorem visible_trim (t : Text) : visible t.trim = visible t := by
  obtain ⟨front, back, heq, hfront, hback⟩ := exists_eq_append_trim t
  conv_rhs => rw [heq]
  rw [visible_append, visible_append, visible_eq_nil_iff.mpr hfront, visible_eq_nil_iff.mpr hback,
    List.nil_append, List.append_nil]

/-- **A trimmed text** neither begins nor ends with white space. -/
def Trimmed (t : Text) : Prop :=
  (∀ u ∈ t.head?, isBlank u = false) ∧ ∀ u ∈ t.getLast?, isBlank u = false

instance (t : Text) : Decidable (Trimmed t) := inferInstanceAs (Decidable (_ ∧ _))

theorem trimmed_nil : Trimmed [] := ⟨nofun, nofun⟩

/-- **What trimming leaves is trimmed.** -/
theorem trimmed_trim (t : Text) : Trimmed t.trim := by
  have hdrop : ∀ s : Text, ∀ u ∈ (s.dropWhile isBlank).head?, isBlank u = false := by
    intro s u hu
    have h := List.head?_dropWhile_not isBlank s
    rw [Option.mem_def.mp hu] at h
    simpa using h
  constructor
  · intro u hu
    -- the first unit of what is left is the first one after the blanks at the start
    have hprefix : t.trim <+: t.trimStart := by
      rw [trim, trimEnd, ← List.reverse_suffix, List.reverse_reverse]
      exact List.dropWhile_suffix isBlank
    obtain ⟨rest, hrest⟩ := hprefix
    refine hdrop t u ?_
    change u ∈ t.trimStart.head?
    rw [← hrest, List.head?_append, Option.mem_def.mp hu]
    rfl
  · intro u hu
    rw [trim, trimEnd, List.getLast?_reverse] at hu
    exact hdrop _ u hu

/-- **A trimmed text is left as it is.** -/
theorem Trimmed.trim_eq (h : Trimmed t) : t.trim = t := by
  have hkept : ∀ s : Text, (∀ u ∈ s.head?, isBlank u = false) → s.dropWhile isBlank = s := by
    rintro (_ | ⟨u, s⟩) hs
    · rfl
    · refine List.dropWhile_cons_of_neg ?_
      rw [hs u rfl]
      exact Bool.false_ne_true
  rw [trim, trimStart, hkept t h.1, trimEnd, hkept t.reverse (by simpa using h.2),
    List.reverse_reverse]

/-- A text is blank when nothing of it is left by trimming. -/
theorem trim_eq_nil_iff (t : Text) : t.trim = [] ↔ t.allBlank = true := by
  rw [allBlank, List.all_eq_true, ← visible_eq_nil_iff, ← visible_trim]
  refine ⟨fun h => by rw [h]; rfl, fun h => ?_⟩
  -- what is left begins with a unit that is not white space, or not at all
  cases ht : t.trim with
  | nil => rfl
  | cons u s =>
    have hu : isBlank u = false := (trimmed_trim t).1 u (by rw [ht]; rfl)
    rw [ht, visible_cons_of_not_blank hu] at h
    cases h

/-- **Trimmed texts make a trimmed text** when they are joined, if there is something in each. -/
theorem trimmed_join (between : Text) (h : ∀ t ∈ ts, t ≠ [] ∧ Trimmed t) :
    Trimmed (join between ts) := by
  induction ts with
  | nil => exact trimmed_nil
  | cons t ts ih =>
    obtain ⟨hne, ht⟩ := h t List.mem_cons_self
    have hts : ∀ s ∈ ts, s ≠ [] ∧ Trimmed s := fun s hs => h s (List.mem_cons_of_mem t hs)
    cases ts with
    | nil => rwa [join_singleton]
    | cons t' ts =>
      have hjoin : join between (t' :: ts) ≠ [] := fun hnil =>
        List.cons_ne_nil t' ts ((join_eq_nil_iff fun s hs => (hts s hs).1).mp hnil)
      rw [join_cons_cons]
      constructor
      · rw [List.head?_append_of_ne_nil _ hne]
        exact ht.1
      · rw [List.getLast?_append_of_ne_nil _ (by simp [hjoin]),
          List.getLast?_append_of_ne_nil _ hjoin]
        exact (ih hts).2

end LineAgents.Text
