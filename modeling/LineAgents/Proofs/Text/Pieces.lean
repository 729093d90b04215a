import LineAgents.Text.Basic
import Mathlib.Data.List.Basic

/-!
# Dividing a text and joining its pieces

A text is divided at the occurrences of a unit, and pieces are joined with a text between them. The
two undo each other as long as no piece holds the unit: `LineAgents.Text.join_splitOn` for every
text, and `LineAgents.Text.splitOn_join` for all pieces of which there is at least one. What a text
with the unit in it is divided into, is what the parts before and behind are divided into
(`LineAgents.Text.splitOn_append_sep`), and everything else said here about dividing follows from
that.
-/

namespace LineAgents.Text

variable {sep : UInt16} {s t piece : Text}

/-! ### Dividing -/

theorem splitOn_ne_nil (sep : UInt16) (t : Text) : splitOn sep t ≠ [] := by
  cases t with
  | nil => exact List.cons_ne_nil _ _
  | cons u t =>
    rw [splitOn]
    split
    · exact List.cons_ne_nil _ _
    · split <;> exact List.cons_ne_nil _ _

theorem splitOn_cons_self (sep : UInt16) (t : Text) :
    splitOn sep (sep :: t) = [] :: splitOn sep t := by
  rw [splitOn, if_pos (beq_self_eq_true sep)]

/-- Any other unit belongs to the first piece. -/
theorem exists_splitOn_cons {u : UInt16} (h : u ≠ sep) (t : Text) :
    ∃ first rest, splitOn sep t = first :: rest ∧ splitOn sep (u :: t) = (u :: first) :: rest := by
  obtain ⟨first, rest, hpieces⟩ := List.exists_cons_of_ne_nil (splitOn_ne_nil sep t)
  refine ⟨first, rest, hpieces, ?_⟩
  rw [splitOn, if_neg (by simpa using h), hpieces]

/-- **Parts on either side of the unit are divided on their own.** -/
theorem splitOn_append_sep (sep : UInt16) (s t : Text) :
    splitOn sep (s ++ sep :: t) = splitOn sep s ++ splitOn sep t := by
  induction s with
  | nil => exact splitOn_cons_self sep t
  | cons u s ih =>
    by_cases hu : u = sep
    · rw [hu, List.cons_append, splitOn_cons_self, splitOn_cons_self, ih, List.cons_append]
    · obtain ⟨first, rest, hs, hus⟩ := exists_splitOn_cons hu s
      obtain ⟨first', rest', hst, hust⟩ := exists_splitOn_cons hu (s ++ sep :: t)
      rw [ih, hs, List.cons_append] at hst
      obtain ⟨rfl, rfl⟩ := List.cons.inj hst
      rw [List.cons_append, hust, hus, List.cons_append]

theorem splitOn_of_notMem (h : sep ∉ s) : splitOn sep s = [s] := by
  induction s with
  | nil => rfl
  | cons u s ih =>
    obtain ⟨hu, hs⟩ := List.ne_and_not_mem_of_not_mem_cons h
    obtain ⟨first, rest, hpieces, hcons⟩ := exists_splitOn_cons (Ne.symm hu) s
    rw [ih hs] at hpieces
    obtain ⟨rfl, rfl⟩ := List.cons.inj hpieces
    exact hcons

/-- A text without the unit is the piece before the first one. -/
theorem splitOn_append_cons (h : sep ∉ s) (t : Text) :
    splitOn sep (s ++ sep :: t) = s :: splitOn sep t := by
  rw [splitOn_append_sep, splitOn_of_notMem h, List.singleton_append]

/-- A piece does not hold what divides the pieces. -/
theorem notMem_of_mem_splitOn (h : piece ∈ splitOn sep t) : sep ∉ piece := by
  induction t generalizing piece with
  | nil =>
    rw [List.mem_singleton.mp h]
    exact List.not_mem_nil
  | cons u t ih =>
    by_cases hu : u = sep
    · rw [hu, splitOn_cons_self] at h
      rcases List.mem_cons.mp h with rfl | h
      · exact List.not_mem_nil
      · exact ih h
    · obtain ⟨first, rest, hpieces, hcons⟩ := exists_splitOn_cons hu t
      rw [hcons] at h
      rcases List.mem_cons.mp h with rfl | h
      · exact List.not_mem_cons_of_ne_of_not_mem (Ne.symm hu)
          (ih (hpieces ▸ List.mem_cons_self))
      · exact ih (hpieces ▸ List.mem_cons_of_mem first h)

/-- A piece holds what the text holds. -/
theorem mem_of_mem_splitOn (h : piece ∈ splitOn sep t) {u : UInt16} (hu : u ∈ piece) : u ∈ t := by
  induction t generalizing piece with
  | nil => exact List.mem_singleton.mp h ▸ hu
  | cons v t ih =>
    by_cases hv : v = sep
    · rw [hv, splitOn_cons_self] at h
      rcases List.mem_cons.mp h with rfl | h
      · exact absurd hu List.not_mem_nil
      · exact List.mem_cons_of_mem v (ih h hu)
    · obtain ⟨first, rest, hpieces, hcons⟩ := exists_splitOn_cons hv t
      rw [hcons] at h
      rcases List.mem_cons.mp h with rfl | h
      · rcases List.mem_cons.mp hu with rfl | hu
        · exact List.mem_cons_self
        · exact List.mem_cons_of_mem v (ih (hpieces ▸ List.mem_cons_self) hu)
      · exact List.mem_cons_of_mem v (ih (hpieces ▸ List.mem_cons_of_mem first h) hu)

/-- One piece is all there is without what divides the pieces. -/
theorem splitOn_eq_singleton_iff : splitOn sep t = [s] ↔ sep ∉ t ∧ t = s := by
  refine ⟨fun h => ?_, fun ⟨hsep, heq⟩ => by rw [splitOn_of_notMem hsep, heq]⟩
  by_cases hsep : sep ∈ t
  · obtain ⟨first, rest, rfl, hfirst⟩ := List.eq_append_cons_of_mem hsep
    rw [splitOn_append_cons hfirst] at h
    exact absurd (List.cons.inj h).2 (splitOn_ne_nil sep rest)
  · rw [splitOn_of_notMem hsep] at h
    exact ⟨hsep, (List.cons.inj h).1⟩

/-- Several pieces are the first one and those behind it. -/
theorem splitOn_eq_cons_cons_iff {pieces : List Text} :
    splitOn sep t = s :: piece :: pieces ↔
      sep ∉ s ∧ ∃ rest, t = s ++ sep :: rest ∧ splitOn sep rest = piece :: pieces := by
  constructor
  · intro h
    by_cases hsep : sep ∈ t
    · obtain ⟨first, rest, rfl, hfirst⟩ := List.eq_append_cons_of_mem hsep
      rw [splitOn_append_cons hfirst] at h
      obtain ⟨rfl, hrest⟩ := List.cons.inj h
      exact ⟨hfirst, rest, rfl, hrest⟩
    · rw [splitOn_of_notMem hsep] at h
      cases (List.cons.inj h).2
  · rintro ⟨hs, rest, rfl, hrest⟩
    rw [splitOn_append_cons hs, hrest]

/-! ### Joining -/

section Join

variable {between : Text} {ts us : List Text}

@[simp] theorem join_nil (between : Text) : join between [] = [] := rfl

@[simp] theorem join_singleton (between t : Text) : join between [t] = t := by
  simp [join]

theorem join_cons_cons (between t u : Text) (ts : List Text) :
    join between (t :: u :: ts) = t ++ (between ++ join between (u :: ts)) := by
  simp [join]

/-- **Pieces one after the other** are joined on their own. -/
theorem join_append (between : Text) (hts : ts ≠ []) (hus : us ≠ []) :
    join between (ts ++ us) = join between ts ++ (between ++ join between us) := by
  induction ts with
  | nil => exact absurd rfl hts
  | cons t ts ih =>
    cases ts with
    | nil =>
      obtain ⟨u, us, rfl⟩ := List.exists_cons_of_ne_nil hus
      rw [List.singleton_append, join_cons_cons, join_singleton]
    | cons t' ts =>
      rw [List.cons_append, List.cons_append, join_cons_cons, join_cons_cons, ← List.cons_append,
        ih (List.cons_ne_nil t' ts)]
      simp only [List.append_assoc]

/-- Nothing comes of joining only where there is nothing to join. -/
theorem join_eq_nil_iff (h : ∀ t ∈ ts, t ≠ []) : join between ts = [] ↔ ts = [] := by
  refine ⟨fun hjoin => ?_, fun hts => by rw [hts, join_nil]⟩
  rcases ts with _ | ⟨t, _ | ⟨t', ts⟩⟩
  · rfl
  · rw [join_singleton] at hjoin
    exact absurd hjoin (h t List.mem_cons_self)
  · rw [join_cons_cons] at hjoin
    exact absurd (List.append_eq_nil_iff.mp hjoin).1 (h t List.mem_cons_self)

/-- What is left of joined pieces without what stands between them. -/
theorem filter_join (p : UInt16 → Bool) (hbetween : between.filter p = []) (ts : List Text) :
    (join between ts).filter p = ts.flatten.filter p := by
  induction ts with
  | nil => rfl
  | cons t ts ih =>
    cases ts with
    | nil => simp
    | cons t' ts =>
      rw [join_cons_cons, List.filter_append, List.filter_append, hbetween, List.nil_append, ih,
        ← List.filter_append, ← List.flatten_cons]

end Join

/-! ### Dividing what was joined, and joining what was divided -/

/-- **Pieces are found again** where none of them holds what they are joined by. -/
theorem splitOn_join {ts : List Text} (hts : ts ≠ []) (h : ∀ t ∈ ts, sep ∉ t) :
    splitOn sep (join [sep] ts) = ts := by
  induction ts with
  | nil => exact absurd rfl hts
  | cons t ts ih =>
    have ht : sep ∉ t := h t List.mem_cons_self
    cases ts with
    | nil => rw [join_singleton, splitOn_of_notMem ht]
    | cons t' ts =>
      rw [join_cons_cons, List.singleton_append, splitOn_append_cons ht,
        ih (List.cons_ne_nil t' ts) fun r hr => h r (List.mem_cons_of_mem t hr)]

/-- **Joining the pieces gives the text back.** -/
theorem join_splitOn (sep : UInt16) (t : Text) : join [sep] (splitOn sep t) = t := by
  induction t with
  | nil => rfl
  | cons u t ih =>
    by_cases hu : u = sep
    · obtain ⟨first, rest, hpieces⟩ := List.exists_cons_of_ne_nil (splitOn_ne_nil sep t)
      rw [hu, splitOn_cons_self, hpieces, join_cons_cons, ← hpieces, ih]
      rfl
    · obtain ⟨first, rest, hpieces, hcons⟩ := exists_splitOn_cons hu t
      rw [hpieces] at ih
      rw [hcons, ← ih]
      cases rest with
      | nil => simp
      | cons r rest => rw [join_cons_cons, join_cons_cons, List.cons_append]

end LineAgents.Text
