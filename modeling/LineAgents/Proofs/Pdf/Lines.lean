import LineAgents.Pdf.Lines
import LineAgents.Proofs.Text.Blank

/-!
# Tidy lines are a normal form

Two things are taken off the lines of a document: runs of spaces and tabs become one space, and
white space of any kind goes at the ends. What is left is a **tidy** line (`LineAgents.Pdf.Tidy`),
and a tidy line is left alone (`LineAgents.Pdf.Tidy.tidyLine_eq`). The order of the two is what
makes it work. Collapsing knows only spaces and tabs and trimming knows much more, but trimming
takes off the ends of what was collapsed, and a part of a text without double spaces has none either
(`LineAgents.Pdf.Spaced.of_isInfix`).

The text of a document is its tidy lines joined by line feeds, and it can be divided into them again
(`LineAgents.Pdf.linesOf_join`). So the pages of a document can be tidied together or one by one,
once or several times, and no unit is lost that can be seen (`LineAgents.Pdf.tidy_pages`).
-/

namespace LineAgents.Pdf

open Text (isBlank visible Trimmed)

variable {t line : Text} {u : UInt16}

/-! ### Runs of spaces and tabs -/

theorem isGap_iff : isGap u = true ↔ u = 32 ∨ u = 9 := by
  rw [isGap, Bool.or_eq_true, beq_iff_eq, beq_iff_eq]

theorem isBlank_of_isGap (h : isGap u = true) : isBlank u = true := by
  rcases isGap_iff.mp h with rfl | rfl <;> rfl

/-- **A text with single spaces**: no two of them stand side by side, and there is no tab. -/
def Spaced (t : Text) : Prop := 9 ∉ t ∧ ¬[32, 32] <:+: t

theorem Spaced.of_isInfix {s : Text} (ht : Spaced t) (h : s <:+: t) : Spaced s :=
  ⟨fun htab => ht.1 (h.subset htab), fun hdouble => ht.2 (hdouble.trans h)⟩

theorem spaced_nil : Spaced [] := ⟨List.not_mem_nil, by simp⟩

/-- A unit may be put in front unless it is a tab, or a space and a second one follows. -/
theorem spaced_cons_iff : Spaced (u :: t) ↔ u ≠ 9 ∧ (u = 32 → t.head? ≠ some 32) ∧ Spaced t := by
  have hprefix : [32, 32] <+: u :: t ↔ u = 32 ∧ t.head? = some 32 := by
    cases t with
    | nil => simp
    | cons v t => simp [List.cons_prefix_cons, eq_comm]
  rw [Spaced, Spaced, List.mem_cons, List.infix_cons_iff, hprefix]
  tauto

/-- **Collapsing leaves single spaces**, and none at the start of what follows a gap. -/
theorem spaced_collapseGaps (after : Bool) (t : Text) :
    Spaced (collapseGaps after t) ∧ (after = true → (collapseGaps after t).head? ≠ some 32) := by
  induction t generalizing after with
  | nil => exact ⟨spaced_nil, fun _ => by simp [collapseGaps]⟩
  | cons u t ih =>
    rw [collapseGaps]
    by_cases hgap : isGap u = true
    · rw [if_pos hgap]
      obtain ⟨hspaced, hhead⟩ := ih true
      cases after with
      | true => exact ⟨hspaced, hhead⟩
      | false => exact ⟨spaced_cons_iff.mpr ⟨by decide, fun _ => hhead rfl, hspaced⟩, nofun⟩
    · rw [if_neg hgap]
      have hu := mt isGap_iff.mpr hgap
      rw [not_or] at hu
      refine ⟨spaced_cons_iff.mpr ⟨hu.2, fun h => absurd h hu.1, (ih false).1⟩, fun _ h => ?_⟩
      exact hu.1 (Option.some.inj h)

/-- **Single spaces are left as they are.** -/
theorem Spaced.collapseGaps_eq (ht : Spaced t) {after : Bool}
    (h : after = false ∨ t.head? ≠ some 32) : collapseGaps after t = t := by
  induction t generalizing after with
  | nil => rfl
  | cons u t ih =>
    obtain ⟨htab, hdouble, hspaced⟩ := spaced_cons_iff.mp ht
    rw [collapseGaps]
    by_cases hspace : u = 32
    · obtain rfl := h.resolve_right fun hhead => hhead (congrArg some hspace)
      rw [if_pos (isGap_iff.mpr (Or.inl hspace)), if_neg Bool.false_ne_true,
        ih hspaced (Or.inr (hdouble hspace)), hspace]
    · have hgap : ¬isGap u = true := fun hgap => (isGap_iff.mp hgap).elim hspace htab
      rw [if_neg hgap, ih hspaced (Or.inl rfl)]

/-- Collapsing takes away white space only. -/
theorem visible_collapseGaps (after : Bool) (t : Text) :
    visible (collapseGaps after t) = visible t := by
  induction t generalizing after with
  | nil => rfl
  | cons u t ih =>
    rw [collapseGaps]
    by_cases hgap : isGap u = true
    · rw [if_pos hgap, Text.visible_cons_of_blank (isBlank_of_isGap hgap)]
      cases after with
      | true => exact ih true
      | false => exact (Text.visible_cons_of_blank rfl _).trans (ih true)
    · rw [if_neg hgap]
      cases hblank : isBlank u with
      | true => rw [Text.visible_cons_of_blank hblank, Text.visible_cons_of_blank hblank, ih]
      | false =>
        rw [Text.visible_cons_of_not_blank hblank, Text.visible_cons_of_not_blank hblank, ih]

/-- Collapsing brings in nothing but spaces. -/
theorem mem_of_mem_collapseGaps {after : Bool} (h : u ∈ collapseGaps after t) :
    u ∈ t ∨ u = 32 := by
  induction t generalizing after with
  | nil => exact Or.inl h
  | cons v t ih =>
    rw [collapseGaps] at h
    split at h
    · split at h
      · exact (ih h).imp_left (List.mem_cons_of_mem v)
      · rcases List.mem_cons.mp h with rfl | h
        · exact Or.inr rfl
        · exact (ih h).imp_left (List.mem_cons_of_mem v)
    · rcases List.mem_cons.mp h with rfl | h
      · exact Or.inl List.mem_cons_self
      · exact (ih h).imp_left (List.mem_cons_of_mem v)

/-! ### Lines -/

/-- **A tidy line** has something in it, is one line, neither begins nor ends with white space, and
holds no tab and no two spaces side by side. -/
structure Tidy (line : Text) : Prop where
  ne_nil : line ≠ []
  oneLine : 10 ∉ line
  trimmed : Trimmed line
  spaced : Spaced line

/-- **A tidy line is left alone.** -/
theorem Tidy.tidyLine_eq (h : Tidy line) : tidyLine line = line := by
  rw [tidyLine, h.spaced.collapseGaps_eq (Or.inl rfl), h.trimmed.trim_eq]

/-- **What is left of a line is tidy**, if anything is left. -/
theorem tidy_tidyLine (h : 10 ∉ line) (hne : tidyLine line ≠ []) : Tidy (tidyLine line) where
  ne_nil := hne
  oneLine hmem := by
    rcases mem_of_mem_collapseGaps ((Text.trim_isInfix _).subset hmem) with hmem | heq
    · exact h hmem
    · cases heq
  trimmed := Text.trimmed_trim _
  spaced := (spaced_collapseGaps false line).1.of_isInfix (Text.trim_isInfix _)

theorem visible_tidyLine (line : Text) : visible (tidyLine line) = visible line := by
  rw [tidyLine, Text.visible_trim, visible_collapseGaps]

/-! ### The lines of a text -/

/-- **The tidy lines of a text.** -/
def linesOf (t : Text) : List Text :=
  ((Text.splitOn 10 t).map tidyLine).filter fun line => !line.isEmpty

theorem tidy_eq (pages : List Text) :
    tidy pages = Text.join [10] (linesOf (Text.join [10] pages)) :=
  rfl

theorem tidy_of_mem_linesOf (h : line ∈ linesOf t) : Tidy line := by
  obtain ⟨hmem, hne⟩ := List.mem_filter.mp h
  obtain ⟨piece, hpiece, rfl⟩ := List.mem_map.mp hmem
  exact tidy_tidyLine (Text.notMem_of_mem_splitOn hpiece) (by simpa using hne)

/-- Texts on either side of a line feed have their own lines. -/
theorem linesOf_append (s t : Text) : linesOf (s ++ 10 :: t) = linesOf s ++ linesOf t := by
  rw [linesOf, Text.splitOn_append_sep, List.map_append, List.filter_append]
  rfl

/-- **Tidy lines are found again** in what they are joined to. -/
theorem linesOf_join {lines : List Text} (h : ∀ line ∈ lines, Tidy line) :
    linesOf (Text.join [10] lines) = lines := by
  cases lines with
  | nil => rfl
  | cons line lines =>
    have hsame : (line :: lines).map tidyLine = line :: lines :=
      (List.map_congr_left fun l hl => (h l hl).tidyLine_eq).trans (List.map_id' _)
    have hpieces := Text.splitOn_join (List.cons_ne_nil line lines) fun l hl => (h l hl).oneLine
    rw [linesOf, hpieces, hsame]
    exact List.filter_eq_self.mpr fun l hl => by simpa using (h l hl).ne_nil

/-- The lines of pages are those of the first ones and those of the others. -/
theorem linesOf_join_append (ps qs : List Text) :
    linesOf (Text.join [10] (ps ++ qs)) =
      linesOf (Text.join [10] ps) ++ linesOf (Text.join [10] qs) := by
  by_cases hps : ps = []
  · rw [hps]
    rfl
  · by_cases hqs : qs = []
    · rw [hqs, List.append_nil]
      exact (List.append_nil _).symm
    · rw [Text.join_append [10] hps hqs]
      exact linesOf_append _ _

theorem isBlank_of_mem_lineFeed : ∀ v ∈ ([10] : Text), isBlank v = true :=
  List.forall_mem_singleton.mpr rfl

/-- No unit that can be seen is lost between a text and its lines. -/
theorem visible_linesOf (t : Text) : visible (linesOf t).flatten = visible t := by
  have htidy : visible ∘ tidyLine = visible := funext visible_tidyLine
  rw [linesOf, List.flatten_filter_not_isEmpty, Text.visible_flatten, List.map_map, htidy,
    ← Text.visible_flatten, ← Text.visible_join isBlank_of_mem_lineFeed, Text.join_splitOn]

/-- A document without lines has no text, and only such a document. -/
theorem tidy_eq_nil_iff (pages : List Text) :
    tidy pages = [] ↔ linesOf (Text.join [10] pages) = [] := by
  rw [tidy_eq, Text.join_eq_nil_iff fun line hline => (tidy_of_mem_linesOf hline).ne_nil]

/-- **The text of pages.** No unit is lost, added or moved, white space apart. Unless there is no
text, all of its lines are tidy. A text that was tidied stays as it is; and several pages have the
texts of the first ones and of the others, with a line feed between them if there are both. -/
theorem tidy_pages (ps qs : List Text) :
    visible (tidy ps) = visible ps.flatten ∧
      (tidy ps = [] ∨ ∀ line ∈ Text.splitOn 10 (tidy ps), Tidy line) ∧
      tidy [tidy ps] = tidy ps ∧
      tidy (ps ++ qs) =
        if tidy ps = [] then tidy qs else if tidy qs = [] then tidy ps
        else tidy ps ++ 10 :: tidy qs := by
  have hlines : ∀ line ∈ linesOf (Text.join [10] ps), Tidy line := fun _ => tidy_of_mem_linesOf
  refine ⟨?_, ?_, ?_, ?_⟩
  · rw [tidy_eq, Text.visible_join isBlank_of_mem_lineFeed, visible_linesOf,
      Text.visible_join isBlank_of_mem_lineFeed]
  · by_cases h : tidy ps = []
    · exact Or.inl h
    · refine Or.inr fun line hline => hlines line ?_
      rwa [tidy_eq, Text.splitOn_join (mt (tidy_eq_nil_iff ps).mpr h) fun l hl =>
        (hlines l hl).oneLine] at hline
  · rw [tidy_eq, Text.join_singleton, tidy_eq ps, linesOf_join hlines]
  · rw [tidy_eq (ps ++ qs), linesOf_join_append]
    split_ifs with hps hqs
    · rw [(tidy_eq_nil_iff ps).mp hps, List.nil_append, ← tidy_eq]
    · rw [(tidy_eq_nil_iff qs).mp hqs, List.append_nil, ← tidy_eq]
    · exact Text.join_append [10] (mt (tidy_eq_nil_iff ps).mpr hps)
        (mt (tidy_eq_nil_iff qs).mpr hqs)

/-- A gap between other white space is taken off with it, and a page of such white space only has no
line. -/
example : tidy ["\u00a0 \ta\t\tb \u00a0", "\u00a0\n\t", "c"] = Text.ofString "a b\nc" := by decide

end LineAgents.Pdf
