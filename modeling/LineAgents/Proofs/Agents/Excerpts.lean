import LineAgents.Agents.PageText
import LineAgents.Proofs.Text.Case
import LineAgents.Proofs.Text.Search
import Mathlib.Order.Bounds.Basic

/-!
# Excerpts show what was searched for

An excerpt is looked for in the text in lower case and cut out of the text itself
(`LineAgents.PageText.excerpt`), so it shows the match only as long as the two keep step. They do
for a text and a selector that are `LineAgents.PageText.Searchable`: the excerpt is then a part of
the text around the first match, it shows the selector, and it is empty when there is no match
(`LineAgents.PageText.textResult_of_searchable`).

Each condition is there for texts that get out of step without it: half of a surrogate pair, a
final sigma, and capitals with a dot (`LineAgents.PageText.excerpt_out_of_step`). They speak of the
matches only. A capital sigma may stand anywhere in the text, and does no harm where it takes the
form it has in the selector; capitals with a dot may stand anywhere if they are few, and the
selector may end in an `i` as long as it is not found in front of the dot of one. Where a text has
neither, or the selector no sigma, nothing else has to be seen to
(`LineAgents.PageText.searchable_of_few`).
-/

namespace LineAgents.PageText

/-! ### Matches -/

/-- **A match**: at the place `q` of the text begins a part that is the selector in some case. -/
def MatchesAt (text selector : Text) (q : ℕ) : Prop :=
  ∃ part : Text, part <+: text.drop q ∧ part.toLower = selector.toLower

/-- The place that the unit at `q` comes to in lower case. -/
def lowerPlace (text : Text) (q : ℕ) : ℕ := q + (text.take q).count 0x130

theorem lowerPlace_lt {text : Text} {q r : ℕ} (h : q < r) :
    lowerPlace text q < lowerPlace text r := by
  have hcount := (List.take_prefix_take_left (l := text) (Nat.le_of_lt h)).sublist.count_le 0x130
  unfold lowerPlace
  omega

/-- **A text and a selector that keep step** when they are put in lower case. -/
structure Searchable (text selector : Text) : Prop where
  /-- Half of a surrogate pair stands at neither end of the selector. -/
  whole : selector.Whole
  /-- The sigmas of a match have the same forms in the text as in the selector. -/
  sigmas : Text.KeepsSigmas text selector.toLower
  /-- The selector is not found so that it begins or ends inside what becomes of a capital with a
  dot. -/
  dots : Text.KeepsDots text selector.toLower
  /-- Capitals with a dot do not displace the first match by more than the radius. -/
  near : ∀ q, IsLeast {q | MatchesAt text selector q} q → (text.take q).count 0x130 ≤ radius
  /-- What matches a selector in the text that is not longer than the radius is not longer than the
  radius either. -/
  short : selector <:+: text → selector.length ≤ radius →
    ∀ part : Text, part <:+: text → part.toLower = selector.toLower → part.length ≤ radius

/-- **Few sigmas and few capitals with a dot** keep step: no capital sigma in the text or no small
one in the selector, and no capital with a dot in the text, or not more of them than the excerpt
has room for. -/
theorem searchable_of_few {text selector : Text} (hne : selector ≠ []) (hwhole : selector.Whole)
    (hsigmas : 0x3A3 ∉ text ∨ 0x3C2 ∉ selector.toLower ∧ 0x3C3 ∉ selector.toLower)
    (hdots : 0x130 ∉ text ∨ text.count 0x130 ≤ radius ∧ selector.toLower.length ≤ radius ∧
      selector.toLower.head? ≠ some 0x307 ∧ selector.toLower.getLast? ≠ some 0x69) :
    Searchable text selector where
  whole := hwhole
  sigmas := Text.keepsSigmas_of_absent hsigmas
  dots := Text.keepsDots_of_ends (mt Text.toLower_eq_nil_iff.mp hne) (hdots.imp_right (·.2.2))
  near q _ := by
    have hcount := (List.take_sublist q text).count_le 0x130
    rcases hdots with hnone | hfew
    · rw [List.count_eq_zero.mpr hnone] at hcount
      omega
    · exact hcount.trans hfew.1
  short hin hlength part _ hpart := by
    have hle : part.length ≤ selector.toLower.length := by
      rw [← hpart, Text.length_toLower]
      exact Nat.le_add_right _ _
    rcases hdots with hnone | hfew
    · rw [Text.length_toLower, List.count_eq_zero.mpr fun hmem => hnone (hin.subset hmem)] at hle
      omega
    · exact hle.trans hfew.2.1

namespace Searchable

variable {text selector : Text}

/-- **The selector is found in the lower-case text where a match has come to.** -/
theorem prefix_drop_toLower_iff (h : Searchable text selector) (hne : selector ≠ []) {p : ℕ} :
    selector.toLower <+: text.toLower.drop p ↔
      ∃ q, MatchesAt text selector q ∧ p = lowerPlace text q := by
  have hk : selector.toLower ≠ [] := mt Text.toLower_eq_nil_iff.mp hne
  rw [Text.prefix_drop_toLower_iff hk (Text.whole_toLower_iff.mpr h.whole) h.sigmas h.dots]
  constructor
  · rintro ⟨a, part, hpart, hlower, rfl⟩
    obtain ⟨c, rfl⟩ := hpart
    refine ⟨a.length, ⟨part, ?_, hlower⟩, ?_⟩
    · rw [List.append_assoc, List.drop_left]
      exact List.prefix_append part c
    · rw [lowerPlace, List.append_assoc, List.take_left]
  · rintro ⟨q, ⟨part, hpart, hlower⟩, rfl⟩
    have hlong : q ≤ text.length := by
      by_contra hshort
      rw [List.drop_of_length_le (Nat.le_of_not_le hshort), List.prefix_nil] at hpart
      rw [hpart] at hlower
      exact hk hlower.symm
    refine ⟨text.take q, part, ?_, hlower, ?_⟩
    · obtain ⟨c, hc⟩ := hpart
      exact ⟨c, by rw [List.append_assoc, hc, List.take_append_drop]⟩
    · rw [lowerPlace, List.length_take_of_le hlong]

/-- **What is found is the place that the first match has come to.** -/
theorem find_iff (h : Searchable text selector) (hne : selector ≠ []) {i : ℕ} :
    Text.find? selector.toLower text.toLower = some i ↔
      ∃ q, IsLeast {q | MatchesAt text selector q} q ∧ i = lowerPlace text q := by
  simp only [Text.find?_eq_some_iff, h.prefix_drop_toLower_iff hne]
  constructor
  · rintro ⟨⟨q, hq, rfl⟩, hleast⟩
    refine ⟨q, ⟨hq, fun r hr => ?_⟩, rfl⟩
    by_contra hlt
    exact hleast _ (lowerPlace_lt (Nat.lt_of_not_le hlt)) ⟨r, hr, rfl⟩
  · rintro ⟨q, ⟨hq, hleast⟩, rfl⟩
    refine ⟨⟨q, hq, rfl⟩, ?_⟩
    rintro _ hlt ⟨r, hr, rfl⟩
    rcases Nat.lt_or_eq_of_le (hleast hr) with hqr | rfl
    · exact absurd hlt (Nat.lt_asymm (lowerPlace_lt hqr))
    · exact absurd hlt (Nat.lt_irrefl _)

/-- **Nothing is found exactly when nothing matches.** -/
theorem find_eq_none_iff (h : Searchable text selector) (hne : selector ≠ []) :
    Text.find? selector.toLower text.toLower = none ↔ ∀ q, ¬MatchesAt text selector q := by
  rw [Text.find?_eq_none_iff, Text.infix_iff_exists_drop, not_exists]
  simp only [h.prefix_drop_toLower_iff hne, not_exists, not_and]
  exact ⟨fun hno q hq => hno _ q hq rfl, fun hno _ q hq => absurd hq (hno q)⟩

/-! ### The excerpt -/

/-- Where there is a first match, the excerpt is cut out around the place it has come to. -/
theorem excerpt_of_isLeast (h : Searchable text selector) (hne : selector ≠ []) {q : ℕ}
    (hq : IsLeast {q | MatchesAt text selector q} q) :
    excerpt text selector =
      text.slice (lowerPlace text q - radius) (lowerPlace text q + radius) := by
  rw [excerpt, (h.find_iff hne).mpr ⟨q, hq, rfl⟩]

/-- **The excerpt shows what matched.** -/
theorem exists_part_of_excerpt (h : Searchable text selector) (hne : selector ≠ [])
    (hin : selector <:+: text) (hshort : selector.length ≤ radius) :
    ∃ part : Text, part <:+: excerpt text selector ∧ part.toLower = selector.toLower := by
  classical
  obtain ⟨r, hr⟩ := Text.infix_iff_exists_drop.mp hin
  have hex : ∃ q, MatchesAt text selector q := ⟨r, selector, hr, rfl⟩
  have hfirst : IsLeast {q | MatchesAt text selector q} (Nat.find hex) :=
    ⟨Nat.find_spec hex, fun s hs => Nat.find_min' hex hs⟩
  obtain ⟨part, hpart, hlower⟩ := hfirst.1
  refine ⟨part, ?_, hlower⟩
  rw [h.excerpt_of_isLeast hne hfirst]
  have hcount := h.near _ hfirst
  have hlength := h.short hin hshort part (Text.infix_iff_exists_drop.mpr ⟨_, hpart⟩) hlower
  exact Text.part_of_slice hpart (by unfold lowerPlace; omega) (by unfold lowerPlace; omega)

end Searchable

/-- An excerpt is a part of the text, twice as long as the radius at most. -/
theorem excerpt_part (text selector : Text) :
    excerpt text selector <:+: text ∧ (excerpt text selector).length ≤ 2 * radius := by
  unfold excerpt
  cases Text.find? selector.toLower text.toLower with
  | none => exact ⟨List.nil_infix, Nat.zero_le _⟩
  | some i =>
    have hlength := Text.length_slice_le (i - radius) (i + radius) text
    exact ⟨Text.infix_iff_exists_drop.mpr ⟨_, Text.slice_prefix_drop _ _ text⟩,
      hlength.trans (by omega)⟩

/-- **The excerpt shows the match.** For a text and a selector that keep step in lower case, the
answer holds a part of the text, at most twice the radius long. It shows a selector that occurs in
the text, in some case; it begins no further than the radius before the first match, and not after
it; and it is empty if nothing matches. -/
theorem textResult_of_searchable {text selector : Text} (h : Searchable text selector)
    (hne : selector ≠ []) :
    ∃ e : Text,
      textResult text (some selector) =
        .obj [("excerpt", .str e), ("full_text", .str (text.take fullLength))] ∧
      e <:+: text ∧ e.length ≤ 2 * radius ∧
      (selector <:+: text → selector.length ≤ radius →
        ∃ part : Text, part <:+: e ∧ part.toLower = selector.toLower) ∧
      (∀ q, IsLeast {q | MatchesAt text selector q} q →
        ∃ i ≤ q, q ≤ i + radius ∧ e <+: text.drop i) ∧
      ((∀ q, ¬MatchesAt text selector q) → e = []) := by
  obtain ⟨hpart, hlength⟩ := excerpt_part text selector
  refine ⟨excerpt text selector, ?_, hpart, hlength, h.exists_part_of_excerpt hne, ?_, ?_⟩
  · cases selector with
    | nil => exact absurd rfl hne
    | cons u selector => rfl
  · intro q hq
    have hcount := h.near q hq
    refine ⟨lowerPlace text q - radius, by unfold lowerPlace; omega,
      by unfold lowerPlace; omega, ?_⟩
    rw [h.excerpt_of_isLeast hne hq]
    exact Text.slice_prefix_drop _ _ text
  · intro hno
    rw [excerpt, (h.find_eq_none_iff hne).mpr hno]

/-- A text with a dotted capital before what is searched for. -/
theorem textResult_of_searchable_of_dotted :
    Searchable "İzmir, Ankara" "Ankara" ∧ ("Ankara" : Text) ≠ [] ∧
      ∃ e : Text,
        textResult "İzmir, Ankara" (some "Ankara") =
          .obj [("excerpt", .str e), ("full_text", .str "İzmir, Ankara")] ∧
        ∃ part : Text, part <:+: e ∧ part.toLower = "ankara" := by
  have hne : ("Ankara" : Text) ≠ [] := by decide
  have h : Searchable "İzmir, Ankara" "Ankara" :=
    searchable_of_few hne (by decide) (Or.inl (by decide)) (Or.inr (by decide))
  have hlower : Text.toLower "Ankara" = "ankara" := by decide +kernel
  obtain ⟨e, hresult, -, -, hshown, -⟩ := textResult_of_searchable h hne
  obtain ⟨part, hpart, hsame⟩ := hshown (by decide +kernel) (by decide)
  exact ⟨h, hne, e, hresult, part, hpart, hsame.trans hlower⟩

/-- **Out of step**, the excerpt can miss what was searched for: after a final sigma that is none in
the text, half of a surrogate pair, and many capitals with a dot. -/
theorem excerpt_out_of_step :
    (("ΑΣ" : Text) <:+: "ΑΣΑ" ∧ Text.toLower "ΑΣ" ≠ [] ∧ excerpt "ΑΣΑ" "ΑΣ" = []) ∧
      ([0xDC00] <:+: [0xD801, 0xDC00] ∧ Text.toLower [0xDC00] ≠ [] ∧
        excerpt [0xD801, 0xDC00] [0xDC00] = []) ∧
      (([98] : Text) <:+: List.replicate 81 0x130 ++ [98] ∧ Text.toLower [98] ≠ [] ∧
        excerpt (List.replicate 81 0x130 ++ [98]) [98] = []) := by
  refine ⟨?_, ?_, ?_⟩ <;> decide +kernel

end LineAgents.PageText
