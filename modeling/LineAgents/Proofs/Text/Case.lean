import LineAgents.Proofs.Text.CodePoint
import LineAgents.Text.Case
import Mathlib.Data.List.Forall2
import Mathlib.Tactic.NormNum

/-!
# Where lower case keeps its place

Two things keep a text in lower case (`LineAgents.Text.toLower`) from being the text unit by unit.
A capital sigma becomes `σ` or `ς` as its word goes on or ends, so what becomes of a part depends
on what stands around it; and a capital I with a dot becomes two units, so what follows it is
displaced. Everything else is regular, and this module makes it so.

* `LineAgents.Text.lowerEach` puts every code point in lower case by itself, and
  `LineAgents.Text.lowerWithin` a part of a text where it stands. The two differ in final sigmas
  only (`LineAgents.Text.lowerWithin_sameButFinalSigma`).
* Either is longer than the part by the number of its dotted capitals
  (`LineAgents.Text.length_lowerWithin`), and a text in lower case can be cut where the text can,
  and nowhere else (`LineAgents.Text.exists_toLower_eq`,
  `LineAgents.Text.exists_of_lowerEach_eq_append`).
* So a pattern that begins and ends with whole characters begins at a place of the lower-case text
  exactly when, at the place of the text it comes from, a part begins that has the pattern as its
  lower case: `LineAgents.Text.prefix_drop_toLower_iff`. Two conditions stand there, one for each
  of the two things: sigmas have the form they have in the part by itself
  (`LineAgents.Text.KeepsSigmas`), and the pattern does not begin or end between the two units of
  a dotted capital (`LineAgents.Text.KeepsDots`). Both can be evaluated.

Of upper case no more is said than that it makes no lone surrogates
(`LineAgents.Text.wellFormed_toUpper`).
-/

namespace LineAgents.Text

/-! ### The table of runs -/

/-- The runs of lower case lead from and to no surrogate, and none leads from the first plane to a
later one or back. -/
theorem lowerRuns_keep_plane : ∀ r ∈ lowerRuns,
    (r.last < 0xD800 ∨ 0xE000 ≤ r.first) ∧
      (r.last + r.delta < 0xD800 ∨ 0xE000 ≤ r.first + r.delta) ∧
      (r.last < 0x10000 ∧ 0 ≤ r.first + r.delta ∧ r.last + r.delta < 0x10000 ∨
        0x10000 ≤ r.first ∧ 0x10000 ≤ r.first + r.delta ∧ r.last + r.delta ≤ 0x10FFFF) := by
  decide +kernel

/-- A change of case is no change at all or that of a run. -/
theorem shiftCase_cases (runs : List CaseRun) (c : ℕ) :
    shiftCase runs c = c ∨
      ∃ r ∈ runs, r.first ≤ c ∧ c ≤ r.last ∧ shiftCase runs c = (c + r.delta).toNat := by
  unfold shiftCase
  cases hfind : runs.find? (·.covers c) with
  | none => exact Or.inl rfl
  | some r =>
    have hcovers := List.find?_some hfind
    simp only [CaseRun.covers, Bool.and_eq_true, decide_eq_true_eq] at hcovers
    exact Or.inr ⟨r, List.mem_of_find?_eq_some hfind, hcovers.1.1, hcovers.1.2, rfl⟩

/-! ### One code point by itself -/

/-- The lower-case form of a code point outside every word. -/
def lowerAlone (c : ℕ) : List ℕ := lowerPoint [] c []

/-- Only a capital sigma looks at its surroundings. -/
theorem lowerPoint_eq_lowerAlone {c : ℕ} (h : c ≠ 0x3A3) (before after : List ℕ) :
    lowerPoint before c after = lowerAlone c := by
  have hc : (c == 0x3A3) = false := beq_false_of_ne h
  simp only [lowerAlone, lowerPoint, hc, Bool.false_eq_true, if_false]

/-- **A code point other than the dotted capital becomes one code point**, of the same plane; a
lone surrogate stays, and nothing becomes one. -/
theorem exists_lowerAlone_eq {c : ℕ} (h : c ≠ 0x130) :
    ∃ d, lowerAlone c = [d] ∧ (d < 0x10000 ↔ c < 0x10000) ∧ (c ≤ 0x10FFFF → d ≤ 0x10FFFF) ∧
      (0xD800 ≤ c ∧ c < 0xE000 ∨ 0xD800 ≤ d ∧ d < 0xE000 → d = c) := by
  unfold lowerAlone lowerPoint
  by_cases hascii : c < 0x80
  · rw [if_pos hascii]
    refine ⟨_, rfl, ?_⟩
    split_ifs <;> omega
  · rw [if_neg hascii]
    by_cases hsigma : c = 0x3A3
    · subst hsigma
      exact ⟨0x3C3, rfl, by decide, by decide, by decide⟩
    · rw [if_neg (by simpa using hsigma), if_neg (by simpa using h)]
      refine ⟨_, rfl, ?_⟩
      rcases shiftCase_cases lowerRuns c with hsame | ⟨r, hr, hfirst, hlast, hmoved⟩
      · rw [hsame]
        exact ⟨Iff.rfl, id, fun _ => rfl⟩
      · have hkeep := lowerRuns_keep_plane r hr
        rw [hmoved]
        omega

/-- The lower-case spelling of a code point outside every word. -/
def lowerUnits (c : ℕ) : Text := ofCodePoints (lowerAlone c)

/-- **What becomes of the spelling of one code point**: a unit becomes a unit, and a surrogate pair
a surrogate pair; but the dotted capital becomes an `i` and a dot above. -/
inductive Lowered : Text → Text → Prop
  | unit {u v : UInt16} (hne : u ≠ 0x130) (hhigh : isHigh v = isHigh u)
      (hlow : isLow v = isLow u) : Lowered [u] [v]
  | dotted : Lowered [0x130] [0x69, 0x307]
  | pair {u v u' v' : UInt16} (hu : isHigh u = true) (hv : isLow v = true)
      (hu' : isHigh u' = true) (hv' : isLow v' = true) : Lowered [u, v] [u', v']

theorem lowered_lowerUnits {c : ℕ} (hc : c ≤ 0x10FFFF) : Lowered (unitsOf c) (lowerUnits c) := by
  rcases eq_or_ne c 0x130 with rfl | hdot
  · exact Lowered.dotted
  obtain ⟨d, hd, hplane, hbound, hsurrogate⟩ := exists_lowerAlone_eq hdot
  rw [lowerUnits, hd, ofCodePoints, List.flatMap_singleton]
  rcases Nat.lt_or_ge c 0x10000 with hsmall | hlarge
  · have hsmall' := hplane.mpr hsmall
    rw [unitsOf, unitsOf, if_pos hsmall, if_pos hsmall']
    have hcnat : c.toUInt16.toNat = c := UInt16.toNat_ofNat_of_lt' hsmall
    have hdnat : d.toUInt16.toNat = d := UInt16.toNat_ofNat_of_lt' hsmall'
    refine Lowered.unit (fun heq => hdot ?_) ?_ ?_
    · rw [← hcnat, heq]
      rfl
    · rw [Bool.eq_iff_iff, isHigh_iff, isHigh_iff, hcnat, hdnat]
      omega
    · rw [Bool.eq_iff_iff, isLow_iff, isLow_iff, hcnat, hdnat]
      omega
  · obtain ⟨u, v, huv, hu, hv⟩ := exists_unitsOf_eq_pair hlarge hc
    obtain ⟨u', v', huv', hu', hv'⟩ := exists_unitsOf_eq_pair (c := d) (by omega) (hbound hc)
    rw [huv, huv']
    exact Lowered.pair hu hv hu' hv'

namespace Lowered

variable {s l : Text}

/-- A spelling grows in lower case only where it has a dotted capital. -/
theorem length_eq (h : Lowered s l) : l.length = s.length + s.count 0x130 := by
  cases h with
  | unit hne => rw [List.count_singleton, beq_false_of_ne hne]; rfl
  | dotted => rfl
  | @pair u v _ _ hu hv =>
    have hcount : [u, v].count 0x130 = 0 := by
      rw [List.count_eq_zero]
      intro hmem
      rcases List.mem_pair.mp hmem with rfl | rfl
      · exact absurd hu (by decide)
      · exact absurd hv (by decide)
    rw [hcount]
    rfl

/-- What becomes of one code point is cut in two only where it is a surrogate pair, or after the `i`
of a dotted capital. -/
theorem of_append {x y : Text} (h : Lowered s (x ++ y)) (hx : x ≠ []) (hy : y ≠ []) :
    (∃ u ∈ x.getLast?, ∃ v ∈ y.head?, isHigh u = true ∧ isLow v = true) ∨
      s = [0x130] ∧ x.length = 1 := by
  obtain ⟨u, x, rfl⟩ := List.exists_cons_of_ne_nil hx
  obtain ⟨v, y, rfl⟩ := List.exists_cons_of_ne_nil hy
  generalize hl : u :: x ++ v :: y = l at h
  have hlength := congrArg List.length hl
  simp only [List.length_append, List.length_cons] at hlength
  cases h with
  | unit =>
    simp only [List.length_cons, List.length_nil] at hlength
    omega
  | dotted =>
    simp only [List.length_cons, List.length_nil] at hlength
    exact Or.inr ⟨rfl, by rw [List.length_cons]; omega⟩
  | pair _ _ hu' hv' =>
    simp only [List.length_cons, List.length_nil] at hlength
    obtain rfl : x = [] := List.length_eq_zero_iff.mp (by omega)
    simp only [List.cons_append, List.nil_append, List.cons.injEq] at hl
    exact Or.inl ⟨u, rfl, v, rfl, hl.1 ▸ hu', hl.2.1 ▸ hv'⟩

/-- The second half of a pair comes first only in what becomes of one. -/
theorem head_low_iff (h : Lowered s l) :
    (∀ u ∈ l.head?, isLow u = false) ↔ ∀ u ∈ s.head?, isLow u = false := by
  cases h with
  | unit _ _ hlow => simp [hlow]
  | dotted => simp [isLow]
  | pair hu _ hu' _ => simp [isLow_eq_false_of_isHigh hu, isLow_eq_false_of_isHigh hu']

/-- The first half of a pair comes last only in what becomes of one. -/
theorem last_high_iff (h : Lowered s l) :
    (∀ u ∈ l.getLast?, isHigh u = false) ↔ ∀ u ∈ s.getLast?, isHigh u = false := by
  cases h with
  | unit _ hhigh _ => simp [hhigh]
  | dotted => simp [isHigh]
  | pair _ hv _ hv' => simp [isHigh_eq_false_of_isLow hv, isHigh_eq_false_of_isLow hv']

theorem ne_nil (h : Lowered s l) : s ≠ [] ∧ l ≠ [] := by
  cases h <;> exact ⟨List.cons_ne_nil _ _, List.cons_ne_nil _ _⟩

end Lowered

/-! ### Every code point by itself -/

/-- **A text in lower case, every code point by itself.** -/
def lowerEach (t : Text) : Text := t.codePoints.flatMap lowerUnits

/-- **Two texts that differ in final sigmas only**: where the first has `ς` the second may have
`σ`. -/
def SameButFinalSigma : Text → Text → Prop :=
  List.Forall₂ fun u v => u = v ∨ u = 0x3C2 ∧ v = 0x3C3

theorem SameButFinalSigma.refl (t : Text) : SameButFinalSigma t t :=
  List.forall₂_same.mpr fun _ _ => Or.inl rfl

/-- They are the same if the first has no final sigma or the second no other one. -/
theorem SameButFinalSigma.eq {s t : Text} (h : SameButFinalSigma s t)
    (hsigma : 0x3C2 ∉ s ∨ 0x3C3 ∉ t) : s = t := by
  induction h with
  | nil => rfl
  | cons huv _ ih =>
    simp only [List.mem_cons, not_or] at hsigma
    rcases huv with rfl | ⟨rfl, rfl⟩
    · rw [ih (hsigma.imp And.right And.right)]
    · exact absurd rfl (hsigma.elim And.left fun ht => absurd rfl ht.1)

/-- A text that may have final sigmas in it agrees with a pattern that has none exactly when the
text without them does. -/
theorem SameButFinalSigma.eq_iff {s t k : Text} (h : SameButFinalSigma s t)
    (hk : 0x3C2 ∉ k ∧ 0x3C3 ∉ k) : s = k ↔ t = k := by
  constructor
  · rintro rfl
    exact (h.eq (Or.inl hk.1)).symm
  · rintro rfl
    exact h.eq (Or.inr hk.2)

/-- Of two texts put together, each differs in final sigmas only. -/
theorem SameButFinalSigma.exists_of_append {x y t : Text} (h : SameButFinalSigma (x ++ y) t) :
    ∃ x' y', t = x' ++ y' ∧ SameButFinalSigma x x' ∧ SameButFinalSigma y y' := by
  have htake := List.forall₂_take x.length h
  have hdrop := List.forall₂_drop x.length h
  rw [List.take_left] at htake
  rw [List.drop_left] at hdrop
  exact ⟨_, _, (List.take_append_drop x.length t).symm, htake, hdrop⟩

/-- **The lower-case text is longer by the number of dotted capitals.** -/
theorem length_lowerEach (t : Text) : (lowerEach t).length = t.length + t.count 0x130 := by
  suffices ∀ cs : List ℕ, (∀ c ∈ cs, c ≤ 0x10FFFF) →
      (cs.flatMap lowerUnits).length = (ofCodePoints cs).length + (ofCodePoints cs).count 0x130 by
    have ht := this t.codePoints fun c => le_of_mem_codePoints
    rwa [ofCodePoints_codePoints] at ht
  intro cs hcs
  induction cs with
  | nil => rfl
  | cons c cs ih =>
    obtain ⟨hc, hrest⟩ := List.forall_mem_cons.mp hcs
    have hhead := (lowered_lowerUnits hc).length_eq
    have htail := ih hrest
    rw [ofCodePoints] at htail ⊢
    rw [List.flatMap_cons, List.flatMap_cons, List.length_append, List.length_append,
      List.count_append]
    omega

/-! ### Where a part stands -/

/-- The lower-case forms of the code points of a part, between `before`, nearest first, and
`after`. -/
def lowerBetween (before : List ℕ) : List ℕ → List ℕ → List ℕ
  | [], _ => []
  | c :: cs, after => lowerPoint before c (cs ++ after) ++ lowerBetween (c :: before) cs after

/-- **A part of a text in lower case where it stands**, behind `a` and before `c`. -/
def lowerWithin (a part c : Text) : Text :=
  ofCodePoints (lowerBetween a.codePoints.reverse part.codePoints c.codePoints)

theorem lowerPoints_append (before cs after : List ℕ) :
    lowerPoints before (cs ++ after) =
      lowerBetween before cs after ++ lowerPoints (cs.reverse ++ before) after := by
  induction cs generalizing before with
  | nil => rfl
  | cons c cs ih =>
    rw [List.cons_append, lowerPoints, ih, lowerBetween, List.append_assoc, List.reverse_cons,
      List.append_assoc]
    rfl

/-- The whole text stands between nothing and nothing. -/
theorem lowerWithin_nil (t : Text) : lowerWithin [] t [] = t.toLower := by
  have happend := lowerPoints_append [] t.codePoints []
  rw [List.append_nil, lowerPoints, List.append_nil] at happend
  rw [toLower, happend]
  rfl

theorem lowerBetween_sameButFinalSigma (before cs after : List ℕ) :
    SameButFinalSigma (ofCodePoints (lowerBetween before cs after)) (cs.flatMap lowerUnits) := by
  induction cs generalizing before with
  | nil => exact List.Forall₂.nil
  | cons c cs ih =>
    rw [lowerBetween, ofCodePoints, List.flatMap_append, List.flatMap_cons]
    refine List.rel_append ?_ (ih (c :: before))
    rcases eq_or_ne c 0x3A3 with rfl | hc
    · -- the only code point that looks at its surroundings, and what it may become there
      have hsigma : lowerPoint before 0x3A3 (cs ++ after) =
          [if meetsCased before && !meetsCased (cs ++ after) then 0x3C2 else 0x3C3] := rfl
      rw [hsigma]
      split
      · exact List.Forall₂.cons (Or.inr ⟨rfl, by decide⟩) List.Forall₂.nil
      · exact SameButFinalSigma.refl [0x3C3]
    · rw [lowerPoint_eq_lowerAlone hc]
      exact SameButFinalSigma.refl _

/-- **Beside final sigmas, every code point is put in lower case by itself**, wherever it stands. -/
theorem lowerWithin_sameButFinalSigma (a part c : Text) :
    SameButFinalSigma (lowerWithin a part c) (lowerEach part) :=
  lowerBetween_sameButFinalSigma _ _ _

theorem toLower_sameButFinalSigma (t : Text) : SameButFinalSigma t.toLower (lowerEach t) := by
  rw [← lowerWithin_nil]
  exact lowerWithin_sameButFinalSigma [] t []

/-- Without a capital sigma there is no difference. -/
theorem lowerWithin_eq_lowerEach {part : Text} (h : 0x3A3 ∉ part) (a c : Text) :
    lowerWithin a part c = lowerEach part := by
  have hcs : 0x3A3 ∉ part.codePoints := fun hmem => h (mem_of_toNat_mem_codePoints hmem)
  suffices ∀ before cs, 0x3A3 ∉ cs →
      ofCodePoints (lowerBetween before cs c.codePoints) = cs.flatMap lowerUnits from
    this a.codePoints.reverse part.codePoints hcs
  intro before cs hsigma
  induction cs generalizing before with
  | nil => rfl
  | cons d cs ih =>
    obtain ⟨hd, hrest⟩ := not_or.mp (mt List.mem_cons.mpr hsigma)
    rw [lowerBetween, ofCodePoints, List.flatMap_append, List.flatMap_cons,
      lowerPoint_eq_lowerAlone (Ne.symm hd)]
    exact congrArg (lowerUnits d ++ ·) (ih (d :: before) hrest)

theorem length_lowerWithin (a part c : Text) :
    (lowerWithin a part c).length = part.length + part.count 0x130 := by
  rw [(lowerWithin_sameButFinalSigma a part c).length_eq, length_lowerEach]

theorem length_toLower (t : Text) : t.toLower.length = t.length + t.count 0x130 := by
  rw [← lowerWithin_nil, length_lowerWithin]

/-- Nothing but the empty text is empty in lower case. -/
theorem toLower_eq_nil_iff {t : Text} : t.toLower = [] ↔ t = [] := by
  rw [← List.length_eq_zero_iff, length_toLower, Nat.add_eq_zero_iff, List.length_eq_zero_iff]
  exact and_iff_left_of_imp fun h => by rw [h]; rfl

/-! ### Cutting lower case -/

/-- A list that is put together from pieces is cut between two of them or within one. -/
theorem exists_of_flatMap_eq_append {α β : Type} {f : α → List β} {cs : List α} {x y : List β}
    (h : cs.flatMap f = x ++ y) :
    (∃ as bs, cs = as ++ bs ∧ as.flatMap f = x ∧ bs.flatMap f = y) ∨
      ∃ as c bs x' y', cs = as ++ c :: bs ∧ f c = x' ++ y' ∧ x' ≠ [] ∧ y' ≠ [] ∧
        as.flatMap f ++ x' = x ∧ y' ++ bs.flatMap f = y := by
  rw [List.flatMap_def, List.flatten_eq_append_iff] at h
  rcases h with ⟨xs, ys, hmap, rfl, rfl⟩ | ⟨xs, x', v, y', ys, hmap, rfl, rfl⟩
  · obtain ⟨as, bs, rfl, rfl, rfl⟩ := List.map_eq_append_iff.mp hmap
    exact Or.inl ⟨as, bs, rfl, rfl, rfl⟩
  · obtain ⟨as, cs, rfl, rfl, hrest⟩ := List.map_eq_append_iff.mp hmap
    obtain ⟨c, bs, rfl, hc, rfl⟩ := List.map_eq_cons_iff.mp hrest
    rcases eq_or_ne x' [] with rfl | hx'
    · exact Or.inl ⟨as, c :: bs, rfl, (List.append_nil _).symm,
        by rw [List.flatMap_cons, hc]; rfl⟩
    · exact Or.inr ⟨as, c, bs, x', v :: y', rfl, hc, hx', List.cons_ne_nil v y', rfl, rfl⟩

/-- **Lower case is cut where the text is**, unless a surrogate pair or what becomes of a dotted
capital is cut in two. -/
theorem exists_of_lowerEach_eq_append {t x y : Text} (h : lowerEach t = x ++ y)
    (hpair : ∀ u ∈ x.getLast?, ∀ v ∈ y.head?, isHigh u = true → isLow v = false)
    (hdot : ∀ a c, t = a ++ 0x130 :: c → x.length ≠ a.length + a.count 0x130 + 1) :
    ∃ a b, t = a ++ b ∧ lowerEach a = x ∧ lowerEach b = y := by
  rcases exists_of_flatMap_eq_append h with ⟨as, bs, hcs, rfl, rfl⟩ |
      ⟨as, c, bs, x', y', hcs, hc, hx', hy', rfl, rfl⟩
  · obtain ⟨a, b, hab, rfl, rfl⟩ := exists_of_codePoints_eq_append hcs
    exact ⟨a, b, hab, rfl, rfl⟩
  · exfalso
    have hmem : c ∈ t.codePoints := hcs ▸ List.mem_append_right as List.mem_cons_self
    have hlowered := lowered_lowerUnits (le_of_mem_codePoints hmem)
    rw [hc] at hlowered
    rcases hlowered.of_append hx' hy' with ⟨u, hu, v, hv, hhigh, hlow⟩ | ⟨hdotted, hone⟩
    · -- the cut falls into a surrogate pair
      have hv : v ∈ (y' ++ bs.flatMap lowerUnits).head? :=
        List.mem_head?_append_of_mem_head? hv
      rw [hpair u (List.mem_getLast?_append_of_mem_getLast? hu) v hv hhigh] at hlow
      cases hlow
    · -- the cut falls behind the `i` of a dotted capital
      obtain ⟨a, b, rfl, rfl, hb⟩ := exists_of_codePoints_eq_append hcs
      have hsplit : b = 0x130 :: ofCodePoints bs := by
        rw [← ofCodePoints_codePoints b, hb, ofCodePoints, List.flatMap_cons, hdotted]
        rfl
      refine hdot a _ (by rw [hsplit]) ?_
      rw [List.length_append, hone, ← length_lowerEach]
      rfl

/-! ### Whole characters at both ends -/

/-- **A text that begins and ends with whole characters**: half of a surrogate pair stands at
neither end. -/
structure Whole (t : Text) : Prop where
  head : ∀ u ∈ t.head?, isLow u = false
  last : ∀ u ∈ t.getLast?, isHigh u = false

instance (t : Text) : Decidable (Whole t) :=
  decidable_of_iff (t.head?.all (!isLow ·) = true ∧ t.getLast?.all (!isHigh ·) = true)
    ⟨fun ⟨hhead, hlast⟩ => ⟨by simpa [Option.all_eq_true] using hhead,
      by simpa [Option.all_eq_true] using hlast⟩,
      fun h => ⟨by simpa [Option.all_eq_true] using h.head,
        by simpa [Option.all_eq_true] using h.last⟩⟩

theorem head_lowerEach_iff (t : Text) :
    (∀ u ∈ (lowerEach t).head?, isLow u = false) ↔ ∀ u ∈ t.head?, isLow u = false := by
  cases hcs : t.codePoints with
  | nil =>
    rw [eq_nil_of_codePoints_eq_nil hcs]
    rfl
  | cons c cs =>
    have hc := lowered_lowerUnits (le_of_mem_codePoints (t := t) (c := c) (by simp [hcs]))
    have ht : t = unitsOf c ++ ofCodePoints cs := by
      rw [← ofCodePoints_codePoints t, hcs]
      rfl
    rw [lowerEach, hcs, List.flatMap_cons, List.head?_append_of_ne_nil _ hc.ne_nil.2, ht,
      List.head?_append_of_ne_nil _ hc.ne_nil.1]
    exact hc.head_low_iff

theorem getLast_lowerEach_iff (t : Text) :
    (∀ u ∈ (lowerEach t).getLast?, isHigh u = false) ↔ ∀ u ∈ t.getLast?, isHigh u = false := by
  rcases List.eq_nil_or_concat' t.codePoints with hcs | ⟨cs, c, hcs⟩
  · rw [eq_nil_of_codePoints_eq_nil hcs]
    rfl
  · have hc := lowered_lowerUnits (le_of_mem_codePoints (t := t) (c := c) (by simp [hcs]))
    have ht : t = ofCodePoints cs ++ unitsOf c := by
      rw [← ofCodePoints_codePoints t, hcs, ofCodePoints, List.flatMap_append,
        List.flatMap_singleton]
      rfl
    rw [lowerEach, hcs, List.flatMap_append, List.flatMap_singleton,
      List.getLast?_append_of_ne_nil _ hc.ne_nil.2, ht,
      List.getLast?_append_of_ne_nil _ hc.ne_nil.1]
    exact hc.last_high_iff

/-- **Lower case keeps the ends of a text** whole, or cut. -/
theorem whole_lowerEach_iff {t : Text} : Whole (lowerEach t) ↔ Whole t := by
  constructor
  · rintro ⟨hhead, hlast⟩
    exact ⟨(head_lowerEach_iff t).mp hhead, (getLast_lowerEach_iff t).mp hlast⟩
  · rintro ⟨hhead, hlast⟩
    exact ⟨(head_lowerEach_iff t).mpr hhead, (getLast_lowerEach_iff t).mpr hlast⟩

/-- Final sigmas are no halves of a pair: the ends do not tell texts apart that differ in them. -/
theorem SameButFinalSigma.head_iff {s t : Text} (h : SameButFinalSigma s t) {p : UInt16 → Bool}
    (hp : p 0x3C2 = p 0x3C3) : (∀ u ∈ s.head?, p u = false) ↔ ∀ u ∈ t.head?, p u = false := by
  cases h with
  | nil => exact Iff.rfl
  | cons huv _ =>
    rcases huv with rfl | ⟨rfl, rfl⟩
    · exact Iff.rfl
    · simp [hp]

theorem SameButFinalSigma.whole_iff {s t : Text} (h : SameButFinalSigma s t) :
    Whole s ↔ Whole t := by
  have hhead := h.head_iff (p := isLow) (by decide)
  have hreversed : SameButFinalSigma s.reverse t.reverse := List.forall₂_reverse_iff.mpr h
  have hlast := hreversed.head_iff (p := isHigh) (by decide)
  rw [← List.getLast?_eq_head?_reverse, ← List.getLast?_eq_head?_reverse] at hlast
  exact ⟨fun hs => ⟨hhead.mp hs.head, hlast.mp hs.last⟩,
    fun ht => ⟨hhead.mpr ht.head, hlast.mpr ht.last⟩⟩

theorem whole_toLower_iff {t : Text} : Whole t.toLower ↔ Whole t :=
  (toLower_sameButFinalSigma t).whole_iff.trans whole_lowerEach_iff

/-! ### A part and what stands around it -/

/-- **What becomes of a part is found in its place**: behind what becomes of the text before it,
which the dotted capitals there have made longer by one unit each. -/
theorem exists_toLower_eq {t a part c : Text}
    (h : t.codePoints = a.codePoints ++ (part.codePoints ++ c.codePoints)) :
    ∃ x y, t.toLower = x ++ (lowerWithin a part c ++ y) ∧
      x.length = a.length + a.count 0x130 := by
  have hparts := congrArg ofCodePoints
    ((congrArg (lowerPoints []) h).trans (lowerPoints_append [] _ _))
  rw [lowerPoints_append, List.append_nil, ofCodePoints, ofCodePoints, List.flatMap_append,
    List.flatMap_append] at hparts
  refine ⟨_, _, hparts, ?_⟩
  rw [← length_lowerEach]
  exact (lowerBetween_sameButFinalSigma [] a.codePoints _).length_eq

/-- A part with whole characters at both ends is cut out between code points. -/
theorem codePoints_of_whole {part : Text} (h : Whole part) (hne : part ≠ []) (a c : Text) :
    (a ++ (part ++ c)).codePoints = a.codePoints ++ (part.codePoints ++ c.codePoints) := by
  rw [codePoints_append_of_apart, codePoints_append_of_apart]
  · exact fun u hu _ _ hhigh => absurd hhigh (by rw [h.last u hu]; decide)
  · intro _ _ v hv _
    rw [List.head?_append_of_ne_nil _ hne] at hv
    exact h.head v hv

/-- **The sigmas of a pattern keep their forms**: a part of the text has the pattern as its lower
case where it stands exactly when it has it by itself. -/
def KeepsSigmas (t k : Text) : Prop :=
  ∀ i ≤ t.length, ∀ j ≤ t.length,
    (lowerWithin (t.take i) (t.slice i j) (t.drop j) = k ↔ (t.slice i j).toLower = k)

instance (t k : Text) : Decidable (KeepsSigmas t k) :=
  inferInstanceAs (Decidable (∀ i ≤ t.length, ∀ j ≤ t.length, _))

theorem KeepsSigmas.iff {a part c k : Text} (h : KeepsSigmas (a ++ (part ++ c)) k) :
    lowerWithin a part c = k ↔ part.toLower = k := by
  have hsplit := h a.length (by simp) (a.length + part.length) (by simp)
  rwa [List.take_left, slice, ← List.append_assoc, ← List.length_append, List.take_left,
    List.drop_left, List.drop_left] at hsplit

/-- **The dotted capitals of a text keep their two units together**: between the `i` and the dot
that become of one, the text in lower case neither goes on with the pattern nor ends with it. -/
def KeepsDots (t k : Text) : Prop :=
  ∀ q < t.length, t[q]? = some 0x130 →
    ¬k <+: t.toLower.drop (q + (t.take q).count 0x130 + 1) ∧
      ¬k <:+ t.toLower.take (q + (t.take q).count 0x130 + 1)

instance (t k : Text) : Decidable (KeepsDots t k) :=
  inferInstanceAs (Decidable (∀ q < t.length, _ → _))

theorem KeepsDots.of_split {t a c k : Text} (h : KeepsDots t k) (ht : t = a ++ 0x130 :: c) :
    ¬k <+: t.toLower.drop (a.length + a.count 0x130 + 1) ∧
      ¬k <:+ t.toLower.take (a.length + a.count 0x130 + 1) := by
  have hsplit := h a.length (by simp [ht]) (by simp [ht])
  rwa [ht, List.take_left, ← ht] at hsplit

/-! ### Occurrences -/

/-- **A pattern in a lower-case text is what becomes of a part** of the text. -/
theorem exists_of_toLower_eq_append {t x k y : Text} (hk : k ≠ []) (hwhole : Whole k)
    (hdots : KeepsDots t k) (h : t.toLower = x ++ (k ++ y)) :
    ∃ a part c, t = a ++ (part ++ c) ∧ lowerWithin a part c = k ∧
      x.length = a.length + a.count 0x130 := by
  have hsame := toLower_sameButFinalSigma t
  rw [h] at hsame
  obtain ⟨x', l, hl, hx', hsame⟩ := hsame.exists_of_append
  obtain ⟨k', y', rfl, hk', -⟩ := hsame.exists_of_append
  have hxlength : x'.length = x.length := hx'.length_eq.symm
  have hklength : k'.length = k.length := hk'.length_eq.symm
  have hne' : k' ≠ [] := fun hnil => hk (List.forall₂_nil_right_iff.mp (hnil ▸ hk'))
  have hwhole' := hk'.whole_iff.mp hwhole
  -- neither where the pattern begins nor where it ends is a code point cut in two
  obtain ⟨a, b, rfl, rfl, hb⟩ := exists_of_lowerEach_eq_append hl
    (fun _ _ v hv _ => hwhole'.head v (by rwa [List.head?_append_of_ne_nil _ hne'] at hv))
    (fun d e ht heq => (hdots.of_split ht).1 ⟨y, by rw [h, ← heq, hxlength, List.drop_left]⟩)
  obtain ⟨part, c, rfl, rfl, -⟩ := exists_of_lowerEach_eq_append hb
    (fun u hu _ _ hhigh => absurd hhigh (by rw [hwhole'.last u hu]; decide))
    (fun d e hd heq => (hdots.of_split (a := a ++ d) (by rw [hd, List.append_assoc])).2 (by
      have hend : (a ++ d).length + (a ++ d).count 0x130 + 1 = (x ++ k).length := by
        rw [List.length_append, List.length_append, List.count_append, ← hxlength, ← hklength,
          heq, length_lowerEach]
        omega
      rw [hend, h, ← List.append_assoc, List.take_left]
      exact List.suffix_append x k))
  have hpart : Whole part := whole_lowerEach_iff.mp hwhole'
  have hne : part ≠ [] := fun hnil => hne' (by rw [hnil]; rfl)
  refine ⟨a, part, c, rfl, ?_, by rw [← hxlength, length_lowerEach]⟩
  obtain ⟨z, w, hz, hlength⟩ := exists_toLower_eq (codePoints_of_whole hpart hne a c)
  have hrest := (List.append_inj (h.symm.trans hz)
    (by rw [hlength, ← hxlength, length_lowerEach])).2
  exact (List.append_inj hrest (by rw [length_lowerWithin, ← hklength, length_lowerEach])).1.symm

/-- **Where a pattern begins in a lower-case text**: at the place that a part with this lower case
has come to, the dotted capitals before it taking a unit more each. -/
theorem prefix_drop_toLower_iff {t k : Text} {p : ℕ} (hk : k ≠ []) (hwhole : Whole k)
    (hsigmas : KeepsSigmas t k) (hdots : KeepsDots t k) :
    k <+: t.toLower.drop p ↔
      ∃ a part : Text, a ++ part <+: t ∧ part.toLower = k ∧ p = a.length + a.count 0x130 := by
  constructor
  · rintro ⟨y, hy⟩
    have hp : p ≤ t.toLower.length := by
      by_contra hlong
      rw [List.drop_of_length_le (Nat.le_of_not_le hlong)] at hy
      exact hk (List.append_eq_nil_iff.mp hy).1
    have hcut : t.toLower = t.toLower.take p ++ (k ++ y) := by rw [hy, List.take_append_drop]
    obtain ⟨a, part, c, rfl, hlower, hlength⟩ := exists_of_toLower_eq_append hk hwhole hdots hcut
    rw [List.length_take_of_le hp] at hlength
    exact ⟨a, part, ⟨c, List.append_assoc a part c⟩, hsigmas.iff.mp hlower, hlength⟩
  · rintro ⟨a, part, ⟨c, rfl⟩, hlower, rfl⟩
    have hpart : Whole part := whole_toLower_iff.mp (hlower ▸ hwhole)
    have hne : part ≠ [] := fun hnil => hk (by rw [← hlower, hnil]; rfl)
    rw [List.append_assoc] at hsigmas ⊢
    obtain ⟨x, y, hx, hlength⟩ := exists_toLower_eq (codePoints_of_whole hpart hne a c)
    rw [hx, hsigmas.iff.mpr hlower, ← hlength, List.drop_left]
    exact List.prefix_append k y

/-! ### Texts that keep step -/

/-- Sigmas play no part if the text has no capital one or the pattern no small one. -/
theorem keepsSigmas_of_absent {t k : Text} (h : 0x3A3 ∉ t ∨ 0x3C2 ∉ k ∧ 0x3C3 ∉ k) :
    KeepsSigmas t k := by
  intro i _ j _
  rw [← lowerWithin_nil (t.slice i j)]
  rcases h with hno | hk
  · have hpart : 0x3A3 ∉ t.slice i j := fun hmem => hno
      (List.mem_of_mem_take (List.mem_of_mem_drop hmem))
    rw [lowerWithin_eq_lowerEach hpart, lowerWithin_eq_lowerEach hpart]
  · rw [(lowerWithin_sameButFinalSigma _ _ _).eq_iff hk,
      (lowerWithin_sameButFinalSigma _ _ _).eq_iff hk]

/-- Nor do dotted capitals, if the text has none or the pattern neither begins nor ends inside what
becomes of one. -/
theorem keepsDots_of_ends {t k : Text} (hk : k ≠ [])
    (h : 0x130 ∉ t ∨ k.head? ≠ some 0x307 ∧ k.getLast? ≠ some 0x69) : KeepsDots t k := by
  intro q hlt hq
  obtain ⟨hhead, hlast⟩ := h.resolve_left (not_not_intro (List.mem_of_getElem? hq))
  have ht : t = t.take q ++ ([0x130] ++ t.drop (q + 1)) := by
    rw [List.singleton_append, ← (List.getElem?_eq_some_iff.mp hq).2, List.getElem_cons_drop,
      List.take_append_drop]
  have hwhole : Whole [0x130] := by decide
  have hcs := codePoints_of_whole hwhole (List.cons_ne_nil _ _) (t.take q) (t.drop (q + 1))
  rw [← ht] at hcs
  obtain ⟨x, y, hx, hlength⟩ := exists_toLower_eq hcs
  have htwo : lowerWithin (t.take q) [0x130] (t.drop (q + 1)) = [0x69] ++ [0x307] :=
    lowerWithin_eq_lowerEach (by decide) _ _
  rw [List.length_take_of_le (Nat.le_of_lt hlt)] at hlength
  have hbetween : q + (t.take q).count 0x130 + 1 = (x ++ [0x69]).length := by
    rw [← hlength, List.length_append]
    rfl
  rw [hbetween, hx, htwo, List.append_assoc, ← List.append_assoc, List.drop_left, List.take_left]
  constructor
  · intro hgoes
    obtain ⟨k', rfl, -⟩ := (List.prefix_cons_iff.mp hgoes).resolve_left hk
    exact hhead rfl
  · intro hends
    obtain ⟨k', rfl, -⟩ := (List.suffix_concat_iff.mp hends).resolve_left hk
    exact hlast List.getLast?_concat

/-- Both conditions can hold of what is not absent: a word that ends in a sigma where it stands and
by itself, and a pattern with an `i` at its end that no dotted capital follows. -/
example : KeepsSigmas "ΟΔΟΣ 5" "οδος" ∧ KeepsDots "İzmir hi" "hi" := by
  decide +kernel

/-! ### Upper case -/

/-- The runs of upper case lead to no surrogate. -/
theorem upperRuns_keep_scalars : ∀ r ∈ upperRuns,
    (r.last + r.delta < 0xD800 ∨ 0xE000 ≤ r.first + r.delta) ∧ 0 ≤ r.first + r.delta ∧
      r.last + r.delta ≤ 0x10FFFF := by
  decide +kernel

theorem upperExpansions_are_scalars : ∀ e ∈ upperExpansions, ∀ c ∈ e.2, isScalar c = true := by
  decide +kernel

theorem isScalar_of_mem_upperPoint {c d : ℕ} (hc : isScalar c = true) (hd : d ∈ upperPoint c) :
    isScalar d = true := by
  rw [upperPoint] at hd
  split at hd
  · -- an ASCII character stays one
    obtain rfl := List.mem_singleton.mp hd
    rw [isScalar_iff]
    split <;> omega
  · split at hd
    · rename_i cs hlookup
      obtain ⟨before, after, heq, -⟩ := List.lookup_eq_some_iff.mp hlookup
      exact upperExpansions_are_scalars (c, cs) (heq ▸ List.mem_append_right _ List.mem_cons_self)
        d hd
    · obtain rfl := List.mem_singleton.mp hd
      rcases shiftCase_cases upperRuns c with hsame | ⟨r, hr, hfirst, hlast, hmoved⟩
      · rw [hsame, hc]
      · have hkeep := upperRuns_keep_scalars r hr
        rw [hmoved, isScalar_iff]
        omega

/-- **Upper case makes no lone surrogates.** -/
theorem wellFormed_toUpper {t : Text} (h : t.wellFormed = true) : t.toUpper.wellFormed = true := by
  refine wellFormed_ofCodePoints fun d hd => ?_
  obtain ⟨c, hc, hd⟩ := List.mem_flatMap.mp hd
  exact isScalar_of_mem_upperPoint (List.all_eq_true.mp h c hc) hd

end LineAgents.Text
