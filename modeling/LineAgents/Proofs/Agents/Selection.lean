import LineAgents.Agents.DefiYields
import LineAgents.Proofs.Number.Order
import LineAgents.Proofs.Number.Whole
import LineAgents.Proofs.Text.Case
import LineAgents.Proofs.Text.Search

/-!
# The best pools

`LineAgents.DefiYields.best` filters, sorts and cuts off. What comes out is described without any of
the three: as the places of a list of pools, those that match, the greater yields ahead and pools of
equal yield in the order of the list, and of those as many as the limit allows
(`LineAgents.DefiYields.exists_places_best`).

* `LineAgents.DefiYields.Matches` says which pools match, and
  `LineAgents.DefiYields.Filter.accepts_iff` that they are those that pass the filter.
* Yields are compared by their ranks, so the comparison is a total one as soon as all of them are
  numbers (`LineAgents.DefiYields.noWorse_eq`); and a stable sort keeps in order what it need not
  put in order (`LineAgents.DefiYields.pairwise_mergeSort_of_pairwise`).
* `LineAgents.DefiYields.length_cutOff` says how many are left.
-/

namespace LineAgents.DefiYields

/-! ### Which pools match -/

/-- **A pool that matches a filter.** It has a symbol with the token in it, in any case, and a
yield; it is on the chain, in any case, if one is given that is not empty; and the value locked in
it, zero if it is missing, is no less than the least one, if that is given and not zero. -/
structure Matches (f : Filter) (p : Pool) : Prop where
  symbol : ∃ symbol, p.text? "symbol" = some symbol ∧ symbol ≠ [] ∧
    f.token.toLower <:+: symbol.toLower
  yield : p.yield?.isSome = true
  chain : ∀ chain, f.chain = some chain → chain ≠ [] →
    Text.toLower ((p.text? "chain").getD []) = chain.toLower
  locked : ∀ least, f.leastLocked = some least → (least == 0) = false →
    ¬(p.number? "tvlUsd").getD 0 < least

namespace Filter

variable {f : Filter} {p : Pool}

theorem hasToken_iff : f.hasToken p = true ↔
    (∃ symbol, p.text? "symbol" = some symbol ∧ symbol ≠ [] ∧
      f.token.toLower <:+: symbol.toLower) ∧ p.yield?.isSome = true := by
  unfold hasToken
  cases p.text? "symbol" with
  | none => simp
  | some symbol => cases p.yield? <;> simp [Text.contains_iff]

theorem onChain_iff : f.onChain p = true ↔ ∀ chain, f.chain = some chain → chain ≠ [] →
    Text.toLower ((p.text? "chain").getD []) = chain.toLower := by
  unfold onChain
  cases f.chain with
  | none => simp
  | some chain =>
    rcases eq_or_ne chain [] with rfl | hne
    · simp [Text.toLower_eq_nil_iff]
    · have hlower : chain.toLower ≠ [] := mt Text.toLower_eq_nil_iff.mp hne
      simp [hne, hlower]

/-- A least value that is no number rules nothing out. -/
theorem locksEnough_iff : f.locksEnough p = true ↔ ∀ least, f.leastLocked = some least →
    (least == 0) = false → ¬(p.number? "tvlUsd").getD 0 < least := by
  unfold locksEnough
  cases f.leastLocked with
  | none => simp [significant]
  | some least =>
    rw [significant, Option.filter_some]
    cases hzero : least == 0 with
    | true => simp [hzero]
    | false =>
      cases hnan : Number.isNaN least with
      | true =>
        have hno : ¬(p.number? "tvlUsd").getD 0 < least := fun hlt => by
          rw [(Number.not_isNaN_of_lt hlt).2] at hnan
          cases hnan
        simp [hzero, hno]
      | false => simp [hzero]

/-- **The pools that pass the filter are those that match.** -/
theorem accepts_iff : f.accepts p = true ↔ Matches f p := by
  rw [accepts, Bool.and_eq_true, Bool.and_eq_true, hasToken_iff, onChain_iff, locksEnough_iff]
  exact ⟨fun ⟨⟨⟨hsymbol, hyield⟩, hchain⟩, hlocked⟩ => ⟨hsymbol, hyield, hchain, hlocked⟩,
    fun h => ⟨⟨⟨h.symbol, h.yield⟩, h.chain⟩, h.locked⟩⟩

end Filter

instance (f : Filter) (p : Pool) : Decidable (Matches f p) :=
  decidable_of_iff _ Filter.accepts_iff

theorem filter_accepts (f : Filter) (pools : List Pool) :
    pools.filter f.accepts = pools.filter (Matches f ·) :=
  List.filter_congr fun p _ => by rw [Bool.eq_iff_iff, Filter.accepts_iff, decide_eq_true_iff]

theorem length_filter_accepts (f : Filter) (pools : List Pool) :
    (pools.filter f.accepts).length = pools.countP (Matches f ·) := by
  rw [filter_accepts, List.countP_eq_length_filter]

/-! ### Sorting -/

/-- **A stable sort keeps in order what it need not put in order**: whatever holds of elements in
their order holds of those that are as good as each other after sorting. -/
theorem pairwise_mergeSort_of_pairwise {α : Type} {le : α → α → Bool}
    (htrans : ∀ a b c, le a b = true → le b c = true → le a c = true)
    (htotal : ∀ a b, (le a b || le b a) = true) {R : α → α → Prop} {l : List α}
    (h : l.Pairwise R) :
    (l.mergeSort le).Pairwise fun a b => le a b = true ∧ (le b a = true → R a b) := by
  -- the sort is that of the elements with their places, which decide where the elements do not
  have hsorted := List.pairwise_mergeSort (List.zipIdxLE_trans htrans)
    (List.zipIdxLE_total htotal) l.zipIdx
  have hdistinct : (l.zipIdx.mergeSort (List.zipIdxLE le)).Pairwise fun a b => a.2 ≠ b.2 := by
    rw [(List.mergeSort_perm _ _).pairwise_iff Ne.symm, ← List.pairwise_map,
      List.zipIdx_map_snd]
    exact List.nodup_range'
  rw [← List.mergeSort_zipIdx, List.pairwise_map]
  refine (hsorted.and hdistinct).imp_of_mem fun {a b} ha hb hab => ?_
  obtain ⟨hle, hne⟩ := hab
  rw [List.zipIdxLE] at hle
  split at hle
  · next hle' =>
    refine ⟨hle', fun hback => ?_⟩
    rw [if_pos hback, decide_eq_true_eq] at hle
    obtain ⟨hia, hva⟩ := List.mem_zipIdx' (List.mem_mergeSort.mp ha)
    obtain ⟨hib, hvb⟩ := List.mem_zipIdx' (List.mem_mergeSort.mp hb)
    rw [hva, hvb]
    exact List.pairwise_iff_getElem.mp h _ _ hia hib (Nat.lt_of_le_of_ne hle hne)
  · cases hle

/-- A pool whose yield, if it is known, is a number. -/
def Pool.Numeric (p : Pool) : Prop := ∀ x, p.yield? = some x → Number.isNaN x = false

/-- **The grade of a pool**: the rank of its yield. -/
def Pool.grade (p : Pool) : ℤ := Number.rank (p.yield?.getD 0)

theorem Pool.Numeric.getD {p : Pool} (h : p.Numeric) :
    Number.isNaN (p.yield?.getD 0) = false := by
  cases hyield : p.yield? with
  | none => rfl
  | some x => exact h x hyield

/-- Whether `a` may stand before `b`, by their grades. -/
def noLower (a b : Pool) : Bool := decide (b.grade ≤ a.grade)

theorem noLower_trans (a b c : Pool) (hab : noLower a b = true) (hbc : noLower b c = true) :
    noLower a c = true := by
  rw [noLower, decide_eq_true_iff] at hab hbc ⊢
  exact hbc.trans hab

theorem noLower_total (a b : Pool) : (noLower a b || noLower b a) = true := by
  simpa [noLower] using Int.le_total b.grade a.grade

/-- **Yields that are numbers are compared by their ranks.** -/
theorem noWorse_eq {a b : Pool} (ha : a.Numeric) (hb : b.Numeric) :
    noWorse a b = noLower a b := by
  rw [Bool.eq_iff_iff]
  simp only [noWorse, noLower, Bool.not_eq_true', decide_eq_false_iff_not, decide_eq_true_eq,
    gt_iff_lt, Number.lt_iff_rank_lt ha.getD hb.getD, Int.not_lt]
  rfl

/-! ### Cutting off -/

section

variable {α β : Type} {limit : Float}

theorem cutOff_map (g : α → β) (xs : List α) :
    cutOff limit (xs.map g) = (cutOff limit xs).map g := by
  unfold cutOff
  split_ifs
  · rfl
  · rw [List.map_take, List.length_map]
  · rfl
  · rw [List.map_take]
  · rfl

/-- What is left is the beginning. -/
theorem cutOff_beginning (limit : Float) (xs : List α) : cutOff limit xs <+: xs := by
  unfold cutOff
  split_ifs
  · exact List.nil_prefix
  · exact List.take_prefix _ _
  · exact List.nil_prefix
  · exact List.take_prefix _ _
  · exact List.prefix_rfl

/-- **As many are left as the limit allows**, if it is not negative or not finite. -/
theorem length_cutOff (hnan : Number.isNaN limit = false)
    (hneg : limit < 0 → Number.isFinite limit = false) (xs : List α) :
    ((cutOff limit xs).length : ℕ∞) = min (Number.wholePart limit) xs.length := by
  unfold cutOff
  rw [hnan, if_neg Bool.false_ne_true]
  by_cases h : limit < 0
  · rw [if_pos h, hneg h, if_neg Bool.false_ne_true, Number.wholePart_of_neg h]
    simp
  · rw [if_neg h, Number.wholePart_of_not_neg hnan h]
    split_ifs
    · rw [List.length_take]
      exact (Nat.mono_cast (α := ℕ∞)).map_min
    · simp

end

/-! ### Places -/

/-- **A place is ahead of another** if its pool yields more, or if the two yield the same and it
comes first in the list. -/
def Ahead (pools : List Pool) (i j : ℕ) : Prop :=
  ∃ p q x y, pools[i]? = some p ∧ pools[j]? = some q ∧ p.yield? = some x ∧ q.yield? = some y ∧
    (y < x ∨ (x == y) = true ∧ i < j)

/-- The pools that match, with their places. -/
def candidates (pools : List Pool) (f : Filter) : List (Pool × ℕ) :=
  pools.zipIdx.filter fun e => f.accepts e.1

/-- The pools that match, with their places, in the order of their yields. -/
def ranking (pools : List Pool) (f : Filter) : List (Pool × ℕ) :=
  (candidates pools f).mergeSort fun a b => noLower a.1 b.1

section

variable {pools : List Pool} {f : Filter}

theorem mem_candidates {e : Pool × ℕ} :
    e ∈ candidates pools f ↔ pools[e.2]? = some e.1 ∧ Matches f e.1 := by
  rw [candidates, List.mem_filter, List.mem_zipIdx_iff_getElem?, Filter.accepts_iff]

theorem map_fst_candidates : (candidates pools f).map Prod.fst = pools.filter f.accepts := by
  have hfilter := List.filter_map (f := Prod.fst) (p := f.accepts) (l := pools.zipIdx)
  rw [List.zipIdx_map_fst] at hfilter
  exact hfilter.symm

theorem length_candidates : (candidates pools f).length = pools.countP (Matches f ·) := by
  rw [← List.length_map Prod.fst, map_fst_candidates, length_filter_accepts]

/-- **The best pools are the first of the ranking.** -/
theorem best_eq (hnum : ∀ p ∈ pools, p.Numeric) :
    best pools f = (cutOff f.limit (ranking pools f)).map Prod.fst := by
  rw [← cutOff_map, best, ranking, ← map_fst_candidates, List.map_mergeSort]
  intro a ha b hb
  have hnumeric : ∀ e ∈ candidates pools f, e.1.Numeric := fun e he =>
    hnum e.1 (List.mem_of_getElem? (mem_candidates.mp he).1)
  exact (noWorse_eq (hnumeric a ha) (hnumeric b hb)).symm

/-- Every pool of the ranking has its place in the list. -/
theorem getElem?_of_mem_chosen {e : Pool × ℕ} (he : e ∈ cutOff f.limit (ranking pools f)) :
    pools[e.2]? = some e.1 :=
  (mem_candidates.mp (List.mem_mergeSort.mp ((cutOff_beginning _ _).subset he))).1

/-- **The best pools are those at their places.** -/
theorem map_some_best (hnum : ∀ p ∈ pools, p.Numeric) : (best pools f).map some =
    ((cutOff f.limit (ranking pools f)).map Prod.snd).map (pools[·]?) := by
  rw [best_eq hnum, List.map_map, List.map_map]
  exact List.map_congr_left fun e he => (getElem?_of_mem_chosen he).symm

/-- In the ranking grades do not rise, and equal ones come in the order of the list. -/
theorem pairwise_ranking : (ranking pools f).Pairwise fun a b =>
    b.1.grade ≤ a.1.grade ∧ (a.1.grade ≤ b.1.grade → a.2 < b.2) := by
  have hplaces : (candidates pools f).Pairwise fun a b => a.2 < b.2 := by
    refine List.Pairwise.filter _ ?_
    rw [← List.pairwise_map, List.zipIdx_map_snd]
    exact List.pairwise_lt_range'
  have htrans : ∀ a b c : Pool × ℕ, noLower a.1 b.1 = true → noLower b.1 c.1 = true →
      noLower a.1 c.1 = true := fun a b c => noLower_trans a.1 b.1 c.1
  have htotal : ∀ a b : Pool × ℕ, (noLower a.1 b.1 || noLower b.1 a.1) = true := fun a b =>
    noLower_total a.1 b.1
  refine (pairwise_mergeSort_of_pairwise htrans htotal hplaces).imp fun {a b} hab => ?_
  simpa [noLower] using hab

/-- Who comes first in the ranking is ahead. -/
theorem ahead_of_grade (hnum : ∀ p ∈ pools, p.Numeric) {a b : Pool × ℕ}
    (ha : a ∈ candidates pools f) (hb : b ∈ candidates pools f)
    (h : b.1.grade ≤ a.1.grade ∧ (a.1.grade ≤ b.1.grade → a.2 < b.2)) :
    Ahead pools a.2 b.2 := by
  obtain ⟨hplacea, hmatcha⟩ := mem_candidates.mp ha
  obtain ⟨hplaceb, hmatchb⟩ := mem_candidates.mp hb
  obtain ⟨x, hx⟩ := Option.isSome_iff_exists.mp hmatcha.yield
  obtain ⟨y, hy⟩ := Option.isSome_iff_exists.mp hmatchb.yield
  have hnx := hnum _ (List.mem_of_getElem? hplacea) x hx
  have hny := hnum _ (List.mem_of_getElem? hplaceb) y hy
  rw [Pool.grade, Pool.grade, hx, hy, Option.getD_some, Option.getD_some] at h
  refine ⟨a.1, b.1, x, y, hplacea, hplaceb, hx, hy, ?_⟩
  rw [Number.lt_iff_rank_lt hny hnx, Number.beq_iff_rank_eq hnx hny]
  rcases Int.lt_or_eq_of_le h.1 with hlt | heq
  · exact Or.inl hlt
  · exact Or.inr ⟨heq.symm, h.2 heq.ge⟩

end

/-- **The best pools are those of the list that match and yield most**, as many as the limit allows.
They are the pools at some places of the list. Every one of them matches; there are as many as the
limit and the number of pools that match allow; the greater yields are ahead, and pools of equal
yield stand in the order of the list; and every place of a match that is left out comes behind all
of them in the same way. -/
theorem exists_places_best {pools : List Pool} {f : Filter}
    (hnum : ∀ p ∈ pools, p.Numeric) (hnan : Number.isNaN f.limit = false)
    (hneg : f.limit < 0 → Number.isFinite f.limit = false) :
    ∃ places : List ℕ,
      (best pools f).map some = places.map (pools[·]?) ∧
      (∀ i ∈ places, ∃ p, pools[i]? = some p ∧ Matches f p) ∧
      (places.length : ℕ∞) =
        min (Number.wholePart f.limit) (pools.countP (Matches f ·)) ∧
      places.Pairwise (Ahead pools) ∧
      ∀ j p, pools[j]? = some p → Matches f p → j ∉ places →
        ∀ i ∈ places, Ahead pools i j := by
  obtain ⟨rest, hrest⟩ := cutOff_beginning f.limit (ranking pools f)
  have hlength := length_cutOff hnan hneg (ranking pools f)
  have hbest := map_some_best (f := f) hnum
  generalize cutOff f.limit (ranking pools f) = chosen at hrest hlength hbest
  have hmem : ∀ e, e ∈ candidates pools f ↔ e ∈ chosen ∨ e ∈ rest := fun e => by
    rw [← List.mem_append, hrest, ranking, List.mem_mergeSort]
  have hpairwise := @pairwise_ranking pools f
  rw [← hrest, List.pairwise_append] at hpairwise
  obtain ⟨hchosen, -, hacross⟩ := hpairwise
  refine ⟨chosen.map Prod.snd, hbest, ?_, ?_, ?_, ?_⟩
  · rw [List.forall_mem_map]
    exact fun e he => ⟨e.1, mem_candidates.mp ((hmem e).mpr (Or.inl he))⟩
  · rw [List.length_map, hlength, ranking, List.length_mergeSort, length_candidates]
  · rw [List.pairwise_map]
    exact hchosen.imp_of_mem fun {a b} ha hb hab =>
      ahead_of_grade hnum ((hmem a).mpr (Or.inl ha)) ((hmem b).mpr (Or.inl hb)) hab
  · intro j p hp hmatch hout
    rw [List.forall_mem_map]
    intro e he
    have hleft : (p, j) ∈ rest :=
      ((hmem (p, j)).mp (mem_candidates.mpr ⟨hp, hmatch⟩)).resolve_left fun hin =>
        hout (List.mem_map.mpr ⟨(p, j), hin, rfl⟩)
    exact ahead_of_grade hnum ((hmem e).mpr (Or.inl he)) ((hmem (p, j)).mpr (Or.inr hleft))
      (hacross e he (p, j) hleft)

/-- One of two pools that match, the third being of another token. -/
theorem exists_places_best_of_three :
    let pool (symbol : Text) (apy : Float) : Pool :=
      ⟨[(Text.ofString "symbol", .str symbol), (Text.ofString "apy", .num apy)]⟩
    let pools := [pool "USDC" 3, pool "DAI" 9, pool "usdt" 5]
    let f : Filter := { token := "USD", limit := 1 }
    (∀ p ∈ pools, p.Numeric) ∧ Number.isNaN f.limit = false ∧
      (f.limit < 0 → Number.isFinite f.limit = false) ∧
      ∃ places : List ℕ, (best pools f).map some = places.map (pools[·]?) ∧
        places.length = 1 ∧ ∀ i ∈ places, ∃ p, pools[i]? = some p ∧ Matches f p := by
  intro pool pools f
  have hnum : ∀ p ∈ pools, p.Numeric := by
    intro p hp x hx
    have hyield : ∀ p ∈ pools, (p.yield?.map Number.isNaN).getD false = false := by decide +kernel
    have hnan := hyield p hp
    rwa [hx] at hnan
  have hnan : Number.isNaN f.limit = false := by decide
  have hneg : f.limit < 0 → Number.isFinite f.limit = false := fun h => absurd h (by decide)
  have hlimit : Number.wholePart f.limit = 1 := by
    have hwhole : Number.truncNat f.limit = 1 := by decide
    rw [Number.wholePart_of_not_neg hnan (by decide), if_pos (by decide), hwhole]
    rfl
  have hcount : pools.countP (Matches f ·) = 2 := by decide +kernel
  obtain ⟨places, hplaces, hmatch, hlength, -⟩ := exists_places_best hnum hnan hneg
  rw [hlimit, hcount, min_eq_left (by norm_num)] at hlength
  exact ⟨hnum, hnan, hneg, places, hplaces, by exact_mod_cast hlength, hmatch⟩

end LineAgents.DefiYields
