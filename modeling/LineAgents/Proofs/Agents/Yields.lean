import LineAgents.Proofs.Agents.Selection
import LineAgents.Proofs.Json.Reading
import LineAgents.Proofs.Outside.Sequence
import LineAgents.Proofs.Text.Utf8

/-!
# Answers about yields

The answer of the yield agent depends on the listing that it fetches, and on little of it: neither
on the entries that it has no use for nor, as long as no two matching pools yield the same, on the
order of the others. What is told is told of entries of the listing, of each at most once, and of no
more than the limit allows (`LineAgents.DefiYields.compute_of_listing`).

* `LineAgents.DefiYields.outcome_of_lists` computes the outcome from the entries.
* `LineAgents.DefiYields.filter_accepts_useful` and `LineAgents.DefiYields.mergeSort_eq_of_perm` are
  the laws of the selection. The second rests on the numbers of a listing being numbers
  (`LineAgents.DefiYields.numeric_of_lists`), so that different yields have different grades and a
  sorted list is the only one of its pools.
* `LineAgents.DefiYields.subperm_best` finds the best pools among the entries, and
  `LineAgents.DefiYields.length_best` counts them.
-/

namespace LineAgents.DefiYields

/-! ### Listings -/

/-- **A world whose next reply lists entries**: it is no error, and its body is an object that has
them as its `data`. -/
def Lists (w : World) (items : List Json) : Prop :=
  ∃ (r : Http.Reply) (rest : List (Except Failure Http.Reply)) (fs : Fields),
    w.replies = .ok r :: rest ∧ r.ok = true ∧ r.json = .ok (.obj fs) ∧
      fs.get? "data" = some (.arr items)

/-- The pools among entries. -/
def poolsOf (items : List Json) : List Pool := items.filterMap Pool.ofJson?

variable {params p : Fields} {w : World} {items items' : List Json} {f : Filter}

/-- A world whose reply is a listing of the entries. -/
def listing (items : List Json) : World :=
  { replies := [.ok
      { status := 200, body := Utf8.encode (Json.obj [("data", .arr items)]).render }] }

/-- **Every listing of plain numbers can be replied.** -/
theorem lists_listing (h : (Json.arr items).Tidy Number.Plain) : Lists (listing items) items := by
  refine ⟨_, [], [("data", .arr items)], rfl, rfl, ?_, rfl⟩
  have htidy : (Json.obj [("data", .arr items)]).Tidy Number.Plain := by
    simp only [Json.Tidy, Json.TidyFields, Json.TidyField] at h ⊢
    exact ⟨List.pairwise_singleton _ _, h, trivial⟩
  have hread : (Json.obj [("data", .arr items)]).reread = .obj [("data", .arr items)] :=
    Json.reread_eq_self (fun x hx => ⟨hx.1, Number.unsignZero_eq_self hx⟩) htidy
  rw [Http.Reply.json, Http.Reply.text, Utf8.decode_encode (Json.printable_render _).wellFormed,
    Json.parse?_render, hread]

/-- **The outcome for a listing.** -/
theorem outcome_of_lists (hp : schema.parse params = .ok p) (hw : Lists w items) :
    (w.run (capability.compute params)).outcome = .ok (answer (filterOf p) (poolsOf items)) := by
  obtain ⟨r, rest, fs, hreplies, hok, hjson, hdata⟩ := hw
  have hpools : poolsOf? (.obj fs) = some (poolsOf items) := by
    rw [poolsOf?, hdata]
    rfl
  have hfetch : (w.run fetchPools).outcome = .ok (poolsOf items) := by
    have hreply : (w.run (Program.fetch { url := poolsUrl, timeout := some 30000 })).outcome =
        .ok r := by
      change (w.nextReply _).1 = _
      rw [World.nextReply, hreplies]
    have hread : ((w.run (Program.fetch { url := poolsUrl, timeout := some 30000 })).world.run
        (Program.lift r.json)).outcome = .ok (.obj fs) := by
      rw [hjson]
      rfl
    rw [fetchPools, World.run_bind_of_ok hreply, if_pos hok, World.run_bind_of_ok hread, hpools]
    rfl
  have hcompute : capability.compute params =
      fetchPools >>= fun pools => pure (answer (filterOf p) pools) := by
    change (Program.lift (schema.parse params) >>= _) = _
    rw [hp]
    rfl
  rw [hcompute, World.run_bind_of_ok hfetch]
  rfl

/-- A pool is the record that its entry is. -/
theorem eq_obj_of_ofJson? {v : Json} {q : Pool} (h : Pool.ofJson? v = some q) :
    v = .obj q.members := by
  cases v with
  | obj fs =>
    rw [Pool.ofJson?] at h
    split at h
    · obtain rfl := Option.some_inj.mp h
      rfl
    · cases h
  | _ => cases h

/-- The yields of listed pools are numbers. -/
theorem numeric_of_lists (hw : Lists w items) : ∀ q ∈ poolsOf items, q.Numeric := by
  obtain ⟨r, rest, fs, -, -, hjson, hdata⟩ := hw
  have htidy : Json.Tidy (fun x => Number.isNaN x = false) (.obj fs) := by
    rw [Http.Reply.json] at hjson
    split at hjson
    · next v hparse =>
      obtain rfl : v = .obj fs := Except.ok.inj hjson
      exact Json.isNaN_of_parse? hparse
    · cases hjson
  have hlisted := Json.tidy_of_get? htidy hdata
  rw [Json.Tidy] at hlisted
  intro q hq x hx
  obtain ⟨item, hitem, hpool⟩ := List.mem_filterMap.mp hq
  obtain ⟨v, hv, hnumber⟩ := Option.bind_eq_some_iff.mp hx
  have hentry := Json.tidyItems_iff.mp hlisted item hitem
  rw [eq_obj_of_ofJson? hpool] at hentry
  have hyield := Json.tidy_of_get? hentry hv
  cases v with
  | num y =>
    rw [Json.Tidy] at hyield
    rwa [← Option.some_inj.mp hnumber]
  | _ => cases hnumber

/-! ### Entries without a use -/

/-- Whether there is a use for an entry: it is a pool, with a symbol and a yield. -/
def useful (item : Json) : Bool :=
  match Pool.ofJson? item with
  | some q => (q.text? "symbol").any (!·.isEmpty) && q.yield?.isSome
  | none => false

/-- What matches is useful. -/
theorem useful_of_accepts {item : Json} {q : Pool} (hpool : Pool.ofJson? item = some q)
    (h : f.accepts q = true) : useful item = true := by
  obtain ⟨⟨symbol, hsymbol, hne, -⟩, hyield, -, -⟩ := Filter.accepts_iff.mp h
  rw [useful, hpool]
  simp [hsymbol, hyield, hne]

/-- **Entries without a use make no difference** to the pools that match. -/
theorem filter_accepts_useful (f : Filter) (items : List Json) :
    (poolsOf (items.filter useful)).filter f.accepts = (poolsOf items).filter f.accepts := by
  induction items with
  | nil => rfl
  | cons item items ih =>
    unfold poolsOf at ih ⊢
    rw [List.filter_cons, List.filterMap_cons]
    cases hpool : Pool.ofJson? item with
    | none =>
      have huseless : useful item = false := by rw [useful, hpool]
      rw [huseless, if_neg Bool.false_ne_true]
      exact ih
    | some q =>
      cases huse : useful item with
      | true =>
        rw [if_pos rfl, List.filterMap_cons, hpool, List.filter_cons, List.filter_cons, ih]
      | false =>
        have hrefused : ¬f.accepts q = true := fun h => by
          rw [useful_of_accepts hpool h] at huse
          cases huse
        rw [if_neg Bool.false_ne_true, List.filter_cons, if_neg hrefused]
        exact ih

theorem answer_congr_of_useful (h : items.filter useful = items'.filter useful) :
    answer f (poolsOf items) = answer f (poolsOf items') := by
  have hmatch : (poolsOf items).filter f.accepts = (poolsOf items').filter f.accepts := by
    rw [← filter_accepts_useful, h, filter_accepts_useful]
  unfold answer best
  rw [hmatch]

/-! ### Orders of entries -/

/-- **Different yields leave one order only.** -/
theorem mergeSort_eq_of_perm {l l' : List Pool} (hperm : l.Perm l') (hnum : ∀ q ∈ l, q.Numeric)
    (hgrades : (l.map Pool.grade).Nodup) : l.mergeSort noWorse = l'.mergeSort noWorse := by
  have hgraded : ∀ k : List Pool, (∀ q ∈ k, q.Numeric) →
      k.mergeSort noWorse = k.mergeSort noLower := by
    intro k hk
    have hmap := List.map_mergeSort (r := noWorse) (s := noLower) (f := id) (l := k)
      fun a ha b hb => noWorse_eq (hk a ha) (hk b hb)
    rwa [List.map_id, List.map_id] at hmap
  rw [hgraded l hnum, hgraded l' fun q hq => hnum q (hperm.mem_iff.mpr hq)]
  refine List.Perm.eq_of_pairwise (fun a b ha hb hab hba => ?_)
    (List.pairwise_mergeSort noLower_trans noLower_total l)
    (List.pairwise_mergeSort noLower_trans noLower_total l')
    ((List.mergeSort_perm l _).trans (hperm.trans (List.mergeSort_perm l' _).symm))
  rw [noLower, decide_eq_true_iff] at hab hba
  exact List.inj_on_of_nodup_map hgrades (List.mem_mergeSort.mp ha)
    (hperm.mem_iff.mpr (List.mem_mergeSort.mp hb)) (Int.le_antisymm hba hab)

/-- Yields that are not equal have different grades. -/
theorem nodup_grades {l : List Pool} (hnum : ∀ q ∈ l, q.Numeric)
    (hknown : ∀ q ∈ l, q.yield?.isSome = true)
    (hdistinct : l.Pairwise fun q q' => ∀ x y, q.yield? = some x → q'.yield? = some y →
      (x == y) = false) : (l.map Pool.grade).Nodup := by
  rw [List.Nodup, List.pairwise_map]
  refine hdistinct.imp_of_mem fun {q q'} hq hq' hne => ?_
  obtain ⟨x, hx⟩ := Option.isSome_iff_exists.mp (hknown q hq)
  obtain ⟨y, hy⟩ := Option.isSome_iff_exists.mp (hknown q' hq')
  have hxy := hne x y hx hy
  intro hgrade
  rw [Pool.grade, Pool.grade, hx, hy] at hgrade
  rw [(Number.beq_iff_rank_eq (hnum q hq x hx) (hnum q' hq' y hy)).mpr hgrade] at hxy
  cases hxy

/-- **The order of the entries makes no difference** if the pools that match differ in yield. -/
theorem answer_congr_of_perm (hw : Lists w items) (hperm : items.Perm items')
    (hdistinct : ((poolsOf items).filter (Matches f ·)).Pairwise fun q q' =>
      ∀ x y, q.yield? = some x → q'.yield? = some y → (x == y) = false) :
    answer f (poolsOf items) = answer f (poolsOf items') := by
  rw [← filter_accepts] at hdistinct
  have hnum : ∀ q ∈ (poolsOf items).filter f.accepts, q.Numeric := fun q hq =>
    numeric_of_lists hw q (List.mem_filter.mp hq).1
  have hknown : ∀ q ∈ (poolsOf items).filter f.accepts, q.yield?.isSome = true := fun q hq =>
    (Filter.accepts_iff.mp (List.mem_filter.mp hq).2).yield
  have hpools : (poolsOf items).Perm (poolsOf items') := hperm.filterMap _
  have hsort := mergeSort_eq_of_perm (hpools.filter f.accepts) hnum
    (nodup_grades hnum hknown hdistinct)
  unfold answer best
  rw [hsort]

/-! ### What is told -/

/-- **The best pools are entries of the listing**, none of which is taken twice. -/
theorem subperm_best (f : Filter) (items : List Json) :
    ((best (poolsOf items) f).map fun q => Json.obj q.members).Subperm items := by
  have hentries : ((poolsOf items).map fun q => Json.obj q.members).Sublist items := by
    induction items with
    | nil => exact List.Sublist.refl _
    | cons item items ih =>
      unfold poolsOf at ih ⊢
      rw [List.filterMap_cons]
      cases hpool : Pool.ofJson? item with
      | none => exact ih.cons item
      | some q =>
        rw [eq_obj_of_ofJson? hpool]
        exact ih.cons_cons _
  have hsorted : (((poolsOf items).filter f.accepts).mergeSort noWorse).Subperm (poolsOf items) :=
    (List.mergeSort_perm _ _).subperm.trans List.filter_sublist.subperm
  have hbest : (best (poolsOf items) f).Subperm (poolsOf items) :=
    (cutOff_beginning _ _).sublist.subperm.trans hsorted
  have hinjective : Function.Injective fun q : Pool => Json.obj q.members :=
    fun ⟨_⟩ ⟨_⟩ h => congrArg Pool.mk (Json.obj.inj h)
  exact (hbest.map hinjective).trans hentries.subperm

/-- A pool that was listed is read off its record again. -/
theorem ofJson?_of_mem_best {q : Pool} (hq : q ∈ best (poolsOf items) f) :
    Pool.ofJson? (.obj q.members) = some q := by
  have hmatch := List.mem_mergeSort.mp ((cutOff_beginning _ _).subset hq)
  obtain ⟨item, -, hpool⟩ := List.mem_filterMap.mp (List.mem_filter.mp hmatch).1
  rwa [← eq_obj_of_ofJson? hpool]

/-- The limit of a filter is a number that is not negative. -/
theorem not_neg_wholeLimit (x : Float) :
    Number.isNaN (wholeLimit x) = false ∧ ¬wholeLimit x < 0 := by
  unfold wholeLimit
  dsimp only
  split_ifs with hpos
  · exact ⟨(Number.not_isNaN_of_lt hpos).2, Number.not_lt_of_lt hpos⟩
  · exact ⟨rfl, by decide⟩

/-- The limit of a filter allows what was asked for. -/
theorem wholePart_wholeLimit (x : Float) :
    Number.wholePart (wholeLimit x) = Number.wholePart x := by
  unfold wholeLimit
  dsimp only
  split_ifs with hpos
  · exact Number.wholePart_trunc x
  · rw [Number.wholePart_of_not_pos (by decide), ← Number.wholePart_trunc,
      Number.wholePart_of_not_pos hpos]

/-- **As many pools are told of as match**, but no more than were asked for. -/
theorem length_best (p : Fields) (pools : List Pool) :
    ((best pools (filterOf p)).length : ℕ∞) =
      min (Number.wholePart (p.number "limit")) (pools.countP (Matches (filterOf p) ·)) := by
  obtain ⟨hnum, hneg⟩ := not_neg_wholeLimit (p.number "limit")
  have hlength := length_cutOff hnum (absurd · hneg)
    ((pools.filter (filterOf p).accepts).mergeSort noWorse)
  rwa [wholePart_wholeLimit, List.length_mergeSort, length_filter_accepts] at hlength

/-- **The laws of the answer for a listing.** For checked parameters and a reply that lists entries,
the answer is the same for every reply whose listing differs only in entries without a use, wherever
they stand; it is the same for the entries in any other order, as long as no two pools that match
yield the same; and it tells how many pools it tells of, which are as many as match but no more than
the whole part of the limit, each of them as the pool that an entry is, with no entry used twice. -/
theorem compute_of_listing (hp : schema.parse params = .ok p) (hw : Lists w items) :
    (∀ w' items', Lists w' items' → items.filter useful = items'.filter useful →
      (w'.run (capability.compute params)).outcome = (w.run (capability.compute params)).outcome) ∧
    (((poolsOf items).filter (Matches (filterOf p) ·)).Pairwise (fun q q' =>
        ∀ x y, q.yield? = some x → q'.yield? = some y → (x == y) = false) →
      ∀ w' items', Lists w' items' → items.Perm items' →
        (w'.run (capability.compute params)).outcome =
          (w.run (capability.compute params)).outcome) ∧
    ∃ (told : Fields) (reports chosen : List Json),
      (w.run (capability.compute params)).outcome = .ok (.obj told) ∧
      told.get? "total_found" = some (.ofNat reports.length) ∧
      told.get? "pools" = some (.arr reports) ∧
      (reports.length : ℕ∞) = min (Number.wholePart (p.number "limit"))
        ((poolsOf items).countP (Matches (filterOf p) ·)) ∧
      reports.map some = chosen.map (fun item => (Pool.ofJson? item).map report) ∧
      chosen.Subperm items := by
  refine ⟨fun w' items' hw' huse => ?_, fun hdistinct w' items' hw' hperm => ?_, ?_⟩
  · rw [outcome_of_lists hp hw, outcome_of_lists hp hw', answer_congr_of_useful huse]
  · rw [outcome_of_lists hp hw, outcome_of_lists hp hw', answer_congr_of_perm hw hperm hdistinct]
  · refine ⟨_, (best (poolsOf items) (filterOf p)).map report,
      (best (poolsOf items) (filterOf p)).map fun q => .obj q.members,
      outcome_of_lists hp hw, ?_, ?_, ?_, ?_, subperm_best _ _⟩
    · rw [List.length_map]
      rfl
    · rfl
    · rw [List.length_map]
      exact length_best p _
    · rw [List.map_map, List.map_map]
      refine List.map_congr_left fun q hq => ?_
      dsimp only [Function.comp_apply]
      rw [ofJson?_of_mem_best hq]
      rfl

/-- Two pools that match and differ in yield: an entry that is none makes no difference, nor does
their order, and one of them is told of. -/
theorem compute_of_listing_of_two :
    let params : Fields := [("token_symbol", .str "USD"), ("limit", .num 1.5)]
    let entry (symbol : Text) (apy : Float) : Json :=
      .obj [("symbol", .str symbol), ("apy", .num apy)]
    let items := [entry "USDC" 3, entry "usdt" 5]
    let outcome (items : List Json) :=
      ((listing items).run (capability.compute params)).outcome
    schema.parse params = .ok params ∧ Lists (listing items) items ∧
      outcome (.null :: items) = outcome items ∧ outcome items.reverse = outcome items ∧
      ∃ (told : Fields) (reports : List Json), outcome items = .ok (.obj told) ∧
        told.get? "pools" = some (.arr reports) ∧ reports.length = 1 := by
  intro params entry items outcome
  have hp : schema.parse params = .ok params := rfl
  have hw : Lists (listing items) items := lists_listing (by decide +kernel)
  have hnull : Lists (listing (.null :: items)) (.null :: items) :=
    lists_listing (by decide +kernel)
  have hreverse : Lists (listing items.reverse) items.reverse :=
    lists_listing (by decide +kernel)
  have hdistinct : ((poolsOf items).filter (Matches (filterOf params) ·)).Pairwise fun q q' =>
      (q.yield?.getD 0 == q'.yield?.getD 0) = false := by decide +kernel
  have hlimit : Number.wholePart (params.number "limit") = 1 := by
    have hwhole : Number.truncNat (params.number "limit") = 1 := by decide
    rw [Number.wholePart_of_not_neg (by decide) (by decide), if_pos (by decide), hwhole]
    rfl
  have hcount : (poolsOf items).countP (Matches (filterOf params) ·) = 2 := by decide +kernel
  obtain ⟨huse, horder, told, reports, -, htold, -, hpools, hlength, -, -⟩ :=
    compute_of_listing hp hw
  rw [hlimit, hcount, min_eq_left (by norm_num)] at hlength
  refine ⟨hp, hw, huse _ _ hnull rfl, horder (hdistinct.imp fun {q q'} hne x y hx hy => ?_) _ _
    hreverse items.reverse_perm.symm, told, reports, htold, hpools, by exact_mod_cast hlength⟩
  rwa [hx, hy] at hne

end LineAgents.DefiYields
