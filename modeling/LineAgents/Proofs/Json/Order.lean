import LineAgents.Json.Basic
import Mathlib.Data.List.Induction
import Mathlib.Data.List.Nodup

/-!
# The order of named values

An object keeps its fields in one order: names that spell an index first and ascending, the others
as they came. A list of named values is **in order** (`LineAgents.Ordered`) when no name occurs
twice and none would have been written before an earlier one. Every collection is in order
(`LineAgents.ordered_collectNamed`), and collecting what is in order changes nothing
(`LineAgents.collectNamed_eq_self`); together, an object that is read again keeps its fields where
they are.

What a name stands for is found by looking it up: a collection holds the last value that was given
to a name (`LineAgents.lookup_collectNamed`), which is the only one when no name was given a value
twice (`LineAgents.mem_collectNamed_iff`). Leaving names out takes nothing from the others
(`LineAgents.lookup_filter`), and giving one name a value leaves the others and their order as they
are (`LineAgents.filter_setNamed`). Where a collection puts its names is seen in one look: the
indices come first, and the other names as they came (`LineAgents.exists_collectNamed_eq_append`).
-/

namespace LineAgents

/-! ### Which of two names is written first -/

theorem writtenBefore_irrefl (a : Text) : writtenBefore a a = false := by
  rw [writtenBefore]
  cases arrayIndex? a with
  | none => rfl
  | some i => exact decide_eq_false (Nat.lt_irrefl i)

theorem writtenBefore_trans {a b c : Text} (hab : writtenBefore a b = true)
    (hbc : writtenBefore b c = true) : writtenBefore a c = true := by
  rw [writtenBefore] at *
  cases ha : arrayIndex? a with
  | none => simp [ha] at hab
  | some i =>
    cases hb : arrayIndex? b with
    | none => simp [hb] at hbc
    | some j =>
      cases hc : arrayIndex? c with
      | none => rfl
      | some k =>
        simp only [ha, hb, hc, decide_eq_true_eq] at hab hbc ⊢
        exact Nat.lt_trans hab hbc

section Ordered

variable {α β : Type}

/-- **In order**: no name twice, and none that would have been written before an earlier one. -/
def Ordered (fs : List (Text × α)) : Prop :=
  (fs.map (·.1)).Pairwise fun a b => a ≠ b ∧ writtenBefore b a = false

instance (fs : List (Text × α)) : Decidable (Ordered fs) :=
  inferInstanceAs (Decidable (List.Pairwise _ _))

theorem ordered_nil : Ordered ([] : List (Text × α)) := List.Pairwise.nil

theorem ordered_cons {f : Text × α} {fs : List (Text × α)} : Ordered (f :: fs) ↔
    (∀ b ∈ fs.map (·.1), f.1 ≠ b ∧ writtenBefore b f.1 = false) ∧ Ordered fs := by
  rw [Ordered, List.map_cons, List.pairwise_cons]
  rfl

/-- The order is one of names; the values do not matter. -/
theorem Ordered.congr {fs : List (Text × α)} {gs : List (Text × β)} (h : Ordered fs)
    (hnames : gs.map (·.1) = fs.map (·.1)) : Ordered gs := by
  rw [Ordered, hnames]
  exact h

/-! ### Collecting what is in order -/

/-- A name that comes after all others is put at the end. -/
theorem insertNamed_eq_append {name : Text} (v : α) {fs : List (Text × α)}
    (h : ∀ f ∈ fs, writtenBefore name f.1 = false) : insertNamed name v fs = fs ++ [(name, v)] := by
  induction fs with
  | nil => rfl
  | cons f fs ih =>
    rw [insertNamed, h f List.mem_cons_self, if_neg Bool.false_ne_true,
      ih fun g hg => h g (List.mem_cons_of_mem f hg), List.cons_append]

theorem setNamed_eq_append {name : Text} (v : α) {fs : List (Text × α)}
    (h : ∀ f ∈ fs, f.1 ≠ name ∧ writtenBefore name f.1 = false) :
    setNamed name v fs = fs ++ [(name, v)] := by
  have hany : fs.any (·.1 == name) = false := by
    rw [List.any_eq_false]
    intro f hf heq
    exact (h f hf).1 (beq_iff_eq.mp heq)
  rw [setNamed, hany, if_neg Bool.false_ne_true]
  exact insertNamed_eq_append v fun f hf => (h f hf).2

/-- **Collecting what is in order changes nothing.** -/
theorem collectNamed_eq_self {fs : List (Text × α)} (h : Ordered fs) : collectNamed fs = fs := by
  -- by induction on what is still to be collected, behind what has been collected in order
  have hfold : ∀ (fs acc : List (Text × α)), Ordered (acc ++ fs) →
      fs.foldl (fun fs p => setNamed p.1 p.2 fs) acc = acc ++ fs := by
    intro fs
    induction fs with
    | nil => exact fun acc _ => (List.append_nil acc).symm
    | cons f fs ih =>
      intro acc hacc
      have hlast : ∀ g ∈ acc, g.1 ≠ f.1 ∧ writtenBefore f.1 g.1 = false := by
        intro g hg
        rw [Ordered, List.map_append, List.pairwise_append] at hacc
        exact hacc.2.2 g.1 (List.mem_map_of_mem hg) f.1 (List.mem_map_of_mem List.mem_cons_self)
      rw [List.foldl_cons, setNamed_eq_append f.2 hlast, ih, List.append_assoc]
      · rfl
      · rw [List.append_assoc]
        exact hacc
  exact hfold fs [] h

/-! ### What a collection holds -/

theorem mem_insertNamed {name : Text} {v : α} {f : Text × α} {fs : List (Text × α)}
    (h : f ∈ insertNamed name v fs) : f = (name, v) ∨ f ∈ fs := by
  induction fs with
  | nil => exact Or.inl (List.mem_singleton.mp h)
  | cons g fs ih =>
    rw [LineAgents.insertNamed] at h
    split at h
    · exact List.mem_cons.mp h
    · rcases List.mem_cons.mp h with rfl | h
      · exact Or.inr List.mem_cons_self
      · exact (ih h).imp_right (List.mem_cons_of_mem g)

theorem mem_setNamed {name : Text} {v : α} {f : Text × α} {fs : List (Text × α)}
    (h : f ∈ setNamed name v fs) : f = (name, v) ∨ f ∈ fs := by
  rw [LineAgents.setNamed] at h
  split at h
  · obtain ⟨g, hg, rfl⟩ := List.mem_map.mp h
    split
    · exact Or.inl rfl
    · exact Or.inr hg
  · exact mem_insertNamed h

/-- A collection holds nothing that was not collected. -/
theorem mem_of_mem_collectNamed {f : Text × α} {ps : List (Text × α)}
    (h : f ∈ collectNamed ps) : f ∈ ps := by
  have hfold : ∀ (ps acc : List (Text × α)),
      f ∈ ps.foldl (fun fs p => LineAgents.setNamed p.1 p.2 fs) acc → f ∈ acc ∨ f ∈ ps := by
    intro ps
    induction ps with
    | nil => exact fun acc h => Or.inl h
    | cons p ps ih =>
      intro acc h
      rcases ih _ h with h | h
      · rcases mem_setNamed h with rfl | h
        · exact Or.inr List.mem_cons_self
        · exact Or.inl h
      · exact Or.inr (List.mem_cons_of_mem p h)
  exact (hfold ps [] h).resolve_left (List.not_mem_nil)

/-! ### A collection is in order -/

/-- Giving a name that is there a new value keeps the names. -/
theorem map_fst_replace (name : Text) (v : α) (fs : List (Text × α)) :
    (fs.map fun f => if f.1 == name then (name, v) else f).map (·.1) = fs.map (·.1) := by
  rw [List.map_map]
  refine List.map_congr_left fun f _ => ?_
  rw [Function.comp_apply]
  split
  · rename_i h
    exact (beq_iff_eq.mp h).symm
  · rfl

/-- A new name finds its place. -/
theorem Ordered.insertNamed {name : Text} (v : α) {fs : List (Text × α)} (h : Ordered fs)
    (hnew : ∀ f ∈ fs, f.1 ≠ name) : Ordered (insertNamed name v fs) := by
  induction fs with
  | nil => exact ordered_cons.mpr ⟨by simp, ordered_nil⟩
  | cons f fs ih =>
    obtain ⟨hf, hfs⟩ := ordered_cons.mp h
    rw [LineAgents.insertNamed]
    split
    · rename_i hbefore
      refine ordered_cons.mpr ⟨fun b hb => ?_, h⟩
      have hb' : b = f.1 ∨ b ∈ fs.map (·.1) := List.mem_cons.mp hb
      refine ⟨?_, Bool.eq_false_iff.mpr fun hbn => ?_⟩
      · obtain ⟨g, hg, rfl⟩ := List.mem_map.mp hb
        exact (hnew g hg).symm
      · -- what is written before the name is written before `f` too
        have hbf := writtenBefore_trans hbn hbefore
        rcases hb' with rfl | hb'
        · exact absurd hbf (by simp [writtenBefore_irrefl])
        · exact absurd hbf (by simp [(hf b hb').2])
    · rename_i hafter
      refine ordered_cons.mpr
        ⟨fun b hb => ?_, ih hfs fun g hg => hnew g (List.mem_cons_of_mem f hg)⟩
      obtain ⟨g, hg, rfl⟩ := List.mem_map.mp hb
      rcases mem_insertNamed hg with rfl | hg
      · exact ⟨hnew f List.mem_cons_self, by simpa using hafter⟩
      · exact hf g.1 (List.mem_map_of_mem hg)

theorem Ordered.setNamed (name : Text) (v : α) {fs : List (Text × α)} (h : Ordered fs) :
    Ordered (setNamed name v fs) := by
  rw [LineAgents.setNamed]
  split
  · exact h.congr (map_fst_replace name v fs)
  · rename_i hany
    refine h.insertNamed v fun f hf heq => hany ?_
    rw [List.any_eq_true]
    exact ⟨f, hf, beq_iff_eq.mpr heq⟩

/-- **A collection is in order**, whatever was collected. -/
theorem ordered_collectNamed (ps : List (Text × α)) : Ordered (collectNamed ps) := by
  have hfold : ∀ (ps acc : List (Text × α)), Ordered acc →
      Ordered (ps.foldl (fun fs p => LineAgents.setNamed p.1 p.2 fs) acc) := by
    intro ps
    induction ps with
    | nil => exact fun acc h => h
    | cons p ps ih => exact fun acc h => ih _ (h.setNamed p.1 p.2)
  exact hfold ps [] ordered_nil

/-! ### Looking up a name -/

theorem lookup_cons_ite (name k : Text) (v : α) (fs : List (Text × α)) :
    ((name, v) :: fs).lookup k = if k = name then some v else fs.lookup k := by
  by_cases h : k = name
  · rw [h, List.lookup_cons_self, if_pos rfl]
  · rw [List.lookup_cons, beq_eq_false_iff_ne.mpr h, if_neg h]

theorem lookup_insertNamed {name : Text} (v : α) {fs : List (Text × α)}
    (hnew : ∀ f ∈ fs, f.1 ≠ name) (k : Text) :
    (insertNamed name v fs).lookup k = if k = name then some v else fs.lookup k := by
  induction fs with
  | nil => exact lookup_cons_ite name k v []
  | cons f fs ih =>
    rw [insertNamed]
    split
    · exact lookup_cons_ite name k v (f :: fs)
    · rw [lookup_cons_ite, lookup_cons_ite, ih fun g hg => hnew g (List.mem_cons_of_mem f hg)]
      -- a name that is not new stands where it stood
      by_cases hk : k = f.1
      · rw [if_pos hk, if_pos hk, if_neg fun h => hnew f List.mem_cons_self (hk.symm.trans h)]
      · rw [if_neg hk, if_neg hk]

theorem lookup_replace (name k : Text) (v : α) (fs : List (Text × α)) :
    (fs.map fun f => if f.1 == name then (name, v) else f).lookup k =
      if k = name then (fs.lookup name).map fun _ => v else fs.lookup k := by
  induction fs with
  | nil => rw [List.map_nil, List.lookup_nil, List.lookup_nil, Option.map_none, ite_self]
  | cons f fs ih =>
    rw [List.map_cons, lookup_cons_ite f.1, lookup_cons_ite f.1]
    by_cases hf : f.1 = name
    · rw [if_pos (beq_iff_eq.mpr hf), lookup_cons_ite, ih, if_pos hf.symm, Option.map_some, hf]
      split <;> rfl
    · have hf' : name ≠ f.1 := fun h => hf h.symm
      rw [if_neg (by simpa using hf), lookup_cons_ite, ih, if_neg hf']
      by_cases hk : k = f.1
      · rw [if_pos hk, if_pos hk, if_neg fun h => hf (hk.symm.trans h)]
      · rw [if_neg hk, if_neg hk]

/-- **What a name has after it was given a value.** -/
theorem lookup_setNamed (name k : Text) (v : α) (fs : List (Text × α)) :
    (setNamed name v fs).lookup k = if k = name then some v else fs.lookup k := by
  rw [setNamed]
  split
  · rename_i hany
    obtain ⟨f, hf, heq⟩ := List.any_eq_true.mp hany
    obtain ⟨w, hw⟩ : ∃ w, fs.lookup name = some w := by
      rw [← Option.ne_none_iff_exists']
      intro hnone
      have hne := List.lookup_eq_none_iff.mp hnone f hf
      exact bne_iff_ne.mp hne (beq_iff_eq.mp heq).symm
    rw [lookup_replace, hw, Option.map_some]
  · rename_i hany
    refine lookup_insertNamed v (fun f hf heq => hany ?_) k
    exact List.any_eq_true.mpr ⟨f, hf, beq_iff_eq.mpr heq⟩

/-- **What a name has when some names are left out.** -/
theorem lookup_filter (p : Text → Bool) (k : Text) (fs : List (Text × α)) :
    (fs.filter (p ·.1)).lookup k = if p k then fs.lookup k else none := by
  induction fs with
  | nil => rw [List.filter_nil, List.lookup_nil, ite_self]
  | cons f fs ih =>
    rw [List.filter_cons, lookup_cons_ite f.1]
    by_cases hk : k = f.1
    · subst hk
      rw [if_pos rfl]
      split
      · exact List.lookup_cons_self
      · rename_i hleft
        rw [ih, if_neg hleft]
    · rw [if_neg hk, ← ih]
      split
      · rw [lookup_cons_ite f.1, if_neg hk]
      · rfl

/-- **A collection holds the last value given to a name.** -/
theorem lookup_collectNamed (ps : List (Text × α)) (k : Text) :
    (collectNamed ps).lookup k = ps.reverse.lookup k := by
  induction ps using List.reverseRecOn with
  | nil => rfl
  | append_singleton ps p ih =>
    rw [collectNamed, List.foldl_append, ← collectNamed, List.foldl_cons, List.foldl_nil,
      lookup_setNamed, ih, List.reverse_append, List.reverse_singleton, List.singleton_append,
      lookup_cons_ite]

/-- Where no name occurs twice, a name has the value that stands beside it. -/
theorem lookup_eq_some_iff_mem {fs : List (Text × α)} (h : (fs.map (·.1)).Nodup) (name : Text)
    (v : α) : fs.lookup name = some v ↔ (name, v) ∈ fs := by
  rw [List.lookup_eq_some_iff]
  constructor
  · rintro ⟨before, after, rfl, -⟩
    exact List.mem_append_right before List.mem_cons_self
  · intro hmem
    obtain ⟨before, after, rfl⟩ := List.append_of_mem hmem
    refine ⟨before, after, rfl, fun p hp => ?_⟩
    rw [List.map_append, List.map_cons, List.nodup_append] at h
    rw [bne_iff_ne]
    exact fun heq => h.2.2 p.1 (List.mem_map_of_mem hp) name List.mem_cons_self heq.symm

theorem Ordered.nodup {fs : List (Text × α)} (h : Ordered fs) : (fs.map (·.1)).Nodup :=
  h.imp And.left

/-- **A collection holds all that was collected** when no name occurs twice. -/
theorem mem_collectNamed_iff {ps : List (Text × α)} (h : (ps.map (·.1)).Nodup) (name : Text)
    (v : α) : (name, v) ∈ collectNamed ps ↔ (name, v) ∈ ps := by
  have hreverse : (ps.reverse.map (·.1)).Nodup := by
    rw [List.map_reverse]
    exact List.nodup_reverse.mpr h
  rw [← lookup_eq_some_iff_mem (ordered_collectNamed ps).nodup, lookup_collectNamed,
    lookup_eq_some_iff_mem hreverse, List.mem_reverse]

/-! ### Setting one name among others -/

section Setting

variable {name : Text} {fs : List (Text × α)}

/-- Whether a name is there is asked of the names alone. -/
theorem any_fst_iff : fs.any (·.1 == name) = true ↔ name ∈ fs.map (·.1) := by
  rw [List.any_eq_true, List.mem_map]
  exact exists_congr fun f => and_congr_right fun _ => beq_iff_eq

/-- Setting a name that is there keeps the names. -/
theorem map_fst_setNamed (h : name ∈ fs.map (·.1)) (v : α) :
    (setNamed name v fs).map (·.1) = fs.map (·.1) := by
  rw [setNamed, if_pos (any_fst_iff.mpr h)]
  exact map_fst_replace name v fs

theorem insertNamed_perm (name : Text) (v : α) (fs : List (Text × α)) :
    (insertNamed name v fs).Perm ((name, v) :: fs) := by
  induction fs with
  | nil => exact List.Perm.refl _
  | cons f fs ih =>
    rw [insertNamed]
    split
    · exact List.Perm.refl _
    · exact (ih.cons f).trans (List.Perm.swap (name, v) f fs)

/-- Setting a new name adds it, and changes nothing else. -/
theorem setNamed_perm (h : name ∉ fs.map (·.1)) (v : α) :
    (setNamed name v fs).Perm ((name, v) :: fs) := by
  rw [setNamed, if_neg fun hany => h (any_fst_iff.mp hany)]
  exact insertNamed_perm name v fs

section Filter

variable {p : Text → Bool} (hp : p name = false) (v : α)

include hp

theorem filter_replace (fs : List (Text × α)) :
    (fs.map fun f => if f.1 == name then (name, v) else f).filter (p ·.1) =
      fs.filter (p ·.1) := by
  induction fs with
  | nil => rfl
  | cons f fs ih =>
    rw [List.map_cons, List.filter_cons, List.filter_cons, ih]
    by_cases hf : f.1 = name
    · rw [if_pos (beq_iff_eq.mpr hf), hp, hf, hp, if_neg Bool.false_ne_true,
        if_neg Bool.false_ne_true]
    · rw [if_neg fun h => hf (beq_iff_eq.mp h)]

theorem filter_insertNamed (fs : List (Text × α)) :
    (insertNamed name v fs).filter (p ·.1) = fs.filter (p ·.1) := by
  have hcons (gs : List (Text × α)) : ((name, v) :: gs).filter (p ·.1) = gs.filter (p ·.1) :=
    List.filter_cons_of_neg (by rw [hp]; exact Bool.false_ne_true)
  induction fs with
  | nil => exact hcons []
  | cons f fs ih =>
    rw [insertNamed]
    split
    · exact hcons (f :: fs)
    · rw [List.filter_cons, List.filter_cons, ih]

/-- **Setting a name leaves the others as they are**, in their order. -/
theorem filter_setNamed (fs : List (Text × α)) :
    (setNamed name v fs).filter (p ·.1) = fs.filter (p ·.1) := by
  rw [setNamed]
  split
  · exact filter_replace hp v fs
  · exact filter_insertNamed hp v fs

end Filter

theorem mem_setNamed_self (name : Text) (v : α) (fs : List (Text × α)) :
    (name, v) ∈ setNamed name v fs := by
  obtain ⟨before, after, hsplit, -⟩ :=
    List.lookup_eq_some_iff.mp ((lookup_setNamed name name v fs).trans (if_pos rfl))
  rw [hsplit]
  exact List.mem_append_right before List.mem_cons_self

end Setting

/-! ### Indices first -/

section Indices

/-- **A name is an index** when it spells one. -/
def isIndex (name : Text) : Bool := (arrayIndex? name).isSome

theorem writtenBefore_of_not_isIndex {name : Text} (h : isIndex name = false) (other : Text) :
    writtenBefore name other = false := by
  rw [isIndex, Option.isSome_eq_false_iff, Option.isNone_iff_eq_none] at h
  rw [writtenBefore, h]

/-- An index is written before a name that is none. -/
theorem writtenBefore_of_isIndex {name other : Text} (h : isIndex name = true)
    (hother : isIndex other = false) : writtenBefore name other = true := by
  obtain ⟨i, hi⟩ := Option.isSome_iff_exists.mp h
  rw [isIndex, Option.isSome_eq_false_iff, Option.isNone_iff_eq_none] at hother
  rw [writtenBefore, hi, hother]

/-- An index is put among the indices. -/
theorem insertNamed_append {name : Text} (hname : isIndex name = true) (v : α)
    (indexed : List (Text × α)) {others : List (Text × α)}
    (hothers : ∀ f ∈ others, isIndex f.1 = false) :
    insertNamed name v (indexed ++ others) = insertNamed name v indexed ++ others := by
  induction indexed with
  | nil =>
    cases others with
    | nil => rfl
    | cons f fs =>
      have hbefore := writtenBefore_of_isIndex hname (hothers f List.mem_cons_self)
      exact if_pos hbefore
  | cons f fs ih =>
    rw [List.cons_append, insertNamed, insertNamed, ih]
    split <;> rfl

/-- **A collection has its indices first**, and the other names as they came, where no name was
given a value twice. -/
theorem exists_collectNamed_eq_append {ps : List (Text × α)} (h : (ps.map (·.1)).Nodup) :
    ∃ indexed, collectNamed ps = indexed ++ ps.filter (!isIndex ·.1) ∧
      indexed.Perm (ps.filter (isIndex ·.1)) := by
  induction ps using List.reverseRecOn with
  | nil => exact ⟨[], rfl, .nil⟩
  | append_singleton ps p ih =>
    rw [List.map_append, List.nodup_append] at h
    obtain ⟨indexed, hps, hperm⟩ := ih h.1
    have hnew : p.1 ∉ (indexed ++ ps.filter (!isIndex ·.1)).map (·.1) := by
      rw [← hps]
      intro hmem
      obtain ⟨q, hq, hname⟩ := List.mem_map.mp hmem
      exact h.2.2 q.1 (List.mem_map_of_mem (mem_of_mem_collectNamed hq)) p.1
        (List.mem_singleton.mpr rfl) hname
    have hcollect : collectNamed (ps ++ [p]) =
        insertNamed p.1 p.2 (indexed ++ ps.filter (!isIndex ·.1)) := by
      rw [collectNamed, List.foldl_append, ← collectNamed, hps, List.foldl_cons, List.foldl_nil,
        setNamed, if_neg fun hany => hnew (any_fst_iff.mp hany)]
    rw [hcollect, List.filter_append, List.filter_append]
    cases hindex : isIndex p.1 with
    | true =>
      have hothers : ∀ f ∈ ps.filter (!isIndex ·.1), isIndex f.1 = false := fun f hf => by
        simpa using (List.mem_filter.mp hf).2
      refine ⟨insertNamed p.1 p.2 indexed, ?_, ?_⟩
      · rw [insertNamed_append hindex p.2 indexed hothers, List.filter_singleton, hindex]
        simp
      · rw [List.filter_singleton, hindex]
        exact (insertNamed_perm p.1 p.2 indexed).trans
          ((hperm.cons p).trans (List.perm_append_singleton p _).symm)
    | false =>
      refine ⟨indexed, ?_, ?_⟩
      · rw [insertNamed_eq_append p.2 fun f _ => writtenBefore_of_not_isIndex hindex f.1,
          List.append_assoc, List.filter_singleton, hindex]
        rfl
      · rw [List.filter_singleton, hindex]
        simpa using hperm

end Indices

end Ordered

end LineAgents
