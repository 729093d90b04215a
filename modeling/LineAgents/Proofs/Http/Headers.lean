import LineAgents.Http.Message
import LineAgents.Proofs.Json.Order

/-!
# Names of headers

A list of headers keeps names apart by their spelling, and HTTP does not: to HTTP a name is the same
name in capitals. So headers may be two under HTTP's one name, and when one is set over others
(`LineAgents.setNamed`) it takes the place of the one that is spelt as it is, and goes beside one
that is spelt in another way. This is the only way in which distinct headers cease to be distinct
(`LineAgents.Http.Headers.distinct_setNamed_iff`).
-/

namespace LineAgents.Http

/-- **A name as HTTP reads it**: ASCII letters in lower case. -/
def foldName (name : Text) : Text := name.map Text.asciiLower

namespace Headers

/-- **Distinct headers**: no two have one name, in whatever spelling. -/
def Distinct (hs : Headers) : Prop := (hs.map fun h => foldName h.1).Nodup

instance (hs : Headers) : Decidable (Distinct hs) := inferInstanceAs (Decidable (List.Nodup _))

/-- **The headers of a name**, in whatever spelling. -/
def named (name : Text) (hs : Headers) : Headers := hs.filter fun h => foldName h.1 == foldName name

variable {name k : Text} {h : Text × Text} {hs : Headers}

/-- Whether headers are distinct is a matter of their names. -/
theorem distinct_iff : Distinct hs ↔ ((hs.map (·.1)).map foldName).Nodup := by
  rw [List.map_map]
  exact Iff.rfl

/-- A name that is there has one header when the headers are distinct. -/
theorem named_of_mem (hdistinct : Distinct hs) (hmem : h ∈ hs) : named h.1 hs = [h] := by
  obtain ⟨before, after, rfl⟩ := List.append_of_mem hmem
  have hothers : ∀ g ∈ before ++ after, ¬(foldName g.1 == foldName h.1) = true := by
    have hnodup : ((before ++ after).map fun g => foldName g.1).Nodup ∧
        foldName h.1 ∉ (before ++ after).map fun g => foldName g.1 := by
      rw [Distinct, List.map_append, List.map_cons, List.nodup_middle, List.nodup_cons,
        ← List.map_append] at hdistinct
      exact hdistinct.symm
    intro g hg heq
    exact hnodup.2 (beq_iff_eq.mp heq ▸ List.mem_map_of_mem hg)
  rw [named, List.filter_append, List.filter_cons, if_pos (beq_self_eq_true _),
    List.filter_eq_nil_iff.mpr fun g hg => hothers g (List.mem_append_left after hg),
    List.filter_eq_nil_iff.mpr fun g hg => hothers g (List.mem_append_right before hg)]
  rfl

/-- A header that is set is no matter to the other names. -/
theorem named_setNamed (hne : foldName name ≠ foldName k) (v : Text) (hs : Headers) :
    named k (setNamed name v hs) = named k hs :=
  filter_setNamed (p := fun a => foldName a == foldName k) (beq_eq_false_iff_ne.mpr hne) v hs

/-- **A header that is set leaves the headers distinct** exactly when none of them has its name in
another spelling. -/
theorem distinct_setNamed_iff (hdistinct : Distinct hs) (v : Text) :
    Distinct (setNamed name v hs) ↔ ∀ h ∈ hs, foldName h.1 = foldName name → h.1 = name := by
  by_cases hname : name ∈ hs.map (·.1)
  · -- the header takes the place of the one that is spelt like it, which is the only one
    obtain ⟨g, hg, rfl⟩ := List.mem_map.mp hname
    have hkept : Distinct (setNamed g.1 v hs) := by
      rw [distinct_iff, map_fst_setNamed hname, ← distinct_iff]
      exact hdistinct
    refine iff_of_true hkept fun h hh heq => ?_
    rw [List.inj_on_of_nodup_map hdistinct hh hg heq]
  · -- the header goes beside all the others
    rw [Distinct, ((setNamed_perm hname v).map _).nodup_iff, List.map_cons, List.nodup_cons]
    refine (and_iff_left hdistinct).trans ?_
    rw [List.mem_map, not_exists]
    refine forall_congr' fun h => ?_
    rw [not_and]
    refine forall_congr' fun hh => ?_
    have hne : h.1 ≠ name := fun heq => hname (heq ▸ List.mem_map_of_mem hh)
    exact ⟨fun hfold heq => absurd heq hfold, fun hspelt heq => hne (hspelt heq)⟩

end Headers

end LineAgents.Http
