import LineAgents.Proofs.Text.Pieces
import Mathlib.Data.List.DropRight
import Mathlib.Data.List.TakeWhile

/-!
# Names as segments of a path

The address of an endpoint is put together of names with a slash before each
(`LineAgents.Http.ofSegments`), and stands at the end of a URL. Whoever gets the URL takes it apart
again, in the way in which all URLs of the web are read:

1. controls and spaces at the end are dropped, and tabs and line ends wherever they stand
   (`LineAgents.Http.keptLast`);
2. a question mark or a number sign ends the path (`LineAgents.Http.pathOf`);
3. slashes divide the path into segments, and backslashes do as well
   (`LineAgents.Http.segmentsOf`);
4. a segment of one point stands for the place it is at, and one of two points leads up; a point may
   be spelled `%2e` here (`LineAgents.Http.follow`).

Nothing of this shows in the names. The address **spells** its names when each of them is read as
one segment, whatever path it stands behind (`LineAgents.Http.Spells`), and that is so exactly when
each of them is **plain** as it is taken (`LineAgents.Http.spells_ofSegments_iff`). How other units
of a segment are encoded is left out; it keeps segments apart. A URL in which the path has not begun
before the address, or has ended, as behind a question mark, is not meant here.
-/

namespace LineAgents.Http

/-! ### Reading a path -/

/-- Segments one after the other, with a slash before each. -/
def ofSegments (ss : List Text) : Text := ss.flatMap (47 :: ·)

/-- What is kept of a text: all but tabs and line ends. -/
def kept (t : Text) : Text := t.filter fun u => u != 9 && u != 10 && u != 13

/-- What is kept of a text at the end of a URL: controls and spaces at its end are dropped first. -/
def keptLast (t : Text) : Text := kept (t.rdropWhile (· ≤ 32))

/-- **Names as they are taken** from the end of a URL. -/
def taken : List Text → List Text
  | [] => []
  | [s] => [keptLast s]
  | s :: r :: ss => kept s :: taken (r :: ss)

/-- **The path** at the end of a URL: what is kept before a question mark or a number sign. -/
def pathOf (t : Text) : Text := (keptLast t).takeWhile fun u => u != 63 && u != 35

/-- **The segments of the path**, behind its first slash; a backslash is a slash. -/
def segmentsOf (t : Text) : List Text :=
  (Text.splitOn 47 ((pathOf t).map fun u => if u = 92 then 47 else u)).tail

/-- Whether a segment stands for the place it is at: one point, spelled in either way. -/
def isHere (s : Text) : Bool := (Text.ofStrings [".", "%2e"]).contains (s.map Text.asciiLower)

/-- Whether a segment leads up: two points, each spelled in either way. -/
def isUp (s : Text) : Bool :=
  (Text.ofStrings ["..", ".%2e", "%2e.", "%2e%2e"]).contains (s.map Text.asciiLower)

/-- **Where segments lead** from a path. One that leads up, or stays, leaves an empty segment behind
if it is the last. -/
def follow (path : List Text) : List Text → List Text
  | [] => path
  | s :: ss =>
    let after := if isUp s then path.dropLast else if isHere s then path else path ++ [s]
    follow (if (isUp s || isHere s) && ss.isEmpty then after ++ [[]] else after) ss

/-- **An address spells names**: it is all path, and leads from any path to the names as they are
taken, one segment each. -/
def Spells (t : Text) (ss : List Text) : Prop :=
  pathOf t = keptLast t ∧ ∀ path, follow path (segmentsOf t) = path ++ taken ss

/-- **A plain name** has no slash of either kind, no question mark and no number sign, and neither
stays nor leads up. -/
def Plain (s : Text) : Prop :=
  (47 ∉ s ∧ 92 ∉ s ∧ 63 ∉ s ∧ 35 ∉ s) ∧ isHere s = false ∧ isUp s = false

instance (s : Text) : Decidable (Plain s) := inferInstanceAs (Decidable (_ ∧ _ ∧ _))

/-! ### What is kept of an address -/

variable {ss : List Text}

/-- What is dropped at the end of a text does not reach beyond a slash. -/
theorem keptLast_append_slash (t s : Text) :
    keptLast (t ++ 47 :: s) = kept t ++ 47 :: keptLast s := by
  have hdropped : (t ++ 47 :: s).rdropWhile (· ≤ 32) = t ++ 47 :: s.rdropWhile (· ≤ 32) := by
    induction s using List.reverseRecOn with
    | nil => exact List.rdropWhile_concat_neg _ _ _ (by decide)
    | append_singleton s u ih =>
      rw [← List.cons_append, ← List.append_assoc, List.rdropWhile_concat, List.rdropWhile_concat,
        ih]
      split <;> simp
  rw [keptLast, hdropped, kept, List.filter_append, keptLast]
  rfl

/-- **An address is kept name by name.** -/
theorem keptLast_ofSegments (ss : List Text) :
    keptLast (ofSegments ss) = ofSegments (taken ss) := by
  induction ss with
  | nil => rfl
  | cons s ss ih =>
    cases ss with
    | nil =>
      rw [taken, ofSegments, List.flatMap_singleton, ofSegments, List.flatMap_singleton]
      exact keptLast_append_slash [] s
    | cons r ss =>
      have hrest : keptLast (ofSegments (r :: ss)) = 47 :: keptLast (r ++ ofSegments ss) :=
        keptLast_append_slash [] (r ++ ofSegments ss)
      have hall : keptLast (ofSegments (s :: r :: ss)) =
          47 :: kept s ++ 47 :: keptLast (r ++ ofSegments ss) :=
        keptLast_append_slash (47 :: s) (r ++ ofSegments ss)
      rw [hall, ← hrest, ih, taken]
      rfl

/-! ### Where segments lead -/

/-- Segments that neither stay nor lead up are added to the path. -/
theorem follow_of_forward (h : ∀ s ∈ ss, isHere s = false ∧ isUp s = false) (path : List Text) :
    follow path ss = path ++ ss := by
  induction ss generalizing path with
  | nil => exact (List.append_nil path).symm
  | cons s ss ih =>
    obtain ⟨⟨hhere, hup⟩, hss⟩ := List.forall_mem_cons.mp h
    rw [follow, hup, hhere]
    exact (ih hss (path ++ [s])).trans (List.append_assoc path [s] ss)

/-- **What segments lead to** was there before, is empty, or is one of those that go forward. -/
theorem mem_follow {path : List Text} {s : Text} (h : s ∈ follow path ss) :
    s ∈ path ∨ s = [] ∨ s ∈ ss ∧ isHere s = false ∧ isUp s = false := by
  induction ss generalizing path with
  | nil => exact Or.inl h
  | cons r ss ih =>
    rw [follow] at h
    rcases ih h with hpath | hnil | ⟨hmem, hforward⟩
    · -- the path behind the first segment: with the segment, without its end, or with an empty one
      have hafter : s ∈ (if isUp r then path.dropLast else if isHere r then path else path ++ [r]) ∨
          s = [] := by
        split at hpath
        · exact (List.mem_append.mp hpath).imp_right List.mem_singleton.mp
        · exact Or.inl hpath
      rcases hafter with hafter | hnil
      · split_ifs at hafter with hup hhere
        · exact Or.inl (List.dropLast_subset path hafter)
        · exact Or.inl hafter
        · refine (List.mem_append.mp hafter).imp_right fun hr => Or.inr ?_
          obtain rfl := List.mem_singleton.mp hr
          exact ⟨List.mem_cons_self, by simpa using hhere, by simpa using hup⟩
      · exact Or.inr (Or.inl hnil)
    · exact Or.inr (Or.inl hnil)
    · exact Or.inr (Or.inr ⟨List.mem_cons_of_mem r hmem, hforward⟩)

/-! ### Names that are spelled -/

/-- **Segments are found again** where none of them holds a slash. -/
theorem splitOn_ofSegments (h : ∀ s ∈ ss, 47 ∉ s) :
    Text.splitOn 47 (ofSegments ss) = [] :: ss := by
  induction ss with
  | nil => rfl
  | cons s ss ih =>
    have hs : 47 ∉ s := h s List.mem_cons_self
    have hss := ih fun r hr => h r (List.mem_cons_of_mem s hr)
    change Text.splitOn 47 (47 :: (s ++ ofSegments ss)) = _
    rw [Text.splitOn_cons_self]
    cases ss with
    | nil =>
      rw [show ofSegments [] = [] from rfl, List.append_nil, Text.splitOn_of_notMem hs]
    | cons r ss =>
      -- the first slash ends `s`, and what follows it is divided as it was behind it
      change Text.splitOn 47 (47 :: (r ++ ofSegments ss)) = _ at hss
      rw [Text.splitOn_cons_self] at hss
      change [] :: Text.splitOn 47 (s ++ 47 :: (r ++ ofSegments ss)) = _
      rw [Text.splitOn_append_cons hs, (List.cons.inj hss).2]

/-- The segments of plain names. -/
theorem segmentsOf_of_plain (hpath : pathOf (ofSegments ss) = ofSegments (taken ss))
    (h : ∀ s ∈ taken ss, Plain s) : segmentsOf (ofSegments ss) = taken ss := by
  have hslash : ∀ u ∈ ofSegments (taken ss), (if u = 92 then 47 else u) = id u := by
    intro u hu
    obtain ⟨s, hs, hus⟩ := List.mem_flatMap.mp hu
    rcases List.mem_cons.mp hus with rfl | hus
    · rfl
    · have hback : u ≠ 92 := fun heq => (h s hs).1.2.1 (heq ▸ hus)
      exact if_neg hback
  rw [segmentsOf, hpath, List.map_congr_left hslash, List.map_id,
    splitOn_ofSegments fun s hs => (h s hs).1.1, List.tail_cons]

/-- **An address spells its names exactly when they are plain** as they are taken. -/
theorem spells_ofSegments_iff : Spells (ofSegments ss) ss ↔ ∀ s ∈ taken ss, Plain s := by
  rw [Spells, keptLast_ofSegments]
  have hmem : ∀ u s, s ∈ taken ss → u ∈ s → u ∈ ofSegments (taken ss) := fun u s hs hu =>
    List.mem_flatMap.mpr ⟨s, hs, List.mem_cons_of_mem 47 hu⟩
  constructor
  · rintro ⟨hpath, hfollow⟩ s hs
    have hmarks : ∀ u ∈ ofSegments (taken ss), u ≠ 63 ∧ u ≠ 35 := by
      rw [pathOf, keptLast_ofSegments] at hpath
      simpa using List.takeWhile_eq_self_iff.mp hpath
    have hquery : 63 ∉ s := fun hu => (hmarks 63 (hmem 63 s hs hu)).1 rfl
    have hfragment : 35 ∉ s := fun hu => (hmarks 35 (hmem 35 s hs hu)).2 rfl
    -- from the empty path, whatever is not empty is one of the segments
    have hled : s ∈ follow [] (segmentsOf (ofSegments ss)) := by
      rw [hfollow, List.nil_append]
      exact hs
    rcases mem_follow hled with hnone | rfl | ⟨hsegment, hhere, hup⟩
    · cases hnone
    · decide
    · have hpiece := List.mem_of_mem_tail hsegment
      refine ⟨⟨Text.notMem_of_mem_splitOn hpiece, fun hu => ?_, hquery, hfragment⟩, hhere, hup⟩
      obtain ⟨v, -, hv⟩ := List.mem_map.mp (Text.mem_of_mem_splitOn hpiece hu)
      split_ifs at hv with hback
      · cases hv
      · exact hback hv
  · intro hplain
    have hpath : pathOf (ofSegments ss) = ofSegments (taken ss) := by
      rw [pathOf, keptLast_ofSegments]
      refine List.takeWhile_eq_self_iff.mpr fun u hu => ?_
      obtain ⟨s, hs, hus⟩ := List.mem_flatMap.mp hu
      obtain ⟨⟨-, -, hquery, hfragment⟩, -⟩ := hplain s hs
      rcases List.mem_cons.mp hus with rfl | hus
      · rfl
      · have hne : u ≠ 63 ∧ u ≠ 35 := ⟨fun h => hquery (h ▸ hus), fun h => hfragment (h ▸ hus)⟩
        simpa using hne
    refine ⟨hpath, fun path => ?_⟩
    rw [segmentsOf_of_plain hpath hplain]
    exact follow_of_forward (fun s hs => (hplain s hs).2) path

end LineAgents.Http
