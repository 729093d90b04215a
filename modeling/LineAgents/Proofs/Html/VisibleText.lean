import LineAgents.Html.VisibleText
import LineAgents.Proofs.Text.Blank

/-!
# Which text is visible

A text node is **shown** when it is not blank and no element around it is hidden. The visible text
of a document is made of the nodes that are shown, each of them once and in the order of the
document (`LineAgents.Html.Document.exists_places_visibleText`). This is so of any document, hence
of every page, whatever parser makes a document of it (`LineAgents.Html.visibleText_places`).

To say so a node needs a name, and that is the path that leads to it from the document: the number
of a child at every step (`LineAgents.Html.Node.at?`). The elements around a node stand at the
beginnings of its path, so that being shown is a property of a path
(`LineAgents.Html.Node.ShowsAt`), and the order of the document is the lexicographic order of paths.

Hidden elements are first taken out of the tree, and what is left is collected afterwards. How they
stand in one another does not matter: collecting what is left is collecting from the whole tree and
passing hidden elements over (`LineAgents.Html.Node.textsOf_pruned`). The second way goes through
the tree once, and `LineAgents.Html.Node.shownPlaces` goes the same way and keeps the paths.
-/

namespace LineAgents.Html

namespace Node

variable {n : Node} {ns children : List Node} {name s t : Text} {i : Nat} {path : List Nat}

/-! ### Paths -/

/-- **What stands at the end of a path**: a path gives the number of a child at every step. -/
def at? : Node → List Nat → Option Node
  | n, [] => some n
  | .element _ children, i :: path => (children[i]?).bind fun n => n.at? path
  | _, _ :: _ => none

@[simp] theorem at?_nil (n : Node) : n.at? [] = some n := by
  cases n <;> rfl

@[simp] theorem at?_cons (name : Text) (children : List Node) (i : Nat) (path : List Nat) :
    (element name children).at? (i :: path) = (children[i]?).bind fun n => n.at? path := rfl

/-- **A text is shown at the end of a path** when it is not blank and no element on the way to it is
hidden. -/
def ShowsAt (n : Node) (path : List Nat) (t : Text) : Prop :=
  n.at? path = some (.text t) ∧ t.allBlank = false ∧
    ∀ front, front <+: path → ∀ name children,
      n.at? front = some (.element name children) → name ∉ hiddenNames

/-- A text shows itself, if it is not blank. -/
theorem showsAt_text_iff : (text s).ShowsAt path t ↔ path = [] ∧ t = s ∧ s.allBlank = false := by
  constructor
  · rintro ⟨hat, hblank, -⟩
    cases path with
    | nil =>
      rw [at?_nil] at hat
      obtain rfl := Node.text.inj (Option.some.inj hat)
      exact ⟨rfl, rfl, hblank⟩
    | cons i path => cases hat
  · rintro ⟨rfl, rfl, hblank⟩
    refine ⟨at?_nil _, hblank, fun front hfront name children h => ?_⟩
    rw [List.prefix_nil.mp hfront, at?_nil] at h
    cases h

theorem not_showsAt_comment : ¬comment.ShowsAt path t := by
  rintro ⟨hat, -, -⟩
  cases path <;> cases hat

/-- **What an element shows is what its children show**, unless it is hidden. -/
theorem showsAt_element_iff : (element name children).ShowsAt path t ↔
    name ∉ hiddenNames ∧
      ∃ i rest n, path = i :: rest ∧ children[i]? = some n ∧ n.ShowsAt rest t := by
  constructor
  · rintro ⟨hat, hblank, hfronts⟩
    refine ⟨hfronts [] List.nil_prefix name children (at?_nil _), ?_⟩
    cases path with
    | nil =>
      rw [at?_nil] at hat
      cases hat
    | cons i rest =>
      obtain ⟨n, hn, hrest⟩ := Option.bind_eq_some_iff.mp hat
      refine ⟨i, rest, n, rfl, hn, hrest, hblank, fun front hfront name' children' h => ?_⟩
      refine hfronts (i :: front) (List.cons_prefix_cons.mpr ⟨rfl, hfront⟩) name' children' ?_
      rw [at?_cons, hn]
      exact h
  · rintro ⟨hname, i, rest, n, rfl, hn, hrest, hblank, hfronts⟩
    refine ⟨by rw [at?_cons, hn]; exact hrest, hblank, ?_⟩
    rintro (_ | ⟨j, front⟩) hfront name' children' h
    · -- the element itself
      rw [at?_nil] at h
      cases h
      exact hname
    · obtain ⟨rfl, hrest⟩ := List.cons_prefix_cons.mp hfront
      rw [at?_cons, hn] at h
      exact hfronts front hrest name' children' h

/-! ### Passing over hidden elements -/

mutual

/-- **The texts that a node shows**: hidden elements are passed over on the way through the tree. -/
def shown : Node → List Text
  | .text t => if t.trim.isEmpty then [] else [t.trim]
  | .comment => []
  | .element name children => if hiddenNames.contains name then [] else shownOf children

/-- The texts that nodes show. -/
def shownOf : List Node → List Text
  | [] => []
  | n :: ns => shown n ++ shownOf ns

end

theorem shown_of_isHidden (h : n.isHidden = true) : shown n = [] := by
  cases n with
  | element name children => exact if_pos h
  | text t => cases h
  | comment => cases h

mutual

theorem texts_withoutHidden : ∀ n : Node, n.isHidden = false → texts (withoutHidden n) = shown n
  | .text t, _ => rfl
  | .comment, _ => rfl
  | .element name children, h => by
    rw [withoutHidden, texts, shown, if_neg (by simpa [isHidden] using h), textsOf_pruned children]

/-- **Hidden elements can be taken out first or passed over**, however they stand in one another. -/
theorem textsOf_pruned : ∀ ns : List Node, textsOf (pruned ns) = shownOf ns
  | [] => rfl
  | n :: ns => by
    rw [pruned, shownOf]
    cases h : n.isHidden with
    | true => rw [if_pos rfl, textsOf_pruned ns, shown_of_isHidden h, List.nil_append]
    | false =>
      rw [if_neg Bool.false_ne_true, textsOf, texts_withoutHidden n h, textsOf_pruned ns]

end

/-! ### The places of shown texts -/

mutual

/-- **The texts that a node shows, with the paths to them**, on one way through the tree. -/
def shownPlaces : Node → List (List Nat × Text)
  | .text t => if t.allBlank then [] else [([], t)]
  | .comment => []
  | .element name children => if hiddenNames.contains name then [] else placesFrom 0 children

/-- The texts that children show, the first of which has the given number. -/
def placesFrom : Nat → List Node → List (List Nat × Text)
  | _, [] => []
  | i, n :: ns => (shownPlaces n).map (fun p => (i :: p.1, p.2)) ++ placesFrom (i + 1) ns

end

mutual

theorem map_trim_shownPlaces : ∀ n : Node, (shownPlaces n).map (fun p => p.2.trim) = shown n
  | .text t => by
    rw [shownPlaces, shown]
    cases h : t.allBlank with
    | true => rw [if_pos rfl, (Text.trim_eq_nil_iff t).mpr h]; rfl
    | false =>
      have hne : t.trim ≠ [] := fun hnil => by simp [(Text.trim_eq_nil_iff t).mp hnil] at h
      rw [if_neg Bool.false_ne_true, if_neg (by simpa using hne)]
      rfl
  | .comment => rfl
  | .element name children => by
    rw [shownPlaces, shown]
    split
    · rfl
    · exact map_trim_placesFrom 0 children

theorem map_trim_placesFrom : ∀ (i : Nat) (ns : List Node),
    (placesFrom i ns).map (fun p => p.2.trim) = shownOf ns
  | _, [] => rfl
  | i, n :: ns => by
    rw [placesFrom, shownOf, List.map_append, List.map_map, ← map_trim_shownPlaces n,
      map_trim_placesFrom (i + 1) ns]
    rfl

end

mutual

/-- **Exactly the texts that are shown have a place**, at the end of the path to them. -/
theorem mem_shownPlaces_iff : ∀ (n : Node) {path : List Nat} {t : Text},
    (path, t) ∈ shownPlaces n ↔ n.ShowsAt path t
  | .text s, path, t => by
    rw [shownPlaces, showsAt_text_iff]
    cases s.allBlank <;> simp
  | .comment, path, t => ⟨nofun, fun h => absurd h not_showsAt_comment⟩
  | .element name children, path, t => by
    rw [shownPlaces, showsAt_element_iff]
    split
    · rename_i h
      exact ⟨nofun, fun hshows => absurd (List.contains_iff_mem.mp h) hshows.1⟩
    · rename_i h
      have hvisible := fun hmem => h (List.contains_iff_mem.mpr hmem)
      rw [mem_placesFrom_iff 0 children, and_iff_right hvisible]
      simp only [Nat.zero_add]

/-- Among children the number of a child comes in front of the path. -/
theorem mem_placesFrom_iff : ∀ (k : Nat) (ns : List Node) {path : List Nat} {t : Text},
    (path, t) ∈ placesFrom k ns ↔
      ∃ i rest n, path = (k + i) :: rest ∧ ns[i]? = some n ∧ n.ShowsAt rest t
  | k, [], path, t => by simp [placesFrom]
  | k, n :: ns, path, t => by
    rw [placesFrom, List.mem_append, mem_placesFrom_iff (k + 1) ns]
    constructor
    · rintro (hfirst | ⟨i, rest, m, rfl, hm, hshows⟩)
      · obtain ⟨⟨rest, u⟩, hmem, heq⟩ := List.mem_map.mp hfirst
        cases heq
        exact ⟨0, rest, n, rfl, rfl, (mem_shownPlaces_iff n).mp hmem⟩
      · exact ⟨i + 1, rest, m, by rw [Nat.add_assoc, Nat.add_comm 1 i], hm, hshows⟩
    · rintro ⟨_ | i, rest, m, rfl, hm, hshows⟩
      · cases hm
        exact Or.inl (List.mem_map.mpr ⟨(rest, t), (mem_shownPlaces_iff n).mpr hshows, rfl⟩)
      · exact Or.inr ⟨i, rest, m, by rw [Nat.add_assoc, Nat.add_comm 1 i], hm, hshows⟩

end

mutual

/-- **The places are in the order of the document**, and so each of them is there once. -/
theorem pairwise_shownPlaces : ∀ n : Node, (shownPlaces n).Pairwise fun p q => p.1 < q.1
  | .text t => by
    rw [shownPlaces]
    split <;> simp
  | .comment => List.Pairwise.nil
  | .element name children => by
    rw [shownPlaces]
    split
    · exact List.Pairwise.nil
    · exact pairwise_placesFrom 0 children

theorem pairwise_placesFrom : ∀ (k : Nat) (ns : List Node),
    (placesFrom k ns).Pairwise fun p q => p.1 < q.1
  | _, [] => List.Pairwise.nil
  | k, n :: ns => by
    rw [placesFrom, List.pairwise_append, List.pairwise_map]
    refine ⟨(pairwise_shownPlaces n).imp fun h => List.cons_lt_cons_iff.mpr (Or.inr ⟨rfl, h⟩),
      pairwise_placesFrom (k + 1) ns, ?_⟩
    -- a path into the first child is before every path into a later one
    rintro p hp ⟨path, t⟩ hq
    obtain ⟨⟨rest, u⟩, -, rfl⟩ := List.mem_map.mp hp
    obtain ⟨i, rest', m, rfl, -, -⟩ := (mem_placesFrom_iff (k + 1) ns).mp hq
    exact List.cons_lt_cons_iff.mpr (Or.inl (by omega))

end

/-- What is shown has something in it and is trimmed. -/
theorem trimmed_of_mem_shown (n : Node) : ∀ t ∈ shown n, t ≠ [] ∧ t.Trimmed := by
  rw [← map_trim_shownPlaces]
  intro t ht
  obtain ⟨⟨path, s⟩, hs, rfl⟩ := List.mem_map.mp ht
  obtain ⟨-, hblank, -⟩ := (mem_shownPlaces_iff n).mp hs
  refine ⟨fun hnil => ?_, Text.trimmed_trim s⟩
  rw [(Text.trim_eq_nil_iff s).mp hnil] at hblank
  cases hblank

/-- Nothing is shown only where no text is shown. -/
theorem shown_eq_nil_iff (n : Node) : shown n = [] ↔ ∀ path t, ¬n.ShowsAt path t := by
  rw [← map_trim_shownPlaces, List.map_eq_nil_iff, List.eq_nil_iff_forall_not_mem]
  exact ⟨fun h path t hshows => h _ ((mem_shownPlaces_iff n).mpr hshows),
    fun h p hp => h p.1 p.2 ((mem_shownPlaces_iff n).mp hp)⟩

end Node

/-! ### The visible text of a document -/

namespace Document

variable (d : Document)

/-- The visible text is what the document shows, with spaces between. -/
theorem visibleText_eq : d.visibleText = Text.join " " d.root.shown := by
  rw [visibleText, Node.texts_withoutHidden]
  rfl

/-- **The visible text is made of the texts that are shown**, each once and in the order of the
document. -/
theorem exists_places_visibleText : ∃ places : List (List Nat × Text),
    places.Pairwise (fun p q => p.1 < q.1) ∧
    (∀ path t, (path, t) ∈ places ↔ d.root.ShowsAt path t) ∧
    d.visibleText = Text.join " " (places.map fun p => p.2.trim) := by
  refine ⟨d.root.shownPlaces, Node.pairwise_shownPlaces _,
    fun _ _ => Node.mem_shownPlaces_iff _, ?_⟩
  rw [Node.map_trim_shownPlaces, d.visibleText_eq]

theorem trimmed_visibleText : d.visibleText.Trimmed := by
  rw [d.visibleText_eq]
  exact Text.trimmed_join _ (Node.trimmed_of_mem_shown d.root)

/-- **The visible text is empty** only if no text is shown. -/
theorem visibleText_eq_nil_iff : d.visibleText = [] ↔ ∀ path t, ¬d.root.ShowsAt path t := by
  rw [d.visibleText_eq,
    Text.join_eq_nil_iff fun t ht => (Node.trimmed_of_mem_shown d.root t ht).1,
    Node.shown_eq_nil_iff]

end Document

/-- **The visible text of a page**, whatever makes a document of it. Hidden elements can be taken
out of any nodes first or be passed over. The visible text is made of the places of the texts that
are shown, each once and in the order of the document; it is trimmed, and it is empty only if no
text is shown. -/
theorem visibleText_places (parse : Parser) (html : Text) :
    (∀ ns : List Node, Node.textsOf (Node.pruned ns) = Node.shownOf ns) ∧
      (∃ places : List (List Nat × Text),
        places.Pairwise (fun p q => p.1 < q.1) ∧
        (∀ path t, (path, t) ∈ places ↔ (parse html).root.ShowsAt path t) ∧
        (parse html).visibleText = Text.join " " (places.map fun p => p.2.trim)) ∧
      (parse html).visibleText.Trimmed ∧
      ((parse html).visibleText = [] ↔ ∀ path t, ¬(parse html).root.ShowsAt path t) :=
  ⟨Node.textsOf_pruned, (parse html).exists_places_visibleText, (parse html).trimmed_visibleText,
    (parse html).visibleText_eq_nil_iff⟩

end LineAgents.Html
