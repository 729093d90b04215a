import LineAgents.Agents.Registry
import LineAgents.Proofs.Json.Order

/-!
# What a registry remembers

A registry is asked in two ways: for the keys it has, and for what is under a key. Both answers
come from the registrations alone. The keys are those that were registered, each once, in the order
in which they came first; and under a key is what was registered under it last
(`LineAgents.Registry.registerAll_keeps_order`). So a registration under a key that is there takes
effect without moving the key, and a key is listed exactly if something is under it, whatever the
key spells.

One registration replaces an entry or adds one at the end. What that does to the keys is
`LineAgents.Registry.keys_register`, and what it does under a key is
`LineAgents.Registry.get?_register`; nothing else about entries is used. That a registry keeps a
history of registrations (`LineAgents.Registry.Keeps`) is carried on from these two, by every
registration and so by any number of them.
-/

namespace LineAgents.Registry

variable {α : Type} {r : Registry α} {key : Text}

/-! ### One registration -/

theorem isSome_get?_iff : (r.get? key).isSome ↔ key ∈ r.keys := by
  rw [get?, List.lookup_isSome_iff, keys, List.mem_map]
  exact exists_congr fun e => and_congr_right fun _ => beq_iff_eq.trans eq_comm

/-- Under a key that is there the entry is replaced. -/
theorem register_of_mem (h : key ∈ r.keys) (a : α) :
    r.register key a = ⟨r.entries.map fun e => if e.1 == key then (key, a) else e⟩ :=
  if_pos (any_fst_iff.mpr h)

/-- Under a new key an entry is added. -/
theorem register_of_notMem (h : key ∉ r.keys) (a : α) :
    r.register key a = ⟨r.entries ++ [(key, a)]⟩ :=
  if_neg (mt any_fst_iff.mp h)

/-- **A key is added at the end**, unless it is there. -/
theorem keys_register (r : Registry α) (key : Text) (a : α) :
    (r.register key a).keys = if key ∈ r.keys then r.keys else r.keys ++ [key] := by
  split
  · rename_i hmem
    rw [register_of_mem hmem]
    exact map_fst_replace key a r.entries
  · rename_i hnew
    rw [register_of_notMem hnew]
    exact List.map_append

/-- **What is registered is under its key**, and what is under the others stays. -/
theorem get?_register (r : Registry α) (key k : Text) (a : α) :
    (r.register key a).get? k = if k = key then some a else r.get? k := by
  by_cases hmem : key ∈ r.keys
  · obtain ⟨b, hb⟩ := Option.isSome_iff_exists.mp (isSome_get?_iff.mpr hmem)
    rw [get?] at hb
    rw [register_of_mem hmem, get?, lookup_replace, hb]
    rfl
  · have hnone : r.get? key = none := by
      rw [← Option.not_isSome_iff_eq_none, isSome_get?_iff]
      exact hmem
    rw [register_of_notMem hmem, get?, List.lookup_append, lookup_cons_ite, List.lookup_nil, ← get?]
    split
    · rename_i hk
      rw [hk, hnone, Option.none_or]
    · rw [Option.or_none]

/-! ### All registrations -/

/-- The registrations of a history, one after the other. -/
def registerAll (r : Registry α) (history : List (Text × α)) : Registry α :=
  history.foldl (fun r e => r.register e.1 e.2) r

/-- **A registry keeps a history of registrations**: it has the keys that were registered, ordered
by where they came first, and under a key what came last. -/
structure Keeps (r : Registry α) (history : List (Text × α)) : Prop where
  mem_keys_iff (key : Text) : key ∈ r.keys ↔ key ∈ history.map (·.1)
  ordered : r.keys.Pairwise fun a b => (history.map (·.1)).idxOf a < (history.map (·.1)).idxOf b
  get?_eq (key : Text) : r.get? key = ((history.filter (·.1 == key)).getLast?).map (·.2)

variable {history : List (Text × α)}

theorem keeps_empty : Keeps (empty : Registry α) [] where
  mem_keys_iff _ := Iff.rfl
  ordered := List.Pairwise.nil
  get?_eq _ := rfl

/-- **One more registration**, under a key that is there or a new one. -/
theorem Keeps.register (h : Keeps r history) (key : Text) (a : α) :
    Keeps (r.register key a) (history ++ [(key, a)]) := by
  have hkeys : (history ++ [(key, a)]).map (·.1) = history.map (·.1) ++ [key] := List.map_append
  -- where the keys that are there came first does not change
  have hordered : r.keys.Pairwise fun k k' =>
      (history.map (·.1) ++ [key]).idxOf k < (history.map (·.1) ++ [key]).idxOf k' := by
    refine h.ordered.imp_of_mem fun hk hk' hlt => ?_
    rwa [List.idxOf_append_of_mem ((h.mem_keys_iff _).mp hk),
      List.idxOf_append_of_mem ((h.mem_keys_iff _).mp hk')]
  refine ⟨fun k => ?_, ?_, fun k => ?_⟩
  · rw [keys_register, hkeys, List.mem_append, List.mem_singleton, ← h.mem_keys_iff]
    split
    · rename_i hmem
      rw [or_iff_left_of_imp]
      rintro rfl
      exact hmem
    · rw [List.mem_append, List.mem_singleton]
  · rw [keys_register, hkeys]
    split
    · exact hordered
    · rename_i hnew
      refine List.pairwise_append.mpr ⟨hordered, List.pairwise_singleton _ _, ?_⟩
      rintro k hk _ hlast
      obtain rfl := List.mem_singleton.mp hlast
      have hmem := (h.mem_keys_iff k).mp hk
      rw [List.idxOf_append_of_mem hmem,
        List.idxOf_append_of_notMem (mt (h.mem_keys_iff _).mpr hnew)]
      exact Nat.lt_add_right _ (List.idxOf_lt_length_of_mem hmem)
  · rw [get?_register, h.get?_eq, List.filter_append, List.getLast?_append]
    by_cases hk : k = key
    · simp [hk]
    · simp [hk, Ne.symm hk]

/-- **Any number of registrations.** -/
theorem Keeps.registerAll (h : Keeps r history) (registrations : List (Text × α)) :
    Keeps (r.registerAll registrations) (history ++ registrations) := by
  induction registrations generalizing r history with
  | nil => rwa [List.append_nil]
  | cons e registrations ih =>
    rw [List.append_cons]
    exact ih (h.register e.1 e.2)

/-- No key is listed twice, for it cannot have come before itself. -/
theorem Keeps.nodup (h : Keeps r history) : r.keys.Nodup := by
  refine h.ordered.imp fun {a b} hlt => ?_
  rintro rfl
  exact Nat.lt_irrefl _ hlt

/-! ### The registries there are -/

/-- The default registry is made from nothing by registering its entries in their order. -/
theorem default_eq_registerAll (readers : Readers) :
    Registry.default readers =
      Registry.empty.registerAll (Registry.default readers).entries := rfl

/-- **A registry remembers its registrations**, from nothing as well as from the default registry,
which counts as the history of its own entries: registered in their order they make it. The keys are
those that were registered, none twice, and one stands before another exactly because it was
registered earlier for the first time; a key is there if and only if something is under it, and that
is what was registered under it last. -/
theorem registerAll_keeps_order {readers : Readers} {start : Registry Agent}
    (hstart : start = Registry.empty ∨ start = Registry.default readers)
    (registrations : List (Text × Agent)) :
    let r := start.registerAll registrations
    let history := start.entries ++ registrations
    start = Registry.empty.registerAll start.entries ∧
      r.keys.Nodup ∧
      (∀ key, key ∈ r.keys ↔ key ∈ history.map (·.1)) ∧
      r.keys.Pairwise (fun a b => (history.map (·.1)).idxOf a < (history.map (·.1)).idxOf b) ∧
      (∀ key, key ∈ r.keys ↔ (r.get? key).isSome) ∧
      ∀ key, r.get? key = ((history.filter (·.1 == key)).getLast?).map (·.2) := by
  intro r history
  have hmade : start = Registry.empty.registerAll start.entries := by
    rcases hstart with rfl | rfl
    · rfl
    · exact default_eq_registerAll readers
  have hkeeps : Keeps start start.entries := by
    have h := keeps_empty.registerAll start.entries
    rwa [← hmade] at h
  have h : Keeps r history := hkeeps.registerAll registrations
  exact ⟨hmade, h.nodup, h.mem_keys_iff, h.ordered, fun key => isSome_get?_iff.symm, h.get?_eq⟩

/-- A key that is registered twice, one that is there from the start, and one that spells a
number. -/
theorem registerAll_keeps_order_of_replaced :
    let first : Agent := fun _ => WebhookCall.capability
    let last : Agent := fun _ => PageText.capability Html.parse
    let start := Registry.default .standard
    let registrations : List (Text × Agent) := [(Text.ofString "__proto__", first),
      (Text.ofString "calc", last), (Text.ofString "7", first), (Text.ofString "__proto__", last)]
    let r := start.registerAll registrations
    (start = Registry.empty ∨ start = Registry.default .standard) ∧ r.keys.Nodup ∧
      r.keys = start.keys ++ [Text.ofString "__proto__", Text.ofString "7"] ∧
      r.get? "__proto__" = some last ∧ r.get? "calc" = some last ∧
      (Text.ofString "constructor" ∈ r.keys ↔ (r.get? "constructor").isSome) := by
  intro first last start registrations r
  have hstart : start = Registry.empty ∨ start = Registry.default .standard := Or.inr rfl
  obtain ⟨-, hnodup, -, -, hiff, hget⟩ := registerAll_keeps_order hstart registrations
  exact ⟨hstart, hnodup, rfl, hget "__proto__", hget "calc", hiff "constructor"⟩

end LineAgents.Registry
