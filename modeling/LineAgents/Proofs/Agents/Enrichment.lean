import LineAgents.Proofs.Agents.Completions
import LineAgents.Proofs.Agents.Declarations
import LineAgents.Proofs.Environments

/-!
# Cards that are enriched

A card is built whatever comes of its embedding (`LineAgents.Card.run_build`): the embedding becomes
a member of the card, or its failure is noted and the card goes without. No registered card has a
member of that name, so the embedding is one more member at its end
(`LineAgents.Registry.withEmbedding_card`), and the others are what they were.

An embedding is asked for by one request when there is a credential, and by none otherwise
(`LineAgents.Card.run_embedding`).
-/

namespace LineAgents

namespace Card

/-! ### The member for an embedding -/

/-- The member that an embedding adds to a card, if there is one. -/
def embeddingMember : Option (List Float) → Fields
  | some vector => [(Text.ofString "embedding", .arr (vector.map .num))]
  | none => []

/-- **The card with what an embedding adds to it.** -/
def enriched (c : Card) (vector? : Option (List Float)) : Card :=
  ⟨c.members ++ embeddingMember vector?⟩

theorem enriched_none (c : Card) : c.enriched none = c :=
  congrArg Card.mk (List.append_nil c.members)

/-- The other members are those of the card. -/
theorem get?_enriched (c : Card) (vector? : Option (List Float)) {name : Text}
    (hname : name ≠ Text.ofString "embedding") :
    (c.enriched vector?).members.get? name = c.members.get? name := by
  have hnone : (embeddingMember vector?).lookup name = none := by
    cases vector? with
    | none => rfl
    | some vector => rw [embeddingMember, lookup_cons_ite, if_neg hname, List.lookup_nil]
  rw [enriched, Fields.get?, List.lookup_append, hnone, Option.or_none, Fields.get?]

end Card

namespace Registry

variable {readers : Readers} {key : Text} {agent : Agent}
  (h : (Registry.default readers).get? key = some agent)
include h

/-- **An embedding is one more member of a registered card**, which has none of that name. -/
theorem withEmbedding_card (s : Settings) :
    (agent s).card.members.get? "embedding" = none ∧ ∀ vector,
      (agent s).card.withEmbedding vector = (agent s).card.enriched (some vector) :=
  get?_default_cases
    (P := fun agent => (agent s).card.members.get? "embedding" = none ∧ ∀ vector,
      (agent s).card.withEmbedding vector = (agent s).card.enriched (some vector))
    ⟨rfl, fun _ => rfl⟩ ⟨rfl, fun _ => rfl⟩ ⟨rfl, fun _ => rfl⟩ ⟨rfl, fun _ => rfl⟩
    ⟨rfl, fun _ => rfl⟩ ⟨rfl, fun _ => rfl⟩ ⟨rfl, fun _ => rfl⟩ ⟨rfl, fun _ => rfl⟩ h

/-- The switches are nothing to an agent. -/
theorem agent_withSwitches (s : Settings) (env : Environment) :
    agent (s.withSwitches env) = agent s :=
  get?_default_cases (P := fun agent => agent (s.withSwitches env) = agent s)
    rfl rfl rfl rfl rfl rfl rfl rfl h

end Registry

namespace Card

/-! ### Building a card -/

/-- The card that is served, by what comes of the embedding. -/
def served (c : Card) : Except Failure (List Float) → Card
  | .ok vector => c.withEmbedding vector
  | .error _ => c

theorem served_eq {c : Card}
    (h : ∀ vector, c.withEmbedding vector = c.enriched (some vector))
    (outcome : Except Failure (List Float)) :
    c.served outcome = c.enriched outcome.toOption := by
  cases outcome with
  | ok vector => exact h vector
  | error f => exact c.enriched_none.symm

/-- **A card is built whatever comes of the embedding.** -/
theorem run_build (c : Card) (embed : Embedder) (w : World) :
    let r := w.run (embed c.embeddingText)
    w.run (c.build (some embed)) =
      { outcome := .ok (c.served r.outcome)
        world := r.world
        events := r.events ++ (Failure.notes c.skippedNote r.outcome).map .logged } := by
  intro r
  refine (World.run_andThen (embed c.embeddingText) _ w).trans ?_
  change Run.precededBy r.events (World.run (match r.outcome with
    | .ok vector => .lift (.ok (c.withEmbedding vector))
    | .error f => .log (c.skippedNote f) (.lift (.ok c))) r.world) = _
  cases r.outcome with
  | ok vector => rfl
  | error f => rfl

/-! ### Asking for an embedding -/

/-- The request for the embedding of a card. -/
def embeddingRequest (access : ModelAccess) (c : Card) : Http.Request :=
  Completion.request (access.baseUrl ++ "/embeddings") access.apiKey
    (Completion.embeddingBody access.model c.embeddingText) 15000

/-- **The embedding that a reply holds**, if there is a credential to ask for it. -/
def vector? (apiKey : Text) (r : Except Failure Http.Reply) : Option (List Float) :=
  if apiKey = [] then none else Completion.said? Completion.embedding? r

/-- The world in which a reply comes first, if there is a credential to ask for it. -/
def worldWith (apiKey : Text) (r : Except Failure Http.Reply) (w : World) : World :=
  if apiKey = [] then w else { w with replies := r :: w.replies }

/-- **An embedding is one request, or none without a credential**, and uses up one reply. -/
theorem run_embedding (access : ModelAccess) (c : Card) (r : Except Failure Http.Reply)
    (w : World) :
    let embedding := (worldWith access.apiKey r w).run
      (Completion.embedding access c.embeddingText)
    embedding.outcome.toOption = vector? access.apiKey r ∧ embedding.world = w ∧
      embedding.events =
        if access.apiKey = [] then [] else [.sent (embeddingRequest access c)] := by
  intro embedding
  obtain ⟨houtcome, hworld, hevents⟩ := Completion.run_ask "Embeddings" "No embedding in response"
    Completion.embedding? access.apiKey "LLM_API_KEY" (embeddingRequest access c)
    (worldWith access.apiKey r w)
  refine ⟨houtcome.trans ?_, hworld.trans ?_, hevents⟩
  · rw [vector?, worldWith]
    split <;> rfl
  · rw [worldWith]
    split <;> rfl

/-- **An enriched card is built in any case**, with one request for the embedding and one note where
there is none. -/
theorem exists_run_build {c : Card}
    (hc : ∀ vector, c.withEmbedding vector = c.enriched (some vector)) (access : ModelAccess)
    (r : Except Failure Http.Reply) (w : World) :
    ∃ notes : List Text,
      notes.length = (if (vector? access.apiKey r).isSome then 0 else 1) ∧
      (∀ note ∈ notes, ∃ f, note = c.skippedNote f) ∧
      (worldWith access.apiKey r w).run (c.build (some (Completion.embedding access))) =
        { outcome := .ok (c.enriched (vector? access.apiKey r))
          world := w
          events := (if access.apiKey = [] then [] else [.sent (embeddingRequest access c)]) ++
            notes.map .logged } := by
  obtain ⟨houtcome, hworld, hevents⟩ := run_embedding access c r w
  have hbuild := c.run_build (Completion.embedding access) (worldWith access.apiKey r w)
  dsimp only at hbuild
  rw [served_eq hc, houtcome, hworld, hevents] at hbuild
  refine ⟨_, ?_, fun _ h => Failure.exists_of_mem_notes h, hbuild⟩
  rw [Failure.length_notes, houtcome]

end Card

end LineAgents
