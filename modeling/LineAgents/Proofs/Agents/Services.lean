import LineAgents.Proofs.Agents.Completions
import LineAgents.Proofs.Json.Path

/-!
# What a service is asked and what it answers

The three services differ in what they are asked and in where they answer, and in nothing else: each
is asked by one request, or not at all as long as there is no credential, and its reply decides how
the question ends (`LineAgents.Completion.AsksOnce`). The body of the request can be read by whoever
gets it: it is JSON, and the prompt or the text stands in it unit for unit, whatever its units are.

The answer is read by hand, one step after the other, and at every step the reply may be something
else than expected. What such a reader finds is what stands at a path of the reply, neither less nor
more (`LineAgents.Completion.chatText?_eq_some_iff`,
`LineAgents.Completion.generatedText?_eq_some_iff`,
`LineAgents.Completion.embedding?_eq_some_iff`); without an answer the question ends with an error
that says something, whatever the reply is (`LineAgents.Completion.services_ask_once`).
-/

namespace LineAgents

/-- **An error that says something**: its message is a text, and one that is not empty. -/
def Failure.Speaks (f : Failure) : Prop :=
  ∃ message : Text, f.message? = some (.str message) ∧ message ≠ []

theorem Failure.speaks_plain {message : Text} (h : message ≠ []) : (plain message).Speaks :=
  ⟨message, rfl, h⟩

/-- **A reply delivers a value**: its status is in the two hundreds, its body is JSON, and the value
is in its place there. -/
def Http.Reply.Delivers {α : Type} (Holds : Json → α → Prop) (r : Reply) (a : α) : Prop :=
  (200 ≤ r.status ∧ r.status < 300) ∧ ∃ v, Json.parse? r.text = some v ∧ Holds v a

namespace Completion

variable {v : Json}

/-! ### Where the answers are -/

theorem firstItem?_eq_item? (v : Json) : firstItem? v = v.item? 0 := by
  cases v with
  | arr items => cases items <;> rfl
  | _ => rfl

/-- A list of numbers, and nothing else, is taken as one. -/
theorem numbers?_eq_some_iff {xs : List Float} :
    numbers? v = some xs ↔ v = .arr (xs.map .num) := by
  cases v with
  | arr items => rw [numbers?, Json.mapM_number?_eq_some_iff, Json.arr.injEq]
  | _ => exact ⟨nofun, nofun⟩

/-- **The text of a chat reply** is the content of the message of its first choice. -/
theorem chatText?_eq_some_iff {s : Text} : chatText? v = some s ↔
    v.At [.member "choices", .item 0, .member "message", .member "content"] (.str s) := by
  simp only [chatText?, firstItem?_eq_item?, Option.bind_eq_bind, Option.bind_eq_some_iff,
    Json.text?_eq_some_iff, Json.at_member_iff, Json.at_item_iff, Json.at_nil_iff]

/-- **The text of a generation reply** is that of its first item, if it is a list, and its own
otherwise. -/
theorem generatedText?_eq_some_iff {s : Text} : generatedText? v = some s ↔
    v.At [.item 0, .member "generated_text"] (.str s) ∨
      v.At [.member "generated_text"] (.str s) := by
  -- a list has no members, and nothing else has items
  have hbare : ∀ u : Json, (u.get? "generated_text").bind Json.text? = some s ↔
      u.At [.member "generated_text"] (.str s) := by
    intro u
    simp only [Option.bind_eq_some_iff, Json.text?_eq_some_iff, Json.at_member_iff,
      Json.at_nil_iff]
  cases v with
  | arr items =>
    have hfirst : generatedText? (.arr items) =
        (items[0]?).bind fun u => (u.get? "generated_text").bind Json.text? := by
      rw [← List.head?_eq_getElem?]
      rfl
    rw [hfirst, Option.bind_eq_some_iff, Json.at_item_iff]
    simp only [hbare]
    exact ⟨Or.inl, fun h => h.resolve_right nofun⟩
  | _ => exact ⟨fun h => Or.inr ((hbare _).mp h), fun h => (hbare _).mpr (h.resolve_left nofun)⟩

/-- **The embedding of a reply** is the list of numbers of its first item of data. -/
theorem embedding?_eq_some_iff {xs : List Float} : embedding? v = some xs ↔
    v.At [.member "data", .item 0, .member "embedding"] (.arr (xs.map .num)) := by
  simp only [embedding?, firstItem?_eq_item?, Option.bind_eq_bind, Option.bind_eq_some_iff,
    numbers?_eq_some_iff, Json.at_member_iff, Json.at_item_iff, Json.at_nil_iff]

/-- A list of no numbers is an embedding. -/
example : embedding? (.obj [("data", .arr [.obj [("embedding", .arr [])]])]) = some [] := rfl

/-! ### One question -/

section

variable {α : Type} {Holds : Json → α → Prop} {read : Json → Option α} {service lacking : Text}

/-- A question ends with a value when the reply delivers it. -/
theorem endOf_eq_ok_iff (hread : ∀ v a, read v = some a ↔ Holds v a) {r : Http.Reply} {a : α} :
    endOf service lacking read (.ok r) = .ok a ↔ r.Delivers Holds a := by
  have hok : r.ok = true ↔ 200 ≤ r.status ∧ r.status < 300 := by
    rw [Http.Reply.ok, Bool.and_eq_true, decide_eq_true_iff, decide_eq_true_iff]
  have hsaid : endOf service lacking read (.ok r) = .ok a ↔ said? read (.ok r) = some a := by
    rw [← toOption_endOf service lacking read]
    cases endOf service lacking read (.ok r) <;> simp [Except.toOption]
  rw [hsaid, said?, Http.Reply.Delivers, ← hok]
  simp only [Option.ite_none_right_eq_some, Option.bind_eq_some_iff, hread]

/-- Whatever the reply is, a question that fails says something. -/
theorem speaks_of_endOf (hlacking : lacking ≠ []) {r : Http.Reply} {f : Failure}
    (h : endOf service lacking read (.ok r) = .error f) : f.Speaks := by
  rw [endOf] at h
  split at h
  · rw [Http.Reply.json] at h
    cases hv : Json.parse? r.text with
    | none =>
      rw [hv] at h
      obtain rfl := Except.error.inj h
      have hclose : Text.ofString ")" ≠ [] := by decide
      exact ⟨_, rfl, List.append_ne_nil_of_right_ne_nil _ hclose⟩
    | some v =>
      rw [hv] at h
      dsimp only at h
      split at h
      · cases h
      · obtain rfl := Except.error.inj h
        exact Failure.speaks_plain hlacking
  · obtain rfl := Except.error.inj h
    have hspace : Text.ofString " " ≠ [] := by decide
    exact Failure.speaks_plain (List.append_ne_nil_of_left_ne_nil
      (List.append_ne_nil_of_right_ne_nil _ hspace) _)

/-- **A program asks a service once.** Without a credential it sends nothing and fails. Otherwise it
sends one request with the given body, and ends with what the reply delivers; a reply that delivers
nothing makes it fail with an error that says something, and where there is no reply the reason
stands. -/
structure AsksOnce (apiKey url : Text) (body : Json) (Holds : Json → α → Prop)
    (program : Program α) : Prop where
  silent : apiKey = [] → ∀ w : World, ∃ f : Failure, w.run program = ⟨.error f, w, []⟩ ∧ f.Speaks
  asked : apiKey ≠ [] → ∃ q : Http.Request,
    q.method = some "POST" ∧ q.url = url ∧ q.body.bind Json.parse? = some body ∧
      ∀ w : World, (w.run program).events = [.sent q] ∧ (w.run program).world = (w.nextReply q).2 ∧
        (∀ r, (w.nextReply q).1 = .ok r →
          (∀ a, (w.run program).outcome = .ok a ↔ r.Delivers Holds a) ∧
            ∀ f, (w.run program).outcome = .error f → f.Speaks) ∧
        ∀ f, (w.nextReply q).1 = .error f → (w.run program).outcome = .error f

/-- A question that reads what stands in its place asks once. -/
theorem asksOnce_ask (hlacking : lacking ≠ []) (hread : ∀ v a, read v = some a ↔ Holds v a)
    (apiKey missing url : Text) (body : Json) (timeout : Float) :
    AsksOnce apiKey url body.reread Holds
      (ask apiKey missing service lacking (request url apiKey body timeout) read) where
  silent h w := by
    rw [ask_of_unset service lacking read h]
    have hunset : Text.ofString " is not set" ≠ [] := by decide
    exact ⟨_, rfl, Failure.speaks_plain (List.append_ne_nil_of_right_ne_nil _ hunset)⟩
  asked h := by
    rw [ask_of_set service lacking read h]
    refine ⟨request url apiKey body timeout, rfl, rfl, Json.parse?_render body, fun w => ?_⟩
    refine ⟨rfl, rfl, fun r hr => ?_, fun f hf => ?_⟩
    · have houtcome : (w.run (.send (request url apiKey body timeout) fun answer =>
          .lift (endOf service lacking read answer))).outcome =
          endOf service lacking read (.ok r) := congrArg (endOf service lacking read) hr
      rw [houtcome]
      exact ⟨fun a => endOf_eq_ok_iff hread, fun f => speaks_of_endOf hlacking⟩
    · exact congrArg (endOf service lacking read) hf

end

/-! ### The three services -/

/-- **The model of a question**: the caller's, if it names one, and the configured one otherwise. -/
def Options.Chooses (o : Options) (default model : Text) : Prop :=
  (o.model = some model ∧ model ≠ []) ∨ ((o.model = none ∨ o.model = some []) ∧ model = default)

theorem Options.chooses_modelOr (o : Options) (default : Text) :
    o.Chooses default (o.modelOr default) := by
  rw [Chooses, modelOr]
  rcases o.model with _ | _ | ⟨u, m⟩ <;> simp

/-- What is read where the body of a chat request was written. -/
theorem reread_chatBody (model prompt : Text) (limit : Json) :
    (chatBody model prompt limit).reread = .obj [("model", .str model),
      ("messages", .arr [.obj [("role", .str "user"), ("content", .str prompt)]]),
      ("max_tokens", limit.reread)] :=
  rfl

/-- What is read where the body of a generation request was written. -/
theorem reread_generationBody (prompt : Text) (limit : Json) :
    (generationBody prompt limit).reread = .obj [("inputs", .str prompt), ("parameters", .obj [
      ("max_new_tokens", limit.reread), ("return_full_text", .bool false)])] :=
  rfl

/-- What is read where the body of an embedding request was written. -/
theorem reread_embeddingBody (model text : Text) :
    (embeddingBody model text).reread = .obj [("model", .str model), ("input", .str text)] :=
  rfl

/-- **The services are asked once, and answer in their place.** The body of a request is the
documented object, with the prompt or the text unchanged, the model that is chosen, and the bound on
the length as far as it has a JSON form; the generation service has its model in the URL. -/
theorem services_ask_once (access : ModelAccess) (t : Text) (o : Options) :
    (∃ model, o.Chooses access.model model ∧
      AsksOnce access.apiKey (access.baseUrl ++ "/chat/completions")
        (.obj [("model", .str model),
          ("messages", .arr [.obj [("role", .str "user"), ("content", .str t)]]),
          ("max_tokens", (Json.num (o.maxTokens.getD 200)).reread)])
        (fun v s => v.At [.member "choices", .item 0, .member "message", .member "content"]
          (.str s))
        ((chat access).complete t o)) ∧
      (∃ model, o.Chooses access.model model ∧
        AsksOnce access.apiKey (access.baseUrl ++ "/models/" ++ model)
          (.obj [("inputs", .str t), ("parameters", .obj [
            ("max_new_tokens", (Json.num (o.maxTokens.getD 200)).reread),
            ("return_full_text", .bool false)])])
          (fun v s => v.At [.item 0, .member "generated_text"] (.str s) ∨
            v.At [.member "generated_text"] (.str s))
          ((generation access).complete t o)) ∧
      AsksOnce access.apiKey (access.baseUrl ++ "/embeddings")
        (.obj [("model", .str access.model), ("input", .str t)])
        (fun v xs => v.At [.member "data", .item 0, .member "embedding"] (.arr (xs.map .num)))
        (embedding access t) := by
  refine ⟨⟨_, o.chooses_modelOr access.model, ?_⟩, ⟨_, o.chooses_modelOr access.model, ?_⟩, ?_⟩
  · rw [← reread_chatBody]
    have hlacking : Text.ofString "No choices in response" ≠ [] := by decide
    exact asksOnce_ask hlacking (fun v _ => chatText?_eq_some_iff (v := v)) ..
  · rw [← reread_generationBody]
    have hlacking : Text.ofString "No generated text in response" ≠ [] := by decide
    exact asksOnce_ask hlacking (fun v _ => generatedText?_eq_some_iff (v := v)) ..
  · rw [← reread_embeddingBody]
    have hlacking : Text.ofString "No embedding in response" ≠ [] := by decide
    exact asksOnce_ask hlacking (fun v _ => embedding?_eq_some_iff (v := v)) ..

end Completion

end LineAgents
