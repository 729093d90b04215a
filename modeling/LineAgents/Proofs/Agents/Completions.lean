import LineAgents.Proofs.Json.RoundTrip
import LineAgents.Proofs.Outside.Sequence
import LineAgents.Completion

/-!
# Questions to a service

A question to a service is nothing but a failure as long as the credential is missing, and one
request otherwise, whose reply decides how it ends (`LineAgents.Completion.run_ask`). What the reply
**says** is in the documented place of its body, if it is a reply in the two hundreds, its body is
JSON and the place is there (`LineAgents.Completion.said?`).

A completer puts its prompt into the body of the request, and it can be read there again
(`LineAgents.Http.Request.prompt?`).
-/

namespace LineAgents

/-! ### The prompt of a request -/

/-- The prompt in the body of a request: the content of its first message, or its input where it has
no messages. -/
def Completion.promptIn? (body : Json) : Option Text :=
  match body.get? "messages" with
  | some messages => do
    let message ← firstItem? messages
    let content ← message.get? "content"
    content.text?
  | none => (body.get? "inputs").bind Json.text?

/-- **The prompt of a request**, read out of its body. -/
def Http.Request.prompt? (q : Http.Request) : Option Text :=
  (q.body.bind Json.parse?).bind Completion.promptIn?

namespace Completion

theorem prompt?_request (url apiKey : Text) (body : Json) (timeout : Float) :
    (request url apiKey body timeout).prompt? = promptIn? body.reread := by
  change (Json.parse? body.render).bind promptIn? = promptIn? body.reread
  rw [Json.parse?_render, Option.bind_some]

/-- The prompt is in the body of a chat request. -/
theorem promptIn?_chatBody (model prompt : Text) (limit : Json) :
    promptIn? (chatBody model prompt limit).reread = some prompt := by
  rfl

/-- The prompt is in the body of a generation request. -/
theorem promptIn?_generationBody (prompt : Text) (limit : Json) :
    promptIn? (generationBody prompt limit).reread = some prompt := by
  rfl

/-! ### The end of a question -/

section

variable {α : Type} (service lacking : Text) (read : Json → Option α)

/-- **What a reply says**, when its answer is in the place that `read` looks at. -/
def said? : Except Failure Http.Reply → Option α
  | .ok r => if r.ok then (Json.parse? r.text).bind read else none
  | .error _ => none

/-- How a question ends, by what comes back. -/
def endOf : Except Failure Http.Reply → Except Failure α
  | .error f => .error f
  | .ok r =>
    if r.ok then
      match r.json with
      | .error f => .error f
      | .ok v => match read v with
        | some a => .ok a
        | none => .error (.plain lacking)
    else .error (.plain (service ++ " API error: " ++ r.statusText ++ " " ++ r.text))

/-- A question ends with what the reply says, and fails when it says nothing. -/
theorem toOption_endOf (answer : Except Failure Http.Reply) :
    (endOf service lacking read answer).toOption = said? read answer := by
  cases answer with
  | error f => rfl
  | ok r =>
    rw [endOf, said?]
    split
    · rw [Http.Reply.json]
      cases Json.parse? r.text with
      | none => rfl
      | some v =>
        simp only [Option.bind_some]
        cases read v <;> rfl
    · rfl

/-- Without a credential nothing is sent. -/
theorem ask_of_unset {apiKey : Text} (h : apiKey = []) (missing : Text) (q : Http.Request) :
    ask apiKey missing service lacking q read =
      .lift (.error (.plain (missing ++ " is not set"))) := by
  rw [h]
  rfl

/-- **A question is one request**, and the reply decides how it ends. -/
theorem ask_of_set {apiKey : Text} (h : apiKey ≠ []) (missing : Text) (q : Http.Request) :
    ask apiKey missing service lacking q read =
      .send q fun answer => .lift (endOf service lacking read answer) := by
  rw [ask, List.isEmpty_eq_false_iff.mpr h, if_neg Bool.false_ne_true]
  refine congrArg (Program.send q) (funext fun answer => ?_)
  cases answer with
  | error f => rfl
  | ok r =>
    rw [endOf]
    change (if r.ok then _ else _) = _
    split
    · cases r.json with
      | error f => rfl
      | ok v =>
        change (match read v with
          | some a => (pure a : Program α)
          | none => throw (Failure.plain lacking)) = _
        dsimp only
        cases read v <;> rfl
    · rfl

/-- **The run of a question**: one request or none, and what the reply says. -/
theorem run_ask (apiKey missing : Text) (q : Http.Request) (w : World) :
    let r := w.run (ask apiKey missing service lacking q read)
    r.outcome.toOption = (if apiKey = [] then none else said? read (w.nextReply q).1) ∧
      r.world = (if apiKey = [] then w else (w.nextReply q).2) ∧
      r.events = if apiKey = [] then [] else [.sent q] := by
  by_cases h : apiKey = []
  · rw [ask_of_unset service lacking read h, if_pos h, if_pos h, if_pos h]
    exact ⟨rfl, rfl, rfl⟩
  · rw [ask_of_set service lacking read h, if_neg h, if_neg h, if_neg h]
    exact ⟨toOption_endOf service lacking read _, rfl, rfl⟩

end

end Completion

end LineAgents
