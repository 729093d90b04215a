import LineAgents.Card
import LineAgents.Outside.World
import LineAgents.Params.Shape
import LineAgents.Protocol.Message

/-!
# Handlers

A **handler** answers requests: it has a card, it declares the positions of its parameters, and it
computes, which may change its state. `LineAgents.Handler.respond` gives every request exactly one
response: the card for the method `initialize`, the outcome of the computation for `compute`, and an
error for any other method. A computation that fails is answered by what is told of its failure, so
no failure goes further.

An agent is a **capability**: a card template, positions, and a program. In a world it becomes a
handler whose state is the world that is left and everything done in it so far.
-/

namespace LineAgents

/-- **A handler** whose computations may change a state. -/
structure Handler (σ : Type) where
  card : Card
  positions : List Params.Position
  compute : Fields → σ → Except Failure Value × σ

namespace Handler

variable {σ : Type}

/-- The method that asks for the card. -/
def initializeMethod : Text := "initialize"

/-- The method that asks for a computation. -/
def computeMethod : Text := "compute"

/-- The error of a request for any other method. -/
def methodNotFound : Text := "Method not found"

/-- The response to a computation; an absent value counts as `null`. -/
def responseOf (id : Json) : Except Failure Value → Response
  | .ok .undefined => ⟨id, .null, .null⟩
  | .ok v => ⟨id, v, .null⟩
  | .error f => ⟨id, .null, f.told⟩

/-- **The response to a request**, and the state after it. -/
def respond (h : Handler σ) (r : Request) (s : σ) : Response × σ :=
  if r.method = initializeMethod then (⟨r.id, .ofJson h.card.toJson, .null⟩, s)
  else if r.method = computeMethod then
    let (outcome, s') := h.compute (Params.normalize r.params h.positions) s
    (responseOf r.id outcome, s')
  else (⟨r.id, .null, .str methodNotFound⟩, s)

end Handler

/-- **A capability**: what an agent declares about itself, and its computation. -/
structure Capability where
  card : Card
  positions : List Params.Position
  compute : Fields → Program Json

/-- **A trace**: a world, and what was done on the way to it. -/
structure Trace where
  world : World
  events : List Event := []

namespace Trace

/-- Runs a program at the end of a trace. -/
def extend {α : Type} (t : Trace) (p : Program α) : Except Failure α × Trace :=
  let r := t.world.run p
  (r.outcome, ⟨r.world, t.events ++ r.events⟩)

/-- The trace with one more line in the log. -/
def log (line : Text) (t : Trace) : Trace := { t with events := t.events ++ [.logged line] }

end Trace

namespace Capability

/-- The capability in a world, serving the given card. -/
def handler (c : Capability) (card : Card) : Handler Trace where
  card := card
  positions := c.positions
  compute params t :=
    let (outcome, t') := t.extend (c.compute params)
    (outcome.map Value.ofJson, t')

end Capability

end LineAgents
