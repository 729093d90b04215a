import LineAgents.Http.Message

/-!
# Programs that ask the outside

An agent computes its answer by asking things of the outside: a reply over HTTP, the outcome of a
command, the certificate of a host, the time of day. A **program** is such a computation laid open:
it is finished, with a value or a failure, or it asks one thing and goes on with whatever comes
back. Nothing in it touches the outside; `LineAgents.World.run` is what answers it.

A question that has no answer comes back as a failure, so a program may catch it with
`LineAgents.Program.recover`.
-/

namespace LineAgents

/-- **A command** to run: a file, its arguments, and a time limit in milliseconds. -/
structure Command where
  file : Text
  args : List Text
  timeout : Float

/-- **The outcome of a command**: its exit code and what it wrote. -/
structure CommandOutcome where
  code : Float
  stdout : Text
  stderr : Text

/-- **A probe** for the certificate of a host: where to connect, and a time limit in
milliseconds. -/
structure Probe where
  host : Text
  port : Nat
  timeout : Float

/-- **A program**: finished with a value or a failure, or asking the outside for one thing. -/
inductive Program (α : Type) where
  | done (outcome : Except Failure α)
  | send (request : Http.Request) (next : Except Failure Http.Reply → Program α)
  | run (command : Command) (next : Except Failure CommandOutcome → Program α)
  | probe (target : Probe) (next : Except Failure Text → Program α)
  | now (next : Float → Program α)
  | log (line : Text) (next : Program α)

namespace Program

variable {α β : Type}

/-! ### Sequencing and failing -/

/-- Goes on with `f` once the program is finished, whatever its outcome. -/
def andThen : Program α → (Except Failure α → Program β) → Program β
  | .done r, f => f r
  | .send q next, f => .send q fun r => (next r).andThen f
  | .run c next, f => .run c fun r => (next r).andThen f
  | .probe p next, f => .probe p fun r => (next r).andThen f
  | .now next, f => .now fun t => (next t).andThen f
  | .log l next, f => .log l (next.andThen f)

/-- Goes on with `f` after a value; a failure stands. -/
def bind (p : Program α) (f : α → Program β) : Program β :=
  p.andThen fun
    | .ok a => f a
    | .error e => .done (.error e)

/-- Goes on with `f` after a failure; a value stands. -/
def recover (p : Program α) (f : Failure → Program α) : Program α :=
  p.andThen fun
    | .ok a => .done (.ok a)
    | .error e => f e

instance : Monad Program where
  pure a := .done (.ok a)
  bind := Program.bind

instance : MonadExceptOf Failure Program where
  throw e := .done (.error e)
  tryCatch := Program.recover

/-- The program that is finished with the given outcome. -/
def lift (r : Except Failure α) : Program α := .done r

/-! ### Asking for one thing -/

/-- Asks for the reply to a request. -/
def fetch (q : Http.Request) : Program Http.Reply := .send q .done

/-- Asks for the outcome of a command. -/
def execute (c : Command) : Program CommandOutcome := .run c .done

/-- Asks for the end of validity of a host's certificate. -/
def certificate (p : Probe) : Program Text := .probe p .done

/-- Asks for the time, in milliseconds. -/
def clock : Program Float := .now fun t => .done (.ok t)

end Program

end LineAgents
