import LineAgents.Protocol.Handler
import LineAgents.Session.Lines

/-!
# Sessions

A **session** serves the lines of an input stream: blank lines are passed over, a line that is no
request is dropped with a note in the log, and each request is answered by one line of output
before the next line is touched.

The session is a machine that moves when something happens outside: a chunk of input arrives, the
input ends, the computation under way completes, the output takes the line that is being written,
or refuses it. In between the session is in one of five phases, and lines that arrive while it is
busy wait. What is done with a line does not depend on when it arrived, so
`LineAgents.Session.serve`, which completes everything at once, shows what every run amounts to.
-/

namespace LineAgents

/-- **What a session counts**: the lines that are not blank, those answered, those dropped. -/
structure Tally where
  received : Nat := 0
  answered : Nat := 0
  dropped : Nat := 0
  deriving DecidableEq, Repr

/-- **What a session waits for**: input, a computation, the output; or nothing any more. -/
inductive Phase where
  | reading
  | computing (request : Request)
  | writing (line : Text)
  | finished
  | failed (failure : Failure)

/-- **A session** with a handler's state. -/
structure Session (σ : Type) where
  state : σ
  reader : Lines.Reader := {}
  /-- The lines that have arrived and were not touched. -/
  waiting : List Text := []
  closed : Bool := false
  phase : Phase := .reading
  /-- The lines that the output took, with their line ends, in order. -/
  written : List Text := []
  tally : Tally := {}

/-- **What happens to a session.** -/
inductive Happening where
  | chunk (bytes : Bytes)
  | close
  | computed
  | taken
  | refused (failure : Failure)

/-- **What serves a session**: a handler, and a log for notes. -/
structure Service (σ : Type) where
  handler : Handler σ
  log : Text → σ → σ

namespace Session

variable {σ : Type}

/-- The note about a line that is no request. -/
def droppedNote (line : Text) : Text :=
  "dropped malformed line (" ++ Text.ofNat line.length ++ " chars)"

/-- The response to a request, ready to be written. -/
def answer (v : Service σ) (r : Request) (s : Session σ) : Session σ :=
  let (response, state) := v.handler.respond r s.state
  { s with state := state, phase := .writing (response.encode ++ [10]) }

/-- Starts on a request: a computation takes its time, every other answer is there at once. -/
def begin (v : Service σ) (r : Request) (s : Session σ) : Session σ :=
  if r.method = Handler.computeMethod then { s with phase := .computing r } else s.answer v r

/-- Goes through waiting lines up to the first request; without one the session reads on, or ends
with its input. -/
def settle (v : Service σ) : List Text → Session σ → Session σ
  | [], s => { s with waiting := [], phase := if s.closed then .finished else .reading }
  | line :: rest, s =>
    if line.allBlank then settle v rest s
    else
      let s := { s with tally.received := s.tally.received + 1 }
      match Request.decode? line with
      | some r => begin v r { s with waiting := rest }
      | none =>
        settle v rest { s with
          state := v.log (droppedNote line) s.state
          tally.dropped := s.tally.dropped + 1 }

/-- Lines arrive: they are gone through at once when the session is reading, and wait otherwise. -/
def arrive (v : Service σ) (lines : List Text) (s : Session σ) : Session σ :=
  match s.phase with
  | .reading => settle v (s.waiting ++ lines) s
  | _ => { s with waiting := s.waiting ++ lines }

/-- **One step of a session.** -/
def step (v : Service σ) (s : Session σ) : Happening → Session σ
  | .chunk bytes =>
    let (lines, reader) := s.reader.feed bytes
    arrive v lines { s with reader := reader }
  | .close => arrive v s.reader.finish { s with reader := {}, closed := true }
  | .computed => match s.phase with
    | .computing r => s.answer v r
    | _ => s
  | .taken => match s.phase with
    | .writing line =>
      settle v s.waiting { s with
        written := s.written ++ [line]
        tally.answered := s.tally.answered + 1 }
    | _ => s
  | .refused f => match s.phase with
    | .writing _ => { s with phase := .failed f }
    | _ => s

/-! ### Completing everything at once -/

/-- **An output**: the failure of the write that comes after a number of others, if it fails. -/
abbrev Output := Nat → Option Failure

/-- The step that is due when nothing is late: the computation completes, the output takes the
line or refuses it. -/
def due? (out : Output) (s : Session σ) : Option Happening :=
  match s.phase with
  | .computing _ => some .computed
  | .writing _ => some (match out s.tally.answered with
    | some f => .refused f
    | none => .taken)
  | _ => none

/-- Takes the steps that are due, up to a number of them. -/
def drain (v : Service σ) (out : Output) : Nat → Session σ → Session σ
  | 0, s => s
  | n + 1, s => match s.due? out with
    | some e => drain v out n (s.step v e)
    | none => s

/-- A step, and every step that is due after it: at most two for each line. -/
def advance (v : Service σ) (out : Output) (s : Session σ) (e : Happening) : Session σ :=
  let s := s.step v e
  drain v out (2 * s.waiting.length + 2) s

/-- **The session over a stream of chunks** in which nothing is ever late. -/
def serve (v : Service σ) (out : Output) (chunks : List Bytes) (state : σ) : Session σ :=
  advance v out (chunks.foldl (fun s bs => advance v out s (.chunk bs)) { state := state }) .close

/-- The outcome of a session that has come to its end. -/
def outcome (s : Session σ) : Except Failure Tally :=
  match s.phase with
  | .failed f => .error f
  | _ => .ok s.tally

end Session

end LineAgents
