import LineAgents.Outside.Program

/-!
# The world that answers

A **world** holds the answers that the outside has in store: the replies, outcomes and certificates
that come next, and the times the clock shows. Running a program in a world uses the answers up in
order and records everything that was asked, said and read on the way. A question beyond the last
answer fails; the clock stays at its last time.
-/

namespace LineAgents

/-- **The outside**, as the answers it has in store. -/
structure World where
  replies : List (Except Failure Http.Reply) := []
  outcomes : List (Except Failure CommandOutcome) := []
  certificates : List (Except Failure Text) := []
  times : List Float := []
  /-- The time the clock showed last. -/
  lastTime : Float := 0

/-- **What a program did**, as the outside saw it. -/
inductive Event where
  | sent (request : Http.Request)
  | ran (command : Command)
  | probed (target : Probe)
  | read (time : Float)
  | logged (line : Text)

/-- Whether the event reaches beyond the process: a request, a command or a probe. -/
def Event.isExternal : Event → Bool
  | .sent _ | .ran _ | .probed _ => true
  | _ => false

/-- **The end of a run**: the outcome of the program, the world it leaves, and what it did. -/
structure Run (α : Type) where
  outcome : Except Failure α
  world : World
  events : List Event

namespace World

variable {α : Type}

/-- A world in which nothing can be reached: so many questions of each kind fail, and the clock
shows one time. -/
def unreachable (questions : Nat) (now : Float) : World where
  replies := List.replicate questions (.error (.outside "Network error: unreachable"))
  outcomes := List.replicate questions (.error (.outside "no command can be run"))
  certificates := List.replicate questions (.error (.outside "TLS error: unreachable"))
  times := [now]

/-- The next reply, and the world without it. -/
def nextReply (w : World) (q : Http.Request) : Except Failure Http.Reply × World :=
  match w.replies with
  | r :: rest => (r, { w with replies := rest })
  | [] => (.error (.plain ("unexpected request to " ++ q.url)), w)

/-- The next outcome of a command, and the world without it. -/
def nextOutcome (w : World) (c : Command) : Except Failure CommandOutcome × World :=
  match w.outcomes with
  | r :: rest => (r, { w with outcomes := rest })
  | [] => (.error (.plain ("unexpected command " ++ c.file)), w)

/-- The next certificate, and the world without it. -/
def nextCertificate (w : World) (p : Probe) : Except Failure Text × World :=
  match w.certificates with
  | r :: rest => (r, { w with certificates := rest })
  | [] => (.error (.plain ("unexpected probe of " ++ p.host)), w)

/-- The time the clock shows, and the world after it was read. -/
def nextTime (w : World) : Float × World :=
  match w.times with
  | t :: rest => (t, { w with times := rest, lastTime := t })
  | [] => (w.lastTime, w)

/-- The run with one more event in front. -/
def after (e : Event) (r : Run α) : Run α := { r with events := e :: r.events }

/-- **Runs a program**: every question is answered from the store of the world. -/
def run : Program α → World → Run α
  | .done r, w => ⟨r, w, []⟩
  | .send q next, w =>
    let (r, w') := w.nextReply q
    after (.sent q) (run (next r) w')
  | .run c next, w =>
    let (r, w') := w.nextOutcome c
    after (.ran c) (run (next r) w')
  | .probe p next, w =>
    let (r, w') := w.nextCertificate p
    after (.probed p) (run (next r) w')
  | .now next, w =>
    let (t, w') := w.nextTime
    after (.read t) (run (next t) w')
  | .log l next, w => after (.logged l) (run next w)

end World

end LineAgents
