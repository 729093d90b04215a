import LineAgents.Outside.Journal
import LineAgents.Outside.World

/-!
# Runs one after the other

A program that is put together of others runs as they do, one after the other: what follows starts
in the world that is left, and what it does comes after what was done
(`LineAgents.World.run_andThen`). So a run is computed along the text of the program, with one
equation for each way of going on: after a value, after a failure, and after a failure that is made
good. A journal changes nothing of a run but the lines of its log (`LineAgents.World.run_through`).
-/

namespace LineAgents

variable {α β γ : Type}

/-! ### Log lines -/

/-- The log line that an event is, if it is one. -/
def Event.logLine? : Event → Option Text
  | .logged line => some line
  | _ => none

/-- **The log lines** among events. -/
def Event.logLines (es : List Event) : List Text := es.filterMap Event.logLine?

theorem Event.logLines_append (es es' : List Event) :
    logLines (es ++ es') = logLines es ++ logLines es' :=
  List.filterMap_append

theorem Event.logLines_map_logged (lines : List Text) :
    logLines (lines.map .logged) = lines := by
  rw [logLines, List.filterMap_map]
  exact List.filterMap_some

/-- **The notes about an outcome**: one if it is a failure. -/
def Failure.notes (note : Failure → Text) : Except Failure α → List Text
  | .ok _ => []
  | .error f => [note f]

theorem Failure.length_notes (note : Failure → Text) (outcome : Except Failure α) :
    (notes note outcome).length = if outcome.toOption.isSome then 0 else 1 := by
  cases outcome <;> rfl

theorem Failure.exists_of_mem_notes {note : Failure → Text} {outcome : Except Failure α}
    {line : Text} (h : line ∈ notes note outcome) : ∃ f, line = note f := by
  cases outcome with
  | ok a => exact absurd h List.not_mem_nil
  | error f => exact ⟨f, List.mem_singleton.mp h⟩

/-- An event as a journal keeps it. -/
def Event.keptBy? (j : Journal) : Event → Option Event
  | .logged message => (j message).map .logged
  | e => some e

/-- Log lines are kept as the journal has them. -/
theorem Event.filterMap_keptBy?_logged (j : Journal) (messages : List Text) :
    (messages.map .logged).filterMap (keptBy? j) = (messages.filterMap j).map .logged := by
  rw [List.filterMap_map, List.map_filterMap]
  rfl

/-- The lines of messages in the journal of a part. -/
theorem Journal.filterMap_of (quiet : Bool) (part : Text) (messages : List Text) :
    messages.filterMap (Journal.of quiet part) =
      if quiet then [] else messages.map (logLine part) := by
  cases quiet with
  | true => exact List.filterMap_eq_nil_iff.mpr fun _ _ => rfl
  | false => exact congrFun List.filterMap_eq_map' messages

theorem Journal.length_filterMap_of (quiet : Bool) (part : Text) (messages : List Text) :
    (messages.filterMap (Journal.of quiet part)).length =
      if quiet then 0 else messages.length := by
  rw [filterMap_of]
  split
  · rfl
  · exact List.length_map ..

theorem Journal.exists_of_mem_filterMap_of {quiet : Bool} {part line : Text}
    {messages : List Text} (h : line ∈ messages.filterMap (Journal.of quiet part)) :
    ∃ message ∈ messages, line = logLine part message := by
  rw [filterMap_of] at h
  split at h
  · cases h
  · obtain ⟨message, hmessage, rfl⟩ := List.mem_map.mp h
    exact ⟨message, hmessage, rfl⟩

/-! ### Sequences -/

/-- The run with events in front. -/
def Run.precededBy (es : List Event) (r : Run α) : Run α := { r with events := es ++ r.events }

/-- Three programs one after the other are two in either way. -/
theorem Program.andThen_andThen (p : Program α) (f : Except Failure α → Program β)
    (g : Except Failure β → Program γ) :
    (p.andThen f).andThen g = p.andThen fun r => (f r).andThen g := by
  induction p with
  | done r => rfl
  | send q next ih => exact congrArg (send q) (funext ih)
  | run c next ih => exact congrArg (run c) (funext ih)
  | probe t next ih => exact congrArg (probe t) (funext ih)
  | now next ih => exact congrArg now (funext ih)
  | log line next ih => exact congrArg (log line) ih

theorem Program.bind_bind (p : Program α) (f : α → Program β) (g : β → Program γ) :
    p >>= f >>= g = p >>= fun a => f a >>= g := by
  refine (andThen_andThen p _ _).trans (congrArg (andThen p) (funext fun r => ?_))
  cases r <;> rfl

namespace World

/-- **One program after the other**: the second starts in the world that the first leaves. -/
theorem run_andThen (p : Program α) (f : Except Failure α → Program β) (w : World) :
    w.run (p.andThen f) =
      ((w.run p).world.run (f (w.run p).outcome)).precededBy (w.run p).events := by
  induction p generalizing w with
  | done r => rfl
  | send q next ih => exact congrArg (after (.sent q)) (ih _ _)
  | run c next ih => exact congrArg (after (.ran c)) (ih _ _)
  | probe t next ih => exact congrArg (after (.probed t)) (ih _ _)
  | now next ih => exact congrArg (after (.read _)) (ih _ _)
  | log line next ih => exact congrArg (after (.logged line)) (ih _)

section

variable {p : Program α} {w : World} {a : α} {e : Failure}

/-- What comes after a value. -/
theorem run_bind_of_ok (h : (w.run p).outcome = .ok a) (f : α → Program β) :
    w.run (p >>= f) = ((w.run p).world.run (f a)).precededBy (w.run p).events := by
  refine (run_andThen p _ w).trans ?_
  rw [h]

/-- Nothing comes after a failure. -/
theorem run_bind_of_error (h : (w.run p).outcome = .error e) (f : α → Program β) :
    w.run (p >>= f) = ⟨.error e, (w.run p).world, (w.run p).events⟩ := by
  refine (run_andThen p _ w).trans ?_
  rw [h]
  simp only [run, Run.precededBy, List.append_nil]

/-- **A question whose answer settles the matter** is all that is asked. -/
theorem events_run_fetch {q : Http.Request} {f : Http.Reply → Program α}
    (hf : ∀ r, ∃ outcome, f r = .lift outcome) (w : World) :
    (w.run (Program.fetch q >>= f)).events = [.sent q] := by
  cases hanswer : (w.run (Program.fetch q)).outcome with
  | error e =>
    rw [run_bind_of_error hanswer]
    rfl
  | ok r =>
    obtain ⟨outcome, hr⟩ := hf r
    rw [run_bind_of_ok hanswer, hr]
    rfl

/-- **A question that may fail to be put** is asked once, or not at all. -/
theorem events_run_question {r : Except Failure Http.Request} {f : Http.Reply → Program α}
    (hf : ∀ r, ∃ outcome, f r = .lift outcome) (w : World) :
    (w.run (Program.lift r >>= fun q => Program.fetch q >>= f)).events =
      r.toOption.toList.map .sent := by
  cases r with
  | error e => rfl
  | ok q => exact events_run_fetch hf w

/-- What is sent is the question, if it can be put. -/
theorem sent_mem_question_iff {r : Except Failure Http.Request} {f : Http.Reply → Program α}
    (hf : ∀ r, ∃ outcome, f r = .lift outcome) {w : World} {q : Http.Request} :
    .sent q ∈ (w.run (Program.lift r >>= fun q => Program.fetch q >>= f)).events ↔ r = .ok q := by
  rw [events_run_question hf]
  cases r with
  | error e => exact iff_of_false List.not_mem_nil nofun
  | ok q' =>
    constructor
    · intro h
      rw [Event.sent.inj (List.mem_singleton.mp h)]
    · intro h
      rw [Except.ok.inj h]
      exact List.mem_singleton_self _

/-- A value stands. -/
theorem run_recover_of_ok (h : (w.run p).outcome = .ok a) (g : Failure → Program α) :
    w.run (p.recover g) = w.run p := by
  refine (run_andThen p _ w).trans ?_
  rw [h]
  simp only [run, Run.precededBy, List.append_nil, ← h]

/-- What makes good a failure. -/
theorem run_recover_of_error (h : (w.run p).outcome = .error e) (g : Failure → Program α) :
    w.run (p.recover g) = ((w.run p).world.run (g e)).precededBy (w.run p).events := by
  refine (run_andThen p _ w).trans ?_
  rw [h]

end

/-- **A journal changes the log alone.** -/
theorem run_through (j : Journal) (p : Program α) (w : World) :
    w.run (p.through j) =
      { w.run p with events := (w.run p).events.filterMap (Event.keptBy? j) } := by
  induction p generalizing w with
  | done r => rfl
  | send q next ih => exact congrArg (after (.sent q)) (ih _ _)
  | run c next ih => exact congrArg (after (.ran c)) (ih _ _)
  | probe t next ih => exact congrArg (after (.probed t)) (ih _ _)
  | now next ih => exact congrArg (after (.read _)) (ih _ _)
  | log message next ih =>
    have hkept : w.run (next.through j) =
        { w.run next with events := (w.run next).events.filterMap (Event.keptBy? j) } := ih w
    rw [Program.through]
    cases hj : j message with
    | none => simp only [hkept, run, after, List.filterMap_cons, Event.keptBy?, hj, Option.map_none]
    | some line =>
      simp only [run, hkept, after, List.filterMap_cons, Event.keptBy?, hj, Option.map_some]

end World

end LineAgents
