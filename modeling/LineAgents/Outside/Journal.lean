import LineAgents.Log
import LineAgents.Outside.Program

/-!
# Journals

A **journal** says how a message appears in the log of the process, or that it does not. A program
is kept in a journal by sending all its messages through it; nothing else about the program changes.
-/

namespace LineAgents

/-- **A journal**: the line of the log for a message, if it has one. -/
abbrev Journal := Text → Option Text

namespace Journal

/-- The journal of a part of the process; a quiet one has no lines. -/
def of (quiet : Bool) (part : Text) : Journal := fun message =>
  if quiet then none else some (logLine part message)

end Journal

/-- **The program kept in a journal.** -/
def Program.through {α : Type} (j : Journal) : Program α → Program α
  | .done r => .done r
  | .send q next => .send q fun r => (next r).through j
  | .run c next => .run c fun r => (next r).through j
  | .probe p next => .probe p fun r => (next r).through j
  | .now next => .now fun t => (next t).through j
  | .log message next =>
    match j message with
    | some line => .log line (next.through j)
    | none => next.through j

end LineAgents
