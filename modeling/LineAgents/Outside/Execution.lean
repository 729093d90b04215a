import LineAgents.Outside.Program

/-!
# Running a file

A command is run as a file with arguments, without a shell. An exit code is a result whatever it
is; a command that had to be stopped, or that could not be started, is a failure of the outside.
-/

namespace LineAgents

/-- **What goes wrong with an execution**: an exit code if it got that far, and whether it had to
be stopped. -/
structure ExecutionError where
  message : Text
  code : Option Float
  killed : Bool

namespace Command

/-- The greatest output that is kept, in bytes. -/
def outputLimit : Nat := 1048576

/-- **The outcome of an execution.** -/
def outcomeOf (c : Command) (error : Option ExecutionError) (stdout stderr : Text) :
    Except Failure CommandOutcome :=
  match error with
  | none => .ok ⟨0, stdout, stderr⟩
  | some e =>
    if e.killed then
      .error (.outside (c.file ++ " timed out after " ++ Number.toText c.timeout ++ "ms"))
    else match e.code with
      | some code => .ok ⟨code, stdout, stderr⟩
      | none => .error (.outside (c.file ++ " failed: " ++ e.message))

end Command

end LineAgents
