import LineAgents.Text.Basic

/-!
# Log lines

Everything a process has to say that is no response goes to the log, one line at a time, under the
name of the part that says it.
-/

namespace LineAgents

/-- The log line of a message from the part `scope`. -/
def logLine (scope message : Text) : Text := "[" ++ scope ++ "] " ++ message

end LineAgents
