import LineAgents.Value

/-!
# Failures

Whatever goes wrong in an agent is a `LineAgents.Failure`. An agent's own verdict has one of three
kinds: the parameters are not acceptable, something outside did not answer as it should, or the
wish is not supported. Other errors carry a name, and possibly the error that caused them; and a
computation may give up with an arbitrary data value in place of an error.

The message of an error is made as a text, but whoever raises the error may put another data value
in its place. `LineAgents.Failure.told` is what a client is told: the message of an error as it
stands, unless there is nothing to it. The message of a bare value is told only if it is a text.
-/

namespace LineAgents

/-- The kinds of an agent's own verdicts. -/
inductive Verdict where
  | validation
  | outside
  | unsupported
  deriving DecidableEq, Repr

/-- **A failure**: a verdict of an agent, an error with a name, or a bare data value. -/
inductive Failure where
  | verdict (kind : Verdict) (message : Value)
  | error (name : Text) (message : Value) (cause : Option Failure)
  | value (v : Value)
  deriving Inhabited

namespace Failure

/-! ### Making failures -/

/-- The parameters are not acceptable. -/
def validation (message : Text) : Failure := .verdict .validation (.str message)

/-- Something outside did not answer as it should. -/
def outside (message : Text) : Failure := .verdict .outside (.str message)

/-- The wish is not supported. -/
def unsupported (message : Text) : Failure := .verdict .unsupported (.str message)

/-- An error with a name and a text as its message. -/
def named (name message : Text) (cause : Option Failure := none) : Failure :=
  .error name (.str message) cause

/-- An error without a name of its own. -/
def plain (message : Text) : Failure := named "Error" message

/-! ### What a failure says -/

/-- The message of a failure that is an error; a bare value has none. -/
def message? : Failure → Option Value
  | .verdict _ m => some m
  | .error _ m _ => some m
  | .value _ => none

/-- The name of a failure that is an error. -/
def name? : Failure → Option Text
  | .verdict .. => some "HandlerError"
  | .error n _ _ => some n
  | .value _ => none

/-- The message that a bare value carries: its text, or its member `message` if that is a text. -/
def valueMessage : Value → Text
  | .str s => s
  | .obj fields => match fields.lookup (Text.ofString "message") with
    | some (.str s) => s
    | _ => []
  | _ => []

/-- What is told of a failure that says nothing. -/
def unknown : Text := "Unknown error"

/-- **What a client is told of a failure**: the message of an error, or that of a bare value. -/
def told (f : Failure) : Value :=
  let m := match f with
    | .verdict _ m => m
    | .error _ m _ => m
    | .value v => .str (valueMessage v)
  if m.counts then m else .str unknown

/-- The text of what a client is told. -/
def text (f : Failure) : Text := f.told.toText

/-- The text of the message of an error, or of a bare value. -/
def display : Failure → Text
  | .verdict _ m => m.toText
  | .error _ m _ => m.toText
  | .value v => v.toText

/-- The reason behind a failure: the message of the error that caused it, if there is one and it
says something, and what the failure itself displays otherwise. -/
def reason (f : Failure) : Text :=
  match f with
  | .error _ _ (some cause) => match cause.message? with
    | some r => if r.counts then r.toText else f.display
    | none => f.display
  | _ => f.display

end Failure

end LineAgents
