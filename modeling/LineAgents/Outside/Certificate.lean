import LineAgents.Outside.Program

/-!
# Asking a host for its certificate

A probe opens a connection and waits for the first of three events: the connection is secure, it
takes too long, or it breaks. Each event is heard once. The first one settles what the probe
answers; a later one may still end or destroy the connection but changes nothing else.
-/

namespace LineAgents.Certificate

/-- **An event of the connection.** -/
inductive Signal where
  | secure
  | timeout
  | error (message : Text)

/-- **What is done to the connection.** -/
inductive Action where
  | finish
  | destroy
  deriving DecidableEq, Repr

/-- **A probe under way**: which events were heard, the answer once it is settled, and what was
done to the connection, in order. -/
structure State where
  heardSecure : Bool := false
  heardTimeout : Bool := false
  heardError : Bool := false
  answer : Option (Except Failure Text) := none
  actions : List Action := []

/-- Where a probe goes, as messages have it. -/
def address (p : Probe) : Text := p.host ++ ":" ++ Text.ofNat p.port

/-- The end of validity in a certificate, if there is one and it says so. -/
def answerOf (p : Probe) : Option Text → Except Failure Text
  | none | some [] => .error (.outside ("No certificate presented by " ++ address p))
  | some validTo => .ok validTo

/-- The failure of a connection that takes too long. -/
def timeoutFailure (p : Probe) : Failure :=
  .outside ("TLS connection to " ++ address p ++ " timed out after " ++ Number.toText p.timeout ++
    "ms")

/-- Settles the answer unless it is settled. -/
def State.settle (s : State) (a : Except Failure Text) : State :=
  match s.answer with
  | some _ => s
  | none => { s with answer := some a }

/-- One event, with the end of validity that the certificate shows. -/
def State.hear (p : Probe) (validTo : Option Text) (s : State) : Signal → State
  | .secure =>
    if s.heardSecure then s
    else State.settle { s with heardSecure := true, actions := s.actions ++ [.finish] }
      (answerOf p validTo)
  | .timeout =>
    if s.heardTimeout then s
    else State.settle { s with heardTimeout := true, actions := s.actions ++ [.destroy] }
      (.error (timeoutFailure p))
  | .error message =>
    if s.heardError then s
    else State.settle { s with heardError := true }
      (.error (.outside ("TLS error: " ++ message)))

/-- **A probe over a sequence of events.** -/
def probe (p : Probe) (validTo : Option Text) (signals : List Signal) : State :=
  signals.foldl (State.hear p validTo) {}

end LineAgents.Certificate
