import LineAgents.Failure
import LineAgents.Json.Parser
import LineAgents.Text.Utf8

/-!
# Requests and replies over HTTP

A request names its URL and leaves open what it does not care for. A reply is its status, its
headers and the bytes of its body; a status outside the two hundreds is a reply like any other. A
body is read as text or as JSON, and a body that is no JSON is the fault of the other side.
-/

namespace LineAgents.Http

/-- The headers of a message, each name once. -/
abbrev Headers := List (Text × Text)

/-- **A request**; what is not given is left to the transport. -/
structure Request where
  url : Text
  method : Option Text := none
  headers : Option Headers := none
  body : Option Text := none
  /-- The time limit in milliseconds. -/
  timeout : Option Float := none

/-- **A reply.** -/
structure Reply where
  status : Nat
  headers : Headers := []
  body : Bytes := []

namespace Reply

/-- A status from 200 to 299. -/
def ok (r : Reply) : Bool := 200 ≤ r.status && r.status < 300

/-- The text of the status. -/
def statusText (r : Reply) : Text := Text.ofNat r.status

/-- The body as text. -/
def text (r : Reply) : Text := Utf8.decode r.body

/-- The body as JSON. -/
def json (r : Reply) : Except Failure Json :=
  match Json.parse? r.text with
  | some v => .ok v
  | none => .error (.outside ("Invalid JSON from upstream (HTTP " ++ r.statusText ++ ")"))

end Reply

end LineAgents.Http
