import LineAgents.Http.Message
import LineAgents.Json.Basic

/-!
# The HTTP client

A client sends a request by fetching its URL once. What the request leaves open is filled in from
the client's defaults: the method `GET`, a time limit, and the name the client gives itself, which
a header of exactly that name replaces. The exchange may break before there is a reply or while its
body is read; either way the result is a failure of the outside that gives the reason. A time limit
that the network refuses is such a failure too, before anything is fetched.
-/

namespace LineAgents.Http

/-- **The defaults of a client.** -/
structure Defaults where
  timeout : Float
  userAgent : Text

/-- **A fetch**, with nothing left open. -/
structure Fetch where
  url : Text
  method : Text
  headers : Headers
  body : Option Text
  timeout : Float

/-- **What a fetch meets**: the status and the headers in the order of their arrival, a name
possibly more than once, and the body, unless reading it breaks. -/
structure Exchange where
  status : Nat
  headers : List (Text × Text) := []
  body : Except Failure Bytes := .ok []

/-- **A network**, as a client meets it in one of its states: a time limit that it cannot keep is
refused before anything is fetched, and a fetch meets an exchange or breaks before there is one. -/
structure Network (σ : Type) where
  refusal? : Float → Option Failure
  exchange : Fetch → σ → Except Failure Exchange × σ

/-- The fetch of a request. -/
def Defaults.fetchOf (d : Defaults) (q : Request) : Fetch where
  url := q.url
  method := q.method.getD "GET"
  headers := (q.headers.getD []).foldl (fun acc h => setNamed h.1 h.2 acc)
    [(Text.ofString "User-Agent", d.userAgent)]
  body := q.body
  timeout := q.timeout.getD d.timeout

/-- The failure that means a time limit was reached. -/
def isTimeout : Failure → Bool
  | .error name _ _ => name == "TimeoutError"
  | _ => false

/-- A failure of the network with a reason. -/
def networkFailure (reason : Text) : Failure := .outside ("Network error: " ++ reason)

/-- The failure of a fetch that met no reply. -/
def Fetch.failure (f : Fetch) (e : Failure) : Failure :=
  networkFailure
    (if isTimeout e then "timed out after " ++ Number.toText f.timeout ++ "ms" else e.reason)

/-- Headers by name, the last value of a name winning; one name cannot be assigned. -/
def collectHeaders (hs : List (Text × Text)) : Headers :=
  collectNamed (hs.filter (·.1 != "__proto__"))

/-- **The result of a fetch.** -/
def Fetch.result (f : Fetch) : Except Failure Exchange → Except Failure Reply
  | .error e => .error (f.failure e)
  | .ok x => match x.body with
    | .error e => .error (networkFailure e.reason)
    | .ok body => .ok { status := x.status, headers := collectHeaders x.headers, body := body }

/-- **Sending a request** over a network in a state: the reply or the failure, and the next
state. -/
def Defaults.send {σ : Type} (d : Defaults) (net : Network σ) (q : Request) (s : σ) :
    Except Failure Reply × σ :=
  let f := d.fetchOf q
  match net.refusal? f.timeout with
  | some e => (f.result (.error e), s)
  | none =>
    let (met, s) := net.exchange f s
    (f.result met, s)

end LineAgents.Http
