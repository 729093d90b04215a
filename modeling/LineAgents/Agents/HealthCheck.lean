import LineAgents.Date.Parser
import LineAgents.Params.Schema
import LineAgents.Protocol.Handler
import LineAgents.Text.Case

/-!
# Health checks

The monitor looks after a target in one of three ways: it pings a host, times a request to a URL, or
reads until when the certificate of a host is valid. Each check reaches outside exactly once, and
only after the target was found acceptable for it.
-/

namespace LineAgents.HealthCheck

/-! ### Hosts and ports -/

/-- The port that a text spells, if it is one. -/
def port? (t : Text) : Option Nat :=
  let x := Number.ofText t
  if Number.isInteger x && x > 0 && !(x > 65535) then some (Number.truncNat x) else none

/-- **The host and port of a target**: what stands before the first colon, and what stands between
it and the next, which is 443 when there is no colon. -/
def hostPort (target : Text) : Except Failure (Text × Nat) :=
  let invalid : Except Failure (Text × Nat) :=
    .error (.validation ("Invalid TLS target: " ++ target))
  let (host, portText) : Text × Text := match Text.splitOn 58 target with
    | host :: portText :: _ => (host, portText)
    | [host] => (host, "443")
    | [] => ([], [])
  match host.isEmpty, port? portText with
  | false, some port => .ok (host, port)
  | _, _ => invalid

/-! ### The three checks -/

/-- Pings a host three times. A target that starts with a hyphen would be read as an option. -/
def ping (target : Text) : Program Fields :=
  if target.head? = some 45 then throw (.validation "target must be a hostname or address")
  else do
    let r ← Program.execute {
      file := "ping"
      args := ["-c", "3", target]
      timeout := 15000 }
    return [
      (Text.ofString "code", .num r.code),
      (Text.ofString "stdout", .str r.stdout),
      (Text.ofString "stderr", .str r.stderr)]

/-- How much of a body is shown. -/
def snippetLength : Nat := 2000

/-- Times a request. -/
def http (url : Text) : Program Fields := do
  let start ← Program.clock
  let r ← Program.fetch { url := url, timeout := some 10000 }
  let latency := (← Program.clock) - start
  return [
    (Text.ofString "status", .ofNat r.status),
    (Text.ofString "latency_ms", .num latency),
    if r.ok then (Text.ofString "body_snippet", .str (r.text.take snippetLength))
    else (Text.ofString "error", .str r.text)]

/-- The milliseconds of a day. -/
def dayLength : Float := 86400000

/-- Reads until when the certificate of a host is valid, and the whole days until then. -/
def tls (target : Text) : Program Fields := do
  let (host, port) ← .lift (hostPort target)
  let validTo ← Program.certificate { host := host, port := port, timeout := 5000 }
  let expires := (Text.ofString "expires_at", Json.str validTo)
  match Date.parse? validTo with
  | some t =>
    let now ← Program.clock
    return [expires,
      (Text.ofString "days_left", .num (Number.floor ((Number.ofInt t - now) / dayLength)))]
  | none => return [expires, (Text.ofString "days_left", .null)]

/-! ### The agent -/

/-- The message for a kind of check that there is not. -/
def kindMessage : Text := "kind must be ping/http/tls"

/-- The parameters: a target, a kind of check, and how slow is slow. -/
def schema : Params.Schema := [
  { name := "target", rule := .required "target" "target is required" },
  { name := "kind", rule := .text none (some kindMessage) none,
    default? := some (.str "ping") },
  { name := "threshold_ms", rule := .number "threshold_ms", optional := true }]

/-- The check of a kind. -/
def check (kind target : Text) : Program Fields :=
  if kind = "ping" then ping target
  else if kind = "http" then http target
  else if kind = "tls" then tls target
  else throw (.unsupported kindMessage)

/-- A result with the verdict on its latency, if it has one and the threshold is not zero. -/
def judge (threshold : Option Float) (result : Fields) : Fields :=
  match threshold, result.number? "latency_ms" with
  | some limit, some latency =>
    if limit == 0 then result
    else result ++ [(Text.ofString "slow", .bool (latency > limit))]
  | _, _ => result

/-- **The agent.** -/
def capability : Capability where
  card := .declare "Monitor-v1" "Performs ping, HTTP, or TLS expiry checks."
    ["target", "kind", "threshold_ms"] 0.2 "1.0.0" none
  positions := [
    { name := "target" },
    { name := "kind", default? := some (.str "ping") },
    { name := "threshold_ms" }]
  compute params := do
    let p ← .lift (schema.parse params)
    let result ← check (Text.toLower (p.text "kind")) (p.text "target")
    return .obj (judge (p.number? "threshold_ms") result)

end LineAgents.HealthCheck
