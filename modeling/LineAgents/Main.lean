import LineAgents.CommandLine.Conduct
import LineAgents.EnvFile

/-!
# The program

The process around `LineAgents.CommandLine.conduct`: it reads the arguments, the variables of the
environment and of the file `.env`, and the input, and writes what the library says. A session is
fed one chunk at a time, so that every response is written before more input is waited for. Nothing
outside the process can be reached from here, and every question to it fails.
-/

namespace LineAgents.Main

open CommandLine

/-- The bytes of a text, for a stream. -/
def bytesOf (t : Text) : ByteArray := ⟨(Utf8.encode t).toArray⟩

/-- Writes a text to a stream at once. -/
def write (out : IO.FS.Stream) (t : Text) : IO Unit := do
  out.write (bytesOf t)
  out.flush

/-- The variables of the environment and of the file. -/
def environment : IO Environment := do
  let given ← Settings.variableNames.filterMapM fun name => do
    return (← IO.getEnv (Text.toDisplay name)).map fun v => (name, Text.ofString v)
  let file ← try
      pure (Utf8.decode (← IO.FS.readBinFile ".env").toList)
    catch _ => pure []
  return Environment.fill given file

/-- A world for so many bytes of input. -/
def worldNow (bytes : Nat) : IO World := do
  return .unreachable (2 * bytes + 2) (Float.ofNat (← IO.monoMsNow))

/-- Writes what a session has written and logged since there were so many lines and events of it. -/
def writeNew (lines events : Nat) (s : Session Trace) : IO Unit := do
  for e in s.state.events.drop events do
    if let .logged line := e then write (← IO.getStderr) (line ++ [10])
  for line in s.written.drop lines do write (← IO.getStdout) line

/-- Feeds the input to a session, chunk by chunk. -/
partial def feed (v : Service Trace) (s : Session Trace) : IO (Session Trace) := do
  let chunk ← (← IO.getStdin).read 65536
  let world ← worldNow chunk.size
  let before := { s with state := { s.state with world := world } }
  let after := Session.advance v accepting before
    (if chunk.isEmpty then .close else .chunk chunk.toList)
  writeNew s.written.length s.state.events.length after
  if chunk.isEmpty then return after else feed v after

/-- Serves the input with an agent, and gives what remains to be written of it. -/
def serve (o : Opened) : IO Conduct := do
  match o.card ⟨← worldNow 0, []⟩ with
  | (.error f, t) => return ⟨.failed f, [], t⟩
  | (.ok card, t) =>
    let s : Session Trace := { state := o.note (readyNote card) t }
    writeNew 0 0 s
    let s ← feed (o.service card) s
    let c := close o s
    return { c with
      written := c.written.drop s.written.length
      trace := { c.trace with events := c.trace.events.drop s.state.events.length } }

/-- Does what the arguments say. -/
def run (arguments : List Text) : IO Conduct := do
  let env ← environment
  match read arguments with
  | .ok (.run key) =>
    match openAgent Readers.standard env key with
    | .ok o => serve o
    | .error ending => return ⟨ending, [], ⟨{}, []⟩⟩
  | _ => return conduct .standard arguments env [] (← worldNow 0)

end LineAgents.Main

/-- The entry of the program. -/
def main (arguments : List String) : IO UInt32 := do
  let c ← LineAgents.Main.run (arguments.map LineAgents.Text.ofString)
  LineAgents.Main.write (← IO.getStderr) c.errors
  LineAgents.Main.write (← IO.getStdout) c.output
  return c.status.toUInt32
