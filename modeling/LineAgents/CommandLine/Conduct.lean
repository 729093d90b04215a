import LineAgents.Agents.Registry
import LineAgents.CommandLine.Invocation
import LineAgents.Outside.Journal
import LineAgents.Session.Machine

/-!
# What a process does

`LineAgents.CommandLine.conduct` is all of a process, from its arguments, its environment, the
chunks of its input and the world around it: what it writes to its output, what it does outside, and
how it ends. The command `list` writes a line for each agent, `describe` writes the card of one, and
`run` serves the input with one. Only the responses of a session go to the output; the log is kept
apart from it. What reads the arguments, the pages and the documents are the **tools** of the
process.
-/

namespace LineAgents.CommandLine

/-- **How a process ends**: with its work done, without having started on it, or with a failure. -/
inductive Ending where
  | done
  | stopped (why : Stop)
  | failed (failure : Failure)

/-- **What a process did**: how it ended, what it wrote, and what it did outside. -/
structure Conduct where
  ending : Ending
  written : List Text := []
  trace : Trace

namespace Conduct

/-- The status that the process ends with. -/
def status (c : Conduct) : Nat :=
  match c.ending with
  | .done => 0
  | .stopped why => why.status
  | .failed _ => 1

/-- The lines of the log. -/
def logged (c : Conduct) : List Text :=
  c.trace.events.filterMap fun
    | .logged line => some line
    | _ => none

/-- What was done outside, the log left aside. -/
def actions (c : Conduct) : List Event :=
  c.trace.events.filter fun
    | .logged _ => false
    | _ => true

/-- The report of a failure that ends the process. The trace of calls that an engine puts behind it
is left out. -/
def report (f : Failure) : Text :=
  logLine "agent" ("Fatal error: " ++
    match f.name? with
    | some name => name ++ ": " ++ f.display
    | none => f.display)

/-- All that goes to the output. -/
def output (c : Conduct) : Text :=
  c.written.flatten ++
    match c.ending with
    | .stopped why => if why.isError then [] else why.text version
    | _ => []

/-- All that goes to the error output. -/
def errors (c : Conduct) : Text :=
  (c.logged.flatMap fun line => line ++ [10]) ++
    match c.ending with
    | .stopped why => if why.isError then why.text version else []
    | .failed f => report f
    | .done => []

end Conduct

/-! ### Tools -/

/-- **What a process reads with**: its pages and documents, and its arguments. -/
structure Tools extends Readers where
  arguments : List Text → Except Stop Invocation

/-- The tools of this library. -/
def Tools.standard : Tools := { Readers.standard with arguments := read }

/-! ### Opening an agent -/

/-- **An agent that is ready to serve**: its capability, what enriches its card, and its journal. -/
structure Opened where
  capability : Capability
  embedder : Option Embedder
  journal : Journal

/-- What enriches cards, if the settings enable it. -/
def embedderOf (s : Settings) : Option Embedder :=
  if s.embeddingsEnabled then
    some (Completion.embedding { s.chat with model := s.embeddingModel })
  else none

/-- Opens the agent of a key. That there is one is looked at before the settings are. -/
def openAgent (readers : Readers) (env : Environment) (key : Text) : Except Ending Opened :=
  match (Registry.default readers).get? key with
  | none => .error (.stopped (.unknownAgent key (Registry.default readers).keys))
  | some agent =>
    match Settings.load env with
    | .error f => .error (.failed f)
    | .ok s => .ok ⟨agent s, embedderOf s, .of s.quiet ("agent:" ++ key)⟩

namespace Opened

/-- The card as it is served, and the trace after it was made. -/
def card (o : Opened) (t : Trace) : Except Failure Card × Trace :=
  t.extend ((o.capability.card.build o.embedder).through o.journal)

/-- The trace with a message in the journal. -/
def note (o : Opened) (message : Text) (t : Trace) : Trace :=
  match o.journal message with
  | some line => t.log line
  | none => t

/-- What serves a session with a card. -/
def service (o : Opened) (card : Card) : Service Trace where
  handler :=
    { o.capability with compute := fun p => (o.capability.compute p).through o.journal : Capability
      }.handler card
  log := o.note

end Opened

/-! ### The commands -/

/-- The width of the column of keys in the list of agents. -/
def keyWidth : Nat := 16

/-- The line of an agent in the list. -/
def listLine (key : Text) (card : Card) : Text :=
  key.padEnd keyWidth ++ card.name ++ "  " ++ card.description ++ "\n"

/-- Writes the list of agents. -/
def list (readers : Readers) (env : Environment) (t : Trace) : Conduct :=
  match Settings.load env with
  | .error f => ⟨.failed f, [], t⟩
  | .ok s =>
    ⟨.done, (Registry.default readers).entries.map fun e => listLine e.1 (e.2 s).card, t⟩

/-- Writes the card of an agent. -/
def describe (o : Opened) (t : Trace) : Conduct :=
  match o.card t with
  | (.ok card, t) => ⟨.done, [card.toJson.render ++ "\n"], t⟩
  | (.error f, t) => ⟨.failed f, [], t⟩

/-- The message before a session. -/
def readyNote (card : Card) : Text := card.name ++ " " ++ card.version ++ " ready"

/-- The message after a session. -/
def closedNote (t : Tally) : Text :=
  "input closed: " ++ Text.ofNat t.answered ++ " answered, " ++ Text.ofNat t.dropped ++ " dropped"

/-- What a session amounts to that has come to its end. -/
def close (o : Opened) (s : Session Trace) : Conduct :=
  match s.outcome with
  | .ok tally => ⟨.done, s.written, o.note (closedNote tally) s.state⟩
  | .error f => ⟨.failed f, s.written, s.state⟩

/-- An output that takes every line. -/
def accepting : Session.Output := fun _ => none

/-- Serves the chunks of the input. -/
def serve (o : Opened) (chunks : List Bytes) (t : Trace) : Conduct :=
  match o.card t with
  | (.error f, t) => ⟨.failed f, [], t⟩
  | (.ok card, t) =>
    close o (Session.serve (o.service card) accepting chunks (o.note (readyNote card) t))

/-- Does something with the agent of a key. -/
def withAgent (readers : Readers) (env : Environment) (key : Text) (t : Trace)
    (go : Opened → Trace → Conduct) : Conduct :=
  match openAgent readers env key with
  | .ok o => go o t
  | .error ending => ⟨ending, [], t⟩

/-- **What an invocation does.** -/
def perform (readers : Readers) (env : Environment) (chunks : List Bytes) (t : Trace) :
    Invocation → Conduct
  | .list => list readers env t
  | .describe key => withAgent readers env key t describe
  | .run key => withAgent readers env key t fun o => serve o chunks

/-- **What a process does**, with its tools. -/
def conduct (tools : Tools) (arguments : List Text) (env : Environment) (chunks : List Bytes)
    (w : World) : Conduct :=
  match tools.arguments arguments with
  | .ok invocation => perform tools.toReaders env chunks ⟨w, []⟩ invocation
  | .error why => ⟨.stopped why, [], ⟨w, []⟩⟩

end LineAgents.CommandLine
