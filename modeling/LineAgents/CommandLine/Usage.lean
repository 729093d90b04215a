import LineAgents.Text.Basic

/-!
# Help

The program knows three commands, and help for each of them and for itself. A **topic** of help is a
page of sections, in which every term stands in a column as wide as the widest of the page. No line
is so long that it would have to be broken.
-/

namespace LineAgents.CommandLine

/-- The name of the program. -/
def programName : Text := "tool-agent"

/-- **A command.** -/
inductive Command where
  | list
  | describe
  | run
  deriving DecidableEq, Repr

namespace Command

/-- The commands in the order in which help lists them. -/
def all : List Command := [.list, .describe, .run]

/-- The name of a command. -/
def name : Command → Text
  | .list => "list"
  | .describe => "describe"
  | .run => "run"

/-- What a command does. -/
def description : Command → Text
  | .list => "List the agents this binary can run"
  | .describe => "Print an agent's service card"
  | .run => "Serve requests from stdin until it closes"

/-- Whether a command is about one agent. -/
def takesAgent : Command → Bool
  | .list => false
  | .describe | .run => true

/-- The command of a name. -/
def named? (name : Text) : Option Command := all.find? fun c => c.name == name

/-- The name of a command with its argument. -/
def term (c : Command) : Text := if c.takesAgent then c.name ++ " <agent>" else c.name

end Command

/-- **What help is about**: the program, or a command. -/
inductive Topic where
  | program
  | command (c : Command)
  deriving DecidableEq, Repr

/-- **A section** of a page: a title, and terms with what they mean. -/
structure Section where
  title : Text
  rows : List (Text × Text)

namespace Topic

/-- The name of the command that asks for help. -/
def helpCommand : Text := "help"

/-- What that command and the option for help do. -/
def helpDescription : Text := "display help for command"

/-- The option that asks for help. -/
def helpOption : Text × Text := ("-h, --help", helpDescription)

/-- The option that asks for the version. -/
def versionOption : Text × Text := ("-V, --version", "output the version number")

/-- The argument of a command about one agent. -/
def agentArgument : Text × Text := ("agent", "Agent key, see `list`")

/-- How the program or the command is called. -/
def usage : Topic → Text
  | .program => programName ++ " [options] [command]"
  | .command c =>
    programName ++ " " ++ c.name ++ " [options]" ++
      (if c.takesAgent then Text.ofString " <agent>" else [])

/-- What the program or the command does. -/
def description : Topic → Text
  | .program => "Line-delimited JSON tool agents over stdio"
  | .command c => c.description

/-- The rows of the commands, the one for help last. -/
def commandRows : List (Text × Text) :=
  Command.all.map (fun c => (c.term, c.description)) ++
    [(helpCommand ++ " [command]", helpDescription)]

/-- The sections of a page. -/
def sections : Topic → List Section
  | .program => [⟨"Options", [versionOption, helpOption]⟩, ⟨"Commands", commandRows⟩]
  | .command c =>
    (if c.takesAgent then [Section.mk "Arguments" [agentArgument]] else []) ++
      [⟨"Options", [helpOption]⟩]

/-- The width of the column of terms. -/
def column (t : Topic) : Nat :=
  (t.sections.flatMap (·.rows)).foldl (fun w r => max w r.1.length) 0 + 2

/-- The lines of a section. -/
def sectionLines (width : Nat) (s : Section) : List Text :=
  (s.title ++ ":") :: s.rows.map fun r => "  " ++ r.1.padEnd width ++ r.2

/-- **The page of help.** -/
def page (t : Topic) : Text :=
  let parts := [("Usage: " ++ t.usage : Text), t.description] ++
    t.sections.map fun s => Text.join "\n" (sectionLines t.column s)
  Text.join "\n\n" parts ++ "\n"

/-- The long options there are; a command has those of the program too. -/
def longOptions : List Text := Text.ofStrings ["--help", "--version"]

end Topic

end LineAgents.CommandLine
