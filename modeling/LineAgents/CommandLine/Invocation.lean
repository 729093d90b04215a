import LineAgents.CommandLine.Suggestion
import LineAgents.CommandLine.Usage

/-!
# Reading the command line

`LineAgents.CommandLine.read` makes an invocation of the arguments, or says why nothing is to be
done: help or the version was asked for, or the arguments make no sense. An argument that looks like
an option and is none makes everything after it doubtful too, so that the command can look at it
again; two hyphens alone end the options.
-/

namespace LineAgents.CommandLine

/-- **An invocation**: a command, with the agent it is about. -/
inductive Invocation where
  | list
  | describe (agent : Text)
  | run (agent : Text)
  deriving DecidableEq, Repr

/-- **Why nothing is done**: the version or help was asked for, by an option or by a command; help
is needed; or something is wrong. -/
inductive Stop where
  | version
  | helpShown (topic : Topic)
  | helpCommand (topic : Topic)
  | helpNeeded
  | unknownCommand (name : Text)
  | unknownOption (flag : Text)
  | missingArgument (name : Text)
  | unknownAgent (key : Text) (available : List Text)
  deriving DecidableEq, Repr

namespace Stop

/-- Whether something is wrong. -/
def isError : Stop → Bool
  | .version | .helpShown _ | .helpCommand _ => false
  | _ => true

/-- The page of help that is shown, if one is. -/
def page? : Stop → Option Text
  | .helpShown t | .helpCommand t => some t.page
  | .helpNeeded => some (Topic.page .program)
  | _ => none

/-- The message of an error. -/
def complaint : Stop → Text
  | .unknownCommand name =>
    "error: unknown command '" ++ name ++ "'" ++
      Suggestion.phrase name (Command.all.map Command.name ++ [Topic.helpCommand])
  | .unknownOption flag =>
    "error: unknown option '" ++ flag ++ "'" ++
      (if (Text.ofString "--").isPrefixOf flag then Suggestion.phrase flag Topic.longOptions
      else [])
  | .missingArgument name => "error: missing required argument '" ++ name ++ "'"
  | .unknownAgent key available =>
    "Unknown agent: " ++ key ++ " (available: " ++ Text.join ", " available ++ ")"
  | _ => []

/-- **What is shown**, given the version of the program. -/
def text (version : Text) (s : Stop) : Text :=
  match s.page? with
  | some page => page
  | none => (if s = .version then version else s.complaint) ++ "\n"

/-- The status that the process ends with. -/
def status (s : Stop) : Nat := if s.isError then 1 else 0

end Stop

/-! ### Options -/

/-- An argument that looks like an option. -/
def isOption (a : Text) : Bool := 1 < a.length && a.head? == some 45

/-- An argument that asks for the version; what follows the short form does not matter. -/
def asksVersion (a : Text) : Bool := a == "--version" || (Text.ofString "-V").isPrefixOf a

/-- An argument that asks for help. -/
def asksHelp (a : Text) : Bool := a == "--help" || a == "-h"

/-- **Arguments in two parts**: those that stand for themselves, and those from the first doubtful
option on. -/
structure Parts where
  operands : List Text := []
  doubtful : List Text := []

/-- Divides arguments, the option for the version being known or not; `doubt` says whether a
doubtful option came before. -/
def divide (versionKnown doubt : Bool) : List Text → Except Stop Parts
  | [] => .ok {}
  | a :: rest =>
    if a == "--" then .ok (if doubt then ⟨[], a :: rest⟩ else ⟨rest, []⟩)
    else if versionKnown && asksVersion a then .error .version
    else do
      let doubt := doubt || isOption a
      let p ← divide versionKnown doubt rest
      return if doubt then { p with doubtful := a :: p.doubtful }
        else { p with operands := a :: p.operands }

/-- Stops at doubtful arguments: for help if one of them asks for it, or else for the first one. -/
def settleDoubt (topic : Topic) (doubtful : List Text) : Except Stop Unit :=
  match doubtful with
  | [] => .ok ()
  | flag :: _ =>
    if doubtful.any asksHelp then .error (.helpShown topic)
    else .error (.unknownOption flag)

/-! ### Commands -/

/-- The invocation of a command with operands; those it has no use for are passed over. -/
def Command.invoke : Command → List Text → Except Stop Invocation
  | .list, _ => .ok .list
  | .describe, key :: _ => .ok (.describe key)
  | .run, key :: _ => .ok (.run key)
  | _, [] => .error (.missingArgument "agent")

/-- The invocation of a command with operands and doubtful arguments. -/
def Command.read (c : Command) (p : Parts) : Except Stop Invocation := do
  let q ← divide false false p.doubtful
  settleDoubt (.command c) q.doubtful
  c.invoke (p.operands ++ q.operands)

/-- What the command for help stops with. -/
def helpFor : List Text → Stop
  | [] => .helpCommand .program
  | name :: _ =>
    match Command.named? name with
    | some c => .helpCommand (.command c)
    | none => if name.isEmpty then .helpCommand .program else .helpNeeded

/-- **The invocation that the arguments spell.** -/
def read (arguments : List Text) : Except Stop Invocation := do
  let p ← divide true false arguments
  match p.operands with
  | name :: operands =>
    match Command.named? name with
    | some c => c.read { p with operands := operands }
    | none =>
      if name == Topic.helpCommand then throw (helpFor operands)
      else if p.doubtful.any asksHelp then throw (.helpShown .program)
      else throw (.unknownCommand name)
  | [] => do
    settleDoubt .program p.doubtful
    throw .helpNeeded

end LineAgents.CommandLine
