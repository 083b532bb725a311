import FlowRules.Console.Option
import FlowRules.Log.Basic
import FlowRules.Text.LetterCase

/-!
# Invocations

A command line names options for all commands, one command, and what that command needs.  What is wrong with a
command line is told by the first of: words that are no options of the command, values that an option cannot have,
and words that are missing or too many.
-/

namespace FlowRules

inductive CommandName where
  | check
  | list
  | run
  deriving DecidableEq, Repr

namespace CommandName

def all : List CommandName := [check, list, run]

def text : CommandName → String
  | check => "check"
  | list => "list"
  | run => "run"

def read? (s : String) : Option CommandName := all.find? fun c => c.text = s

end CommandName

/-- What can be wrong with a command line. -/
inductive UsageFault where
  | option (f : OptionFault)
  | unknownLevel (given : String)
  | missingCommand
  | unknownCommand (name : String)
  | missingFile (path : String)
  | directory (path : String)
  | missingWorkflow
  | extraWords (words : List String)
  | malformedEntry (entry : String)
  deriving DecidableEq, Repr

/-- The levels that can be asked for. -/
def Invocation.levels : List LogLevel := [.debug, .info, .warning, .error]

def Invocation.levelNames : List String := levels.map fun l => Text.lower l.name

namespace UsageFault

private def badValue (option : String) (text : String) : String := "Invalid value for " ++ option ++ ": " ++ text

private def badFlow (text : String) : String := badValue "'--flow-object' / '-f'" ("File " ++ text)

private def extra (words : List String) : String :=
  "Got unexpected extra argument" ++ (if words.length = 1 then "" else "s") ++ " (" ++ " ".intercalate words ++ ")"

def message : UsageFault → String
  | option f => f.message
  | unknownLevel given =>
    badValue "'--log-level'" (Text.quoted given ++ " is not one of " ++
      ", ".intercalate (Invocation.levelNames.map Text.quoted) ++ ".")
  | missingCommand => "Missing command."
  | unknownCommand name => "No such command " ++ Text.quoted name ++ "."
  | missingFile path => badFlow (Text.quoted path ++ " does not exist.")
  | directory path => badFlow (Text.quoted path ++ " is a directory.")
  | missingWorkflow => "Missing argument 'WORKFLOW'."
  | extraWords words => extra words
  | malformedEntry entry => badValue "--state" ("expected KEY=VALUE, got '" ++ entry ++ "'")

end UsageFault

/-- Why a command line leads to no command; the command that it is about is named if it is known. -/
inductive NoCommand where
  | helpWanted (command : Option CommandName)
  /-- There are no words at all. -/
  | nothingGiven
  | wrong (command : Option CommandName) (f : UsageFault)
  deriving DecidableEq, Repr

/-- The options for all commands. -/
structure GeneralOptions where
  config : String := "rule-pipeline.yaml"
  workflowsDirectory : Option String := none
  level : Option LogLevel := none
  deriving DecidableEq, Repr

structure RunRequest where
  workflow : String
  flowObject : Option String := none
  state : List String := []
  plugins : List String := []
  deriving DecidableEq, Repr

inductive Command where
  | run (r : RunRequest)
  | check (workflow : String) (plugins : List String)
  | list
  deriving DecidableEq, Repr

/-- What a path leads to. -/
inductive PathKind where
  | missing
  | file
  | directory
  deriving DecidableEq, Repr

namespace Invocation

def help : OptionForm := { long := "--help", value? := none, purpose := "Show this message and exit." }

def config : OptionForm := ⟨"--config", some 'c', some "TEXT", "Engine config file"⟩

def workflowsDirectory : OptionForm :=
  ⟨"--workflows-dir", some 'w', some "TEXT", "Directory holding workflow JSON files"⟩

def logLevel : OptionForm :=
  { long := "--log-level", value? := some ("[" ++ "|".intercalate levelNames ++ "]")
    purpose := "Override the configured log level" }

def flowObject : OptionForm :=
  ⟨"--flow-object", some 'f', some "FILE", "JSON or YAML file loaded as the flow object"⟩

def state : OptionForm := ⟨"--state", some 's', some "TEXT", "Initial state entry KEY=VALUE (repeatable)"⟩

def plugin : OptionForm := ⟨"--plugin", some 'p', some "TEXT", "Module that registers rules (repeatable)"⟩

/-- The options of a command, or those for all commands. -/
def forms : Option CommandName → List OptionForm
  | none => [config, workflowsDirectory, logLevel, help]
  | some .run => [flowObject, state, plugin, help]
  | some .check => [plugin, help]
  | some .list => [help]

/-- Read the options of a command; asking for help comes before all else. -/
def readOptions (command : Option CommandName) (args : List String) : Except NoCommand GivenWords :=
  match OptionForm.readAll (forms command) command.isSome args with
  | .error f => .error (.wrong command (.option f))
  | .ok given => if given.has help.long then .error (.helpWanted command) else .ok given

/-- The level with a name in any case. -/
def level? (name : String) : Option LogLevel :=
  levels.find? fun l => String.ofList (name.toList.map Char.toUpper) = l.name

/-- Read the options for all commands; what is left are the other words. -/
def readGeneral (args : List String) : Except NoCommand (GeneralOptions × List String) := do
  if args.isEmpty then throw .nothingGiven
  let given ← readOptions none args
  let level ←
    match given.value? logLevel.long with
    | none => pure none
    | some name =>
      match level? name with
      | some l => pure (some l)
      | none => throw (.wrong none (.unknownLevel name))
  return (⟨(given.value? config.long).getD "rule-pipeline.yaml", given.value? workflowsDirectory.long, level⟩,
    given.words)

/-- The command that the first word names, and the words for it.  If there is no such command, the word is given a
chance as an option. -/
def readName (words : List String) : Except NoCommand (CommandName × List String) := do
  match words with
  | [] => throw (.wrong none .missingCommand)
  | name :: rest =>
    match CommandName.read? name with
    | some c => return (c, rest)
    | none => do
      let _ ← readGeneral words
      throw (.wrong none (.unknownCommand name))

/-- The one workflow that a command is about. -/
def readWorkflow (command : CommandName) (words : List String) : Except NoCommand String :=
  match words with
  | [] => .error (.wrong (some command) .missingWorkflow)
  | [workflow] => .ok workflow
  | _ :: more => .error (.wrong (some command) (.extraWords more))

/-- Read the words for a command.  `kind` tells what a path leads to. -/
def readCommand (kind : String → PathKind) (command : CommandName) (args : List String) :
    Except NoCommand Command := do
  let given ← readOptions (some command) args
  let wrong := fun f => Except.error (NoCommand.wrong (some command) f)
  match command with
  | .run => do
    let flow := given.value? flowObject.long
    match flow.map fun path => (path, kind path) with
    | some (path, .missing) => wrong (.missingFile path)
    | some (path, .directory) => wrong (.directory path)
    | _ => do
      let workflow ← readWorkflow command given.words
      return .run ⟨workflow, flow, given.values state.long, given.values plugin.long⟩
  | .check => do
    let workflow ← readWorkflow command given.words
    return .check workflow (given.values plugin.long)
  | .list => if given.words.isEmpty then return .list else wrong (.extraWords given.words)

end Invocation
end FlowRules
