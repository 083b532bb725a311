import FlowRules.Console.Invocation

/-!
# Help

The pages that explain the program and its commands, and what is said where a command line is wrong.
-/

namespace FlowRules.Help

def program : String := "rule-pipeline"

def commandText (command : Option CommandName) : String :=
  match command with
  | none => program
  | some c => program ++ " " ++ c.text

def usage (command : Option CommandName) : String :=
  "Usage: " ++ commandText command ++ " [OPTIONS]" ++
    match command with
    | none => " COMMAND [ARGS]..."
    | some .list => ""
    | some _ => " WORKFLOW"

def purpose : Option CommandName → String
  | none => "Rule Pipeline - run declarative JSON workflows against your objects."
  | some .check => "Validate WORKFLOW and its sub-flows without running them."
  | some .list => "List workflows in the workflows directory."
  | some .run => "Run WORKFLOW from the workflows directory."

private def spaces (n : Nat) : String := String.ofList (List.replicate n ' ')

/-- A left column wider than this moves what belongs beside it to the next line. -/
def columnLimit : Nat := 30

/-- Terms and what they mean, in two columns. -/
def columns (rows : List (String × String)) : List String :=
  let width := min columnLimit ((rows.map fun r => r.1.length).foldl max 0)
  rows.flatMap fun (term, meaning) =>
    if term.length ≤ width then ["  " ++ term ++ spaces (width + 2 - term.length) ++ meaning]
    else ["  " ++ term, spaces (width + 4) ++ meaning]

/-- The page about the program or a command. -/
def page (command : Option CommandName) : String :=
  let options := (Invocation.forms command).map fun f => (f.usage, f.purpose)
  let commands :=
    match command with
    | none => ["", "Commands:"] ++ columns (CommandName.all.map fun c => (c.text, purpose (some c)))
    | some _ => []
  "\n".intercalate ([usage command, "", "  " ++ purpose command, "", "Options:"] ++ columns options ++ commands)

/-- What is said before an error in a command line. -/
def preface (command : Option CommandName) : String :=
  usage command ++ "\nTry '" ++ commandText command ++ " --help' for help.\n\n"

end FlowRules.Help
