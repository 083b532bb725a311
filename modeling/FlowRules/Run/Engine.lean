import FlowRules.Run.Scope

/-!
# The engine

A run of a definition never fails: whatever goes wrong, also in reading the definition, is an error of its result.
Handlers can start runs of their own on the same world; how often such runs may stand inside one another is bounded.
-/

namespace FlowRules.Run

/-- The result that a fault outside of all steps leads to. -/
def rejected (f : Fault) : Act RunResult := do
  let w ← get
  return { Outcome.failure f.message with flow := w.flow, output := w.state }

/-- Run a workflow at the top level. -/
def runWorkflow (set : Setting) (workflow : Workflow) : Act RunResult := do
  let outcome ← scopeAt set maxNesting workflow
  let w ← get
  return { outcome with flow := w.flow, output := w.state }

/-- Run the workflow that a text defines. -/
def runDefinition (set : Setting) (text : String) : Act RunResult := do
  match ← attempt (readDefinition set text) with
  | .error f => do
    if f.isA "WorkflowDefinitionError" then Act.log .error ("Workflow definition rejected: " ++ f.message)
    else Act.logTraced ("Unexpected error parsing workflow definition: " ++ f.message)
    rejected f
  | .ok none => return {}
  | .ok (some workflow) => runWorkflow set workflow

/-- A fault of looking up a definition that is expected to happen. -/
def isLookupFault (f : Fault) : Bool := f.isA "ConfigurationError" || f.isA "ValueError" || f.isA "OSError"

/-- Run the workflow that the repository has under a name. -/
def runNamed (set : Setting) (name : String) : Act RunResult := do
  match ← attempt (load set name "Workflow") with
  | .error f => do
    if isLookupFault f then Act.log .error ("Could not load workflow '" ++ name ++ "': " ++ f.message)
    else Act.logTraced ("Repository failed loading workflow '" ++ name ++ "': " ++ f.message)
    rejected f
  | .ok text => runDefinition set text

/-- Run the rule under a key outside of any workflow. -/
def runRule (set : Setting) (key : Option String) (values : Value) : Run Unit := do
  match ← findRule set key with
  | none => throw (.missingImplementation "rule" key none)
  | some rule => do
    match ← tried (call set.reentry .rule key rule values) with
    | .ok () => return ()
    | .error f => throw (.ruleExecution (key.getD "") f)

/-- How many runs started by handlers may stand inside one another. -/
def maxReentry : Nat := 200

/-- The fault of one more. -/
def reentryFault : Fault := .raised "RecursionError" "maximum recursion depth exceeded"

/-- The runs that handlers start, of which some number may stand inside one another.  They keep definitions and do
not heed cancellation. -/
def reentry (services : Services) : Nat → Reentry
  | 0 => { runRule := fun _ _ => throw reentryFault, runWorkflow := fun _ => rejected reentryFault }
  | more + 1 =>
    let set : Setting :=
      { services := services, reentry := reentry services more, keepsDefinitions := true, heedsCancel := false }
    { runRule := fun key values => runRule set (some key) values, runWorkflow := runNamed set }

/-- The setting of a run at the top level. -/
def setting (services : Services) (keepsDefinitions heedsCancel : Bool) : Setting :=
  { services := services, reentry := reentry services maxReentry, keepsDefinitions := keepsDefinitions,
    heedsCancel := heedsCancel }

end FlowRules.Run
