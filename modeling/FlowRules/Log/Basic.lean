import FlowRules.Text.Basic

/-!
# Log rows

A row of the log says which logger wrote what, at which level, and in what context: the execution, the workflow and
the step that were running.  A scoped logger keeps the current context and puts it on each of its rows.
-/

namespace FlowRules

inductive LogLevel where
  | debug
  | info
  | warning
  | error
  | critical
  deriving DecidableEq, Repr, Inhabited

namespace LogLevel

def all : List LogLevel := [debug, info, warning, error, critical]

def name : LogLevel → String
  | debug => "DEBUG"
  | info => "INFO"
  | warning => "WARNING"
  | error => "ERROR"
  | critical => "CRITICAL"

def rank : LogLevel → Nat
  | debug => 10
  | info => 20
  | warning => 30
  | error => 40
  | critical => 50

end LogLevel

structure LogContext where
  executionId : Option String := none
  workflow : Option String := none
  step : Option String := none
  deriving DecidableEq, Repr, Inhabited

structure LogRow where
  logger : String
  level : LogLevel
  message : String
  context : LogContext := {}
  /-- The row reports a fault together with where it arose. -/
  traced : Bool := false
  deriving DecidableEq, Repr, Inhabited

/-- A logger with the context it puts on its rows. -/
structure ScopedLogger where
  name : String
  context : LogContext := {}
  deriving DecidableEq, Repr, Inhabited

namespace ScopedLogger

/-- A text that is put on rows; an empty one is not. -/
private def shown : Option String → Option String
  | some "" => none
  | s => s

/-- A row in the current context. -/
def row (l : ScopedLogger) (level : LogLevel) (message : String) (traced : Bool) : LogRow :=
  { logger := l.name, level := level, message := message, traced := traced
    context :=
      { executionId := shown l.context.executionId, workflow := shown l.context.workflow,
        step := shown l.context.step } }

/-- Set the context: a missing or empty execution and a missing workflow leave what was there. -/
def inContext (l : ScopedLogger) (executionId workflow step : Option String) : ScopedLogger :=
  { l with
    context :=
      { executionId := (shown executionId).or l.context.executionId
        workflow := workflow.or l.context.workflow
        step := step } }

/-- Forget the workflow and the step. -/
def cleared (l : ScopedLogger) : ScopedLogger :=
  { l with context := { executionId := l.context.executionId } }

/-- The logger inside the scope of a workflow. -/
def inScope (l : ScopedLogger) (workflow : String) : ScopedLogger := l.inContext none (some workflow) none

/-- The logger behind a scope, whose enclosing workflow was `previous`. -/
def leaving (l : ScopedLogger) (previous : Option String) : ScopedLogger :=
  match previous with
  | none => l.cleared
  | some workflow => l.inScope workflow

/-- The logger at a step. -/
def atStep (l : ScopedLogger) (step : String) : ScopedLogger :=
  { l with context := { l.context with step := some step } }

end ScopedLogger

/-! ### Messages about scopes and steps -/

namespace LogMessage

def scopeStarted (workflow : String) : String := "--- Starting Scope: " ++ workflow ++ " ---"

def scopeEnded (workflow : String) (succeeded : Bool) : String :=
  "--- Ending Scope: " ++ workflow ++ " (" ++ (if succeeded then "ok" else "failed") ++ ") ---"

def stepStarted (step kind : String) : String := "Step '" ++ step ++ "' (" ++ kind ++ ")"

def stepSkipped (step condition : String) : String :=
  "Step '" ++ step ++ "' skipped, condition is false: " ++ condition

def stepFailed (step message : String) : String := "Step '" ++ step ++ "' failed: " ++ message

def loopStarted (step : String) (count : Option Nat) : String :=
  "--- Starting Loop: " ++ step ++
    (match count with
      | none => ""
      | some n => " (" ++ toString n ++ " items)") ++ " ---"

def loopEnded (step : String) : String := "--- Ending Loop: " ++ step ++ " ---"

def subFlowEntered (reference : String) : String := "-> Entering SubFlow: " ++ reference

def subFlowExited (reference : String) : String := "<- Exiting SubFlow: " ++ reference

end LogMessage
end FlowRules
