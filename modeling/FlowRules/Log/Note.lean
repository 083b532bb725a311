import FlowRules.Log.Basic

/-!
# Notes

What a scoped logger is told in the course of a run.  A note has a level and a message of its own; that a step has
started also changes the context.
-/

namespace FlowRules

inductive LogNote where
  | said (level : LogLevel) (message : String)
  | stepStarted (step kind : String)
  | stepSkipped (step condition : String)
  | stepFailed (step message : String)
  | loopStarted (step : String) (count : Option Nat)
  | loopEnded (step : String)
  | subFlowEntered (reference : String)
  | subFlowExited (reference : String)
  deriving DecidableEq, Repr

namespace LogNote

def level : LogNote → LogLevel
  | said l _ => l
  | stepStarted .. => .debug
  | stepSkipped .. => .debug
  | stepFailed .. => .warning
  | _ => .info

def message : LogNote → String
  | said _ m => m
  | stepStarted step kind => LogMessage.stepStarted step kind
  | stepSkipped step condition => LogMessage.stepSkipped step condition
  | stepFailed step m => LogMessage.stepFailed step m
  | loopStarted step count => LogMessage.loopStarted step count
  | loopEnded step => LogMessage.loopEnded step
  | subFlowEntered reference => LogMessage.subFlowEntered reference
  | subFlowExited reference => LogMessage.subFlowExited reference

end LogNote

namespace ScopedLogger

/-- The logger once it has been told a note, and the row it writes. -/
def note (l : ScopedLogger) (n : LogNote) : ScopedLogger × LogRow :=
  let after :=
    match n with
    | .stepStarted step _ => l.atStep step
    | _ => l
  (after, after.row n.level n.message false)

/-- Begin the scope of a workflow. -/
def beginScope (l : ScopedLogger) (workflow : String) : ScopedLogger × LogRow :=
  let inside := l.inScope workflow
  (inside, inside.row .info (LogMessage.scopeStarted workflow) false)

/-- End the scope of a workflow and go back to the one around it. -/
def endScope (l : ScopedLogger) (workflow : String) (succeeded : Bool) (previous : Option String) :
    ScopedLogger × LogRow :=
  let inside := l.inScope workflow
  (inside.leaving previous, inside.row .info (LogMessage.scopeEnded workflow succeeded) false)

end ScopedLogger
end FlowRules
