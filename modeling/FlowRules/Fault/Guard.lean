import FlowRules.Fault
import FlowRules.Log.Basic

/-!
# Guarded attempts

A fault can be logged and put aside.  A guard says what is done about the fault of one attempt: some kinds pass on,
and every other is replaced by a value, with or without a row in the log.
-/

namespace FlowRules

/-- The row that reports a fault which is put aside. -/
def Fault.ignoredRow (f : Fault) (logger : String) (level : LogLevel) (message : String) : LogRow :=
  { logger := logger, level := level, message := message ++ ": " ++ f.message }

/-- The logger of reports that name no other. -/
def Fault.reportLogger : String := "utils.error_handling"

/-- How a call is guarded. -/
structure Guard where
  logs : Bool := true
  message : String := "Error in function call"
  /-- The families of faults that pass on. -/
  passing : List String := []
  deriving DecidableEq, Repr

/-- The outcome of a call under a guard, and what is logged. -/
def Guard.settle {α : Type} (g : Guard) (fallback : α) : Except Fault α → Except Fault α × List LogRow
  | .ok a => (.ok a, [])
  | .error f =>
    if g.passing.any f.isA then (.error f, [])
    else (.ok fallback, if g.logs then [f.ignoredRow Fault.reportLogger .warning g.message] else [])

/-- An operation whose fault is always logged, and passed on or not. -/
structure WatchedOperation where
  name : String
  passes : Bool := true
  level : LogLevel := .error
  logger : String := Fault.reportLogger
  deriving DecidableEq, Repr

namespace WatchedOperation

/-- The row that reports the fault of an operation. -/
def row (o : WatchedOperation) (f : Fault) : LogRow := f.ignoredRow o.logger o.level ("Error during " ++ o.name)

/-- The outcome of an operation: what is passed on or goes on, and what is logged. -/
def settle {α : Type} (o : WatchedOperation) (fallback : α) : Except Fault α → Except Fault α × List LogRow
  | .ok a => (.ok a, [])
  | .error f => (if o.passes then .error f else .ok fallback, [o.row f])

end WatchedOperation
end FlowRules
