import FlowRules.Log.Basic
import FlowRules.Value.Basic

/-!
# Settings

What can be set for the engine: where the definitions are, whether they are kept once read, which modules bring the
handlers, and how the log is written.
-/

namespace FlowRules

structure LogSettings where
  level : String := "INFO"
  usesFile : Bool := false
  usesRecords : Bool := false
  directory : String := "logs"
  deriving DecidableEq, Repr

structure Settings where
  workflowsDirectory : String := "workflows"
  keepsDefinitions : Bool := true
  plugins : List String := []
  log : LogSettings := {}
  /-- Settings of other names, as they are. -/
  extra : List (String × Value) := []

/-- The variables of the environment. -/
abbrev Variables := List (String × String)

end FlowRules
