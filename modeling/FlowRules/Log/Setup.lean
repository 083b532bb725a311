import FlowRules.Log.Line
import FlowRules.Store.Files
import FlowRules.Text.LetterCase

/-!
# Where the log goes

Rows from a level on are written to the console and, if wanted, to a file.  The console can take lines or records;
the file always takes lines.
-/

namespace FlowRules

inductive LogLayout where
  | line
  | record
  deriving DecidableEq, Repr

inductive LogSink where
  | console (layout : LogLayout)
  | file (path : String)
  deriving DecidableEq, Repr

namespace LogSink

def layout : LogSink → LogLayout
  | console l => l
  | file _ => .line

end LogSink

/-- What is asked for when logging is set up. -/
structure LogSetup where
  app : String := "rule-pipeline"
  directory : Option String := none
  level : String := "INFO"
  usesFile : Bool := false
  usesRecords : Bool := false

namespace LogSetup

/-- The names of levels, in capitals, and their ranks. -/
def ranks : List (String × Nat) :=
  LogLevel.all.map (fun l => (l.name, l.rank)) ++ [("WARN", 30), ("FATAL", 50), ("NOTSET", 0)]

/-- The rank from which on rows are written. -/
def rank (s : LogSetup) : Except Fault Nat :=
  let name := Text.upper s.level
  match ranks.lookup name with
  | some n => .ok n
  | none => .error (.raised "AttributeError" ("module 'logging' has no attribute '" ++ name ++ "'"))

/-- The name of a log file; processes are told apart by their numbers. -/
def fileName (app process : String) : String := app ++ "-" ++ process ++ ".log"

def sinks (s : LogSetup) (process : String) : Except Fault (List LogSink) :=
  let console := LogSink.console (if s.usesRecords then .record else .line)
  if !s.usesFile then .ok [console]
  else
    match s.directory with
    | none => .error (.value (.stated "log_dir is required when use_file=True"))
    | some directory => .ok [console, .file (FilePath.under directory (fileName s.app process))]

/-- The rank below which rows get lost when none is set. -/
def outerRank : Nat := 30

/-- Whether rows of a level are written. -/
def admits (rank : Nat) (level : LogLevel) : Bool := (if rank = 0 then outerRank else rank) ≤ level.rank

end LogSetup
end FlowRules
