import FlowRules.Log.Basic
import FlowRules.Value.Basic

/-!
# Log lines

How a row of the log is written as a line of text: the time of day, the level, the application, the execution and
the scope, and the message.  A fault that belongs to the row follows on a line of its own.
-/

namespace FlowRules

/-- What a line is made from.  The level is given by its name, so that lines of other levels can be written too. -/
structure LogLine where
  /-- Microseconds since the beginning of 1970, by universal time. -/
  micros : Int
  level : String
  message : String
  context : LogContext := {}
  fault : Option Fault := none

/-- The look of lines: the name of the application, and whether levels are coloured. -/
structure LineStyle where
  app : String
  colours : Bool := false
  deriving DecidableEq, Repr

namespace LogLine

/-- A number of seconds in microseconds, rounded to the nearest, a half to the even neighbour. -/
def microsOf : Value → Int
  | .int n => n * 1000000
  | .float x =>
    let units := x.units
    let rounded : Int := Binary64.divRound (units.natAbs * 1000000) (2 ^ 1074)
    if units < 0 then -rounded else rounded
  | _ => 0

/-- The time of day in hours, minutes and seconds. -/
def clock (micros : Int) : String :=
  let second := ((micros.fdiv 1000000).emod 86400).toNat
  String.ofList (Text.paddedDigits 2 (second / 3600) ++ ':' :: (Text.paddedDigits 2 (second / 60 % 60) ++
    ':' :: Text.paddedDigits 2 (second % 60)))

/-- A text filled up with blanks at its end. -/
def filled (width : Nat) (s : String) : String := s ++ String.ofList (List.replicate (width - s.length) ' ')

/-- The start of coloured text, for the levels that have a colour. -/
def colourOf (level : String) : String :=
  match level with
  | "DEBUG" => "\x1b[36m"
  | "INFO" => "\x1b[32m"
  | "WARNING" => "\x1b[33m"
  | "ERROR" => "\x1b[31m"
  | "CRITICAL" => "\x1b[35m"
  | _ => ""

/-- The end of coloured text. -/
def plainAgain : String := "\x1b[0m"

/-- How many characters of the name of an execution are shown. -/
def shownExecution : Nat := 8

def shortExecution (id : String) : String := String.ofList (id.toList.take shownExecution)

/-- The execution and the scope of a line, each in brackets.  A step is shown only inside a workflow. -/
def scopeText (c : LogContext) : String :=
  let execution :=
    match c.executionId with
    | none => ""
    | some id => "[" ++ shortExecution id ++ "] "
  let step :=
    match c.step with
    | none | some "" => ""
    | some s => "/" ++ s
  let scope :=
    match c.workflow with
    | none => ""
    | some w => "[" ++ w ++ step ++ "] "
  execution ++ scope

/-- The kind of a fault with the place where it is declared, unless that is the language itself. -/
def faultOrigin (f : Fault) : String :=
  if f.isEngineFault then "rule_pipeline.errors.exceptions." ++ f.kind
  else
    match f.kind with
    | "JSONDecodeError" => "json.decoder.JSONDecodeError"
    | "InvalidOperation" => "decimal.InvalidOperation"
    | "Overflow" => "decimal.Overflow"
    | kind => kind

def faultText (f : Fault) : String :=
  if f.message = "" then faultOrigin f else faultOrigin f ++ ": " ++ f.message

/-- The line without its time. -/
def timeless (style : LineStyle) (l : LogLine) : String :=
  let level := filled 8 l.level
  let level := if style.colours then colourOf l.level ++ level ++ plainAgain else level
  level ++ " [" ++ style.app ++ "] " ++ scopeText l.context ++ l.message ++
    match l.fault with
    | none => ""
    | some f => "\n" ++ faultText f

/-- The line with its time. -/
def text (style : LineStyle) (l : LogLine) : String := clock l.micros ++ " " ++ l.timeless style

/-- The line as a record. -/
def record (app : String) (l : LogLine) : String :=
  let members : List (String × String) :=
    [("timestamp", clock l.micros), ("app", app), ("level", l.level),
      ("execution_id", l.context.executionId.getD ""), ("workflow", l.context.workflow.getD ""),
      ("message", l.message)]
  "\x7b" ++ ",".intercalate (members.map fun m => "\"" ++ m.1 ++ "\":\"" ++ m.2 ++ "\"") ++ "\x7d"

end LogLine

/-- The line of a row. -/
def LogRow.line (r : LogRow) (micros : Int) : LogLine :=
  { micros := micros, level := r.level.name, message := r.message, context := r.context }

end FlowRules
