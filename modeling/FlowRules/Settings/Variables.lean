import FlowRules.Settings.Basic
import FlowRules.Value.Compare
import FlowRules.Value.Display

/-!
# Variables in settings

A text of the form of a name in braces with a dollar sign in front stands for the value of that variable of the
environment.  A variable that is not set leaves the text as it is, and a row of the log says so.
-/

namespace FlowRules

namespace Variables

/-- The logger of reports about settings. -/
def logger : String := "core.config"

/-- The name in a reference to a variable. -/
def reference? (s : String) : Option String :=
  if Text.startsWith s "$\x7b" && Text.endsWith s "\x7d" then
    some (String.ofList ((s.toList.drop 2).dropLast))
  else none

/-- The text of a place; at the outermost one it is a word. -/
def placeText (place : Value) : String :=
  if place.truth then (place.plainText.toOption).getD "" else "root"

/-- The row that reports a variable that is not set. -/
def missingRow (name text : String) (place : Value) : LogRow :=
  { logger := logger, level := .warning
    message :=
      "Environment variable '" ++ name ++ "' not set (referenced at config path: " ++ placeText place ++
        "). The literal string '" ++ text ++ "' will be used, which may cause errors." }

/-- The place of a member. -/
def memberPlace (place key : Value) : Value :=
  if place.truth then
    .text ((place.plainText.toOption).getD "" ++ "." ++ (key.plainText.toOption).getD "")
  else key

/-- The place of an item. -/
def itemPlace (place : Value) (index : Nat) : Value :=
  .text ((place.plainText.toOption).getD "" ++ "[" ++ toString index ++ "]")

/-- The text that a text stands for, and what is reported about it. -/
def expandText (vars : Variables) (place : Value) (s : String) : String × List LogRow :=
  match reference? s with
  | none => (s, [])
  | some name =>
    match vars.lookup name with
    | some found => (found, [])
    | none => (s, [missingRow name s place])

mutual

/-- Put the values of variables in place of the references to them, in all lists and members of a value. -/
def expand (vars : Variables) (place : Value) : Value → Value × List LogRow
  | .text s =>
    let (t, rows) := expandText vars place s
    (.text t, rows)
  | .list id items =>
    let (vs, rows) := expandItems vars place 0 items
    (.list id vs, rows)
  | .dict id entries =>
    let (es, rows) := expandEntries vars place entries
    (.dict id es, rows)
  | v => (v, [])
termination_by structural v => v

def expandItems (vars : Variables) (place : Value) (index : Nat) : List Value → List Value × List LogRow
  | [] => ([], [])
  | v :: vs =>
    let (w, rows) := expand vars (itemPlace place index) v
    let (ws, more) := expandItems vars place (index + 1) vs
    (w :: ws, rows ++ more)
termination_by structural vs => vs

def expandEntries (vars : Variables) (place : Value) :
    List (Value × Value) → List (Value × Value) × List LogRow
  | [] => ([], [])
  | (k, v) :: es =>
    let (w, rows) := expand vars (memberPlace place k) v
    let (ws, more) := expandEntries vars place es
    ((k, w) :: ws, rows ++ more)
termination_by structural es => es

end

/-- Expand a whole document. -/
def expandAll (vars : Variables) (v : Value) : Value × List LogRow := expand vars (.text "") v

end Variables
end FlowRules
