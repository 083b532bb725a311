import FlowRules.Handler.Script
import FlowRules.Log.Basic
import FlowRules.Store.Basic
import FlowRules.Workflow.Name

/-!
# The registry of handlers

Rules and validations are registered under keys, each of the two apart from the other.  An entry is a handler that
is ready, or a factory that makes one each time it is asked for; a factory may fail.
-/

namespace FlowRules

/-- A handler, how it is shown, and what it does when it is called with some values.  The result of a rule is of no
interest; the result of a validation are the verdicts it reports, in order. -/
structure Handler (α : Type) where
  display : String
  call : Value → Script α

abbrev Rule := Handler Unit

abbrev Validation := Handler (List Bool)

/-- The last verdict counts, and none counts as valid. -/
def lastVerdict (verdicts : List Bool) : Bool := verdicts.getLast?.getD true

inductive Entry (α : Type) where
  | ready (handler : Handler α)
  /-- Makes the handler with a serial number. -/
  | factory (display : String) (make : Nat → Except Fault (Handler α))

namespace Entry

variable {α : Type}

def display : Entry α → String
  | ready h => h.display
  | factory shown _ => shown

/-- The handler of an entry, to be made with this number if it is not ready. -/
def resolve (serial : Nat) : Entry α → Except Fault (Handler α)
  | ready h => .ok h
  | factory _ make => make serial

/-- Whether resolving an entry makes a handler. -/
def makes : Entry α → Bool
  | ready _ => false
  | factory .. => true

end Entry

structure Registry where
  rules : List (String × Entry Unit) := []
  validations : List (String × Entry (List Bool)) := []

namespace Registry

/-- The entry under a key; an empty key has none. -/
def entry? {α : Type} (entries : List (String × Entry α)) (key : Option String) : Option (Entry α) :=
  match key with
  | none | some "" => none
  | some k => entries.lookup k

/-- The handler under a key, if something is registered there. -/
def resolve {α : Type} (entries : List (String × Entry α)) (key : Option String) (serial : Nat) :
    Except Fault (Option (Handler α)) :=
  match entry? entries key with
  | none => .ok none
  | some e => (e.resolve serial).map some

def hasRule (r : Registry) (key : String) : Bool := (r.rules.lookup key).isSome

def hasValidation (r : Registry) (key : String) : Bool := (r.validations.lookup key).isSome

private def sortedKeys {α : Type} (entries : List (String × α)) : List String :=
  (entries.map (·.1)).mergeSort fun a b => decide (a ≤ b)

def ruleKeys (r : Registry) : List String := sortedKeys r.rules

def validationKeys (r : Registry) : List String := sortedKeys r.validations

/-! ### Registration -/

/-- The row that is logged when an entry takes the place of another. -/
private def replacedRow {α : Type} (role key : String) (entries : List (String × Entry α)) : List LogRow :=
  match entries.lookup key with
  | none => []
  | some old =>
    [{ logger := "core.registry", level := .warning
       message := role ++ " '" ++ key ++ "' re-registered, replacing " ++ old.display }]

/-- Register a rule. -/
def addRule (r : Registry) (key : String) (e : Entry Unit) : Except Fault (Registry × List LogRow) := do
  let key ← HandlerKey.check key HandlerKey.defaultLabel
  .ok ({ r with rules := setEntry key e r.rules }, replacedRow "Rule" key r.rules)

/-- Register a validation. -/
def addValidation (r : Registry) (key : String) (e : Entry (List Bool)) :
    Except Fault (Registry × List LogRow) := do
  let key ← HandlerKey.check key HandlerKey.defaultLabel
  .ok ({ r with validations := setEntry key e r.validations }, replacedRow "Validation rule" key r.validations)

end Registry

/-! ### Functions as handlers -/

/-- A rule that a function with a name runs. -/
def Rule.ofFunction (name : String) (call : Value → Script Unit) : Rule :=
  ⟨"FunctionRule(" ++ Text.quoted name ++ ")", call⟩

/-- A validation that reports the verdict of a predicate with a name. -/
def Validation.ofPredicate (name : String) (predicate : Script Bool) : Validation :=
  ⟨"PredicateValidationRule(" ++ Text.quoted name ++ ")", fun _ => predicate.bind fun verdict => .done [verdict]⟩

end FlowRules
