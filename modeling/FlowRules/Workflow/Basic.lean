import FlowRules.Text.Basic

/-!
# Workflows

A workflow is a named list of steps.  A step runs a rule, validates, runs another workflow in its place, or runs
another workflow on each item of a collection.  All steps have the same fields; a kind ignores those it has no use
for.
-/

namespace FlowRules

/-- What a step does. -/
inductive StepKind where
  | rule
  | validation
  | subFlow
  | forEach
  deriving DecidableEq, Repr, Inhabited

/-- How a validation step decides: by an operator on a field, or by a handler. -/
inductive StepMode where
  | simple
  | complex
  deriving DecidableEq, Repr, Inhabited

namespace StepKind

def all : List StepKind := [rule, validation, subFlow, forEach]

def name : StepKind → String
  | rule => "Rule"
  | validation => "Validation"
  | subFlow => "SubFlow"
  | forEach => "Foreach"

/-- Whether steps of a kind run another workflow. -/
def runsWorkflow : StepKind → Bool
  | subFlow | forEach => true
  | rule | validation => false

end StepKind

namespace StepMode

def all : List StepMode := [simple, complex]

def name : StepMode → String
  | simple => "Simple"
  | complex => "Complex"

end StepMode

structure Step where
  name : Option String := none
  kind : StepKind := .rule
  mode : StepMode := .complex
  implementationKey : Option String := none
  subFlowRef : Option String := none
  targetProperty : Option String := none
  operator : Option String := none
  targetValue : Option String := none
  errorMessage : Option String := none
  condition : Option String := none
  collectionProperty : Option String := none
  deriving DecidableEq, Repr, Inhabited

/-- The text, unless it is missing or empty. -/
def nonEmpty? : Option String → Option String
  | none => none
  | some s => if s = "" then none else some s

namespace Step

/-- The label of a step in reports: the first that is there of its name, its key, its reference and its kind. -/
def displayName (s : Step) : String :=
  (((nonEmpty? s.name).or (nonEmpty? s.implementationKey)).or (nonEmpty? s.subFlowRef)).getD s.kind.name

def hasCondition (s : Step) : Bool :=
  match s.condition with
  | none => false
  | some c => !Text.isBlankText c

/-- The workflow that a step runs. -/
def reference (s : Step) : String := s.subFlowRef.getD ""

/-- Whether a step decides by an operator on a field. -/
def isDeclarative (s : Step) : Bool := s.kind = .validation && s.mode = .simple

end Step

structure Workflow where
  name : String := ""
  steps : List Step := []
  deriving DecidableEq, Repr, Inhabited

namespace Workflow

/-- The steps that have conditions, with these. -/
def conditions (w : Workflow) : List (Step × String) :=
  (w.steps.filter Step.hasCondition).map fun s => (s, s.condition.getD "")

/-- The names of the workflows that steps of this one run, in the order of their first mention. -/
def references (w : Workflow) : List String :=
  (w.steps.filter fun s => s.kind.runsWorkflow).foldl
    (fun names s => if s.reference ∈ names then names else names ++ [s.reference]) []

end Workflow
end FlowRules
