import FlowRules.Check.Operator
import FlowRules.Condition.Cache
import FlowRules.Handler.Registry
import FlowRules.Workflow.Definition

/-!
# Reviewing workflows without running them

A review starts from one workflow and goes on to every workflow that can be reached from it through sub-flows and
loops, each once.  It reports definitions that are missing or cannot be read, conditions that cannot be parsed,
operators that are not known, and handlers that are not registered.
-/

namespace FlowRules

/-- A defect of a step of a workflow. -/
structure Defect where
  workflow : String
  step : String
  problem : String
  deriving DecidableEq, Repr

structure Review where
  defects : List Defect := []
  /-- The names that were looked up, in order. -/
  visited : List String := []
  conditions : ConditionCache := {}
  rows : List LogRow := []

namespace Review

/-- What a defect of a workflow as a whole names as its step. -/
def noStep : String := "-"

def addDefect (r : Review) (workflow step problem : String) : Review :=
  { r with defects := r.defects ++ [⟨workflow, step, problem⟩] }

def addDebug (r : Review) (logger message : String) : Review :=
  { r with rows := r.rows ++ [{ logger := logger, level := .debug, message := message }] }

/-- Parse the conditions of a workflow. -/
def checkConditions (workflow : String) : List (Step × String) → Review → Except Fault Review
  | [], r => .ok r
  | (s, condition) :: rest, r =>
    let (compiled, cache) := r.conditions.compile condition
    let r := { r with conditions := cache }
    match compiled with
    | .ok (_, parsed) =>
      checkConditions workflow rest
        (if parsed then r.addDebug "workflow.conditions" ("Compiled condition: " ++ condition) else r)
    | .error f =>
      if f.isEngineFault then checkConditions workflow rest (r.addDefect workflow s.displayName f.message)
      else .error f

/-- What is wrong with a step besides its condition. -/
def stepProblem? (registry : Registry) (s : Step) : Option String :=
  let key := s.implementationKey
  match s.kind, s.mode with
  | .rule, _ =>
    if registry.hasRule (key.getD "") then none
    else some ("no rule registered as '" ++ Text.shownOption key ++ "'")
  | .validation, .simple =>
    if (Operator.ofSpelling? s.operator).isSome then none
    else some ("unsupported operator '" ++ Text.shownOption s.operator ++ "'")
  | .validation, .complex =>
    if registry.hasValidation (key.getD "") then none
    else some ("no validation rule registered as '" ++ Text.shownOption key ++ "'")
  | _, _ => none

def checkSteps (registry : Registry) (workflow : String) (steps : List Step) (r : Review) : Review :=
  steps.foldl
    (fun r s =>
      match stepProblem? registry s with
      | none => r
      | some problem => r.addDefect workflow s.displayName problem) r

/-- Review one workflow; the result also has the names that it refers to. -/
def visit (registry : Registry) (repository : Repository) (name : String) (r : Review) :
    Except Fault (Review × List String) :=
  let r := { r with visited := r.visited ++ [name] }
  match repository.find name with
  | .error f => if f.isA "ValueError" then .ok (r.addDefect name noStep f.message, []) else .error f
  | .ok found =>
    match nonEmpty? found with
    | none =>
      let r :=
        match found, repository.missingNote name with
        | none, some note => r.addDebug "workflow.repository" note
        | _, _ => r
      .ok (r.addDefect name noStep "workflow not found", [])
    | some text =>
      match Definition.read text with
      | .error f => if f.isEngineFault then .ok (r.addDefect name noStep f.message, []) else .error f
      | .ok none => .ok (r, [])
      | .ok (some w) => do
        let r ← checkConditions name w.conditions r
        .ok (checkSteps registry name w.steps r, w.references)

/-- Review the pending workflows, of which at most `limit` are taken up; `none` if that is too few. -/
def walk (registry : Registry) (repository : Repository) :
    Nat → List String → Review → Except Fault (Option Review)
  | _, [], r => .ok (some r)
  | 0, _ :: _, _ => .ok none
  | limit + 1, name :: pending, r =>
    if name ∈ r.visited then walk registry repository limit pending r
    else do
      let (r, references) ← visit registry repository name r
      walk registry repository limit (pending ++ references) r

end Review

/-- Enough to review everything in a repository: the length of all its definitions bounds the number of references,
and so the number of names that can be reached and the number of times that each of them is mentioned. -/
def Repository.extent (r : Repository) : Nat := (r.size + 1) * (r.size + 1) + 1

/-- Review a workflow and all that it reaches. -/
def reviewWorkflow (registry : Registry) (repository : Repository) (conditions : ConditionCache) (name : String) :
    Except Fault (Option Review) :=
  Review.walk registry repository repository.extent [name] { conditions := conditions }

end FlowRules
