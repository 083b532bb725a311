import FlowRules.Condition.Cache
import FlowRules.Handler.Registry
import FlowRules.Workflow.Definition

/-!
# The world of a run

A run works on one world: the current scope, the changes made to containers, what has been taken from sources, the
caches, the logger, and a journal of all that happened.  Everything a run does is an action on the world; an action
that can fail keeps the world it has reached.
-/

namespace FlowRules

inductive Role where
  | rule
  | validation
  deriving DecidableEq, Repr

/-- What happens in a run. -/
inductive Event where
  | logged (row : LogRow)
  /-- A handler is called in a scope. -/
  | called (role : Role) (key : Option String) (seen : Scope)
  /-- A handler has ended and left a scope behind. -/
  | returned (role : Role) (key : Option String) (remaining : Scope)
  | evaluated (condition : String) (seen : Scope)
  /-- A definition is looked up. -/
  | lookedUp (name : String)
  /-- The steps of a workflow begin in a scope. -/
  | started (workflow : String) (seen : Scope)
  | ended (workflow : String) (succeeded : Bool)
  /-- A sub-flow or a loop goes one level deeper. -/
  | entered (reference : String)
  | exited (reference : String)

structure World extends Scope where
  memory : Memory := []
  cursors : Cursors := []
  conditions : ConditionCache := {}
  definitions : DefinitionCache := {}
  logger : ScopedLogger := { name := "pipeline" }
  /-- What happened, the latest first. -/
  journal : List Event := []

namespace World

def record (w : World) (e : Event) : World := { w with journal := e :: w.journal }

/-- The rows logged so far, in order. -/
def rows (w : World) : List LogRow :=
  w.journal.reverse.filterMap fun
    | .logged row => some row
    | _ => none

/-- The identity of the state as a container. -/
def stateIdentity : Identity := some 0

def stateValue (s : Scope) : Value := .dict stateIdentity (s.state.map fun e => (.text e.1, e.2))

def environment (s : Scope) : Environment := ⟨s.flow, stateValue s, s.executionId⟩

/-- A value with the latest contents of the containers in it. -/
def latest (w : World) (v : Value) : Value := if w.memory.isEmpty then v else v.refresh w.memory

/-- Change the content of a container, wherever it is held; a value that is no container is changed only as flow
object. -/
def change (w : World) (v : Value) : World :=
  match v.identity with
  | none => { w with flow := v }
  | some id =>
    { w with
      memory := w.memory.write id v
      flow := w.flow.refresh [(id, v)]
      state := w.state.map fun e => (e.1, e.2.refresh [(id, v)]) }

end World

/-- An action on the world. -/
abbrev Act := StateM World

/-- An action that can fail. -/
abbrev Run := ExceptT Fault Act

namespace Run

def ofExcept {α : Type} : Except Fault α → Run α
  | .ok a => pure a
  | .error f => throw f

/-- An action with its fault, if it has one, as a value. -/
def attempt {α : Type} (r : Run α) : Act (Except Fault α) := r.run

/-- An action that goes on with the fault, if there is one, as a value. -/
def tried {α : Type} (r : Run α) : Run (Except Fault α) := ExceptT.lift r.run

/-- An evaluation, which may take from sources. -/
def ofEval {α : Type} (e : Eval α) : Run α := do
  let w ← getThe World
  let (r, cursors) := e.run w.cursors
  set { w with cursors := cursors }
  ofExcept r

end Run

namespace Act

def record (e : Event) : Act Unit := modify fun w => w.record e

/-- Log a row in the current context. -/
def log (level : LogLevel) (message : String) : Act Unit :=
  modify fun w => w.record (.logged (w.logger.row level message false))

/-- Log a row that reports a fault together with where it arose. -/
def logTraced (message : String) : Act Unit :=
  modify fun w => w.record (.logged (w.logger.row .error message true))

/-- Log a row that has no context. -/
def logFrom (logger : String) (level : LogLevel) (message : String) : Act Unit :=
  record (.logged { logger := logger, level := level, message := message })

/-- Change the context of the logger. -/
def moveLogger (f : ScopedLogger → ScopedLogger) : Act Unit := modify fun w => { w with logger := f w.logger }

/-- Whether a condition holds; a blank one does. -/
def holds (condition : Option String) : Act (Except Fault Bool) := do
  if ConditionCache.isBlankCondition condition then return .ok true
  else do
    let text := condition.getD ""
    let w ← get
    let e := w.conditions.evaluate (World.environment w.toScope) condition w.cursors
    record (.evaluated text w.toScope)
    modify fun w => { w with conditions := e.cache, cursors := e.cursors }
    if e.parsed then logFrom "workflow.conditions" .debug ("Compiled condition: " ++ text)
    return e.outcome

end Act

/-- Whether a condition holds. -/
def Run.holds (condition : Option String) : Run Bool := ExceptT.mk (Act.holds condition)

end FlowRules
