import FlowRules.Value.Memory
import FlowRules.Value.Source

/-!
# Scripts of handlers

A handler is code of the host that works on the scope it is called in.  What it does is a script: a finite tree of
requests, each with a continuation for every answer it can get.  A handler can look at its scope, change it, ask for
cancellation, evaluate conditions, and run rules and workflows of its own; it ends with a result or with a fault.
-/

namespace FlowRules

/-- What a handler sees of the run it is part of. -/
structure Scope where
  flow : Value := .null
  /-- The state that all scopes of a run share. -/
  state : List (String × Value) := []
  /-- How many loops the scope is inside of. -/
  depth : Nat := 0
  executionId : String := ""
  /-- Cancellation has been asked for. -/
  cancelled : Bool := false
  deriving Inhabited

/-- Whether something succeeded, and the errors if it did not. -/
structure Outcome where
  succeeded : Bool := true
  errors : List String := []
  deriving DecidableEq, Repr, Inhabited

/-- Record an error. -/
def Outcome.fail (o : Outcome) (message : String) : Outcome :=
  { succeeded := false, errors := o.errors ++ [message] }

/-- The outcome that has one error. -/
def Outcome.failure (message : String) : Outcome := Outcome.fail {} message

/-- The outcome of a run, and what it left behind. -/
structure RunResult extends Outcome where
  flow : Value := .null
  output : List (String × Value) := []
  deriving Inhabited

inductive Request where
  | look
  /-- Put another value in place of the flow object. -/
  | setFlow (v : Value)
  | setState (state : List (String × Value))
  /-- Change the content of the container that has the identity of this value. -/
  | change (v : Value)
  | cancel
  | holds (condition : Option String)
  | runRule (key : String) (values : Value)
  | runWorkflow (name : String)

/-- What a request is answered with. -/
@[reducible] def Request.Answer : Request → Type
  | look => Scope
  | setFlow _ | setState _ | change _ | cancel => Unit
  | holds _ => Except Fault Bool
  | runRule .. => Except Fault Unit
  | runWorkflow _ => RunResult

inductive Script (α : Type) where
  | done (a : α)
  | fail (f : Fault)
  | ask (r : Request) (next : r.Answer → Script α)

namespace Script

variable {α β : Type}

/-- One script after another. -/
def bind : Script α → (α → Script β) → Script β
  | done a, g => g a
  | fail f, _ => fail f
  | ask r next, g => ask r fun a => bind (next a) g

instance : Monad Script where
  pure := done
  bind := bind

def ofExcept : Except Fault α → Script α
  | .ok a => done a
  | .error f => fail f

/-! ### What handlers do -/

def look : Script Scope := ask .look done

/-- Put a value in place of the flow object; null is refused. -/
def setFlow (v : Value) : Script Unit :=
  if v.isNull then fail (.value .noFlowObject) else ask (.setFlow v) done

def setState (state : List (String × Value)) : Script Unit := ask (.setState state) done

def change (v : Value) : Script Unit := ask (.change v) done

def cancel : Script Unit := ask .cancel done

def holds (condition : Option String) : Script Bool := ask (.holds condition) ofExcept

def runRule (key : String) (values : Value) : Script Unit := ask (.runRule key values) ofExcept

def runWorkflow (name : String) : Script RunResult := ask (.runWorkflow name) done

end Script
end FlowRules
