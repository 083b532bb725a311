import FlowRules.Run.Engine
import FlowRules.Value.Display

/-!
# Pipelines

A pipeline is what a host holds to run rules and workflows: the services, the world with the current scope, and the
flow objects of the scopes around it.
-/

namespace FlowRules

structure Pipeline where
  services : Services
  world : World
  /-- The flow objects of the enclosing scopes, the innermost first. -/
  enclosing : List Value := []

namespace Pipeline

/-- A pipeline on a flow object and a state.  Its logger has an execution of its own or that of the pipeline. -/
def start (services : Services) (flow : Value) (state : List (String × Value)) (executionId loggerName : String)
    (loggerExecution : Option String) : Pipeline :=
  { services := services
    world :=
      { flow := flow, state := state, executionId := executionId
        logger := { name := loggerName, context := { executionId := loggerExecution.or (some executionId) } } } }

/-- Do something in the world of a pipeline. -/
def act {α : Type} (p : Pipeline) (a : Act α) : α × Pipeline :=
  let (result, world) := a.run p.world
  (result, { p with world := world })

/-- Put a value in place of the flow object; null is refused. -/
def setFlow (p : Pipeline) (v : Value) : Except Fault Pipeline :=
  if v.isNull then .error (.value .noFlowObject) else .ok { p with world := { p.world with flow := v } }

/-- The pipeline of a scope inside this one, on a flow object of its own and with the same state. -/
def child (p : Pipeline) (flow : Value) : Pipeline :=
  { p with
    world := { p.world with flow := flow, depth := p.world.depth + 1 }
    enclosing := p.world.flow :: p.enclosing }

/-- The pipeline of the scope around this one; the outermost has none. -/
def parent (p : Pipeline) : Pipeline :=
  match p.enclosing with
  | [] => p
  | flow :: rest =>
    { p with
      world := { p.world with flow := p.world.latest flow, depth := p.world.depth - 1 }
      enclosing := rest }

/-- How a pipeline is shown. -/
def display (p : Pipeline) : String :=
  let keys := (p.world.state.map (·.1)).mergeSort fun a b => decide (a ≤ b)
  "RulePipeline(execution_id=" ++ Text.quoted (String.ofList (p.world.executionId.toList.take 8)) ++ ", flow_object=" ++
    p.world.flow.typeName ++ ", state_keys=[" ++ ", ".intercalate (keys.map Text.quoted) ++ "])"

end Pipeline
end FlowRules
