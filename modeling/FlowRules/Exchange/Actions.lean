import FlowRules.Exchange.Values
import FlowRules.Handler.Raised
import FlowRules.Handler.Registry
import FlowRules.Value.Field

/-!
# Handlers in exchange

A handler can be written as data: a list of actions that are carried out in order.  An action changes the state or the
flow object, raises a fault, asks for cancellation, or runs a rule or a workflow.
-/

namespace FlowRules

inductive Action where
  | set (key : String) (v : Value)
  | append (key : String) (v : Value)
  /-- Append a part of the flow object. -/
  | record (key path : String)
  | add (key : String) (v : Value)
  | depth (key : String)
  | executionId (key : String)
  /-- Append the values that the handler is called with. -/
  | values (key : String)
  /-- Assign a field of the flow object. -/
  | assign (field : String) (v : Value)
  | setFlow (v : Value)
  | raise (f : Fault)
  | cancel
  | runRule (key : String) (given : Value)
  /-- Run a workflow and append whether it succeeded, with its errors. -/
  | runWorkflow (key name : String)

/-! ### Operations on values -/

namespace Value

def noAttribute (v : Value) (name : String) : Fault :=
  .raised "AttributeError" ("'" ++ v.typeName ++ "' object has no attribute '" ++ name ++ "'")

/-- Set a key of a dictionary: a key that is there keeps its place. -/
def setKey (key : String) (v : Value) : List (Value × Value) → List (Value × Value)
  | [] => [(.text key, v)]
  | (k, w) :: rest =>
    match k with
    | .text s => if s = key then (k, v) :: rest else (k, w) :: setKey key v rest
    | _ => (k, w) :: setKey key v rest

/-- A value with a key or an attribute assigned. -/
def assigned (host : Host) (v : Value) (name : String) (new : Value) : Except Fault Value :=
  match v with
  | .dict id entries => .ok (.dict id (setKey name new entries))
  | .object id c fields offers failing =>
    let made := host.classes.find? (·.info.name == c.name)
    if c.shape = .model ∧ !(c.declared.any (·.1 == name)) then
      .error (.value (.stated ("\"" ++ c.name ++ "\" object has no field \"" ++ name ++ "\"")))
    else if made.any fun m => m.fixed.contains name then
      .error (.raised "AttributeError" ("property '" ++ name ++ "' of '" ++ c.name ++ "' object has no setter"))
    else
      let fields := setEntry name new fields
      .ok (match made with
        | some m => m.make id fields
        | none => .object id c fields offers failing)
  | .tuple _ (some c) _ =>
    if c.fields.contains name then .error (.raised "AttributeError" "can't set attribute")
    else .error (v.noAttribute name)
  | _ => .error (v.noAttribute name)

/-- The number a value adds as. -/
private def addend? : Value → Option (Int ⊕ Binary64)
  | .int n => some (.inl n)
  | .bool b => some (.inl (if b then 1 else 0))
  | .float x => some (.inr x)
  | _ => none

private def widened? : Int ⊕ Binary64 → Option Binary64
  | .inl n => Binary64.ofInt? n
  | .inr x => some x

private def joinFault (kind : String) (w : Value) : Fault :=
  .type (.stated ("can only concatenate " ++ kind ++ " (not \"" ++ w.fullTypeName ++ "\") to " ++ kind))

/-- The sum of two values. -/
def plus (v w : Value) : Except Fault Value :=
  match addend? v, addend? w with
  | some (.inl m), some (.inl n) => .ok (.int (m + n))
  | some x, some y =>
    match widened? x, widened? y with
    | some x, some y => .ok (.float (x.add y))
    | _, _ => .error (.raised "OverflowError" "int too large to convert to float")
  | _, _ =>
    match v, w with
    | .text s, .text t => .ok (.text (s ++ t))
    | .list _ vs, .list _ ws => .ok (.list none (vs ++ ws))
    | .text _, _ => .error (joinFault "str" w)
    | .list .., _ => .error (joinFault "list" w)
    | .tuple .., _ => .error (joinFault "tuple" w)
    | _, _ =>
      .error (.type (.stated ("unsupported operand type(s) for +: '" ++ v.fullTypeName ++ "' and '" ++
        w.fullTypeName ++ "'")))

end Value

/-! ### Scripts of actions -/

namespace Action

/-- Append to a list of the state; a missing list is made before the value is. -/
def appendTo (key : String) (made : Scope → Except Fault Value) : Script Unit := do
  let s ← Script.look
  let state := if (s.state.lookup key).isSome then s.state else setEntry key (.list none []) s.state
  Script.setState state
  match state.lookup key with
  | some (.list id vs) => do
    let v ← Script.ofExcept (made s)
    match id with
    | some n => Script.change (.list (some n) (vs ++ [v]))
    | none => Script.setState (setEntry key (.list none (vs ++ [v])) state)
  | found => .fail ((found.getD .null).noAttribute "append")

/-- What an action of a handler does that is called with some values. -/
def script (host : Host) (called : Value) : Action → Script Unit
  | set key v => do
    let s ← Script.look
    Script.setState (setEntry key v s.state)
  | append key v => appendTo key fun _ => .ok v
  | record key path => appendTo key fun s => s.flow.field path (some .null)
  | add key v => do
    let s ← Script.look
    let total ← Script.ofExcept (((s.state.lookup key).getD (.int 0)).plus v)
    Script.setState (setEntry key total s.state)
  | depth key => appendTo key fun s => .ok (.int s.depth)
  | executionId key => appendTo key fun s => .ok (.text s.executionId)
  | values key => appendTo key fun _ => .ok called
  | assign field v => do
    let s ← Script.look
    let flow ← Script.ofExcept (s.flow.assigned host field v)
    Script.change flow
  | setFlow v => Script.setFlow v
  | raise f => .fail f
  | cancel => Script.cancel
  | runRule key given => Script.runRule key given
  | runWorkflow key name => do
    let r ← Script.runWorkflow name
    appendTo key fun _ => .ok (.list none [.bool r.succeeded, .list none (r.errors.map .text)])

/-- Actions in order. -/
def scripts (host : Host) (called : Value) : List Action → Script Unit
  | [] => .done ()
  | a :: rest => (a.script host called).bind fun _ => scripts host called rest

end Action

/-! ### Reading handlers -/

namespace Exchange

/-- A fault with its kind and arguments. -/
def readFault (host : Host) : List Json → Intake Fault
  | [] => throw "no fault"
  | kind :: args => do
    let vs ← readList host args
    match Fault.ofArguments ((text? kind).getD "") vs with
    | .ok f | .error f => return f

private def textOf (j : Json) : String := (text? j).getD ""

def readAction (host : Host) : Json → Intake Action
  | .array [.text "set", k, v] => do return .set (textOf k) (← read host v)
  | .array [.text "append", k, v] => do return .append (textOf k) (← read host v)
  | .array [.text "record", k, path] => return .record (textOf k) (textOf path)
  | .array [.text "add", k, v] => do return .add (textOf k) (← read host v)
  | .array [.text "depth", k] => return .depth (textOf k)
  | .array [.text "exec_id", k] => return .executionId (textOf k)
  | .array [.text "values", k] => return .values (textOf k)
  | .array [.text "flow_field", name, v] => do return .assign (textOf name) (← read host v)
  | .array [.text "set_flow", v] => do return .setFlow (← read host v)
  | .array (.text "raise" :: parts) => do return .raise (← readFault host parts)
  | .array [.text "cancel"] => return .cancel
  | .array (.text "execute_rule" :: key :: rest) => do
    return .runRule (textOf key) (← read host (rest.head?.getD .null))
  | .array [.text "execute_workflow", k, name] => return .runWorkflow (textOf k) (textOf name)
  | _ => throw "no action"

def readActions (host : Host) : Json → Intake (List Action)
  | .array items => items.mapM (readAction host)
  | _ => return []

/-- A rule that carries out actions. -/
def readRule (host : Host) (j : Json) : Intake (Entry Unit) := do
  let actions ← readActions host j
  return .ready (Rule.ofFunction "handler" fun values => Action.scripts host values actions)

private def member (members : List (String × Json)) (key : String) : Json := (members.lookup key).getD .null

/-- A validation that carries out actions and then reports verdicts, evaluates a condition, or returns a value. -/
def readValidation (host : Host) (members : List (String × Json)) : Intake (Entry (List Bool)) := do
  let actions ← readActions host (member members "actions")
  match member members "outcomes" with
  | .array outcomes => do
    let vs ← readList host outcomes
    return .ready ⟨"OutcomeValidation", fun values =>
      (Action.scripts host values actions).bind fun _ => .done (vs.map Value.truth)⟩
  | _ => do
    let returned ← read host (member members "returns")
    let verdict : Script Bool :=
      match text? (member members "condition") with
      | some c => Script.holds (some c)
      | none => .done returned.truth
    return .ready (Validation.ofPredicate "predicate" ((Action.scripts host .null actions).bind fun _ => verdict))

end Exchange
end FlowRules
