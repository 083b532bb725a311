import FlowRules.Check.Declared
import FlowRules.Run.World

/-!
# Running workflows

Steps run in order.  The first that fails ends its scope, with one error, and every scope around it.  A sub-flow runs
in the scope of its step; a loop runs its workflow once for each item, in a scope of its own with the item as flow
object and the same state.  Below the top level no more than `maxNesting` scopes are open at a time.
-/

namespace FlowRules

/-- What a run draws on. -/
structure Services where
  registry : Registry := {}
  repository : Option Repository := none
  construct : Constructors

/-- How the runs that handlers start are run. -/
structure Reentry where
  runRule : String → Value → Run Unit
  runWorkflow : String → Act RunResult

structure Setting where
  services : Services
  reentry : Reentry
  /-- Definitions that have been read are kept. -/
  keepsDefinitions : Bool := true
  /-- The run stops when cancellation is asked for. -/
  heedsCancel : Bool := true

namespace Run

/-! ### Handlers -/

/-- The answer to a request of a handler. -/
def answer (re : Reentry) : (r : Request) → Act r.Answer
  | .look => do return (← get).toScope
  | .setFlow v => modify fun w => { w with flow := v }
  | .setState s => modify fun w => { w with state := s }
  | .change v => modify fun w => w.change v
  | .cancel => modify fun w => { w with cancelled := true }
  | .holds c => Act.holds c
  | .runRule key values => (re.runRule key values).run
  | .runWorkflow name => re.runWorkflow name

/-- Carry out a script. -/
def perform {α : Type} (re : Reentry) : Script α → Run α
  | .done a => pure a
  | .fail f => throw f
  | .ask r next => do
    let a ← answer re r
    perform re (next a)

/-- Call a handler. -/
def call {α : Type} (re : Reentry) (role : Role) (key : Option String) (h : Handler α) (values : Value) : Run α := do
  let w ← getThe World
  Act.record (.called role key w.toScope)
  let r ← tried (perform re (h.call values))
  let w ← getThe World
  Act.record (.returned role key w.toScope)
  ofExcept r

/-- The rule under a key. -/
def findRule (set : Setting) (key : Option String) : Run (Option Rule) := do
  Act.log .debug ("Retrieving rule '" ++ Text.shownOption key ++ "'")
  ofExcept (Registry.resolve set.services.registry.rules key 0)

/-- The validation under a key. -/
def findValidation (set : Setting) (key : Option String) : Run (Option Validation) := do
  Act.log .debug ("Retrieving validation rule '" ++ Text.shownOption key ++ "'")
  ofExcept (Registry.resolve set.services.registry.validations key 0)

/-! ### Definitions -/

/-- The text of a definition. -/
def load (set : Setting) (name role : String) : Run String := do
  match set.services.repository with
  | none => throw (.configuration ("No workflow repository configured to load " ++ role ++ " '" ++ name ++ "'"))
  | some repository => do
    Act.record (.lookedUp name)
    match ← ofExcept (repository.find name) with
    | none => do
      match repository.missingNote name with
      | none => pure ()
      | some note => Act.logFrom "workflow.repository" .debug note
      throw (.workflowNotFound (some name) role)
    | some text => if Text.isBlankText text then throw (.workflowNotFound (some name) role) else pure text

/-- The workflow that a text defines. -/
def readDefinition (set : Setting) (text : String) : Run (Option Workflow) := do
  if set.keepsDefinitions then
    let w ← getThe World
    let (read, cache) := w.definitions.read text
    modifyThe World fun w => { w with definitions := cache }
    let found ← ofExcept read
    return found.workflow
  else ofExcept (Definition.read text)

/-! ### Steps -/

/-- How the workflow of a step is run: one level deeper, unless there is none left. -/
abbrev Deeper := Option (Workflow → Act Outcome)

def ruleStep (set : Setting) (s : Step) : Run Outcome := do
  match ← findRule set s.implementationKey with
  | none => throw (.missingImplementation "rule" s.implementationKey (some s.displayName))
  | some rule => do
    call set.reentry .rule s.implementationKey rule .null
    return {}

/-- The verdict of a validation. -/
def verdict (set : Setting) (s : Step) : Run Bool := do
  match s.mode with
  | .simple => do
    let w ← getThe World
    let judgement ← ofEval (s.judge set.services.construct w.flow)
    match judgement.remark with
    | none => pure ()
    | some remark => Act.record (.logged (remark.row w.logger))
    return judgement.passed
  | .complex =>
    match ← findValidation set s.implementationKey with
    | none => throw (.missingImplementation "validation rule" s.implementationKey (some s.displayName))
    | some validation => do
      let verdicts ← call set.reentry .validation s.implementationKey validation .null
      return lastVerdict verdicts

/-- The error of a validation that failed. -/
def validationError (s : Step) : String :=
  (nonEmpty? s.errorMessage).getD ("Validation failed in " ++ s.displayName)

def validationStep (set : Setting) (s : Step) : Run Outcome := do
  if ← verdict set s then return {}
  else do
    let message := validationError s
    Act.log .warning (LogMessage.stepFailed s.displayName message)
    return .failure message

/-- Run a workflow one level deeper. -/
def nested {α : Type} (deeper : Deeper) (reference : String) (body : (Workflow → Act Outcome) → Act α) : Run α :=
  match deeper with
  | none => throw (.workflowDefinition (.nestingLimit (some reference)))
  | some run => do
    Act.record (.entered reference)
    let a ← body run
    Act.record (.exited reference)
    return a

/-- What a step has come to by itself: an outcome, a workflow to run in its place, or a workflow to run on each of
some items. -/
inductive Opening where
  | done (outcome : Outcome)
  | inPlace (workflow : Workflow)
  | onEach (workflow : Workflow) (items : List Value)

def openSubFlow (set : Setting) (s : Step) : Run Opening := do
  let reference := s.reference
  let text ← load set reference "SubFlow"
  let definition ← readDefinition set text
  Act.log .info (LogMessage.subFlowEntered reference)
  match definition with
  | none => do
    Act.log .info (LogMessage.subFlowExited reference)
    return .done {}
  | some workflow => return .inPlace workflow

/-! ### Loops -/

/-- Run an action in a scope that has an item as its flow object; the flow object of the scope around it is the same
before and after. -/
def inChild {α : Type} (item : Value) (body : Act α) : Act α := do
  let outer ← get
  modify fun w => { w with flow := w.latest item, depth := w.depth + 1 }
  let a ← body
  modify fun w => { w with flow := w.latest outer.flow, depth := outer.depth }
  return a

/-- The error of a loop whose item at an index failed. -/
def loopError (label : String) (index : Nat) (errors : List String) : String :=
  "Failure in loop '" ++ label ++ "' at index " ++ toString index ++ ": " ++ ", ".intercalate errors

/-- Run a workflow on each of some items, the first of which has an index. -/
def runItems (set : Setting) (run : Workflow → Act Outcome) (workflow : Workflow) (label : String) :
    Nat → List Value → Act Outcome
  | _, [] => pure {}
  | index, item :: items => do
    let w ← get
    if set.heedsCancel && w.cancelled then
      Act.log .info ("Cancellation requested, stopping loop '" ++ label ++ "' at index " ++ toString index)
      return {}
    else
      let outcome ← inChild item (run workflow)
      if outcome.succeeded then runItems set run workflow label (index + 1) items
      else
        Act.log .warning ("Loop Item #" ++ toString index ++ " Failed.")
        return .failure (loopError label index outcome.errors)

/-- The items that a loop goes through, or why there are none. -/
inductive LoopSource where
  | unavailable (message : String)
  | collection (v : Value)

/-- The collection that a loop step names in a flow object. -/
def loopSource (flow : Value) (property : String) : Except Fault LoopSource :=
  if flow.isNull then
    .ok (.unavailable
      ("Collection property '" ++ property ++ "' cannot be read: there is no flow object."))
  else do
    match ← flow.field? property with
    | none => .ok (.unavailable ("Collection property '" ++ property ++ "' not found on " ++ flow.typeName))
    | some v =>
      if v.isCollection then .ok (.collection v)
      else .ok (.unavailable ("Property '" ++ property ++ "' is not a collection."))

def openLoop (set : Setting) (s : Step) : Run Opening := do
  let w ← getThe World
  match ← ofExcept (loopSource w.flow (s.collectionProperty.getD "")) with
  | .unavailable message => return .done (.failure message)
  | .collection v => do
    let label := s.displayName
    let text ← load set s.reference "SubFlow"
    let definition ← readDefinition set text
    let items ← ofEval (Eval.allItems? v)
    let items := items.getD []
    Act.log .info (LogMessage.loopStarted label (some items.length))
    match definition with
    | none => do
      Act.log .info (LogMessage.loopEnded label)
      return .done {}
    | some workflow => return .onEach workflow items

/-! ### Scopes -/

/-- What a step does by itself. -/
def openKind (set : Setting) (s : Step) : Run Opening :=
  match s.kind with
  | .rule => .done <$> ruleStep set s
  | .validation => .done <$> validationStep set s
  | .subFlow => openSubFlow set s
  | .forEach => openLoop set s

/-- Whether the condition of a step holds, if it has one. -/
def passes (s : Step) : Run Bool := if s.hasCondition then holds s.condition else pure true

/-- What a step behind its condition does by itself. -/
def openStep (set : Setting) (s : Step) : Run Opening := do
  if ← passes s then
    Act.moveLogger (·.atStep s.displayName)
    Act.log .debug (LogMessage.stepStarted s.displayName s.kind.name)
    openKind set s
  else
    Act.log .debug (LogMessage.stepSkipped s.displayName (s.condition.getD ""))
    return .done {}

/-- Run the workflow that a step has come to. -/
def proceed (set : Setting) (deeper : Deeper) (s : Step) : Opening → Run Outcome
  | .done outcome => return outcome
  | .inPlace workflow => do
    let reference := s.reference
    let outcome ← nested deeper reference fun run => run workflow
    if !outcome.succeeded then
      Act.log .warning ("SubFlow '" ++ reference ++ "' failed. Stopping parent flow.")
    Act.log .info (LogMessage.subFlowExited reference)
    return outcome
  | .onEach workflow items => do
    let label := s.displayName
    let outcome ← nested deeper s.reference fun run => runItems set run workflow label 0 items
    Act.log .info (LogMessage.loopEnded label)
    return outcome

/-- Do what a step does. -/
def doStep (set : Setting) (deeper : Deeper) (s : Step) : Run Outcome := do
  let opening ← openStep set s
  proceed set deeper s opening

/-- A step whose fault becomes its error. -/
def runStep (set : Setting) (deeper : Deeper) (s : Step) : Act Outcome := do
  match ← attempt (doStep set deeper s) with
  | .ok outcome => return outcome
  | .error f => do
    Act.logTraced ("Error in " ++ s.displayName ++ ": " ++ f.message)
    return .failure f.message

/-- Steps in order, up to the first that fails. -/
def runSteps (set : Setting) (deeper : Deeper) (workflow : String) : List Step → Act Outcome
  | [] => pure {}
  | s :: rest => do
    let w ← get
    if set.heedsCancel && w.cancelled then
      Act.log .info ("Cancellation requested, stopping '" ++ workflow ++ "'")
      return {}
    else
      let outcome ← runStep set deeper s
      if outcome.succeeded then runSteps set deeper workflow rest else return outcome

/-- The steps of a workflow as one scope. -/
def runScope (set : Setting) (deeper : Deeper) (workflow : Workflow) : Act Outcome := do
  let w ← get
  let previous := w.logger.context.workflow
  Act.record (.started workflow.name w.toScope)
  Act.moveLogger (·.inScope workflow.name)
  Act.log .info (LogMessage.scopeStarted workflow.name)
  let outcome ← runSteps set deeper workflow.name workflow.steps
  Act.moveLogger (·.inScope workflow.name)
  Act.log .info (LogMessage.scopeEnded workflow.name outcome.succeeded)
  Act.moveLogger (·.leaving previous)
  Act.record (.ended workflow.name outcome.succeeded)
  return outcome

/-- A scope below which some number of levels may be open. -/
def scopeAt (set : Setting) : Nat → Workflow → Act Outcome
  | 0 => runScope set none
  | levels + 1 => runScope set (some (scopeAt set levels))

end Run
end FlowRules
