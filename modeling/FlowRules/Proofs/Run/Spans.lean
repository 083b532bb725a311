import FlowRules.Proofs.Log.Bracket
import FlowRules.Proofs.Run.Counted

/-!
# The spans of a run

A run opens and closes scopes, sub-flows and loops, and so do the runs that handlers start.  What it opens and closes is
told here by what it does: by the workflows that its steps come to, the outcomes of their scopes, and what its handlers
ask for.  The log is not looked at.
-/

namespace FlowRules

namespace Step

/-- The level that a sub-flow goes into. -/
def subFlowLevel (s : Step) : Level := .subFlow s.reference

/-- The level that a loop through some number of items goes into. -/
def loopLevel (s : Step) (count : Nat) : Level := .loop s.displayName count

end Step

namespace Run

/-! ### What handlers start -/

/-- What the runs that handlers start unfold into, by the worlds from which they are started. -/
structure Unfolding where
  runRule : String → Value → World → Spans
  runWorkflow : String → World → Spans

/-- What answering a request opens and closes. -/
def answerSpans (inner : Unfolding) : Request → World → Spans
  | .runRule key values => inner.runRule key values
  | .runWorkflow name => inner.runWorkflow name
  | _ => fun _ => .nil

/-- What the requests of a script open and close. -/
def performSpans (re : Reentry) (inner : Unfolding) {α : Type} : Script α → World → Spans
  | .done _, _ => .nil
  | .fail _, _ => .nil
  | .ask r next, w =>
    answerSpans inner r w ++
      performSpans re inner (next ((answer re r).run w).1) ((answer re r).run w).2

/-- What a handler that is called opens and closes. -/
def callSpans (re : Reentry) (inner : Unfolding) {α : Type} (role : Role) (key : Option String) (h : Handler α)
    (values : Value) (w : World) : Spans :=
  performSpans re inner (h.call values) (w.record (.called role key w.toScope))

/-- What running the rule under a key opens and closes. -/
def ruleSpans (set : Setting) (inner : Unfolding) (key : Option String) (values : Value) (w : World) : Spans :=
  match (findRule set key).attempt.run w with
  | (.ok (some rule), v) => callSpans set.reentry inner .rule key rule values v
  | _ => .nil

/-- What running the validation under a key opens and closes. -/
def validationSpans (set : Setting) (inner : Unfolding) (key : Option String) (w : World) : Spans :=
  match (findValidation set key).attempt.run w with
  | (.ok (some validation), v) => callSpans set.reentry inner .validation key validation .null v
  | _ => .nil

/-! ### What steps open and close -/

/-- How many items a loop announces. -/
def loopCount (s : Step) (w : World) : Nat :=
  match loopSource w.flow (s.collectionProperty.getD "") with
  | .ok (.collection x) =>
    match ((Eval.allItems? x).run w.cursors).1 with
    | .ok items => (items.getD []).length
    | .error _ => 0
  | _ => 0

/-- What deciding a validation opens and closes. -/
def verdictSpans (set : Setting) (inner : Unfolding) (s : Step) (w : World) : Spans :=
  match s.mode with
  | .simple => .nil
  | .complex => validationSpans set inner s.implementationKey w

/-- What a step that comes to no workflow opens and closes. -/
def kindSpans (set : Setting) (inner : Unfolding) (s : Step) (w : World) : Spans :=
  match s.kind with
  | .rule => ruleSpans set inner s.implementationKey .null w
  | .validation => verdictSpans set inner s w
  | .subFlow =>
    match ((openSubFlow set s).attempt.run w).1 with
    | .ok (.done _) => .level s.subFlowLevel .nil .nil
    | _ => .nil
  | .forEach =>
    match ((openLoop set s).attempt.run w).1 with
    | .ok (.done o) => if o.succeeded then .level (s.loopLevel (loopCount s w)) .nil .nil else .nil
    | _ => .nil

/-- What a step that comes to no workflow opens and closes behind its condition. -/
def ownSpans (set : Setting) (inner : Unfolding) (s : Step) (w : World) : Spans :=
  match (passes s).attempt.run w with
  | (.ok true, v) => kindSpans set inner s (v.atStep s)
  | _ => .nil

/-- What a loop through some items opens and closes, by what its workflow does. -/
def itemsSpans (set : Setting) (run : Workflow → Act Outcome) (spans : Workflow → World → Spans) (c : Workflow) :
    List Value → World → Spans
  | [], _ => .nil
  | item :: items, w =>
    if Halted set w then .nil
    else
      let p := (inChild item (run c)).run w
      spans c (w.intoItem item) ++ if p.1.succeeded then itemsSpans set run spans c items p.2 else .nil

/-- What a step opens and closes, by what workflows do one level deeper.  A step that comes to a workflow while no level
is left opens one that is refused. -/
def stepSpans (set : Setting) (inner : Unfolding) (deeper : Deeper) (spans : Workflow → World → Spans) (s : Step)
    (w : World) : Spans :=
  match (openStep set s).attempt.run w, deeper with
  | (.ok (.inPlace _), _), none => .refused s.subFlowLevel .nil
  | (.ok (.onEach _ items), _), none => .refused (s.loopLevel items.length) .nil
  | (.ok (.inPlace c), v), some _ => .level s.subFlowLevel (spans c (v.record (.entered s.reference))) .nil
  | (.ok (.onEach c items), v), some run =>
    .level (s.loopLevel items.length) (itemsSpans set run spans c items (v.record (.entered s.reference))) .nil
  | _, _ => ownSpans set inner s w

/-- What steps open and close, up to the first that fails. -/
def stepsSpans (set : Setting) (inner : Unfolding) (deeper : Deeper) (spans : Workflow → World → Spans) :
    List Step → World → Spans
  | [], _ => .nil
  | s :: rest, w =>
    if Halted set w then .nil
    else
      let p := (runStep set deeper s).run w
      stepSpans set inner deeper spans s w ++
        if p.1.succeeded then stepsSpans set inner deeper spans rest p.2 else .nil

/-- A scope with some number of levels left is opened and closed with what its steps open and close in it, and closed
with its own outcome. -/
def scopeSpans (set : Setting) (inner : Unfolding) : Nat → Workflow → World → Spans
  | 0, c, w =>
    .scope c.name ((scopeAt set 0 c).run w).1.succeeded
      (stepsSpans set inner none (fun _ _ => .nil) c.steps (w.begun c.name)) .nil
  | n + 1, c, w =>
    .scope c.name ((scopeAt set (n + 1) c).run w).1.succeeded
      (stepsSpans set inner (some (scopeAt set n)) (scopeSpans set inner n) c.steps (w.begun c.name)) .nil

/-- What running a definition opens and closes: the scope of its workflow, if there is one. -/
def definitionSpans (set : Setting) (inner : Unfolding) (text : String) (w : World) : Spans :=
  match (readDefinition set text).attempt.run w with
  | (.ok (some c), v) => scopeSpans set inner maxNesting c v
  | _ => .nil

/-- What a task opens and closes. -/
def taskSpans (set : Setting) (inner : Unfolding) : Task → World → Spans
  | .definition text, w => definitionSpans set inner text w
  | .named name, w =>
    match (load set name "Workflow").attempt.run w with
    | (.ok text, v) => definitionSpans set inner text v
    | _ => .nil

/-- What the runs that handlers start unfold into, of which some number may stand inside one another. -/
def reentrySpans (services : Services) : Nat → Unfolding
  | 0 => { runRule := fun _ _ _ => .nil, runWorkflow := fun _ _ => .nil }
  | more + 1 =>
    let set : Setting :=
      { services := services, reentry := reentry services more, keepsDefinitions := true, heedsCancel := false }
    { runRule := fun key values => ruleSpans set (reentrySpans services more) (some key) values
      runWorkflow := fun name => taskSpans set (reentrySpans services more) (.named name) }

end Run
end FlowRules
