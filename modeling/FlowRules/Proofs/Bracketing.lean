import FlowRules.Proofs.Run.Unfolding
import FlowRules.Proofs.Workflow.Writing
import FlowRules.Run.Pipeline

/-!
# The log of a run is well bracketed

Main statement: what the log of a run tells of beginnings and ends of scopes is properly nested, and is what the scopes
of the run tell, each with its own name and outcome; so is what it tells of sub-flows and loops, unless a row tells that
a level has been refused; and the logger is left in the workflow in which it was (`Run.log_bracketed`).
-/

namespace FlowRules.Run

/-- What the log of a run tells of scopes is what its scopes tell, each with its name and its outcome, and it is properly
nested, whatever fails, is skipped or cancelled: every fault has a text (`Fault.message`), so that it is reported in its
scope, which then ends.  What it tells of scopes, sub-flows and loops is what all spans of the run tell, and it is
properly nested too unless a level is refused, which a row of the log then tells.  So it is for the runs that handlers
start.  The current workflow of the logger is what it was. -/
theorem log_bracketed (services : Services) (more : Nat) (keepsDefinitions heedsCancel : Bool) (t : Task) (w : World) :
    let set : Setting := ⟨services, reentry services more, keepsDefinitions, heedsCancel⟩
    let spans := taskSpans set (reentrySpans services more) t w
    let p := (task set t).run w
    (∃ events, w.Wrote events p.2 ∧
      Event.scopeTexts events = spans.scopes.texts ∧ Nested (Event.scopeTexts events) ∧
      Event.brackets events = spans.texts ∧ (spans.complete = true → Nested (Event.brackets events)) ∧
      (¬ Event.TellsLimit events → spans.complete = true)) ∧
    p.2.logger.context.workflow = w.logger.context.workflow := by
  intro set spans p
  have htells : Tells set.reentry (reentrySpans services more) := tells_reentry services more
  have hrun : w.UnfoldsAtStep spans p.2 := unfolds_task htells t w
  obtain ⟨events, hevents, hspans⟩ := hrun.wrote
  have hscopes : Event.scopeTexts events = spans.scopes.texts := by
    rw [← Event.filter_brackets, hspans.texts, Spans.filter_texts]
  refine ⟨⟨events, hevents, hscopes, ?_, hspans.texts, ?_, ?_⟩, ?_⟩
  · rw [hscopes]
    exact spans.nested_scopes
  · intro hcomplete
    rw [hspans.texts]
    exact Spans.nested_texts hcomplete
  · intro hlimit
    exact hspans.limit.resolve_right hlimit
  · have hworkflow := congrArg (fun l : ScopedLogger => l.context.workflow) hrun.unfolds.place
    exact hworkflow

/-! ### A sub-flow that fails in a loop -/

private def leaf : Workflow := ⟨"leaf", [{ implementationKey := some "burst" }]⟩

private def branch : Workflow :=
  ⟨"branch", [{ implementationKey := some "burst", condition := some "false" },
    { kind := .subFlow, subFlowRef := some "leaf" }]⟩

private def trunk : Workflow :=
  ⟨"trunk", [{ kind := .forEach, name := some "each", collectionProperty := some "items", subFlowRef := some "branch" }]⟩

private def treeServices : Services where
  registry := { rules := [("burst", .ready ⟨"Burst", fun _ => .fail (.raised "RuntimeError" "kaput")⟩)] }
  repository := some
    (MemoryStore.repository [("trunk", trunk.written), ("branch", branch.written), ("leaf", leaf.written)])
  construct := fun _ _ => .error (.type (.stated "no classes"))

private def treeWorld : World :=
  (Pipeline.start treeServices (.dict none [(.text "items", .list none [.text "first", .text "second"])]) []
    "execution" "pipeline" none).world

/-- The loop ends with its first item, and all that has been opened is closed. -/
theorem log_bracketed_tree :
    let set := setting treeServices true true
    let spans := taskSpans set (reentrySpans treeServices maxReentry) (.named "trunk") treeWorld
    let p := (task set (.named "trunk")).run treeWorld
    spans =
        .scope "trunk" false
          (.level (.loop "each" 2)
            (.scope "branch" false (.level (.subFlow "leaf") (.scope "leaf" false .nil .nil) .nil) .nil) .nil) .nil ∧
      ∃ events, treeWorld.Wrote events p.2 ∧ Event.brackets events = spans.texts ∧ Nested (Event.brackets events) := by
  intro set spans p
  have hspans : spans =
      .scope "trunk" false
        (.level (.loop "each" 2)
          (.scope "branch" false (.level (.subFlow "leaf") (.scope "leaf" false .nil .nil) .nil) .nil) .nil) .nil := by
    decide +kernel
  obtain ⟨⟨events, hevents, -, -, hbrackets, hnested, -⟩, -⟩ :=
    log_bracketed treeServices maxReentry true true (.named "trunk") treeWorld
  have hcomplete : spans.complete = true := by rw [hspans]; rfl
  exact ⟨hspans, events, hevents, hbrackets, hnested hcomplete⟩

end FlowRules.Run
