import FlowRules.Proofs.SubFlow

/-!
# Workflows one after the other

Main statement: a workflow with the steps of two lists, one behind the other, does what the first list does as a workflow
of its own and then, if that has succeeded, what the second does (`Run.runWorkflow_append`).  A first list that has been
cancelled has succeeded too; the second then begins no step, as the joined workflow begins none that is left.  Under
which names the lists run shows in the log only (`Run.runWorkflow_of_steps`).
-/

namespace FlowRules

open World (Alike)

namespace Run

/-- The result of a run that comes to an outcome and leaves a world. -/
def resultOf (p : Outcome × World) : RunResult := { p.1 with flow := p.2.flow, output := p.2.state }

theorem resultOf_congr {p q : Outcome × World} (ho : p.1 = q.1) (hw : Alike p.2 q.2) : resultOf p = resultOf q := by
  unfold resultOf
  rw [ho, hw.scope]

/-- A run of a workflow is a run of its steps, under any name and from any world like its own, but for the log. -/
theorem runWorkflow_of_steps {set : Setting} (h : set.Similar set) (c : Workflow) (name : String) {w v : World}
    (hv : Alike w v) :
    let p := (runSteps set (below set maxNesting) name c.steps).run v
    let r := (runWorkflow set c).run w
    r.1 = resultOf p ∧ Alike r.2 p.2 := by
  have hbegun : Alike (w.begun c.name) v := (World.alike_begun hv.left c.name).symm.trans hv
  obtain ⟨ho, hu⟩ := similar_runSteps h (similar_below h maxNesting) c.name name c.steps _ _ hbegun
  rw [runWorkflow_run, scopeAt_eq, runScope_run]
  generalize (runSteps set (below set maxNesting) c.name c.steps).run (w.begun c.name) = q at ho hu ⊢
  generalize (runSteps set (below set maxNesting) name c.steps).run v = p at ho hu ⊢
  have hended := (World.alike_ended hu.left c.name q.1.succeeded w.logger.context.workflow).symm.trans hu
  exact ⟨resultOf_congr ho hended, hended⟩

/-- A workflow with the steps of two lists has the result that the first list has as a workflow of its own if this
fails, and otherwise the one that the second list has when it is run after the first.  It leaves the same scope and
calls the same handlers in the same scopes, whatever they do, and wherever cancellation is asked for. -/
theorem runWorkflow_append (services : Services) (keepsDefinitions heedsCancel : Bool)
    (name firstName secondName : String) (first second : List Step) {w : World} (hw : w.Coherent) :
    let set := setting services keepsDefinitions heedsCancel
    let p := (runWorkflow set ⟨firstName, first⟩).run w
    let q := if p.1.succeeded then (runWorkflow set ⟨secondName, second⟩).run p.2 else p
    let r := (runWorkflow set ⟨name, first ++ second⟩).run w
    r.1 = q.1 ∧ r.2.toScope = q.2.toScope ∧ r.2.calls = q.2.calls := by
  intro set p q r
  have hset : set.Similar set := similar_setting services keepsDefinitions keepsDefinitions heedsCancel
  let deeper := below set maxNesting
  let front := (runSteps set deeper name first).run w
  let whole := if front.1.succeeded then (runSteps set deeper name second).run front.2 else front
  obtain ⟨hp, hpWorld⟩ := runWorkflow_of_steps hset ⟨firstName, first⟩ name (Alike.refl hw)
  obtain ⟨hr, hrWorld⟩ := runWorkflow_of_steps hset ⟨name, first ++ second⟩ name (Alike.refl hw)
  have hsucceeded : p.1.succeeded = front.1.succeeded := congrArg (·.succeeded) hp
  have hq : q.1 = resultOf whole ∧ Alike q.2 whole.2 := by
    by_cases hs : front.1.succeeded = true
    · have hq : q = (runWorkflow set ⟨secondName, second⟩).run p.2 := if_pos (hsucceeded.trans hs)
      have hwhole : whole = (runSteps set deeper name second).run front.2 := if_pos hs
      rw [hq, hwhole]
      exact runWorkflow_of_steps hset ⟨secondName, second⟩ name hpWorld
    · have hq : q = p := if_neg (hsucceeded ▸ hs)
      have hwhole : whole = front := if_neg hs
      rw [hq, hwhole]
      exact ⟨hp, hpWorld⟩
  -- the steps of the joined workflow are those of the two, run one after the other
  obtain ⟨hjoined, hjoinedWorld⟩ := runSteps_append hset (similar_below hset maxNesting) name first second hw
  have halike : Alike r.2 q.2 := (hrWorld.trans hjoinedWorld.symm).trans hq.2.symm
  have hresult : r.1 = q.1 := (hr.trans (resultOf_congr hjoined hjoinedWorld).symm).trans hq.1.symm
  exact ⟨hresult, halike.scope, halike.calls⟩

/-! ### A rule that asks for cancellation, before one that is missing -/

private def haltServices : Services where
  registry :=
    { rules := [("halt", .ready ⟨"Halt", fun _ => .ask (.setState [("halted", .bool true)]) fun _ =>
        .ask .cancel Script.done⟩)] }
  construct := fun _ _ => .error (.type (.stated "no classes"))

private def halting : List Step := [{ implementationKey := some "halt" }]

private def missing : List Step := [{ implementationKey := some "absent" }]

private def haltWorld : World := (Pipeline.start haltServices .null [] "execution" "pipeline" none).world

/-- The second list would fail, but cancellation keeps its step from being begun, joined to the first list or not. -/
theorem runWorkflow_append_halting :
    let set := setting haltServices true true
    let p := (runWorkflow set ⟨"first", halting⟩).run haltWorld
    let q := (runWorkflow set ⟨"second", missing⟩).run p.2
    let r := (runWorkflow set ⟨"joined", halting ++ missing⟩).run haltWorld
    haltWorld.Coherent ∧ p.1.succeeded = true ∧ q.1.succeeded = true ∧ r.1 = q.1 ∧ r.2.toScope = q.2.toScope ∧
      r.2.calls = q.2.calls := by
  have hw : haltWorld.Coherent := Pipeline.coherent_start haltServices .null [] "execution" "pipeline" none
  have happend := runWorkflow_append haltServices true true "joined" "first" "second" halting missing hw
  have hp : ((runWorkflow (setting haltServices true true) ⟨"first", halting⟩).run haltWorld).1.succeeded = true := by
    decide +kernel
  dsimp only at happend ⊢
  rw [if_pos hp] at happend
  exact ⟨hw, hp, by decide +kernel, happend⟩

end Run
end FlowRules
