import FlowRules.Proofs.Run.Visits

/-!
# Tasks at the top level

A task is what a host asks to run: the workflow that a text defines, or the workflow that the repository has under a
name.  Its run loads and reads a definition, each of which may fail, and then runs the workflow if there is one; the
steps that it begins are those of this workflow (`Run.Begins.workflow`).
-/

namespace FlowRules

/-- What is run at the top level: the workflow that a text defines, or the one under a name. -/
inductive Task where
  | definition (text : String)
  | named (name : String)

namespace Run

def task (set : Setting) : Task → Act RunResult
  | .definition text => runDefinition set text
  | .named name => runNamed set name

theorem similar_task {set set' : Setting} (h : set.Similar set') (t : Task) :
    Act.Similar (task set t) (task set' t) := by
  cases t with
  | definition text => exact similar_runDefinition h text
  | named name => exact similar_runNamed h name

variable {set : Setting} {text name : String} {w v : World} {f : Fault} {c : Workflow}

/-! ### The ways a task goes -/

theorem runDefinition_error (h : (readDefinition set text).attempt.run w = (.error f, v)) :
    ∃ u, (runDefinition set text).run w = (rejected f).run u := by
  unfold runDefinition
  rw [Act.run_bind, h]
  dsimp only
  split <;> exact ⟨_, rfl⟩

theorem runDefinition_none (h : (readDefinition set text).attempt.run w = (.ok none, v)) :
    (runDefinition set text).run w = ({}, v) := by
  unfold runDefinition
  rw [Act.run_bind, h]
  rfl

theorem runDefinition_some (h : (readDefinition set text).attempt.run w = (.ok (some c), v)) :
    (runDefinition set text).run w = (runWorkflow set c).run v := by
  unfold runDefinition
  rw [Act.run_bind, h]

theorem runNamed_error (h : (load set name "Workflow").attempt.run w = (.error f, v)) :
    ∃ u, (runNamed set name).run w = (rejected f).run u := by
  unfold runNamed
  rw [Act.run_bind, h]
  dsimp only
  split <;> exact ⟨_, rfl⟩

theorem runNamed_ok (h : (load set name "Workflow").attempt.run w = (.ok text, v)) :
    (runNamed set name).run w = (runDefinition set text).run v := by
  unfold runNamed
  rw [Act.run_bind, h]

/-! ### The steps of a task -/

/-- In the run of a task from a world, a step is begun. -/
inductive Begins (set : Setting) : Task → World → Visit → Prop where
  | definition {text : String} {w v : World} {c : Workflow} {x : Visit}
    (hread : (readDefinition set text).attempt.run w = (.ok (some c), v))
    (hx : Visits set maxNesting c.steps (v.begun c.name) x) : Begins set (.definition text) w x
  | named {name text : String} {w v : World} {x : Visit}
    (hload : (load set name "Workflow").attempt.run w = (.ok text, v)) (hx : Begins set (.definition text) v x) :
    Begins set (.named name) w x

/-- A task in which a step is begun runs the workflow from which the run comes to the step. -/
theorem Begins.workflow {t : Task} {x : Visit} (h : Begins set t w x) :
    ∃ c v, Visits set maxNesting c.steps (v.begun c.name) x ∧ (task set t).run w = (runWorkflow set c).run v := by
  induction h with
  | definition hread hx => exact ⟨_, _, hx, runDefinition_some hread⟩
  | named hload _ ih =>
    obtain ⟨c, v, hx, hrun⟩ := ih
    exact ⟨c, v, hx, (runNamed_ok hload).trans hrun⟩

end Run
end FlowRules
