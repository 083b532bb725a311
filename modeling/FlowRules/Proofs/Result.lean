import FlowRules.Proofs.Failure
import FlowRules.Proofs.Run.Task

/-!
# Results of runs

Main statements: every run at the top level has a result, which succeeds exactly when it has no errors, and whatever is
raised in the run, at any depth, is its one error (`Run.result_coherent`); the result has the flow object and the state
that the run leaves (`Run.result_has_scope`), except where the definition is null: there it is empty
(`Run.null_drops_scope`).  The first rests on what a scope comes to: nothing, or a failure with one error
(`Run.scopeAt_outcome`).
-/

namespace FlowRules.Run

/-! ### Outcomes -/

private theorem runSteps_succeeded {set : Setting} {deeper : Deeper} {name : String} {steps : List Step} {w : World}
    (h : ((runSteps set deeper name steps).run w).1.succeeded = true) :
    ((runSteps set deeper name steps).run w).1 = {} := by
  induction steps generalizing w with
  | nil => rfl
  | cons s rest ih =>
    by_cases hh : Halted set w
    · rw [runSteps_halted hh]
    · rw [runSteps_cons hh] at h ⊢
      dsimp only at h ⊢
      split at h
      · rw [if_pos ‹_›]
        exact ih h
      · exact absurd h ‹_›

/-- A scope succeeds without errors or fails with one. -/
theorem scopeAt_outcome (set : Setting) (n : Nat) (c : Workflow) (w : World) :
    ((scopeAt set n c).run w).1 = {} ∨ ∃ message, ((scopeAt set n c).run w).1 = .failure message := by
  rcases h : ((scopeAt set n c).run w).1.succeeded with _ | _
  · exact Or.inr (scopeAt_single_error h)
  · left
    rw [scopeAt_eq, runScope_run] at h ⊢
    exact runSteps_succeeded h

variable {set : Setting} {t : Task} {w : World} {f : Fault} {message : String}

/-- What a task comes to: nothing, or a failure with one error. -/
theorem task_outcome (set : Setting) (t : Task) (w : World) :
    ((task set t).run w).1.toOutcome = {} ∨ ∃ message, ((task set t).run w).1.toOutcome = .failure message := by
  have hdefinition (text : String) (w : World) : ((runDefinition set text).run w).1.toOutcome = {} ∨
      ∃ message, ((runDefinition set text).run w).1.toOutcome = .failure message := by
    rcases h : (readDefinition set text).attempt.run w with ⟨f | _ | c, v⟩
    · obtain ⟨u, hu⟩ := runDefinition_error h
      rw [hu]
      exact Or.inr ⟨_, rfl⟩
    · rw [runDefinition_none h]
      exact Or.inl rfl
    · rw [runDefinition_some h]
      exact scopeAt_outcome set maxNesting c v
  cases t with
  | definition text => exact hdefinition text w
  | named name =>
    show ((runNamed set name).run w).1.toOutcome = {} ∨ ∃ message, ((runNamed set name).run w).1.toOutcome = _
    rcases h : (load set name "Workflow").attempt.run w with ⟨f | text, v⟩
    · obtain ⟨u, hu⟩ := runNamed_error h
      rw [hu]
      exact Or.inr ⟨_, rfl⟩
    · rw [runNamed_ok h]
      exact hdefinition text v

/-! ### What is raised -/

/-- In the run of a task from a world a fault is raised, for which the run has an error: the definition is not found or
cannot be read, or a step that is begun raises the fault. -/
inductive RaisedIn (set : Setting) : Task → World → Fault → String → Prop where
  | loading {name : String} {w u : World} {f : Fault}
    (h : (load set name "Workflow").attempt.run w = (.error f, u)) : RaisedIn set (.named name) w f f.message
  | loaded {name text message : String} {w v : World} {f : Fault}
    (hload : (load set name "Workflow").attempt.run w = (.ok text, v))
    (h : RaisedIn set (.definition text) v f message) : RaisedIn set (.named name) w f message
  | reading {text : String} {w u : World} {f : Fault}
    (h : (readDefinition set text).attempt.run w = (.error f, u)) : RaisedIn set (.definition text) w f f.message
  | step {text : String} {w u : World} {f : Fault} {x : Visit} (hx : Begins set (.definition text) w x)
    (h : (doStep set (below set x.levels) x.step).attempt.run x.world = (.error f, u)) :
    RaisedIn set (.definition text) w f (x.report f.message)

/-- What a step raises ends the workflow from which the run has come to it. -/
private theorem runWorkflow_raised {c : Workflow} {x : Visit} {u : World}
    (hx : Visits set maxNesting c.steps (w.begun c.name) x)
    (h : (doStep set (below set x.levels) x.step).attempt.run x.world = (.error f, u)) :
    ((runWorkflow set c).run w).1.toOutcome = .failure (x.report f.message) := by
  obtain ⟨v, hv, -⟩ := runSteps_of_visit hx (FailsItself.raised h) c.name
  rw [runWorkflow_run, scopeAt_run hv]

/-- What is raised is the one error of the run. -/
theorem RaisedIn.outcome (h : RaisedIn set t w f message) :
    ((task set t).run w).1.toOutcome = .failure message := by
  induction h with
  | loading h =>
    obtain ⟨u, hu⟩ := runNamed_error h
    show ((runNamed set _).run _).1.toOutcome = _
    rw [hu]
    rfl
  | loaded hload _ ih =>
    show ((runNamed set _).run _).1.toOutcome = _
    rw [runNamed_ok hload]
    exact ih
  | reading h =>
    obtain ⟨u, hu⟩ := runDefinition_error h
    show ((runDefinition set _).run _).1.toOutcome = _
    rw [hu]
    rfl
  | step hx h =>
    obtain ⟨c, v, hx, hrun⟩ := hx.workflow
    rw [hrun]
    exact runWorkflow_raised hx h

/-- Whatever is run, from whatever world, there is a result.  It succeeds exactly when it has no errors, and a fault that
is raised in the run, in finding or reading the definition or in a step at any depth, goes no further: its text, which
every fault has (`Fault.message`), is the one error of the result. -/
theorem result_coherent (set : Setting) (t : Task) (w : World) :
    let r := ((task set t).run w).1
    (r.succeeded = true ↔ r.errors = []) ∧
      ∀ f message, RaisedIn set t w f message → r.succeeded = false ∧ r.errors = [message] := by
  intro r
  constructor
  · have houtcome : r.toOutcome = {} ∨ ∃ message, r.toOutcome = .failure message := task_outcome set t w
    rcases houtcome with ho | ⟨message, ho⟩
    · have hs : r.succeeded = true := congrArg Outcome.succeeded ho
      have he : r.errors = [] := congrArg Outcome.errors ho
      exact ⟨fun _ => he, fun _ => hs⟩
    · have hs : r.succeeded = false := congrArg Outcome.succeeded ho
      have he : r.errors = [message] := congrArg Outcome.errors ho
      rw [hs, he]
      exact ⟨nofun, nofun⟩
  · intro f message h
    have ho : r.toOutcome = .failure message := h.outcome
    exact ⟨congrArg Outcome.succeeded ho, congrArg Outcome.errors ho⟩

private def burst : Fault := .raised "RuntimeError" "kaput"

private def bursting : Workflow := { steps := [{ implementationKey := some "burst" }] }

private def burstServices : Services where
  registry := { rules := [("burst", .ready ⟨"Burst", fun _ => .fail burst⟩)] }
  repository := some (MemoryStore.repository [("main", bursting.written)])
  construct := fun _ _ => .error (.type (.stated "no classes"))

private theorem read_bursting : Definition.read bursting.written = .ok (some bursting) :=
  Definition.read_written (by decide)

/-- A rule that raises something. -/
theorem result_coherent_raising :
    let set := setting burstServices true true
    let w := (Pipeline.start burstServices (.text "flow") [] "execution" "pipeline" none).world
    RaisedIn set (.named "main") w burst "kaput" ∧
      ((task set (.named "main")).run w).1.succeeded = false ∧
      ((task set (.named "main")).run w).1.errors = ["kaput"] := by
  intro set w
  have hw : w.Coherent :=
    Pipeline.coherent_start burstServices (.text "flow") [] "execution" "pipeline" none
  have hdefined : set.services.Defines "main" (some bursting) := ⟨_, _, rfl, rfl, read_bursting⟩
  obtain ⟨text, v, hload, hread, hv⟩ := lookUp_found hdefined hw
  have hcancelled : v.cancelled = false := (congrArg Scope.cancelled hv.scope).symm
  have hh : ¬ Halted set (v.begun bursting.name) := not_halted hcancelled
  have hraised : RaisedIn set (.named "main") w burst "kaput" :=
    RaisedIn.loaded (hload _) (RaisedIn.step (Begins.definition hread (Visits.here hh)) rfl)
  exact ⟨hraised, (result_coherent set (.named "main") w).2 burst "kaput" hraised⟩

/-! ### What a result carries -/

/-- Unless its text is the null document, a run gives the flow object and the state that it leaves, also where its text
cannot be read. -/
theorem result_has_scope (set : Setting) (text : String) {w : World} (hw : w.Coherent) :
    let p := (runDefinition set text).run w
    (Definition.read text = .ok none ∧ p.1 = {}) ∨
      (Definition.read text ≠ .ok none ∧ p.1.flow = p.2.flow ∧ p.1.output = p.2.state) := by
  have hread := (readDefinition_spec hw set text).1
  rcases h : (readDefinition set text).attempt.run w with ⟨f | _ | c, v⟩ <;> rw [h] at hread
  · obtain ⟨u, hu⟩ := runDefinition_error h
    rw [hu, ← hread]
    exact Or.inr ⟨nofun, rfl, rfl⟩
  · rw [runDefinition_none h]
    exact Or.inl ⟨hread.symm, rfl⟩
  · rw [runDefinition_some h, ← hread]
    exact Or.inr ⟨nofun, rfl, rfl⟩

private def bareServices : Services where
  construct := fun _ _ => .error (.type (.stated "no classes"))

private def keptWorld : World :=
  (Pipeline.start bareServices (.text "f") [("k", .int 1)] "execution" "pipeline" none).world

private theorem coherent_kept : keptWorld.Coherent :=
  Pipeline.coherent_start bareServices (.text "f") [("k", .int 1)] "execution" "pipeline" none

/-- A text that cannot be read. -/
theorem result_has_scope_malformed :
    let p := (runDefinition (setting bareServices true true) "nul").run keptWorld
    keptWorld.Coherent ∧ p.1.flow = p.2.flow ∧ p.1.output = p.2.state := by
  refine ⟨coherent_kept, ?_⟩
  rcases result_has_scope (setting bareServices true true) "nul" coherent_kept with ⟨hnull, -⟩ | ⟨-, h⟩
  · have hmalformed : (Definition.read "nul").toOption = none := by decide +kernel
    rw [hnull] at hmalformed
    cases hmalformed
  · exact h

/-- The result of the null document has neither the flow object nor the state of its run. -/
theorem null_drops_scope :
    let p := (runDefinition (setting bareServices true true) "null").run keptWorld
    p.1.flow ≠ p.2.flow ∧ p.1.output ≠ p.2.state := by
  have hread : Definition.read "null" = .ok none := Definition.read_eq_ok (by decide +kernel)
  have hspec := readDefinition_spec coherent_kept (setting bareServices true true) "null"
  rcases hr : (readDefinition (setting bareServices true true) "null").attempt.run keptWorld with ⟨r, v⟩
  rw [hr, hread] at hspec
  obtain ⟨rfl, hv⟩ := hspec
  have hflow : v.flow = .text "f" := (congrArg Scope.flow hv.scope).symm
  have hstate : v.state = [("k", .int 1)] := (congrArg Scope.state hv.scope).symm
  rw [runDefinition_none hr]
  dsimp only
  rw [hflow, hstate]
  exact ⟨nofun, nofun⟩

end FlowRules.Run
