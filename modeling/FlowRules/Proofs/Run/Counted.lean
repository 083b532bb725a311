import FlowRules.Proofs.Run.Task

/-!
# Runs with a counter

A run can be told by rules that put no bound on how deep sub-flows and loops go.  A counter of the levels that are open
goes along instead: a level is opened only while the counter is below the limit, the counter goes up with it and down
again once the level is closed.  Main statements: by these rules every part of a run comes to an end, there is one way
in which it does, it is that of the engine, and the counter is what it was (`Run.executes_iff`); so it is for whole runs
(`Run.called_iff`).
-/

namespace FlowRules

namespace World

/-- The world once the fault of a step has been logged. -/
def raised (w : World) (s : Step) (f : Fault) : World :=
  w.record (.logged (w.logger.row .error ("Error in " ++ s.displayName ++ ": " ++ f.message) true))

/-- The world once a sub-flow has been left. -/
def leftSubFlow (w : World) (s : Step) (o : Outcome) : World :=
  let v := w.record (.exited s.reference)
  let u :=
    if !o.succeeded then v.logged .warning ("SubFlow '" ++ s.reference ++ "' failed. Stopping parent flow.") else v
  u.logged .info (LogMessage.subFlowExited s.reference)

/-- The world once a loop has been left. -/
def leftLoop (w : World) (s : Step) : World :=
  (w.record (.exited s.reference)).logged .info (LogMessage.loopEnded s.displayName)

end World

/-- The fault of a step that goes deeper than sub-flows and loops may. -/
def Step.tooDeep (s : Step) : Fault := .workflowDefinition (.nestingLimit (some s.reference))

namespace Run

/-- A part of a run. -/
inductive Job where
  | scope (c : Workflow)
  | steps (name : String) (steps : List Step)
  | step (s : Step)
  /-- A loop from an item on, whose index is given. -/
  | items (c : Workflow) (label : String) (index : Nat) (items : List Value)

/-- A part of a run is carried out from a world with a counter of open levels: with an outcome, a world and a counter it
ends. -/
inductive Executes (set : Setting) : Int → Job → World → Outcome → World → Int → Prop where
  | scope {d d' : Int} {c : Workflow} {w v : World} {o : Outcome}
    (h : Executes set d (.steps c.name c.steps) (w.begun c.name) o v d') :
    Executes set d (.scope c) w o (v.ended c.name o.succeeded w.logger.context.workflow) d'
  | noSteps {d : Int} {name : String} {w : World} : Executes set d (.steps name []) w {} w d
  | stepsHalted {d : Int} {name : String} {s : Step} {rest : List Step} {w : World} (h : Halted set w) :
    Executes set d (.steps name (s :: rest)) w {} (w.logged .info ("Cancellation requested, stopping '" ++ name ++ "'"))
      d
  | stepFails {d d' : Int} {name : String} {s : Step} {rest : List Step} {w v : World} {o : Outcome}
    (hh : ¬ Halted set w) (h : Executes set d (.step s) w o v d') (ho : o.succeeded = false) :
    Executes set d (.steps name (s :: rest)) w o v d'
  | stepSucceeds {d d' d'' : Int} {name : String} {s : Step} {rest : List Step} {w v u : World} {o o' : Outcome}
    (hh : ¬ Halted set w) (h : Executes set d (.step s) w o v d') (ho : o.succeeded = true)
    (hrest : Executes set d' (.steps name rest) v o' u d'') : Executes set d (.steps name (s :: rest)) w o' u d''
  | stepRaises {d : Int} {s : Step} {w v : World} {f : Fault}
    (h : (openStep set s).attempt.run w = (.error f, v)) :
    Executes set d (.step s) w (.failure f.message) (v.raised s f) d
  | stepDone {d : Int} {s : Step} {w v : World} {o : Outcome}
    (h : (openStep set s).attempt.run w = (.ok (.done o), v)) : Executes set d (.step s) w o v d
  | stepTooDeep {d : Int} {s : Step} {w v : World} {o : Opening} (hd : maxNesting ≤ d)
    (h : (openStep set s).attempt.run w = (.ok o, v)) (ho : ∀ outcome, o ≠ .done outcome) :
    Executes set d (.step s) w (.failure s.tooDeep.message) (v.raised s s.tooDeep) d
  | subFlow {d d' : Int} {s : Step} {w v u : World} {c : Workflow} {o : Outcome} (hd : d < maxNesting)
    (h : (openStep set s).attempt.run w = (.ok (.inPlace c), v))
    (hbody : Executes set (d + 1) (.scope c) (v.record (.entered s.reference)) o u d') :
    Executes set d (.step s) w o (u.leftSubFlow s o) (d' - 1)
  | loop {d d' : Int} {s : Step} {w v u : World} {c : Workflow} {items : List Value} {o : Outcome}
    (hd : d < maxNesting) (h : (openStep set s).attempt.run w = (.ok (.onEach c items), v))
    (hbody : Executes set (d + 1) (.items c s.displayName 0 items) (v.record (.entered s.reference)) o u d') :
    Executes set d (.step s) w o (u.leftLoop s) (d' - 1)
  | noItems {d : Int} {c : Workflow} {label : String} {k : Nat} {w : World} :
    Executes set d (.items c label k []) w {} w d
  | itemsHalted {d : Int} {c : Workflow} {label : String} {k : Nat} {item : Value} {items : List Value} {w : World}
    (h : Halted set w) :
    Executes set d (.items c label k (item :: items)) w {}
      (w.logged .info ("Cancellation requested, stopping loop '" ++ label ++ "' at index " ++ toString k)) d
  | itemFails {d d' : Int} {c : Workflow} {label : String} {k : Nat} {item : Value} {items : List Value} {w v : World}
    {o : Outcome} (hh : ¬ Halted set w) (h : Executes set d (.scope c) (w.intoItem item) o v d')
    (ho : o.succeeded = false) :
    Executes set d (.items c label k (item :: items)) w (.failure (loopError label k o.errors))
      ((v.outOfItem w).logged .warning ("Loop Item #" ++ toString k ++ " Failed.")) d'
  | itemSucceeds {d d' d'' : Int} {c : Workflow} {label : String} {k : Nat} {item : Value} {items : List Value}
    {w v u : World} {o o' : Outcome} (hh : ¬ Halted set w) (h : Executes set d (.scope c) (w.intoItem item) o v d')
    (ho : o.succeeded = true) (hrest : Executes set d' (.items c label (k + 1) items) (v.outOfItem w) o' u d'') :
    Executes set d (.items c label k (item :: items)) w o' u d''

/-- How the engine carries out a part of a run with some number of levels left. -/
def Job.run (set : Setting) (n : Nat) : Job → Act Outcome
  | .scope c => scopeAt set n c
  | .steps name rest => runSteps set (below set n) name rest
  | .step s => runStep set (below set n) s
  | .items c label k rest => runItems set (scopeAt set n) c label k rest

/-- The levels that are left where a counter has been reached. -/
def levelsLeft (d : Int) : Nat := (maxNesting - d).toNat

theorem levelsLeft_of_le {d : Int} (h : maxNesting ≤ d) : levelsLeft d = 0 := by
  unfold levelsLeft
  omega

theorem levelsLeft_of_lt {d : Int} (h : d < maxNesting) : levelsLeft d = levelsLeft (d + 1) + 1 := by
  unfold levelsLeft
  omega

variable {set : Setting} {n : Nat} {s : Step} {w v : World} {c : Workflow}

/-! ### Steps of the engine -/

theorem runStep_raises {f : Fault} (h : (openStep set s).attempt.run w = (.error f, v)) :
    (runStep set (below set n) s).run w = (.failure f.message, v.raised s f) := by
  rw [runStep_run, doStep, attempt_bind, h]
  rfl

theorem runStep_done {o : Outcome} (h : (openStep set s).attempt.run w = (.ok (.done o), v)) :
    (runStep set (below set n) s).run w = (o, v) := by
  rw [runStep_run, doStep, attempt_bind, h]
  rfl

theorem runStep_tooDeep {o : Opening} (h : (openStep set s).attempt.run w = (.ok o, v))
    (ho : ∀ outcome, o ≠ .done outcome) :
    (runStep set (below set 0) s).run w = (.failure s.tooDeep.message, v.raised s s.tooDeep) := by
  rw [runStep_run, doStep, attempt_bind, h]
  rcases o with outcome | c | ⟨c, items⟩
  · exact absurd rfl (ho outcome)
  · rfl
  · rfl

/-! ### The rules and the engine -/

/-- What is carried out by the rules ends as the engine ends it, with the counter that it has begun with. -/
theorem Executes.eq_run {d d' : Int} {job : Job} {o : Outcome} (h : Executes set d job w o v d') :
    d' = d ∧ (job.run set (levelsLeft d)).run w = (o, v) := by
  induction h with
  | scope _ ih =>
    obtain ⟨rfl, hrun⟩ := ih
    exact ⟨rfl, scopeAt_run hrun⟩
  | noSteps => exact ⟨rfl, rfl⟩
  | stepsHalted h => exact ⟨rfl, runSteps_halted h _ _ _ _⟩
  | stepFails hh _ ho ih =>
    obtain ⟨rfl, hrun⟩ := ih
    refine ⟨rfl, ?_⟩
    show (runSteps set _ _ _).run _ = _
    rw [runSteps_cons hh]
    dsimp only [Job.run] at hrun ⊢
    rw [hrun, if_neg (Bool.eq_false_iff.1 ho)]
  | stepSucceeds hh _ ho _ ih ihrest =>
    obtain ⟨rfl, hrun⟩ := ih
    obtain ⟨rfl, hrest⟩ := ihrest
    refine ⟨rfl, ?_⟩
    show (runSteps set _ _ _).run _ = _
    rw [runSteps_cons hh]
    dsimp only [Job.run] at hrun hrest ⊢
    rw [hrun, if_pos ho, hrest]
  | stepRaises h => exact ⟨rfl, runStep_raises h⟩
  | stepDone h => exact ⟨rfl, runStep_done h⟩
  | stepTooDeep hd h ho =>
    rw [levelsLeft_of_le hd]
    exact ⟨rfl, runStep_tooDeep h ho⟩
  | subFlow hd h _ ih =>
    obtain ⟨rfl, hrun⟩ := ih
    refine ⟨by omega, ?_⟩
    show (runStep set _ _).run _ = _
    rw [levelsLeft_of_lt hd, runStep_inPlace h]
    dsimp only [Job.run] at hrun ⊢
    rw [hrun]
    rfl
  | loop hd h _ ih =>
    obtain ⟨rfl, hrun⟩ := ih
    refine ⟨by omega, ?_⟩
    show (runStep set _ _).run _ = _
    rw [levelsLeft_of_lt hd, runStep_onEach h]
    dsimp only [Job.run] at hrun ⊢
    rw [hrun]
    rfl
  | noItems => exact ⟨rfl, rfl⟩
  | itemsHalted h => exact ⟨rfl, runItems_halted h _ _ _ _ _ _⟩
  | itemFails hh _ ho ih =>
    obtain ⟨rfl, hrun⟩ := ih
    refine ⟨rfl, ?_⟩
    show (runItems set _ _ _ _ _).run _ = _
    dsimp only [Job.run] at hrun
    rw [runItems_cons hh, inChild_run, hrun]
    dsimp only
    rw [if_neg (Bool.eq_false_iff.1 ho)]
  | itemSucceeds hh _ ho _ ih ihrest =>
    obtain ⟨rfl, hrun⟩ := ih
    obtain ⟨rfl, hrest⟩ := ihrest
    refine ⟨rfl, ?_⟩
    show (runItems set _ _ _ _ _).run _ = _
    dsimp only [Job.run] at hrun hrest
    rw [runItems_cons hh, inChild_run, hrun]
    dsimp only
    rw [if_pos ho, hrest]

/-- By the rules a part of a run comes to the end to which the engine brings it. -/
def Ends (set : Setting) (d : Int) (job : Job) (w : World) : Prop :=
  Executes set d job w ((job.run set (levelsLeft d)).run w).1 ((job.run set (levelsLeft d)).run w).2 d

private theorem Ends.of_executes {d : Int} {job : Job} {o : Outcome} (h : Executes set d job w o v d) :
    Ends set d job w := by
  have hrun := h.eq_run.2
  unfold Ends
  rw [hrun]
  exact h

private theorem ends_items {d : Int} (hscope : ∀ c w, Ends set d (.scope c) w) (c : Workflow) (label : String) (k : Nat)
    (items : List Value) (w : World) : Ends set d (.items c label k items) w := by
  induction items generalizing k w with
  | nil => exact Ends.of_executes Executes.noItems
  | cons item items ih =>
    by_cases hh : Halted set w
    · exact Ends.of_executes (Executes.itemsHalted hh)
    · have hitem := hscope c (w.intoItem item)
      by_cases ho : (((Job.scope c).run set (levelsLeft d)).run (w.intoItem item)).1.succeeded = true
      · exact Ends.of_executes (Executes.itemSucceeds hh hitem ho (ih (k + 1) _))
      · exact Ends.of_executes (Executes.itemFails hh hitem (Bool.eq_false_iff.2 ho))

private theorem ends_steps {d : Int} (hstep : ∀ s w, Ends set d (.step s) w) (name : String) (steps : List Step)
    (w : World) : Ends set d (.steps name steps) w := by
  induction steps generalizing w with
  | nil => exact Ends.of_executes Executes.noSteps
  | cons s rest ih =>
    by_cases hh : Halted set w
    · exact Ends.of_executes (Executes.stepsHalted hh)
    · have hfirst := hstep s w
      by_cases ho : (((Job.step s).run set (levelsLeft d)).run w).1.succeeded = true
      · exact Ends.of_executes (Executes.stepSucceeds hh hfirst ho (ih _))
      · exact Ends.of_executes (Executes.stepFails hh hfirst (Bool.eq_false_iff.2 ho))

private theorem executes_lowered {d : Int} {job : Job} {o : Outcome} (h : Executes set d job w o v (d + 1 - 1)) :
    Executes set d job w o v d := by
  rwa [Int.add_sub_cancel] at h

private theorem ends_step {d : Int} (hscope : d < maxNesting → ∀ c w, Ends set (d + 1) (.scope c) w) (s : Step)
    (w : World) : Ends set d (.step s) w := by
  rcases h : (openStep set s).attempt.run w with ⟨f | o | c | ⟨c, items⟩, v⟩
  · exact Ends.of_executes (Executes.stepRaises h)
  · exact Ends.of_executes (Executes.stepDone h)
  · by_cases hd : d < maxNesting
    · exact Ends.of_executes (executes_lowered (Executes.subFlow hd h (hscope hd c _)))
    · exact Ends.of_executes (Executes.stepTooDeep (Int.not_lt.1 hd) h nofun)
  · by_cases hd : d < maxNesting
    · exact Ends.of_executes (executes_lowered (Executes.loop hd h (ends_items (hscope hd) c _ 0 items _)))
    · exact Ends.of_executes (Executes.stepTooDeep (Int.not_lt.1 hd) h nofun)

private theorem ends_of_deeper {d : Int} (hdeeper : d < maxNesting → ∀ c w, Ends set (d + 1) (.scope c) w) (job : Job)
    (w : World) : Ends set d job w := by
  have hsteps := ends_steps (ends_step hdeeper)
  have hscope : ∀ c w, Ends set d (.scope c) w := fun c w => Ends.of_executes (Executes.scope (hsteps _ _ _))
  cases job with
  | scope c => exact hscope c w
  | steps name steps => exact hsteps name steps w
  | step s => exact ends_step hdeeper s w
  | items c label k items => exact ends_items hscope c label k items w

/-- Every part of a run comes to an end by the rules, as the counter only goes up to the limit. -/
theorem ends (set : Setting) (d : Int) (job : Job) (w : World) : Ends set d job w := by
  -- what is opened one level deeper has fewer levels left
  induction hn : levelsLeft d generalizing d job w with
  | zero =>
    refine ends_of_deeper (fun hd => ?_) job w
    rw [levelsLeft_of_lt hd] at hn
    cases hn
  | succ n ih =>
    refine ends_of_deeper (fun hd c v => ?_) job w
    rw [levelsLeft_of_lt hd] at hn
    exact ih (d + 1) (.scope c) v (Nat.succ.inj hn)

/-- A part of a run can be carried out by the rules in one way: it ends as the engine ends it, with the counter that it
has begun with. -/
theorem executes_iff {d d' : Int} {job : Job} {o : Outcome} :
    Executes set d job w o v d' ↔ d' = d ∧ (job.run set (levelsLeft d)).run w = (o, v) := by
  constructor
  · exact Executes.eq_run
  · rintro ⟨rfl, hrun⟩
    have hends := ends set d' job w
    unfold Ends at hends
    rw [hrun] at hends
    exact hends

/-! ### Calls at the top level -/

/-- The run of a task comes to a workflow, and to the world in which this is run. -/
inductive ComesTo (set : Setting) : Task → World → Workflow → World → Prop where
  | definition {text : String} {w v : World} {c : Workflow}
    (hread : (readDefinition set text).attempt.run w = (.ok (some c), v)) : ComesTo set (.definition text) w c v
  | named {name text : String} {w v u : World} {c : Workflow}
    (hload : (load set name "Workflow").attempt.run w = (.ok text, v)) (h : ComesTo set (.definition text) v c u) :
    ComesTo set (.named name) w c u

theorem ComesTo.task_run {t : Task} (h : ComesTo set t w c v) : (task set t).run w = (runWorkflow set c).run v := by
  induction h with
  | definition hread => exact runDefinition_some hread
  | named hload _ ih => exact (runNamed_ok hload).trans ih

/-- An executor with a counter is called: the workflow of the task is carried out by the rules, if the run comes to one.
-/
inductive Called (set : Setting) : Int → Task → World → RunResult → World → Int → Prop where
  | noWorkflow {d : Int} {t : Task} {w : World} (h : ∀ c v, ¬ ComesTo set t w c v) :
    Called set d t w ((task set t).run w).1 ((task set t).run w).2 d
  | workflow {d d' : Int} {t : Task} {w v u : World} {c : Workflow} {o : Outcome} (h : ComesTo set t w c v)
    (hrun : Executes set d (.scope c) v o u d') :
    Called set d t w { o with flow := u.flow, output := u.state } u d'

/-- A call of an executor whose counter is zero ends in one way: as the engine ends it, with the counter at zero. -/
theorem called_iff {t : Task} {r : RunResult} {d : Int} :
    Called set 0 t w r v d ↔ d = 0 ∧ (task set t).run w = (r, v) := by
  constructor
  · intro h
    cases h with
    | noWorkflow => exact ⟨rfl, rfl⟩
    | workflow h hrun =>
      obtain ⟨rfl, hscope⟩ := executes_iff.1 hrun
      refine ⟨rfl, ?_⟩
      have hlevels : levelsLeft 0 = maxNesting := rfl
      rw [hlevels] at hscope
      dsimp only [Job.run] at hscope
      rw [h.task_run, runWorkflow_run, hscope]
  · rintro ⟨rfl, hrun⟩
    by_cases h : ∃ c u, ComesTo set t w c u
    · obtain ⟨c, u, h⟩ := h
      rw [h.task_run, runWorkflow_run] at hrun
      cases hrun
      exact Called.workflow h (ends set 0 (.scope c) u)
    · have hcalled : Called set 0 t w _ _ 0 := Called.noWorkflow fun c u hc => h ⟨c, u, hc⟩
      rw [hrun] at hcalled
      exact hcalled

end Run
end FlowRules
