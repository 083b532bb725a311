import FlowRules.Proofs.Run.Opening

/-!
# Runs from worlds that are alike

The engine does not look at what two worlds that are alike may differ in.  Main statement: with similar settings every
part of a run is similar to itself (`similar_scopeAt`, `similar_runNamed`), also where one setting keeps definitions
and the other does not, and so are the runs that handlers start (`similar_reentry`).
-/

namespace FlowRules

open World (Alike)
open Act (Similar)

structure Reentry.Similar (re re' : Reentry) : Prop where
  runRule : ∀ key values, Act.Similar (re.runRule key values).attempt (re'.runRule key values).attempt
  runWorkflow : ∀ name, Act.Similar (re.runWorkflow name) (re'.runWorkflow name)

/-- Settings with the same services that heed cancellation alike; whether definitions are kept makes no difference. -/
structure Setting.Similar (set set' : Setting) : Prop where
  services : set.services = set'.services
  heedsCancel : set.heedsCancel = set'.heedsCancel
  reentry : set.reentry.Similar set'.reentry

namespace Run

variable {re re' : Reentry} {set set' : Setting}

/-! ### Handlers -/

theorem similar_answer (h : re.Similar re') (r : Request) : Act.Similar (answer re r) (answer re' r) := by
  cases r with
  | look => exact fun w v hwv => ⟨hwv.scope, hwv⟩
  | setFlow x =>
    exact Similar.modify fun w v hwv => hwv.withScope (s := { w.toScope with flow := x }) (by rw [hwv.scope])
  | setState state =>
    exact Similar.modify fun w v hwv => hwv.withScope (s := { w.toScope with state := state }) (by rw [hwv.scope])
  | change x => exact Similar.modify fun w v hwv => hwv.change x
  | cancel =>
    exact Similar.modify fun w v hwv => hwv.withScope (s := { w.toScope with cancelled := true }) (by rw [hwv.scope])
  | holds c => exact Similar.holds c
  | runRule key values => exact h.runRule key values
  | runWorkflow name => exact h.runWorkflow name

theorem similar_perform {α : Type} (h : re.Similar re') (script : Script α) :
    Act.Similar (perform re script).attempt (perform re' script).attempt := by
  induction script with
  | done a => exact Similar.attempt_pure a
  | fail f => exact Similar.attempt_throw f
  | ask r next ih => exact Similar.attempt_bind (Similar.attempt_lift (similar_answer h r)) ih

theorem similar_call {α : Type} (h : re.Similar re') (role : Role) (key : Option String) (handler : Handler α)
    (values : Value) :
    Act.Similar (call re role key handler values).attempt (call re' role key handler values).attempt := by
  intro w v hwv
  rw [call_run, call_run, ← hwv.scope]
  have hcalled := hwv.record_call (e := .called role key w.toScope) rfl
  obtain ⟨hr, hu⟩ := similar_perform h (handler.call values) _ _ hcalled
  dsimp only
  rw [← hu.scope]
  exact ⟨hr, hu.record_call rfl⟩

theorem similar_findRule (h : set.Similar set') (key : Option String) :
    Act.Similar (findRule set key).attempt (findRule set' key).attempt := by
  unfold findRule
  rw [← h.services]
  exact Similar.attempt_bind (Similar.attempt_lift Similar.log) fun _ => Similar.attempt_ofExcept _

theorem similar_findValidation (h : set.Similar set') (key : Option String) :
    Act.Similar (findValidation set key).attempt (findValidation set' key).attempt := by
  unfold findValidation
  rw [← h.services]
  exact Similar.attempt_bind (Similar.attempt_lift Similar.log) fun _ => Similar.attempt_ofExcept _

/-! ### Definitions -/

theorem similar_load (h : set.Similar set') (name role : String) :
    Act.Similar (load set name role).attempt (load set' name role).attempt := by
  unfold load
  rw [← h.services]
  rcases set.services.repository with _ | repository
  · exact Similar.attempt_throw _
  · refine Similar.attempt_bind (Similar.attempt_lift (Similar.record rfl rfl)) fun _ => ?_
    refine Similar.attempt_bind (Similar.attempt_ofExcept _) fun found => ?_
    rcases found with _ | text
    · dsimp only
      split
      · exact Similar.attempt_throw _
      · exact Similar.attempt_bind (Similar.attempt_lift (Similar.record rfl rfl)) fun _ => Similar.attempt_throw _
    · dsimp only
      split
      · exact Similar.attempt_throw _
      · exact Similar.attempt_pure _

theorem similar_readDefinition (set set' : Setting) (text : String) :
    Act.Similar (readDefinition set text).attempt (readDefinition set' text).attempt := by
  intro w v h
  obtain ⟨hr, hw⟩ := readDefinition_spec h.left set text
  obtain ⟨hr', hv⟩ := readDefinition_spec h.right set' text
  exact ⟨hr.trans hr'.symm, (hw.symm.trans h).trans hv⟩

/-! ### Steps -/

theorem similar_ruleStep (h : set.Similar set') (s : Step) :
    Act.Similar (ruleStep set s).attempt (ruleStep set' s).attempt := by
  unfold ruleStep
  refine Similar.attempt_bind (similar_findRule h _) fun found => ?_
  rcases found with _ | rule
  · exact Similar.attempt_throw _
  · exact Similar.attempt_bind (similar_call h.reentry _ _ _ _) fun _ => Similar.attempt_pure _

theorem similar_verdict (h : set.Similar set') (s : Step) :
    Act.Similar (verdict set s).attempt (verdict set' s).attempt := by
  unfold verdict
  rw [← h.services]
  rcases s.mode
  · refine Similar.attempt_get_bind fun w v hwv => ?_
    rw [← hwv.scope]
    refine Similar.attempt_bind (Similar.attempt_ofEval _) (fun judgement => ?_) w v hwv
    rcases judgement.remark with _ | remark
    · exact Similar.attempt_pure _
    · exact Similar.attempt_bind (Similar.attempt_lift (Similar.record rfl rfl)) fun _ => Similar.attempt_pure _
  · refine Similar.attempt_bind (similar_findValidation h _) fun found => ?_
    rcases found with _ | validation
    · exact Similar.attempt_throw _
    · exact Similar.attempt_bind (similar_call h.reentry _ _ _ _) fun _ => Similar.attempt_pure _

theorem similar_validationStep (h : set.Similar set') (s : Step) :
    Act.Similar (validationStep set s).attempt (validationStep set' s).attempt := by
  unfold validationStep
  refine Similar.attempt_bind (similar_verdict h s) fun passed => ?_
  cases passed
  · exact Similar.attempt_bind (Similar.attempt_lift Similar.log) fun _ => Similar.attempt_pure _
  · exact Similar.attempt_pure _

theorem similar_openSubFlow (h : set.Similar set') (s : Step) :
    Act.Similar (openSubFlow set s).attempt (openSubFlow set' s).attempt := by
  unfold openSubFlow
  refine Similar.attempt_bind (similar_load h _ _) fun text => ?_
  refine Similar.attempt_bind (similar_readDefinition _ _ _) fun definition => ?_
  refine Similar.attempt_bind (Similar.attempt_lift Similar.log) fun _ => ?_
  rcases definition with _ | workflow
  · exact Similar.attempt_bind (Similar.attempt_lift Similar.log) fun _ => Similar.attempt_pure _
  · exact Similar.attempt_pure _

theorem similar_openLoop (h : set.Similar set') (s : Step) :
    Act.Similar (openLoop set s).attempt (openLoop set' s).attempt := by
  unfold openLoop
  refine Similar.attempt_get_bind fun w v hwv => ?_
  rw [← hwv.scope]
  refine Similar.attempt_bind (Similar.attempt_ofExcept _) (fun source => ?_) w v hwv
  rcases source with message | x
  · exact Similar.attempt_pure _
  · refine Similar.attempt_bind (similar_load h _ _) fun text => ?_
    refine Similar.attempt_bind (similar_readDefinition _ _ _) fun definition => ?_
    refine Similar.attempt_bind (Similar.attempt_ofEval _) fun items => ?_
    refine Similar.attempt_bind (Similar.attempt_lift Similar.log) fun _ => ?_
    rcases definition with _ | workflow
    · exact Similar.attempt_bind (Similar.attempt_lift Similar.log) fun _ => Similar.attempt_pure _
    · exact Similar.attempt_pure _

theorem similar_openKind (h : set.Similar set') (s : Step) :
    Act.Similar (openKind set s).attempt (openKind set' s).attempt := by
  unfold openKind
  rcases s.kind
  · exact Similar.attempt_map (similar_ruleStep h s) _
  · exact Similar.attempt_map (similar_validationStep h s) _
  · exact similar_openSubFlow h s
  · exact similar_openLoop h s

theorem similar_passes (s : Step) : Act.Similar (passes s).attempt (passes s).attempt := by
  unfold passes
  split
  · exact Similar.holds s.condition
  · exact Similar.attempt_pure _

theorem similar_openStep (h : set.Similar set') (s : Step) :
    Act.Similar (openStep set s).attempt (openStep set' s).attempt := by
  unfold openStep
  refine Similar.attempt_bind (similar_passes s) fun go => ?_
  cases go
  · exact Similar.attempt_bind (Similar.attempt_lift Similar.log) fun _ => Similar.attempt_pure _
  · refine Similar.attempt_bind (Similar.attempt_lift Similar.moveLogger) fun _ => ?_
    exact Similar.attempt_bind (Similar.attempt_lift Similar.log) fun _ => similar_openKind h s

/-! ### Scopes -/

/-- Similar ways to run a workflow one level deeper, or none on either side. -/
def Deeper.Similar : Deeper → Deeper → Prop
  | none, none => True
  | some run, some run' => ∀ c, Act.Similar (run c) (run' c)
  | _, _ => False

theorem similar_nested {α : Type} {deeper deeper' : Deeper} (h : Deeper.Similar deeper deeper') (reference : String)
    {body body' : (Workflow → Act Outcome) → Act α}
    (hbody : ∀ run run', (∀ c, Act.Similar (run c) (run' c)) → Act.Similar (body run) (body' run')) :
    Act.Similar (nested deeper reference body).attempt (nested deeper' reference body').attempt := by
  rcases deeper with _ | run <;> rcases deeper' with _ | run'
  · exact Similar.attempt_throw _
  · exact h.elim
  · exact h.elim
  · refine Similar.attempt_bind (Similar.attempt_lift (Similar.record rfl rfl)) fun _ => ?_
    refine Similar.attempt_bind (Similar.attempt_lift (hbody run run' h)) fun a => ?_
    exact Similar.attempt_bind (Similar.attempt_lift (Similar.record rfl rfl)) fun _ => Similar.attempt_pure _

theorem similar_inChild {α : Type} {body body' : Act α} (h : Act.Similar body body') (item : Value) :
    Act.Similar (inChild item body) (inChild item body') := by
  intro w v hwv
  rw [inChild_run, inChild_run]
  obtain ⟨ha, hu⟩ := h _ _ (hwv.intoItem item)
  exact ⟨ha, hu.outOfItem hwv.scope⟩

theorem halted_iff (h : set.heedsCancel = set'.heedsCancel) {w v : World} (hwv : Alike w v) :
    Halted set w ↔ Halted set' v := by
  unfold Halted
  rw [h, hwv.scope]

theorem similar_runItems (h : set.heedsCancel = set'.heedsCancel) {run run' : Workflow → Act Outcome}
    (hrun : ∀ c, Act.Similar (run c) (run' c)) (c : Workflow) (label : String) (items : List Value) (k : Nat) :
    Act.Similar (runItems set run c label k items) (runItems set' run' c label k items) := by
  induction items generalizing k with
  | nil => exact Similar.pure _
  | cons item items ih =>
    intro w v hwv
    by_cases hh : Halted set w
    · rw [runItems_halted hh, runItems_halted ((halted_iff h hwv).1 hh)]
      exact ⟨rfl, hwv.record rfl rfl⟩
    · rw [runItems_cons hh, runItems_cons fun hh' => hh ((halted_iff h hwv).2 hh')]
      obtain ⟨ho, hu⟩ := similar_inChild (hrun c) item w v hwv
      dsimp only
      rw [ho]
      split
      · exact ih (k + 1) _ _ hu
      · exact ⟨rfl, hu.record rfl rfl⟩

theorem similar_proceed (h : set.heedsCancel = set'.heedsCancel) {deeper deeper' : Deeper}
    (hd : Deeper.Similar deeper deeper') (s : Step) (o : Opening) :
    Act.Similar (proceed set deeper s o).attempt (proceed set' deeper' s o).attempt := by
  rcases o with outcome | c | ⟨c, items⟩
  · exact Similar.attempt_pure _
  · refine Similar.attempt_bind (similar_nested hd _ fun run run' hrun => hrun c) fun outcome => ?_
    dsimp only
    split
    · refine Similar.attempt_bind (Similar.attempt_lift Similar.log) fun _ => ?_
      exact Similar.attempt_bind (Similar.attempt_lift Similar.log) fun _ => Similar.attempt_pure _
    · exact Similar.attempt_bind (Similar.attempt_lift Similar.log) fun _ => Similar.attempt_pure _
  · refine Similar.attempt_bind
      (similar_nested hd _ fun run run' hrun => similar_runItems h hrun c s.displayName items 0) fun outcome => ?_
    exact Similar.attempt_bind (Similar.attempt_lift Similar.log) fun _ => Similar.attempt_pure _

theorem similar_runStep (h : set.Similar set') {deeper deeper' : Deeper} (hd : Deeper.Similar deeper deeper')
    (s : Step) : Act.Similar (runStep set deeper s) (runStep set' deeper' s) := by
  have hstep : Act.Similar (doStep set deeper s).attempt (doStep set' deeper' s).attempt :=
    Similar.attempt_bind (similar_openStep h s) fun o => similar_proceed h.heedsCancel hd s o
  refine Similar.bind hstep fun r => ?_
  rcases r with f | outcome
  · exact Similar.bind Similar.logTraced fun _ => Similar.pure _
  · exact Similar.pure _

/-- The name under which steps run shows in the log only. -/
theorem similar_runSteps (h : set.Similar set') {deeper deeper' : Deeper} (hd : Deeper.Similar deeper deeper')
    (name name' : String) (steps : List Step) :
    Act.Similar (runSteps set deeper name steps) (runSteps set' deeper' name' steps) := by
  induction steps with
  | nil => exact Similar.pure _
  | cons s rest ih =>
    intro w v hwv
    by_cases hh : Halted set w
    · rw [runSteps_halted hh, runSteps_halted ((halted_iff h.heedsCancel hwv).1 hh)]
      exact ⟨rfl, hwv.record rfl rfl⟩
    · rw [runSteps_cons hh, runSteps_cons fun hh' => hh ((halted_iff h.heedsCancel hwv).2 hh')]
      obtain ⟨ho, hu⟩ := similar_runStep h hd s w v hwv
      dsimp only
      rw [ho]
      split
      · exact ih _ _ hu
      · exact ⟨ho, hu⟩

theorem similar_runScope (h : set.Similar set') {deeper deeper' : Deeper} (hd : Deeper.Similar deeper deeper')
    (c : Workflow) : Act.Similar (runScope set deeper c) (runScope set' deeper' c) := by
  intro w v hwv
  rw [runScope_run, runScope_run]
  obtain ⟨ho, hu⟩ := similar_runSteps h hd c.name c.name c.steps _ _ (hwv.begun c.name c.name)
  exact ⟨ho, hu.ended ..⟩

theorem similar_scopeAt (h : set.Similar set') (levels : Nat) (c : Workflow) :
    Act.Similar (scopeAt set levels c) (scopeAt set' levels c) := by
  induction levels generalizing c with
  | zero =>
    have hd : Deeper.Similar none none := trivial
    exact similar_runScope h hd c
  | succ levels ih =>
    have hd : Deeper.Similar (some (scopeAt set levels)) (some (scopeAt set' levels)) := ih
    exact similar_runScope h hd c

/-! ### Runs -/

theorem similar_rejected (f : Fault) : Act.Similar (rejected f) (rejected f) := by
  intro w v hwv
  show ({ Outcome.failure f.message with flow := w.toScope.flow, output := w.toScope.state } : RunResult) =
    { Outcome.failure f.message with flow := v.toScope.flow, output := v.toScope.state } ∧ Alike w v
  rw [hwv.scope]
  exact ⟨rfl, hwv⟩

theorem similar_runWorkflow (h : set.Similar set') (c : Workflow) :
    Act.Similar (runWorkflow set c) (runWorkflow set' c) := by
  intro w v hwv
  obtain ⟨ho, hu⟩ := similar_scopeAt h maxNesting c w v hwv
  rw [runWorkflow_run, runWorkflow_run]
  dsimp only
  rw [ho, hu.scope]
  exact ⟨rfl, hu⟩

theorem similar_runDefinition (h : set.Similar set') (text : String) :
    Act.Similar (runDefinition set text) (runDefinition set' text) := by
  refine Similar.bind (similar_readDefinition set set' text) fun r => ?_
  rcases r with f | _ | c
  · dsimp only
    split
    · exact Similar.bind Similar.log fun _ => similar_rejected f
    · exact Similar.bind Similar.logTraced fun _ => similar_rejected f
  · exact Similar.pure _
  · exact similar_runWorkflow h c

theorem similar_runNamed (h : set.Similar set') (name : String) :
    Act.Similar (runNamed set name) (runNamed set' name) := by
  refine Similar.bind (similar_load h name "Workflow") fun r => ?_
  rcases r with f | text
  · dsimp only
    split
    · exact Similar.bind Similar.log fun _ => similar_rejected f
    · exact Similar.bind Similar.logTraced fun _ => similar_rejected f
  · exact similar_runDefinition h text

theorem similar_runRule (h : set.Similar set') (key : Option String) (values : Value) :
    Act.Similar (runRule set key values).attempt (runRule set' key values).attempt := by
  unfold runRule
  refine Similar.attempt_bind (similar_findRule h key) fun found => ?_
  rcases found with _ | rule
  · exact Similar.attempt_throw _
  · refine Similar.attempt_bind (Similar.attempt_tried (similar_call h.reentry _ _ _ _)) fun r => ?_
    rcases r with f | _
    · exact Similar.attempt_throw _
    · exact Similar.attempt_pure _

theorem similar_reentry (services : Services) (n : Nat) : (reentry services n).Similar (reentry services n) := by
  -- a handler's run may start one more, each with a smaller number of runs inside it
  induction n with
  | zero => exact ⟨fun _ _ => Similar.attempt_throw _, fun _ => similar_rejected _⟩
  | succ n ih =>
    have hset : Setting.Similar ⟨services, reentry services n, true, false⟩
        ⟨services, reentry services n, true, false⟩ :=
      ⟨rfl, rfl, ih⟩
    exact ⟨fun key values => similar_runRule hset (some key) values, fun name => similar_runNamed hset name⟩

/-- Whether definitions are kept makes no difference to what handlers can see. -/
theorem similar_setting (services : Services) (keeps keeps' heedsCancel : Bool) :
    (setting services keeps heedsCancel).Similar (setting services keeps' heedsCancel) :=
  ⟨rfl, rfl, similar_reentry services maxReentry⟩

end Run
end FlowRules
