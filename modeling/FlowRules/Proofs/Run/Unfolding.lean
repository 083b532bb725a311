import FlowRules.Proofs.Run.Telling

/-!
# What runs unfold into

Main statement: the log of a run tells of just the spans that the run opens and closes, and leaves the logger in the
workflow in which the run has begun (`Run.unfolds_task`).  So do the runs that handlers start, also inside one another
(`Run.tells_reentry`).  A step is told of step by step (`Run.unfolds_runStep`): its own part, which may open a level, and
then what is done in that level.
-/

namespace FlowRules.Run

open Act (IsMurmur)
open World (Unfolds UnfoldsAtStep Murmurs Opens)

/-! ### What handlers start -/

/-- The runs that handlers start unfold as is told. -/
structure Tells (re : Reentry) (inner : Unfolding) : Prop where
  runRule (key : String) (values : Value) : Act.Unfolds (re.runRule key values).attempt (inner.runRule key values)
  runWorkflow (name : String) : Act.Unfolds (re.runWorkflow name) (inner.runWorkflow name)

section

variable {re : Reentry} {inner : Unfolding} (h : Tells re inner)

include h

theorem unfolds_answer (r : Request) : Act.Unfolds (answer re r) (answerSpans inner r) := by
  cases r with
  | look => exact fun w => UnfoldsAtStep.of_eq rfl rfl
  | setFlow x => exact fun w => UnfoldsAtStep.of_eq rfl rfl
  | setState state => exact fun w => UnfoldsAtStep.of_eq rfl rfl
  | change x =>
    intro w
    show UnfoldsAtStep w .nil (w.change x)
    unfold World.change
    split <;> exact UnfoldsAtStep.of_eq rfl rfl
  | cancel => exact fun w => UnfoldsAtStep.of_eq rfl rfl
  | holds c => exact fun w => (IsMurmur.holds c w).atStep
  | runRule key values => exact h.runRule key values
  | runWorkflow name => exact h.runWorkflow name

theorem unfolds_perform {α : Type} (script : Script α) :
    Act.Unfolds (perform re script).attempt (performSpans re inner script) := by
  induction script with
  | done a => exact fun w => UnfoldsAtStep.of_eq rfl rfl
  | fail f => exact fun w => UnfoldsAtStep.of_eq rfl rfl
  | ask r next ih =>
    intro w
    have hanswer := unfolds_answer h r w
    exact hanswer.trans (ih _ _)

theorem unfolds_call {α : Type} (role : Role) (key : Option String) (handler : Handler α) (values : Value) :
    Act.Unfolds (call re role key handler values).attempt (callSpans re inner role key handler values) := by
  intro w
  rw [call_run]
  have hcalled : Murmurs w (w.record (.called role key w.toScope)) := Murmurs.record w rfl
  have hperform := unfolds_perform h (handler.call values) (w.record (.called role key w.toScope))
  exact (hcalled.then hperform).murmurs (Murmurs.record _ rfl)

end

/-! ### What steps do by themselves -/

variable {set : Setting} {inner : Unfolding} {s : Step} {w v : World}

section

variable (h : Tells set.reentry inner)

include h

theorem unfolds_ruleStep (s : Step) :
    Act.Unfolds (ruleStep set s).attempt (ruleSpans set inner s.implementationKey .null) := by
  intro w
  unfold ruleStep ruleSpans
  have hfind := murmurs_findRule set s.implementationKey w
  rw [attempt_bind]
  rcases hr : (findRule set s.implementationKey).attempt.run w with ⟨f | _ | rule, v⟩ <;> rw [hr] at hfind
  · exact hfind.atStep
  · exact hfind.atStep
  · have hcall := unfolds_call h .rule s.implementationKey rule .null
    exact hfind.then (hcall.attempt_bind (fun _ => IsMurmur.attempt_pure _) v)

/-- Running a rule outside of any workflow. -/
theorem unfolds_runRule (key : Option String) (values : Value) :
    Act.Unfolds (runRule set key values).attempt (ruleSpans set inner key values) := by
  intro w
  unfold runRule ruleSpans
  have hfind := murmurs_findRule set key w
  rw [attempt_bind]
  rcases hr : (findRule set key).attempt.run w with ⟨f | _ | rule, v⟩ <;> rw [hr] at hfind
  · exact hfind.atStep
  · exact hfind.atStep
  · have hcall := unfolds_call h .rule key rule values
    refine hfind.then (hcall.attempt_tried.attempt_bind (fun r => ?_) v)
    rcases r with f | _
    · exact IsMurmur.attempt_throw _
    · exact IsMurmur.attempt_pure _

omit h in
/-- A declarative validation opens and closes nothing: a remark on it is a warning or an error. -/
theorem murmurs_verdict {s : Step} (hs : s.mode = .simple) : IsMurmur (verdict set s).attempt := by
  unfold verdict
  rw [hs]
  refine IsMurmur.attempt_bind IsMurmur.attempt_get fun w => ?_
  refine IsMurmur.attempt_bind (IsMurmur.attempt_ofEval _) fun judgement => ?_
  rcases judgement.remark with _ | remark
  · exact IsMurmur.attempt_pure _
  · refine IsMurmur.attempt_bind (IsMurmur.attempt_record ?_) fun _ => IsMurmur.attempt_pure _
    cases remark <;> exact Event.brackets_logged_of_ne fun hlevel => LogLevel.noConfusion hlevel

theorem unfolds_verdict (s : Step) : Act.Unfolds (verdict set s).attempt (verdictSpans set inner s) := by
  intro w
  rcases hs : s.mode
  · rw [verdictSpans, hs]
    exact (murmurs_verdict hs w).atStep
  · unfold verdict verdictSpans validationSpans
    rw [hs]
    dsimp only
    have hfind := murmurs_findValidation set s.implementationKey w
    rw [attempt_bind]
    rcases hr : (findValidation set s.implementationKey).attempt.run w with ⟨f | _ | validation, v⟩ <;> rw [hr] at hfind
    · exact hfind.atStep
    · exact hfind.atStep
    · have hcall := unfolds_call h .validation s.implementationKey validation .null
      exact hfind.then (hcall.attempt_bind (fun _ => IsMurmur.attempt_pure _) v)

theorem unfolds_validationStep (s : Step) : Act.Unfolds (validationStep set s).attempt (verdictSpans set inner s) := by
  refine (unfolds_verdict h s).attempt_bind fun passed => ?_
  cases passed
  · exact IsMurmur.attempt_bind (fun w => Murmurs.logged w (by decide) _) fun _ => IsMurmur.attempt_pure _
  · exact IsMurmur.attempt_pure _

end

/-- A sub-flow that does not fail is entered, and left at once where there is no workflow to run. -/
theorem openSubFlow_cases {r : Except Fault Opening} (h : (openSubFlow set s).attempt.run w = (r, v)) :
    (∃ f, r = .error f ∧ Murmurs w v) ∨ ∃ u, Murmurs w u ∧
      (r = .ok (.done {}) ∧ v = (u.logged .info s.subFlowLevel.opening).logged .info s.subFlowLevel.closing ∨
        ∃ c, r = .ok (.inPlace c) ∧ v = u.logged .info s.subFlowLevel.opening) := by
  unfold openSubFlow at h
  have hload := murmurs_load set s.reference "SubFlow" w
  rw [attempt_bind] at h
  rcases hl : (load set s.reference "SubFlow").attempt.run w with ⟨f | text, u⟩ <;> rw [hl] at h hload
  · cases h
    exact Or.inl ⟨f, rfl, hload⟩
  · have hread := murmurs_readDefinition set text u
    dsimp only at h
    rw [attempt_bind] at h
    rcases hr : (readDefinition set text).attempt.run u with ⟨f | _ | c, z⟩ <;> rw [hr] at h hread
    · cases h
      exact Or.inl ⟨f, rfl, hload.trans hread⟩
    · cases h
      exact Or.inr ⟨z, hload.trans hread, Or.inl ⟨rfl, rfl⟩⟩
    · cases h
      exact Or.inr ⟨z, hload.trans hread, Or.inr ⟨c, rfl, rfl⟩⟩

theorem load_cursors (set : Setting) (name role : String) (w : World) :
    ((load set name role).attempt.run w).2.cursors = w.cursors := by
  unfold load
  rcases set.services.repository with _ | repository
  · rfl
  · simp only [attempt_bind, attempt_lift, attempt_ofExcept]
    rcases repository.find name with f | _ | text
    · rfl
    · rcases repository.missingNote name <;> rfl
    · dsimp only
      split <;> rfl

theorem readDefinition_cursors (set : Setting) (text : String) (w : World) :
    ((readDefinition set text).attempt.run w).2.cursors = w.cursors := by
  unfold readDefinition
  split
  · rw [attempt_bind, attempt_get]
    dsimp only
    rcases w.definitions.read text with ⟨_ | found, cache⟩ <;> rfl
  · rw [attempt_ofExcept]

/-- A loop that does not fail is started with the number of its items, and ended at once where there is no workflow to
run. -/
theorem openLoop_cases {r : Except Fault Opening} (h : (openLoop set s).attempt.run w = (r, v)) :
    (∃ f, r = .error f ∧ Murmurs w v) ∨ (∃ message, r = .ok (.done (.failure message)) ∧ v = w) ∨
      ∃ u, Murmurs w u ∧
        (r = .ok (.done {}) ∧
            v = (u.logged .info (s.loopLevel (loopCount s w)).opening).logged .info (s.loopLevel (loopCount s w)).closing ∨
          ∃ c items, r = .ok (.onEach c items) ∧ v = u.logged .info (s.loopLevel items.length).opening) := by
  unfold openLoop at h
  rw [attempt_bind, attempt_get] at h
  dsimp only at h
  rw [attempt_bind, attempt_ofExcept] at h
  rcases hsource : loopSource w.flow (s.collectionProperty.getD "") with f | message | x <;> rw [hsource] at h
  · cases h
    exact Or.inl ⟨f, rfl, Murmurs.refl w⟩
  · cases h
    exact Or.inr (Or.inl ⟨message, rfl, rfl⟩)
  · have hload := murmurs_load set s.reference "SubFlow" w
    have hloadc := load_cursors set s.reference "SubFlow" w
    dsimp only at h
    rw [attempt_bind] at h
    rcases hl : (load set s.reference "SubFlow").attempt.run w with ⟨f | text, u⟩ <;> rw [hl] at h hload hloadc
    · cases h
      exact Or.inl ⟨f, rfl, hload⟩
    · have hread := murmurs_readDefinition set text u
      have hreadc := readDefinition_cursors set text u
      dsimp only at h
      rw [attempt_bind] at h
      rcases hr : (readDefinition set text).attempt.run u with ⟨f | definition, z⟩ <;> rw [hr] at h hread hreadc
      · cases h
        exact Or.inl ⟨f, rfl, hload.trans hread⟩
      · have hz : z.cursors = w.cursors := hreadc.trans hloadc
        have hmurmurs : Murmurs w { z with cursors := ((Eval.allItems? x).run z.cursors).2 } :=
          (hload.trans hread).trans (Murmurs.of_eq rfl rfl)
        dsimp only at h
        rw [attempt_bind, attempt_ofEval] at h
        rcases hi : ((Eval.allItems? x).run z.cursors).1 with f | items <;> rw [hi] at h
        · cases h
          exact Or.inl ⟨f, rfl, hmurmurs⟩
        · have hcount : loopCount s w = (items.getD []).length := by
            unfold loopCount
            rw [hsource]
            dsimp only
            rw [← hz, hi]
          refine Or.inr (Or.inr ⟨_, hmurmurs, ?_⟩)
          rcases definition with _ | c
          · cases h
            rw [hcount]
            exact Or.inl ⟨rfl, rfl⟩
          · cases h
            exact Or.inr ⟨c, _, rfl, rfl⟩

/-! ### Steps -/

/-- What a step has told once it has done its own part: if it has come to a workflow, that a level is opened. -/
theorem unfolds_openKind (h : Tells set.reentry inner) (s : Step) (w : World) :
    match (openKind set s).attempt.run w with
    | (.ok (.inPlace _), v) => w.Opens s.subFlowLevel v
    | (.ok (.onEach _ items), v) => w.Opens (s.loopLevel items.length) v
    | (_, v) => w.Unfolds (kindSpans set inner s w) v := by
  unfold openKind kindSpans
  rcases s.kind with _ | _ | _ | _
  · have hrule := (unfolds_ruleStep h s w).unfolds
    dsimp only
    rw [attempt_map]
    rcases hr : (ruleStep set s).attempt.run w with ⟨f | o, v⟩ <;> rw [hr] at hrule <;> exact hrule
  · have hvalidation := (unfolds_validationStep h s w).unfolds
    dsimp only
    rw [attempt_map]
    rcases hr : (validationStep set s).attempt.run w with ⟨f | o, v⟩ <;> rw [hr] at hvalidation <;> exact hvalidation
  · dsimp only
    rcases ho : (openSubFlow set s).attempt.run w with ⟨r, v⟩
    obtain ⟨f, rfl, hv⟩ | ⟨u, hu, ⟨rfl, rfl⟩ | ⟨c, rfl, rfl⟩⟩ := openSubFlow_cases ho
    · exact hv.unfolds
    · exact Opens.close ⟨u, hu.unfolds, rfl⟩ (Unfolds.refl _)
    · exact ⟨u, hu.unfolds, rfl⟩
  · dsimp only
    rcases ho : (openLoop set s).attempt.run w with ⟨r, v⟩
    obtain ⟨f, rfl, hv⟩ | ⟨message, rfl, rfl⟩ | ⟨u, hu, ⟨rfl, rfl⟩ | ⟨c, items, rfl, rfl⟩⟩ := openLoop_cases ho
    · exact hv.unfolds
    · exact Unfolds.refl _
    · exact Opens.close ⟨u, hu.unfolds, rfl⟩ (Unfolds.refl _)
    · exact ⟨u, hu.unfolds, rfl⟩

/-- Beginning a step moves the logger within its scope. -/
theorem unfolds_atStep (w : World) (s : Step) : w.Unfolds .nil (w.atStep s) :=
  ⟨⟨[.logged _], rfl, .of_murmur (Event.brackets_logged_of_ne (show LogLevel.debug ≠ .info by decide))⟩, rfl⟩

theorem unfolds_openStep (h : Tells set.reentry inner) (s : Step) (w : World) :
    match (openStep set s).attempt.run w with
    | (.ok (.inPlace _), v) => w.Opens s.subFlowLevel v
    | (.ok (.onEach _ items), v) => w.Opens (s.loopLevel items.length) v
    | (_, v) => w.Unfolds (ownSpans set inner s w) v := by
  have hpasses := murmurs_passes s w
  unfold ownSpans
  rw [openStep_run]
  rcases hp : (passes s).attempt.run w with ⟨f | _ | _, v⟩ <;> rw [hp] at hpasses
  · exact hpasses.unfolds
  · exact (hpasses.trans (Murmurs.logged v (by decide) _)).unfolds
  · have hbegun : w.Unfolds .nil (v.atStep s) := hpasses.unfolds.trans (unfolds_atStep v s)
    have hkind := unfolds_openKind h s (v.atStep s)
    dsimp only
    rcases ho : (openKind set s).attempt.run (v.atStep s) with ⟨f | outcome | c | ⟨c, items⟩, u⟩ <;> rw [ho] at hkind
    · exact hbegun.trans hkind
    · exact hbegun.trans hkind
    · exact hbegun.opens hkind
    · exact hbegun.opens hkind

/-! ### Runs -/

/-- What is told where cancellation stops a scope or a loop is no bracket. -/
theorem murmurs_cancellation {message : String} (h : message.toList.head? = some 'C') (w : World) :
    Murmurs w (w.logged .info message) :=
  Murmurs.record w (Event.brackets_logged_of_not (LogMessage.isBracket_of_head h (by decide) (by decide)))

section

variable {deeper : Deeper} {spans : Workflow → World → Spans} {run : Workflow → Act Outcome} {c : Workflow}

theorem unfolds_inChild {α : Type} {body : Act α} {f : World → Spans} (hbody : Act.Unfolds body f) (item : Value) :
    Act.Unfolds (inChild item body) fun w => f (w.intoItem item) := by
  intro w
  rw [inChild_run]
  have hinto : Murmurs w (w.intoItem item) := Murmurs.of_eq rfl rfl
  have hbody := hbody (w.intoItem item)
  exact (hinto.then hbody).murmurs (Murmurs.of_eq rfl rfl)

theorem unfolds_runItems (hrun : Act.Unfolds (run c) (spans c)) (label : String) (k : Nat) (items : List Value) :
    Act.Unfolds (runItems set run c label k items) (itemsSpans set run spans c items) := by
  induction items generalizing k with
  | nil => exact fun w => UnfoldsAtStep.of_eq rfl rfl
  | cons item items ih =>
    intro w
    rw [itemsSpans]
    by_cases hh : Halted set w
    · rw [runItems_halted hh, if_pos hh]
      exact (murmurs_cancellation (by simp) w).atStep
    · have hitem := unfolds_inChild hrun item w
      rw [runItems_cons hh, if_neg hh]
      dsimp only
      split
      · exact hitem.trans (ih (k + 1) _)
      · rw [Spans.append_nil]
        exact hitem.murmurs (Murmurs.logged _ (by decide) _)

variable {n : Nat} (h : Tells set.reentry inner)

include h

theorem unfolds_runStep (hscope : ∀ m, n = m + 1 → ∀ c, Act.Unfolds (scopeAt set m c) (spans c)) (s : Step)
    (w : World) : w.Unfolds (stepSpans set inner (below set n) spans s w) ((runStep set (below set n) s).run w).2 := by
  have hopen := unfolds_openStep h s w
  unfold stepSpans
  rcases ho : (openStep set s).attempt.run w with ⟨f | outcome | c | ⟨c, items⟩, v⟩ <;> rw [ho] at hopen
  · rw [runStep_raises ho]
    exact hopen.murmurs (Murmurs.raised v s f)
  · rw [runStep_done ho]
    exact hopen
  · rcases n with _ | m
    · rw [runStep_tooDeep ho nofun]
      exact hopen.refuse s
    · have hbody := (Murmurs.entered v s).then (hscope m rfl c (v.record (.entered s.reference)))
      rw [runStep_inPlace ho]
      exact hopen.leftSubFlow hbody.unfolds _
  · rcases n with _ | m
    · rw [runStep_tooDeep ho nofun]
      exact hopen.refuse s
    · have hitems : Act.Unfolds (runItems set (scopeAt set m) c s.displayName 0 items) _ :=
        unfolds_runItems (hscope m rfl c) s.displayName 0 items
      have hbody := (Murmurs.entered v s).then (hitems (v.record (.entered s.reference)))
      rw [runStep_onEach ho]
      exact hopen.leftLoop hbody.unfolds

theorem unfolds_runSteps (hscope : ∀ m, n = m + 1 → ∀ c, Act.Unfolds (scopeAt set m c) (spans c)) (name : String)
    (steps : List Step) (w : World) :
    w.Unfolds (stepsSpans set inner (below set n) spans steps w) ((runSteps set (below set n) name steps).run w).2 := by
  induction steps generalizing w with
  | nil => exact Unfolds.refl w
  | cons s rest ih =>
    rw [stepsSpans]
    by_cases hh : Halted set w
    · rw [runSteps_halted hh, if_pos hh]
      exact (murmurs_cancellation (by simp) w).unfolds
    · have hstep := unfolds_runStep h hscope s w
      rw [runSteps_cons hh, if_neg hh]
      dsimp only
      split
      · exact hstep.trans (ih _)
      · rwa [Spans.append_nil]

end

/-- A run that is rejected is told of as an error. -/
private theorem rejected_murmurs (w : World) (f : Fault) (message : String) (traced : Bool) :
    Murmurs w ((rejected f).run (w.record (.logged (w.logger.row .error message traced)))).2 :=
  Murmurs.record w (Event.brackets_logged_of_ne (show LogLevel.error ≠ .info by decide))

section

variable (h : Tells set.reentry inner)

include h

theorem unfolds_scopeAt (n : Nat) (c : Workflow) : Act.Unfolds (scopeAt set n c) (scopeSpans set inner n c) := by
  induction n generalizing c with
  | zero =>
    intro w
    have hdeeper : ∀ m, 0 = m + 1 → ∀ c, Act.Unfolds (scopeAt set m c) fun _ => .nil := nofun
    have hsteps := unfolds_runSteps h hdeeper c.name c.steps (w.begun c.name)
    exact hsteps.scope _
  | succ n ih =>
    intro w
    have hdeeper : ∀ m, n + 1 = m + 1 → ∀ c, Act.Unfolds (scopeAt set m c) (scopeSpans set inner n c) := by
      rintro m hm c
      cases hm
      exact ih c
    have hsteps := unfolds_runSteps h hdeeper c.name c.steps (w.begun c.name)
    exact hsteps.scope _

theorem unfolds_runDefinition (text : String) :
    Act.Unfolds (runDefinition set text) (definitionSpans set inner text) := by
  intro w
  have hread := murmurs_readDefinition set text w
  unfold definitionSpans
  rcases hr : (readDefinition set text).attempt.run w with ⟨f | _ | c, v⟩ <;> rw [hr] at hread
  · unfold runDefinition
    rw [Act.run_bind, hr]
    dsimp only
    split
    · exact (hread.trans (rejected_murmurs v f _ false)).atStep
    · exact (hread.trans (rejected_murmurs v f _ true)).atStep
  · rw [runDefinition_none hr]
    exact hread.atStep
  · rw [runDefinition_some hr]
    exact hread.then (unfolds_scopeAt h maxNesting c v)

theorem unfolds_runNamed (name : String) : Act.Unfolds (runNamed set name) (taskSpans set inner (.named name)) := by
  intro w
  have hload := murmurs_load set name "Workflow" w
  rw [taskSpans]
  rcases hl : (load set name "Workflow").attempt.run w with ⟨f | text, v⟩ <;> rw [hl] at hload
  · unfold runNamed
    rw [Act.run_bind, hl]
    dsimp only
    split
    · exact (hload.trans (rejected_murmurs v f _ false)).atStep
    · exact (hload.trans (rejected_murmurs v f _ true)).atStep
  · rw [runNamed_ok hl]
    exact hload.then (unfolds_runDefinition h text v)

/-- The log of a run tells of what the run opens and closes. -/
theorem unfolds_task (t : Task) : Act.Unfolds (task set t) (taskSpans set inner t) := by
  cases t with
  | definition text => exact unfolds_runDefinition h text
  | named name => exact unfolds_runNamed h name

end

/-- So do the runs that handlers start, also inside one another. -/
theorem tells_reentry (services : Services) (more : Nat) : Tells (reentry services more) (reentrySpans services more) := by
  induction more with
  | zero => exact ⟨fun _ _ _ => UnfoldsAtStep.of_eq rfl rfl, fun _ _ => UnfoldsAtStep.of_eq rfl rfl⟩
  | succ more ih => exact ⟨fun key values => unfolds_runRule ih (some key) values, fun name => unfolds_runNamed ih name⟩

end FlowRules.Run
