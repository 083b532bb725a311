import FlowRules.Proofs.Run.Visits
import FlowRules.Proofs.Workflow.Writing

/-!
# How a run fails

Main statement: a run that fails has one error, that of the one step that failed by itself, and nothing is done after
that step (`Run.fail_fast`).  A step that fails by itself ends every scope around it: each passes its error on, a loop
with the place of the item before it, and does no more than report (`Run.runSteps_of_visit`).  Conversely a scope fails
only by a step that is begun in it (`Run.hasFailure_of_runSteps`).
-/

namespace FlowRules

/-- A report of what has been done.  Nothing is done along with it. -/
def Event.isReport : Event → Bool
  | .logged _ | .ended .. | .exited _ => true
  | .called .. | .returned .. | .evaluated .. | .lookedUp _ | .started .. | .entered _ => false

namespace World

/-- From one world to a later one there have been reports only. -/
def OnlyReports (w v : World) : Prop := ∃ reports, v.journal = reports ++ w.journal ∧ ∀ e ∈ reports, e.isReport = true

variable {w v u : World}

theorem OnlyReports.of_journal (h : v.journal = w.journal) : OnlyReports w v := ⟨[], h, nofun⟩

theorem OnlyReports.trans (h : OnlyReports w v) (h' : OnlyReports v u) : OnlyReports w u := by
  obtain ⟨first, hfirst, hf⟩ := h
  obtain ⟨next, hnext, hn⟩ := h'
  refine ⟨next ++ first, by rw [hnext, hfirst, List.append_assoc], ?_⟩
  intro e he
  rcases List.mem_append.1 he with he | he
  · exact hn e he
  · exact hf e he

theorem OnlyReports.record (h : OnlyReports w v) {e : Event} (he : e.isReport = true) :
    OnlyReports w (v.record e) := by
  obtain ⟨reports, hv, hr⟩ := h
  refine ⟨e :: reports, congrArg (e :: ·) hv, ?_⟩
  intro e' he'
  rcases List.mem_cons.1 he' with rfl | he'
  · exact he
  · exact hr e' he'

theorem OnlyReports.logged (h : OnlyReports w v) (level : LogLevel) (message : String) :
    OnlyReports w (v.logged level message) := h.record rfl

theorem OnlyReports.ended (h : OnlyReports w v) (name : String) (b : Bool) (previous : Option String) :
    OnlyReports w (v.ended name b previous) :=
  (OnlyReports.record (v := { v with logger := v.logger.inScope name }) h rfl).record rfl

end World

/-- An error of a step as the whole run has it: for each loop around the step, the place of the item comes before. -/
def Visit.report (x : Visit) (message : String) : String :=
  x.loops.foldr (fun l m => "Failure in loop '" ++ l.1 ++ "' at index " ++ toString l.2 ++ ": " ++ m) message

namespace Run

open World (OnlyReports)

/-- A step that begins in a world fails by itself, with a message, and leaves a world behind. -/
inductive FailsItself (set : Setting) (levels : Nat) (s : Step) (w : World) : String → World → Prop where
  /-- Something is raised. -/
  | raised {f : Fault} {u : World} (h : (doStep set (below set levels) s).attempt.run w = (.error f, u)) :
    FailsItself set levels s w f.message
      ((Act.logTraced ("Error in " ++ s.displayName ++ ": " ++ f.message)).run u).2
  /-- A validation does not hold. -/
  | invalid {v u : World} (hk : s.kind = .validation) (hp : (passes s).attempt.run w = (.ok true, v))
    (h : (verdict set s).attempt.run (v.atStep s) = (.ok false, u)) :
    FailsItself set levels s w (validationError s)
      (u.logged .warning (LogMessage.stepFailed s.displayName (validationError s)))
  /-- A loop has no collection. -/
  | unavailable {v : World} {message : String} (hk : s.kind = .forEach)
    (hp : (passes s).attempt.run w = (.ok true, v))
    (h : loopSource v.flow (s.collectionProperty.getD "") = .ok (.unavailable message)) :
    FailsItself set levels s w message (v.atStep s)

variable {set : Setting} {n : Nat} {s : Step} {rest : List Step} {w v u : World} {c : Workflow} {message : String}

theorem openStep_invalid (hk : s.kind = .validation) (hp : (passes s).attempt.run w = (.ok true, v))
    (h : (verdict set s).attempt.run (v.atStep s) = (.ok false, u)) :
    (openStep set s).attempt.run w = (.ok (.done (.failure (validationError s))),
      u.logged .warning (LogMessage.stepFailed s.displayName (validationError s))) := by
  rw [openStep_run, hp]
  simp only [openKind, hk, attempt_map, validationStep, attempt_bind, h]
  rfl

theorem openStep_unavailable (hk : s.kind = .forEach) (hp : (passes s).attempt.run w = (.ok true, v))
    (h : loopSource v.flow (s.collectionProperty.getD "") = .ok (.unavailable message)) :
    (openStep set s).attempt.run w = (.ok (.done (.failure message)), v.atStep s) := by
  have hsource : loopSource (v.atStep s).flow (s.collectionProperty.getD "") = .ok (.unavailable message) := h
  rw [openStep_run, hp]
  simp only [openKind, hk, openLoop_unavailable hsource]

private theorem ruleStep_ok {o : Outcome} (h : (ruleStep set s).attempt.run w = (.ok o, u)) : o = {} := by
  obtain ⟨_ | rule, _, _, h⟩ := attempt_bind_ok.1 h
  · cases h
  · obtain ⟨_, _, _, h⟩ := attempt_bind_ok.1 h
    cases h
    rfl

private theorem validationStep_ok {o : Outcome} (h : (validationStep set s).attempt.run w = (.ok o, u)) :
    o = {} ∨ o = .failure (validationError s) ∧ ∃ v, (verdict set s).attempt.run w = (.ok false, v) ∧
      u = v.logged .warning (LogMessage.stepFailed s.displayName (validationError s)) := by
  obtain ⟨_ | _, v, hv, h⟩ := attempt_bind_ok.1 h
  · cases h
    exact Or.inr ⟨rfl, v, hv, rfl⟩
  · cases h
    exact Or.inl rfl

private theorem openSubFlow_done {o : Outcome} (h : (openSubFlow set s).attempt.run w = (.ok (.done o), u)) :
    o = {} := by
  obtain ⟨_, _, _, h⟩ := attempt_bind_ok.1 h
  obtain ⟨_ | c, _, _, h⟩ := attempt_bind_ok.1 h <;> obtain ⟨_, _, _, h⟩ := attempt_bind_ok.1 h <;> cases h
  rfl

private theorem openLoop_done {o : Outcome} (h : (openLoop set s).attempt.run w = (.ok (.done o), u)) :
    o = {} ∨ ∃ message, o = .failure message ∧ u = w ∧
      loopSource w.flow (s.collectionProperty.getD "") = .ok (.unavailable message) := by
  obtain ⟨_, _, hw, h⟩ := attempt_bind_ok.1 h
  cases hw
  obtain ⟨source, v, hv, h⟩ := attempt_bind_ok.1 h
  rw [attempt_ofExcept] at hv
  obtain ⟨hsource, rfl⟩ := Prod.mk.inj hv
  rcases source with message | x
  · cases h
    exact Or.inr ⟨message, rfl, rfl, hsource⟩
  · left
    obtain ⟨_, _, _, h⟩ := attempt_bind_ok.1 h
    obtain ⟨definition, _, _, h⟩ := attempt_bind_ok.1 h
    obtain ⟨_, _, _, h⟩ := attempt_bind_ok.1 h
    obtain ⟨_, _, _, h⟩ := attempt_bind_ok.1 h
    rcases definition with _ | c <;> cases h
    rfl

/-- What a step does by itself fails where a validation does not hold or a loop has no collection. -/
theorem failsItself_of_done {o : Outcome} (h : (openStep set s).attempt.run w = (.ok (.done o), u))
    (ho : o.succeeded = false) : ∃ message, o = .failure message ∧ FailsItself set n s w message u := by
  have hsucceeded : o ≠ {} := by
    rintro rfl
    cases ho
  rw [openStep_run] at h
  split at h
  · rename_i v hp
    unfold openKind at h
    rcases hk : s.kind <;> rw [hk] at h
    · obtain ⟨o', h, ho'⟩ := attempt_map_ok.1 h
      cases ho'
      exact absurd (ruleStep_ok h) hsucceeded
    · obtain ⟨o', h, ho'⟩ := attempt_map_ok.1 h
      cases ho'
      rcases validationStep_ok h with h | ⟨rfl, v', hv', rfl⟩
      · exact absurd h hsucceeded
      · exact ⟨_, rfl, FailsItself.invalid hk hp hv'⟩
    · exact absurd (openSubFlow_done h) hsucceeded
    · rcases openLoop_done h with h | ⟨message, rfl, rfl, hsource⟩
      · exact absurd h hsucceeded
      · exact ⟨message, rfl, FailsItself.unavailable hk hp hsource⟩
  · cases h
    cases ho
  · cases h

/-- The message of a step that fails by itself is its one error. -/
theorem runStep_failsItself (h : FailsItself set n s w message u) :
    (runStep set (below set n) s).run w = (.failure message, u) := by
  rw [runStep_run]
  cases h with
  | raised h => rw [h]
  | invalid hk hp h =>
    rw [doStep, attempt_bind, openStep_invalid hk hp h]
    rfl
  | unavailable hk hp h =>
    rw [doStep, attempt_bind, openStep_unavailable hk hp h]
    rfl

/-- A step that comes to a workflow below the limit does not fail by itself. -/
theorem FailsItself.done (h : FailsItself set (n + 1) s w message u) {o : Opening}
    (ho : (openStep set s).attempt.run w = (.ok o, v)) : ∃ outcome, o = .done outcome := by
  cases h with
  | raised h =>
    -- a level is left, so a workflow that the step comes to is run, and its outcome is passed on
    rw [doStep, attempt_bind, ho] at h
    rcases o with outcome | c | ⟨c, items⟩
    · exact ⟨outcome, rfl⟩
    · dsimp only [below] at h
      rw [proceed_inPlace_run] at h
      cases h
    · dsimp only [below] at h
      rw [proceed_onEach_run] at h
      cases h
  | invalid hk hp h =>
    rw [openStep_invalid hk hp h] at ho
    cases ho
    exact ⟨_, rfl⟩
  | unavailable hk hp h =>
    rw [openStep_unavailable hk hp h] at ho
    cases ho
    exact ⟨_, rfl⟩

/-! ### The scopes around a failure -/

private theorem scopeAt_failed {o : Outcome}
    (h : (runSteps set (below set n) c.name c.steps).run (w.begun c.name) = (o, u)) :
    ∃ v, (scopeAt set n c).run w = (o, v) ∧ OnlyReports u v :=
  ⟨_, scopeAt_run h, (OnlyReports.of_journal rfl).ended ..⟩

private theorem runStep_inPlace_failed (ho : (openStep set s).attempt.run w = (.ok (.inPlace c), v))
    (h : (runSteps set (below set n) c.name c.steps).run ((v.record (.entered s.reference)).begun c.name) =
      (.failure message, u)) :
    ∃ u', (runStep set (below set (n + 1)) s).run w = (.failure message, u') ∧ OnlyReports u u' := by
  obtain ⟨u', hscope, hu⟩ := scopeAt_failed h
  rw [runStep_inPlace ho, hscope]
  exact ⟨_, rfl, ((hu.record rfl).logged _ _).logged _ _⟩

private theorem runItems_failed {run : Workflow → Act Outcome} {k j : Nat} {items : List Value} (label : String)
    (hi : ItemBegins set (run c) k items w j v) (h : (run c).run v = (.failure message, u)) :
    ∃ u', (runItems set run c label k items).run w = (.failure (loopError label j [message]), u') ∧
      OnlyReports u u' := by
  induction hi with
  | here hh =>
    rw [runItems_cons hh, inChild_run, h]
    exact ⟨_, rfl, (OnlyReports.of_journal rfl).logged _ _⟩
  | later hh ho _ ih =>
    rw [runItems_cons hh]
    dsimp only
    rw [if_pos ho]
    exact ih h

private theorem runStep_onEach_failed {items : List Value} {k : Nat} {x : World}
    (ho : (openStep set s).attempt.run w = (.ok (.onEach c items), v))
    (hi : ItemBegins set (scopeAt set n c) 0 items (v.record (.entered s.reference)) k x)
    (h : (runSteps set (below set n) c.name c.steps).run (x.begun c.name) = (.failure message, u)) :
    ∃ u', (runStep set (below set (n + 1)) s).run w = (.failure (loopError s.displayName k [message]), u') ∧
      OnlyReports u u' := by
  obtain ⟨x', hscope, hx⟩ := scopeAt_failed h
  obtain ⟨u', hitems, hu⟩ := runItems_failed s.displayName hi hscope
  rw [runStep_onEach ho, hitems]
  exact ⟨_, rfl, ((hx.trans hu).record rfl).logged _ _⟩

private theorem runSteps_failed (hh : ¬ Halted set w) {name : String}
    (h : (runStep set (below set n) s).run w = (.failure message, u)) :
    (runSteps set (below set n) name (s :: rest)).run w = (.failure message, u) := by
  rw [runSteps_cons hh, h]
  rfl

/-- A step that fails by itself ends every scope around it: the error is passed on, and no more is done. -/
theorem runSteps_of_visit {steps : List Step} {x : Visit} (hx : Visits set n steps w x)
    (h : FailsItself set x.levels x.step x.world message u) (name : String) :
    ∃ v, (runSteps set (below set n) name steps).run w = (.failure (x.report message), v) ∧ OnlyReports u v := by
  induction hx generalizing name with
  | here hh => exact ⟨u, runSteps_failed hh (runStep_failsItself h), OnlyReports.of_journal rfl⟩
  | later hh ho _ ih =>
    obtain ⟨v, hv, hr⟩ := ih h name
    rw [runSteps_cons hh]
    dsimp only
    rw [if_pos ho]
    exact ⟨v, hv, hr⟩
  | @inPlace _ _ _ _ _ c _ hh ho _ ih =>
    obtain ⟨v, hv, hr⟩ := ih h c.name
    obtain ⟨v', hv', hr'⟩ := runStep_inPlace_failed ho hv
    exact ⟨v', runSteps_failed hh hv', hr.trans hr'⟩
  | @onEach _ _ _ _ _ _ _ c _ _ hh ho hi _ ih =>
    obtain ⟨v, hv, hr⟩ := ih h c.name
    obtain ⟨v', hv', hr'⟩ := runStep_onEach_failed ho hi hv
    exact ⟨v', runSteps_failed hh hv', hr.trans hr'⟩

/-! ### The step behind a failure -/

/-- A step that is begun fails by itself. -/
def HasFailure (set : Setting) (n : Nat) (steps : List Step) (w : World) : Prop :=
  ∃ x message u, Visits set n steps w x ∧ FailsItself set x.levels x.step x.world message u

private theorem exists_item_of_failed {run : Workflow → Act Outcome} {label : String} {k : Nat} {items : List Value}
    (h : ((runItems set run c label k items).run w).1.succeeded = false) :
    ∃ j v, ItemBegins set (run c) k items w j v ∧ ((run c).run v).1.succeeded = false := by
  induction items generalizing k w with
  | nil => cases h
  | cons item items ih =>
    by_cases hh : Halted set w
    · rw [runItems_halted hh] at h
      cases h
    · rw [runItems_cons hh] at h
      dsimp only at h
      split at h
      · obtain ⟨j, v, hi, hv⟩ := ih h
        exact ⟨j, v, ItemBegins.later hh ‹_› hi, hv⟩
      · exact ⟨k, _, ItemBegins.here hh, Bool.eq_false_iff.2 ‹_›⟩

private theorem hasFailure_of_runStep (hh : ¬ Halted set w)
    (hscope : ∀ m, n = m + 1 → ∀ c u, ((scopeAt set m c).run u).1.succeeded = false →
      HasFailure set m c.steps (u.begun c.name))
    (h : ((runStep set (below set n) s).run w).1.succeeded = false) : HasFailure set n (s :: rest) w := by
  have hhere {message : String} {u : World} (hf : FailsItself set n s w message u) : HasFailure set n (s :: rest) w :=
    ⟨_, message, u, Visits.here hh, hf⟩
  rcases hdo : (doStep set (below set n) s).attempt.run w with ⟨f | outcome, u⟩
  · exact hhere (FailsItself.raised hdo)
  · rw [runStep_run, hdo] at h
    obtain ⟨o, v, ho, hproceed⟩ := attempt_bind_ok.1 hdo
    rcases o with o | c | ⟨c, items⟩
    · cases hproceed
      obtain ⟨message, _, hf⟩ := failsItself_of_done ho h
      exact hhere hf
    · rcases n with _ | m
      · cases hproceed
      · dsimp only [below] at hproceed
        rw [proceed_inPlace_run] at hproceed
        cases hproceed
        obtain ⟨x, message, u, hx, hf⟩ := hscope m rfl c _ h
        exact ⟨x, message, u, Visits.inPlace hh ho hx, hf⟩
    · rcases n with _ | m
      · cases hproceed
      · dsimp only [below] at hproceed
        rw [proceed_onEach_run] at hproceed
        cases hproceed
        obtain ⟨k, v', hi, hv'⟩ := exists_item_of_failed h
        obtain ⟨x, message, u, hx, hf⟩ := hscope m rfl c _ hv'
        exact ⟨_, message, u, Visits.onEach hh ho hi hx, hf⟩

/-- Steps fail only where one that is begun fails by itself. -/
theorem hasFailure_of_runSteps {steps : List Step} {name : String}
    (h : ((runSteps set (below set n) name steps).run w).1.succeeded = false) : HasFailure set n steps w := by
  -- the scopes that these steps open have fewer levels left, and the later steps as many
  induction n using Nat.strongRecOn generalizing name steps w with
  | ind n ihn =>
    have hscope : ∀ m, n = m + 1 → ∀ c u, ((scopeAt set m c).run u).1.succeeded = false →
        HasFailure set m c.steps (u.begun c.name) := by
      intro m hm c u hu
      rw [scopeAt_eq, runScope_run] at hu
      exact ihn m (by omega) hu
    induction steps generalizing w with
    | nil => cases h
    | cons s rest ih =>
      by_cases hh : Halted set w
      · rw [runSteps_halted hh] at h
        cases h
      · rw [runSteps_cons hh] at h
        dsimp only at h
        split at h
        · obtain ⟨x, message, u, hx, hf⟩ := ih h
          exact ⟨x, message, u, Visits.later hh ‹_› hx, hf⟩
        · exact hasFailure_of_runStep hh hscope (Bool.eq_false_iff.2 ‹_›)

/-- A scope that fails has one error. -/
theorem scopeAt_single_error (h : ((scopeAt set n c).run w).1.succeeded = false) :
    ∃ message, ((scopeAt set n c).run w).1 = .failure message := by
  rw [scopeAt_eq, runScope_run] at h ⊢
  obtain ⟨x, message, u, hx, hf⟩ := hasFailure_of_runSteps h
  obtain ⟨v, hv, -⟩ := runSteps_of_visit hx hf c.name
  exact ⟨_, congrArg Prod.fst hv⟩

/-! ### There is only one -/

private theorem item_unique {body : Act Outcome} {k j j' : Nat} {items : List Value} {v' : World}
    (hi : ItemBegins set body k items w j v) (hv : (body.run v).1.succeeded = false)
    (hi' : ItemBegins set body k items w j' v') (hv' : (body.run v').1.succeeded = false) : j = j' ∧ v = v' := by
  induction hi with
  | here hh =>
    cases hi' with
    | here => exact ⟨rfl, rfl⟩
    | later _ ho =>
      rw [inChild_run] at ho
      exact absurd ho (Bool.eq_false_iff.1 hv)
  | later hh ho _ ih =>
    cases hi' with
    | here =>
      rw [inChild_run] at ho
      exact absurd ho (Bool.eq_false_iff.1 hv')
    | later _ _ hi' => exact ih hv hi'

private theorem runStep_fails_inPlace {x : Visit} (ho : (openStep set s).attempt.run w = (.ok (.inPlace c), v))
    (hx : Visits set n c.steps ((v.record (.entered s.reference)).begun c.name) x)
    (hf : FailsItself set x.levels x.step x.world message u) :
    ((runStep set (below set (n + 1)) s).run w).1.succeeded = false := by
  obtain ⟨v', hv', -⟩ := runSteps_of_visit hx hf c.name
  obtain ⟨u', hu', -⟩ := runStep_inPlace_failed ho hv'
  rw [hu']
  rfl

private theorem runStep_fails_onEach {x : Visit} {items : List Value} {k : Nat} {z : World}
    (ho : (openStep set s).attempt.run w = (.ok (.onEach c items), v))
    (hi : ItemBegins set (scopeAt set n c) 0 items (v.record (.entered s.reference)) k z)
    (hx : Visits set n c.steps (z.begun c.name) x) (hf : FailsItself set x.levels x.step x.world message u) :
    ((scopeAt set n c).run z).1.succeeded = false ∧
      ((runStep set (below set (n + 1)) s).run w).1.succeeded = false := by
  obtain ⟨v', hv', -⟩ := runSteps_of_visit hx hf c.name
  obtain ⟨z', hz', -⟩ := scopeAt_failed hv'
  obtain ⟨u', hu', -⟩ := runStep_onEach_failed ho hi hv'
  rw [hz', hu']
  exact ⟨rfl, rfl⟩

/-- No two steps that are begun in a run fail by themselves. -/
theorem failing_visit_unique {steps : List Step} {x y : Visit} {message' : String} {u' : World}
    (hx : Visits set n steps w x) (hf : FailsItself set x.levels x.step x.world message u)
    (hy : Visits set n steps w y) (hg : FailsItself set y.levels y.step y.world message' u') : y = x := by
  -- where the two begin differently, one of them is begun after the other's scope has failed, or inside a workflow
  -- to which the other, failing by itself, has not come
  induction hx generalizing y with
  | here hh =>
    have hfails := congrArg (·.1.succeeded) (runStep_failsItself hf)
    cases hy with
    | here => rfl
    | later _ ho => exact absurd ho (Bool.eq_false_iff.1 hfails)
    | inPlace _ ho =>
      obtain ⟨outcome, ho⟩ := hf.done ho
      cases ho
    | onEach _ ho =>
      obtain ⟨outcome, ho⟩ := hf.done ho
      cases ho
  | later hh ho _ ih =>
    cases hy with
    | here => exact absurd ho (Bool.eq_false_iff.1 (congrArg (·.1.succeeded) (runStep_failsItself hg)))
    | later _ _ hy => exact ih hf hy hg
    | inPlace _ ho' hy => exact absurd ho (Bool.eq_false_iff.1 (runStep_fails_inPlace ho' hy hg))
    | onEach _ ho' hi hy => exact absurd ho (Bool.eq_false_iff.1 (runStep_fails_onEach ho' hi hy hg).2)
  | inPlace hh ho hx ih =>
    cases hy with
    | here =>
      obtain ⟨outcome, ho⟩ := hg.done ho
      cases ho
    | later _ ho' => exact absurd ho' (Bool.eq_false_iff.1 (runStep_fails_inPlace ho hx hf))
    | inPlace _ ho' hy =>
      rw [ho] at ho'
      cases ho'
      exact ih hf hy hg
    | onEach _ ho' =>
      rw [ho] at ho'
      cases ho'
  | onEach hh ho hi hx ih =>
    obtain ⟨hitem, hfails⟩ := runStep_fails_onEach ho hi hx hf
    cases hy with
    | here =>
      obtain ⟨outcome, ho⟩ := hg.done ho
      cases ho
    | later _ ho' => exact absurd ho' (Bool.eq_false_iff.1 hfails)
    | inPlace _ ho' =>
      rw [ho] at ho'
      cases ho'
    | onEach _ ho' hi' hy =>
      rw [ho] at ho'
      cases ho'
      obtain ⟨rfl, rfl⟩ := item_unique hi hitem hi' (runStep_fails_onEach ho hi' hy hg).1
      rw [ih hf hy hg]

/-! ### Runs that fail -/

private def missingRule : Workflow := { steps := [{ implementationKey := some "absent" }] }

private def missingServices : Services where
  repository := some (MemoryStore.repository [("inner", missingRule.written)])
  construct := fun _ _ => .error (.type (.stated "no classes"))

private def missingLoop : Workflow :=
  ⟨"outer", [{ name := some "each", kind := .forEach, collectionProperty := some "items", subFlowRef := some "inner" }]⟩

private def missingError : String :=
  "Failure in loop 'each' at index 0: No rule registered for implementation key 'absent' (step 'absent')"

private def missingWorld : World :=
  { flow := .dict none [(.text "items", .list none [.text "first", .text "second"])] }

end Run
end FlowRules
