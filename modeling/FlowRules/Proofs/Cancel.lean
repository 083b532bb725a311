import FlowRules.Proofs.Loop
import FlowRules.Proofs.Run.Task

/-!
# Cancellation

Main statement: where the handler of a step asks for cancellation, at any depth of sub-flows and loops, nothing more is
done in any scope once the handler has ended, and the run succeeds without errors exactly when the step has not failed by
itself (`Run.cancel_stops`).  A step that has been cancelled and has not failed ends every scope around it without an
error: each comes to its next step or its next item only to find that cancellation has been asked for
(`Run.runSteps_of_cancelled`).
-/

namespace FlowRules

namespace World

/-- From one world to a later one there have been reports only, and cancellation has been asked for. -/
structure Stopped (w v : World) : Prop where
  reports : OnlyReports w v
  cancelled : v.cancelled = true

variable {w v u : World}

theorem Stopped.refl (h : w.cancelled = true) : Stopped w w := ⟨OnlyReports.of_journal rfl, h⟩

theorem Stopped.trans (h : Stopped w v) (h' : Stopped v u) : Stopped w u := ⟨h.reports.trans h'.reports, h'.cancelled⟩

theorem Stopped.record (h : Stopped w v) {e : Event} (he : e.isReport = true) : Stopped w (v.record e) :=
  ⟨h.reports.record he, h.cancelled⟩

theorem Stopped.logged (h : Stopped w v) (level : LogLevel) (message : String) :
    Stopped w (v.logged level message) := h.record rfl

theorem Stopped.ended (h : Stopped w v) (name : String) (b : Bool) (previous : Option String) :
    Stopped w (v.ended name b previous) := ⟨h.reports.ended name b previous, h.cancelled⟩

/-- Cancellation is not taken back by leaving the scope of an item. -/
theorem Stopped.outOfItem (h : Stopped w v) (outer : World) : Stopped w (v.outOfItem outer) := ⟨h.reports, h.cancelled⟩

end World

namespace Run

open World (OnlyReports Stopped)

variable {set : Setting} {n : Nat} {s : Step} {rest : List Step} {w v u : World} {c : Workflow}

/-! ### The end of a handler -/

/-- In a step that begins in a world the handler is called, and it ends in another world, with its return on record. -/
inductive HandlerEnds (set : Setting) (s : Step) (w : World) : World → Prop where
  | rule {v u z : World} {rule : Rule} {r : Except Fault Unit} (hk : s.kind = .rule)
    (hp : (passes s).attempt.run w = (.ok true, v))
    (hf : (findRule set s.implementationKey).attempt.run (v.atStep s) = (.ok (some rule), u))
    (hc : (call set.reentry .rule s.implementationKey rule .null).attempt.run u = (r, z)) : HandlerEnds set s w z
  | validation {v u z : World} {validation : Validation} {r : Except Fault (List Bool)} (hk : s.kind = .validation)
    (hm : s.mode = .complex) (hp : (passes s).attempt.run w = (.ok true, v))
    (hf : (findValidation set s.implementationKey).attempt.run (v.atStep s) = (.ok (some validation), u))
    (hc : (call set.reentry .validation s.implementationKey validation .null).attempt.run u = (r, z)) :
    HandlerEnds set s w z

/-- The last that is on record where a handler ends is its return. -/
theorem HandlerEnds.returned (h : HandlerEnds set s w v) :
    ∃ role before, v.journal = .returned role s.implementationKey v.toScope :: before := by
  cases h with
  | rule _ _ _ hc =>
    rw [call_run] at hc
    obtain ⟨-, rfl⟩ := Prod.mk.inj hc
    exact ⟨.rule, _, rfl⟩
  | validation _ _ _ _ hc =>
    rw [call_run] at hc
    obtain ⟨-, rfl⟩ := Prod.mk.inj hc
    exact ⟨.validation, _, rfl⟩

private theorem ruleStep_of_call {rule : Rule} {r : Except Fault Unit} {z : World}
    (hf : (findRule set s.implementationKey).attempt.run w = (.ok (some rule), u))
    (hc : (call set.reentry .rule s.implementationKey rule .null).attempt.run u = (r, z)) :
    (ruleStep set s).attempt.run w = (r.map fun _ => {}, z) := by
  simp only [ruleStep, attempt_bind, hf, hc]
  cases r <;> rfl

private theorem verdict_of_call {validation : Validation} {r : Except Fault (List Bool)} {z : World}
    (hm : s.mode = .complex)
    (hf : (findValidation set s.implementationKey).attempt.run w = (.ok (some validation), u))
    (hc : (call set.reentry .validation s.implementationKey validation .null).attempt.run u = (r, z)) :
    (verdict set s).attempt.run w = (r.map lastVerdict, z) := by
  simp only [verdict, hm, attempt_bind, hf, hc]
  cases r <;> rfl

private theorem validationStep_of_verdict {r : Except Fault Bool} (h : (verdict set s).attempt.run w = (r, v))
    (hv : v.cancelled = true) :
    ∃ r u, (validationStep set s).attempt.run w = (r, u) ∧ Stopped v u := by
  have hrefl := Stopped.refl hv
  simp only [validationStep, attempt_bind, h]
  rcases r with f | _ | _
  · exact ⟨_, _, rfl, hrefl⟩
  · exact ⟨_, _, rfl, hrefl.logged .warning _⟩
  · exact ⟨_, _, rfl, hrefl⟩

/-- After its handler a step does nothing but report a validation that does not hold. -/
private theorem openStep_of_handlerEnds (h : HandlerEnds set s w v) (hv : v.cancelled = true) :
    ∃ (r : Except Fault Outcome) (u : World), (openStep set s).attempt.run w = (r.map .done, u) ∧ Stopped v u := by
  cases h with
  | @rule _ _ _ _ r hk hp hf hc =>
    refine ⟨r.map fun _ => {}, v, ?_, Stopped.refl hv⟩
    rw [openStep_run, hp]
    simp only [openKind, hk, attempt_map, ruleStep_of_call hf hc]
  | validation hk hm hp hf hc =>
    obtain ⟨r, u, hstep, hu⟩ := validationStep_of_verdict (verdict_of_call hm hf hc) hv
    refine ⟨r, u, ?_, hu⟩
    rw [openStep_run, hp]
    simp only [openKind, hk, attempt_map, hstep]

/-- A step whose handler has asked for cancellation ends with reports only.  If it does not succeed, it has failed by
itself. -/
theorem runStep_of_handlerEnds (n : Nat) (h : HandlerEnds set s w v) (hv : v.cancelled = true) :
    let p := (runStep set (below set n) s).run w
    Stopped v p.2 ∧ (p.1.succeeded = true ∨ ∃ message, FailsItself set n s w message p.2) := by
  obtain ⟨r, u, hopen, hu⟩ := openStep_of_handlerEnds h hv
  rcases r with f | o
  · have hf : FailsItself set n s w f.message _ := FailsItself.raised (by rw [doStep, attempt_bind, hopen]; rfl)
    rw [runStep_failsItself hf]
    exact ⟨hu.record rfl, Or.inr ⟨_, hf⟩⟩
  · have hrun : (runStep set (below set n) s).run w = (o, u) := by
      rw [runStep_run, doStep, attempt_bind, hopen]
      rfl
    rw [hrun]
    refine ⟨hu, ?_⟩
    by_cases ho : o.succeeded = true
    · exact Or.inl ho
    · obtain ⟨message, -, hf⟩ := failsItself_of_done (n := n) hopen (Bool.eq_false_iff.2 ho)
      exact Or.inr ⟨message, hf⟩

/-! ### The scopes around a cancelled step -/

private theorem scopeAt_cancelled (h : (runSteps set (below set n) c.name c.steps).run (w.begun c.name) = ({}, u))
    (hu : u.cancelled = true) : ∃ v, (scopeAt set n c).run w = ({}, v) ∧ Stopped u v :=
  ⟨_, scopeAt_run h, (Stopped.refl hu).ended ..⟩

private theorem runStep_inPlace_cancelled (ho : (openStep set s).attempt.run w = (.ok (.inPlace c), v))
    (h : (runSteps set (below set n) c.name c.steps).run ((v.record (.entered s.reference)).begun c.name) = ({}, u))
    (hu : u.cancelled = true) :
    ∃ z, (runStep set (below set (n + 1)) s).run w = ({}, z) ∧ Stopped u z := by
  obtain ⟨z, hscope, hz⟩ := scopeAt_cancelled h hu
  rw [runStep_inPlace ho, hscope]
  exact ⟨_, rfl, (hz.record rfl).logged _ _⟩

section

variable (hheeds : set.heedsCancel = true)

include hheeds

private theorem runSteps_cancelled (hw : w.cancelled = true) (deeper : Deeper) (name : String) (steps : List Step) :
    ∃ v, (runSteps set deeper name steps).run w = ({}, v) ∧ Stopped w v := by
  cases steps with
  | nil => exact ⟨w, rfl, Stopped.refl hw⟩
  | cons s rest =>
    rw [runSteps_halted (halted hheeds hw)]
    exact ⟨_, rfl, (Stopped.refl hw).logged _ _⟩

/-- Steps end with one that is cancelled and has not failed. -/
private theorem runSteps_cons_cancelled {deeper : Deeper} {o : Outcome} (hh : ¬ Halted set w)
    (h : (runStep set deeper s).run w = (o, u)) (ho : o.succeeded = true) (hu : u.cancelled = true) (name : String)
    (rest : List Step) : ∃ v, (runSteps set deeper name (s :: rest)).run w = ({}, v) ∧ Stopped u v := by
  rw [runSteps_cons hh, h]
  dsimp only
  rw [if_pos ho]
  exact runSteps_cancelled hheeds hu deeper name rest

/-- A loop ends with an item that is cancelled and has not failed. -/
private theorem runItems_cancelled {run : Workflow → Act Outcome} {k j : Nat} {items : List Value} (label : String)
    (hi : ItemBegins set (run c) k items w j v) (h : (run c).run v = ({}, u)) (hu : u.cancelled = true) :
    ∃ u', (runItems set run c label k items).run w = ({}, u') ∧ Stopped u u' := by
  induction hi with
  | @here k item items w hh =>
    have hout := (Stopped.refl hu).outOfItem w
    rw [runItems_cons hh, inChild_run, h]
    dsimp only
    rw [if_pos rfl]
    -- cancellation is looked for before the next item, if there is one
    cases items with
    | nil => exact ⟨_, rfl, hout⟩
    | cons next items =>
      rw [runItems_halted (halted hheeds hout.cancelled)]
      exact ⟨_, rfl, hout.logged _ _⟩
  | later hh ho _ ih =>
    rw [runItems_cons hh]
    dsimp only
    rw [if_pos ho]
    exact ih h

private theorem runStep_onEach_cancelled {items : List Value} {k : Nat} {x : World}
    (ho : (openStep set s).attempt.run w = (.ok (.onEach c items), v))
    (hi : ItemBegins set (scopeAt set n c) 0 items (v.record (.entered s.reference)) k x)
    (h : (runSteps set (below set n) c.name c.steps).run (x.begun c.name) = ({}, u)) (hu : u.cancelled = true) :
    ∃ z, (runStep set (below set (n + 1)) s).run w = ({}, z) ∧ Stopped u z := by
  obtain ⟨y, hscope, hy⟩ := scopeAt_cancelled h hu
  obtain ⟨z, hitems, hz⟩ := runItems_cancelled hheeds s.displayName hi hscope hy.cancelled
  rw [runStep_onEach ho, hitems]
  exact ⟨_, rfl, ((hy.trans hz).record rfl).logged _ _⟩

/-- A step that is cancelled and has not failed ends every scope around it without an error, and no more is done. -/
theorem runSteps_of_cancelled {steps : List Step} {x : Visit} {o : Outcome} (hx : Visits set n steps w x)
    (h : (runStep set (below set x.levels) x.step).run x.world = (o, u)) (ho : o.succeeded = true)
    (hu : u.cancelled = true) (name : String) :
    ∃ v, (runSteps set (below set n) name steps).run w = ({}, v) ∧ Stopped u v := by
  -- from the step outwards: the scope inside ends cancelled and without an error, so the step around it is such a step
  induction hx generalizing name with
  | here hh => exact runSteps_cons_cancelled hheeds hh h ho hu name _
  | later hh hfirst _ ih =>
    rw [runSteps_cons hh]
    dsimp only
    rw [if_pos hfirst]
    exact ih h name
  | @inPlace _ _ rest _ _ c _ hh hopen _ ih =>
    obtain ⟨v, hv, hs⟩ := ih h c.name
    obtain ⟨z, hz, hs'⟩ := runStep_inPlace_cancelled hopen hv hs.cancelled
    obtain ⟨v', hv', hs''⟩ := runSteps_cons_cancelled hheeds hh hz rfl hs'.cancelled name rest
    exact ⟨v', hv', (hs.trans hs').trans hs''⟩
  | @onEach _ _ _ rest _ _ _ c _ _ hh hopen hi _ ih =>
    obtain ⟨v, hv, hs⟩ := ih h c.name
    obtain ⟨z, hz, hs'⟩ := runStep_onEach_cancelled hheeds hopen hi hv hs.cancelled
    obtain ⟨v', hv', hs''⟩ := runSteps_cons_cancelled hheeds hh hz rfl hs'.cancelled name rest
    exact ⟨v', hv', (hs.trans hs').trans hs''⟩

end

/-! ### Cancelled runs -/

/-- Where a step, at any depth of sub-flows and loops, calls its handler and the handler ends with cancellation asked
for, there are only reports after the handler's return, in whatever scope, and the run succeeds without errors exactly
when the step has not failed by itself. -/
theorem cancel_stops (hheeds : set.heedsCancel = true) {t : Task} {x : Visit} (hx : Begins set t w x)
    (hend : HandlerEnds set x.step x.world v) (hv : v.cancelled = true) :
    let p := (task set t).run w
    (∃ role before, v.journal = .returned role x.step.implementationKey v.toScope :: before) ∧ OnlyReports v p.2 ∧
      ((p.1.succeeded = true ∧ p.1.errors = []) ↔ ¬ ∃ message u, FailsItself set x.levels x.step x.world message u) := by
  refine ⟨hend.returned, ?_⟩
  obtain ⟨c, z, hx, hrun⟩ := hx.workflow
  obtain ⟨hs, hstep⟩ := runStep_of_handlerEnds x.levels hend hv
  rw [hrun, runWorkflow_run]
  rcases hstep with ho | ⟨message, hf⟩
  · obtain ⟨u, hu, hs'⟩ := runSteps_of_cancelled hheeds hx rfl ho hs.cancelled c.name
    rw [scopeAt_run hu]
    refine ⟨(hs.trans hs').reports.ended .., fun _ => ?_, fun _ => ⟨rfl, rfl⟩⟩
    -- a step that has failed by itself does not succeed
    rintro ⟨message, u, hf⟩
    rw [runStep_failsItself hf] at ho
    cases ho
  · -- the failure of the step ends the run as any other does
    obtain ⟨u, hu, hr⟩ := runSteps_of_visit hx hf c.name
    rw [scopeAt_run hu]
    refine ⟨(hs.reports.trans hr).ended .., ?_, fun h => absurd ⟨message, _, hf⟩ h⟩
    rintro ⟨hsucceeded, -⟩
    cases hsucceeded

/-! ### A loop that is cancelled at the first of two items -/

private def stopStep : Step := { implementationKey := some "stop" }

private def stopping : Workflow := { steps := [stopStep] }

private def eachStep : Step := { kind := .forEach, collectionProperty := some "items", subFlowRef := some "inner" }

private def stoppingEach : Workflow := { steps := [eachStep, { implementationKey := some "absent" }] }

private def stopServices : Services where
  registry := { rules := [("stop", .ready ⟨"Stop", fun _ => .ask .cancel Script.done⟩)] }
  repository := some (MemoryStore.repository [("inner", stopping.written), ("outer", stoppingEach.written)])
  construct := fun _ _ => .error (.type (.stated "no classes"))

private def stopFlow : Value := .dict none [(.text "items", .list none [.int 1, .int 2])]

private theorem read_stopping : Definition.read stopping.written = .ok (some stopping) :=
  Definition.read_written (by decide)

private theorem read_stoppingEach : Definition.read stoppingEach.written = .ok (some stoppingEach) :=
  Definition.read_written (by decide)

/-- The handler of the step asks for cancellation, and the step succeeds. -/
private theorem stopStep_ends (set : Setting) (h : set.services = stopServices) (n : Nat) (w : World) :
    ∃ v, HandlerEnds set stopStep w v ∧ v.cancelled = true ∧
      ¬ ∃ message u, FailsItself set n stopStep w message u := by
  obtain ⟨services, re, keeps, heeds⟩ := set
  dsimp only at h
  subst h
  refine ⟨_, HandlerEnds.rule rfl rfl rfl rfl, rfl, ?_⟩
  rintro ⟨message, u, hf⟩
  have hfailed := runStep_failsItself hf
  cases congrArg (fun p => p.1.succeeded) hfailed

theorem cancel_stops_items :
    let set := setting stopServices true true
    let w := (Pipeline.start stopServices stopFlow [] "execution" "pipeline" none).world
    let p := (task set (.named "outer")).run w
    ∃ x v, Begins set (.named "outer") w x ∧ x.loops = [("inner", 0)] ∧ HandlerEnds set x.step x.world v ∧
      v.cancelled = true ∧ OnlyReports v p.2 ∧ p.1.succeeded = true ∧ p.1.errors = [] := by
  intro set w p
  have hw : w.Coherent := Pipeline.coherent_start stopServices stopFlow [] "execution" "pipeline" none
  have houter : set.services.Defines "outer" (some stoppingEach) := ⟨_, _, rfl, rfl, read_stoppingEach⟩
  have hinner : set.services.Defines eachStep.reference (some stopping) := ⟨_, _, rfl, rfl, read_stopping⟩
  obtain ⟨text, v, hload, hread, hv⟩ := lookUp_found houter hw
  have hbegun := World.alike_begun hv.right stoppingEach.name
  have hscope : (v.begun stoppingEach.name).toScope = w.toScope := (hv.trans hbegun).scope.symm
  have hrunning : ¬ Halted set (v.begun stoppingEach.name) := not_halted (congrArg Scope.cancelled hscope)
  have hflow : (v.begun stoppingEach.name).flow = stopFlow := congrArg Scope.flow hscope
  obtain ⟨u, hopen, -, hu, -⟩ := openStep_onEach (s := eachStep) (x := .list none [.int 1, .int 2]) rfl hinner
    (passes_unconditional rfl _) hbegun.right (by rw [hflow]; rfl) (by rw [hflow]; rfl) rfl
  have hfirst : ¬ Halted set (u.record (.entered eachStep.reference)) :=
    not_halted (congrArg Scope.cancelled (hu.trans hscope))
  let first := ((u.record (.entered eachStep.reference)).intoItem (.int 1)).begun stopping.name
  have hx : Begins set (.named "outer") w { loops := [("inner", 0)], levels := 31, step := stopStep, world := first } :=
    Begins.named (hload _) (Begins.definition hread
      (Visits.onEach hrunning hopen (ItemBegins.here hfirst) (Visits.here hfirst)))
  obtain ⟨z, hend, hz, hown⟩ := stopStep_ends set rfl 31 first
  obtain ⟨-, hreports, hresult⟩ := cancel_stops rfl hx hend hz
  obtain ⟨hsucceeded, herrors⟩ := hresult.2 hown
  have hp : (task set (.named "outer")).run w = p := rfl
  rw [hp] at hreports hsucceeded herrors
  exact ⟨_, z, hx, rfl, hend, hz, hreports, hsucceeded, herrors⟩

end Run
end FlowRules
