import FlowRules.Run.Engine

/-!
# Actions step by step

What actions give and the world that they leave, read off their parts: `Act.run_bind` for actions, `Run.attempt_bind`
for actions that can fail, and one equation for each action that the engine is made of.  A computation is followed by
rewriting with these.
-/

namespace FlowRules

/-- A world with one more row in its log. -/
def World.logged (w : World) (level : LogLevel) (message : String) : World :=
  w.record (.logged (w.logger.row level message false))

namespace Act

variable {α β : Type}

theorem run_bind (a : Act α) (f : α → Act β) (w : World) :
    (a >>= f).run w = (f (a.run w).1).run (a.run w).2 := rfl

@[simp] theorem run_pure (x : α) (w : World) : (pure x : Act α).run w = (x, w) := rfl

@[simp] theorem run_get (w : World) : (get : Act World).run w = (w, w) := rfl

@[simp] theorem run_modify (f : World → World) (w : World) : (modify f : Act Unit).run w = ((), f w) := rfl

@[simp] theorem run_record (e : Event) (w : World) : (record e).run w = ((), w.record e) := rfl

@[simp] theorem run_moveLogger (f : ScopedLogger → ScopedLogger) (w : World) :
    (moveLogger f).run w = ((), { w with logger := f w.logger }) := rfl

@[simp] theorem run_log (level : LogLevel) (message : String) (w : World) :
    (log level message).run w = ((), w.logged level message) := rfl

@[simp] theorem run_logTraced (message : String) (w : World) :
    (logTraced message).run w = ((), w.record (.logged (w.logger.row .error message true))) := rfl

theorem holds_blank {w : World} {c : Option String} (hb : ConditionCache.isBlankCondition c = true) :
    (holds c).run w = (.ok true, w) := by
  unfold holds
  rw [if_pos hb]
  rfl

/-- A condition that is not blank is evaluated with its scope on record, and parsing it is logged. -/
theorem holds_run {w : World} {c : Option String} (hb : ¬ ConditionCache.isBlankCondition c = true) :
    (holds c).run w =
      let e := w.conditions.evaluate (World.environment w.toScope) c w.cursors
      let parsed : List Event :=
        if e.parsed then
          [.logged { logger := "workflow.conditions", level := .debug, message := "Compiled condition: " ++ c.getD "" }]
        else []
      (e.outcome,
        { w with
          conditions := e.cache
          cursors := e.cursors
          journal := parsed ++ .evaluated (c.getD "") w.toScope :: w.journal }) := by
  unfold holds
  rw [if_neg hb]
  -- the test must be on the evaluation itself before the two branches can be told apart
  show (ite ((w.conditions.evaluate (World.environment w.toScope) c w.cursors).parsed = true) _ _ : Act _).run _ = _
  dsimp only
  split <;> rfl

end Act

namespace Run

variable {α β : Type}

theorem attempt_bind (r : Run α) (f : α → Run β) (w : World) :
    (r >>= f).attempt.run w =
      match r.attempt.run w with
      | (.ok a, v) => (f a).attempt.run v
      | (.error e, v) => (.error e, v) := by
  show ((r.attempt >>= ExceptT.bindCont f) : Act _).run w = _
  rw [Act.run_bind]
  rcases r.attempt.run w with ⟨_ | a, v⟩ <;> rfl

theorem attempt_map (f : α → β) (r : Run α) (w : World) :
    (f <$> r).attempt.run w = ((r.attempt.run w).1.map f, (r.attempt.run w).2) := by
  show ((r >>= fun a => pure (f a)) : Run β).attempt.run w = _
  rw [attempt_bind]
  rcases r.attempt.run w with ⟨_ | a, v⟩ <;> rfl

@[simp] theorem attempt_pure (a : α) (w : World) : (pure a : Run α).attempt.run w = (.ok a, w) := rfl

@[simp] theorem attempt_throw (f : Fault) (w : World) : (throw f : Run α).attempt.run w = (.error f, w) := rfl

@[simp] theorem attempt_lift (a : Act α) (w : World) :
    (liftM a : Run α).attempt.run w = (.ok (a.run w).1, (a.run w).2) := rfl

@[simp] theorem attempt_get (w : World) : (getThe World : Run World).attempt.run w = (.ok w, w) := rfl

@[simp] theorem attempt_tried (r : Run α) (w : World) :
    (tried r).attempt.run w = (.ok (r.attempt.run w).1, (r.attempt.run w).2) := rfl

@[simp] theorem attempt_ofExcept (e : Except Fault α) (w : World) : (ofExcept e).attempt.run w = (e, w) := by
  cases e <;> rfl

/-- An evaluation changes the counts of items taken and nothing else. -/
@[simp] theorem attempt_ofEval (e : Eval α) (w : World) :
    (ofEval e).attempt.run w = ((e.run w.cursors).1, { w with cursors := (e.run w.cursors).2 }) := by
  show (ofExcept (e.run w.cursors).1).attempt.run { w with cursors := (e.run w.cursors).2 } = _
  rw [attempt_ofExcept]

@[simp] theorem attempt_holds (c : Option String) (w : World) :
    (holds c).attempt.run w = (Act.holds c).run w := rfl

/-! ### When a computation has come to an end -/

theorem attempt_bind_ok {r : Run α} {f : α → Run β} {w u : World} {b : β} :
    (r >>= f).attempt.run w = (.ok b, u) ↔
      ∃ a v, r.attempt.run w = (.ok a, v) ∧ (f a).attempt.run v = (.ok b, u) := by
  rw [attempt_bind]
  rcases r.attempt.run w with ⟨e | a, v⟩
  · exact ⟨nofun, fun ⟨_, _, h, _⟩ => nomatch h⟩
  · constructor
    · exact fun h => ⟨a, v, rfl, h⟩
    · rintro ⟨a', v', ha, h⟩
      cases ha
      exact h

theorem attempt_bind_error {r : Run α} {f : α → Run β} {w u : World} {e : Fault} :
    (r >>= f).attempt.run w = (.error e, u) ↔
      r.attempt.run w = (.error e, u) ∨
        ∃ a v, r.attempt.run w = (.ok a, v) ∧ (f a).attempt.run v = (.error e, u) := by
  rw [attempt_bind]
  rcases r.attempt.run w with ⟨e' | a, v⟩
  · constructor
    · intro h
      cases h
      exact Or.inl rfl
    · rintro (h | ⟨_, _, h, _⟩)
      · cases h
        rfl
      · cases h
  · constructor
    · exact fun h => Or.inr ⟨a, v, rfl, h⟩
    · rintro (h | ⟨a', v', ha, h⟩)
      · cases h
      · cases ha
        exact h

theorem attempt_map_ok {r : Run α} {f : α → β} {w u : World} {b : β} :
    (f <$> r).attempt.run w = (.ok b, u) ↔ ∃ a, r.attempt.run w = (.ok a, u) ∧ f a = b := by
  rw [attempt_map]
  rcases r.attempt.run w with ⟨e | a, v⟩
  · exact ⟨nofun, fun ⟨_, h, _⟩ => nomatch h⟩
  · constructor
    · intro h
      cases h
      exact ⟨a, rfl, rfl⟩
    · rintro ⟨a', ha, rfl⟩
      cases ha
      rfl

theorem attempt_map_error {r : Run α} {f : α → β} {w u : World} {e : Fault} :
    (f <$> r).attempt.run w = (.error e, u) ↔ r.attempt.run w = (.error e, u) := by
  rw [attempt_map]
  rcases r.attempt.run w with ⟨e' | a, v⟩
  · constructor <;> (intro h; cases h; rfl)
  · exact ⟨nofun, nofun⟩

/-! ### The parts of the engine -/

/-- A handler is called with its scope on record, and so is what it leaves. -/
theorem call_run (re : Reentry) (role : Role) (key : Option String) (h : Handler α) (values : Value) (w : World) :
    (call re role key h values).attempt.run w =
      let p := (perform re (h.call values)).attempt.run (w.record (.called role key w.toScope))
      (p.1, p.2.record (.returned role key p.2.toScope)) := by
  unfold call
  simp only [attempt_bind, attempt_get, attempt_lift, attempt_tried, attempt_ofExcept, Act.run_record]

end Run

/-! ### Scopes -/

namespace World

/-- The world in which the steps of a workflow begin. -/
def begun (w : World) (workflow : String) : World :=
  let v := { w.record (.started workflow w.toScope) with logger := w.logger.inScope workflow }
  v.logged .info (LogMessage.scopeStarted workflow)

/-- The world once the steps of a workflow have ended, with the workflow around it. -/
def ended (w : World) (workflow : String) (succeeded : Bool) (previous : Option String) : World :=
  let v := { w with logger := w.logger.inScope workflow }
  let u := v.logged .info (LogMessage.scopeEnded workflow succeeded)
  { u with logger := u.logger.leaving previous }.record (.ended workflow succeeded)

/-- The world in which a step does its own part, its condition behind it. -/
def atStep (w : World) (s : Step) : World :=
  let v := { w with logger := w.logger.atStep s.displayName }
  v.logged .debug (LogMessage.stepStarted s.displayName s.kind.name)

/-- The world in which the scope of an item begins. -/
def intoItem (w : World) (item : Value) : World := { w with flow := w.latest item, depth := w.depth + 1 }

/-- The world back in the scope around that of an item. -/
def outOfItem (w outer : World) : World := { w with flow := w.latest outer.flow, depth := outer.depth }

end World

namespace Run

theorem runScope_run (set : Setting) (deeper : Deeper) (c : Workflow) (w : World) :
    (runScope set deeper c).run w =
      let p := (runSteps set deeper c.name c.steps).run (w.begun c.name)
      (p.1, p.2.ended c.name p.1.succeeded w.logger.context.workflow) := rfl

theorem inChild_run {α : Type} (item : Value) (body : Act α) (w : World) :
    (inChild item body).run w =
      let p := body.run (w.intoItem item)
      (p.1, p.2.outOfItem w) := rfl

/-- Cancellation has been asked for, and the run heeds it. -/
def Halted (set : Setting) (w : World) : Prop := (set.heedsCancel && w.cancelled) = true

instance (set : Setting) (w : World) : Decidable (Halted set w) := inferInstanceAs (Decidable (_ = true))

theorem halted {set : Setting} {w : World} (hheeds : set.heedsCancel = true) (hw : w.cancelled = true) :
    Halted set w := by
  unfold Halted
  rw [hheeds, hw]
  rfl

theorem not_halted {set : Setting} {w : World} (hw : w.cancelled = false) : ¬ Halted set w := by
  unfold Halted
  rw [hw, Bool.and_false]
  exact Bool.false_ne_true

theorem runSteps_halted {set : Setting} {w : World} (h : Halted set w) (deeper : Deeper) (name : String) (s : Step)
    (rest : List Step) :
    (runSteps set deeper name (s :: rest)).run w =
      ({}, w.logged .info ("Cancellation requested, stopping '" ++ name ++ "'")) := by
  show (if Halted set w then _ else _ : Act Outcome).run w = _
  rw [if_pos h]
  rfl

theorem runSteps_cons {set : Setting} {w : World} (h : ¬ Halted set w) (deeper : Deeper) (name : String) (s : Step)
    (rest : List Step) :
    (runSteps set deeper name (s :: rest)).run w =
      let p := (runStep set deeper s).run w
      if p.1.succeeded then (runSteps set deeper name rest).run p.2 else p := by
  show (if Halted set w then _ else _ : Act Outcome).run w = _
  rw [if_neg h, Act.run_bind]
  dsimp only
  split <;> rfl

theorem runItems_halted {set : Setting} {w : World} (h : Halted set w) (run : Workflow → Act Outcome) (c : Workflow)
    (label : String) (k : Nat) (item : Value) (items : List Value) :
    (runItems set run c label k (item :: items)).run w =
      ({}, w.logged .info ("Cancellation requested, stopping loop '" ++ label ++ "' at index " ++ toString k)) := by
  show (if Halted set w then _ else _ : Act Outcome).run w = _
  rw [if_pos h]
  rfl

theorem runItems_cons {set : Setting} {w : World} (h : ¬ Halted set w) (run : Workflow → Act Outcome) (c : Workflow)
    (label : String) (k : Nat) (item : Value) (items : List Value) :
    (runItems set run c label k (item :: items)).run w =
      let p := (inChild item (run c)).run w
      if p.1.succeeded then (runItems set run c label (k + 1) items).run p.2
      else
        (.failure (loopError label k p.1.errors),
          p.2.logged .warning ("Loop Item #" ++ toString k ++ " Failed.")) := by
  show (if Halted set w then _ else _ : Act Outcome).run w = _
  rw [if_neg h, Act.run_bind]
  dsimp only
  split <;> rfl

theorem findRule_run (set : Setting) (key : Option String) (w : World) :
    (findRule set key).attempt.run w =
      (Registry.resolve set.services.registry.rules key 0,
        w.logged .debug ("Retrieving rule '" ++ Text.shownOption key ++ "'")) := by
  unfold findRule
  simp only [attempt_bind, attempt_lift, Act.run_log, attempt_ofExcept]

theorem findValidation_run (set : Setting) (key : Option String) (w : World) :
    (findValidation set key).attempt.run w =
      (Registry.resolve set.services.registry.validations key 0,
        w.logged .debug ("Retrieving validation rule '" ++ Text.shownOption key ++ "'")) := by
  unfold findValidation
  simp only [attempt_bind, attempt_lift, Act.run_log, attempt_ofExcept]

theorem passes_unconditional {s : Step} (h : s.hasCondition = false) (w : World) :
    (passes s).attempt.run w = (.ok true, w) := by
  unfold passes
  rw [h]
  rfl

theorem openStep_run (set : Setting) (s : Step) (w : World) :
    (openStep set s).attempt.run w =
      match (passes s).attempt.run w with
      | (.ok true, v) => (openKind set s).attempt.run (v.atStep s)
      | (.ok false, v) =>
        (.ok (.done {}), v.logged .debug (LogMessage.stepSkipped s.displayName (s.condition.getD "")))
      | (.error f, v) => (.error f, v) := by
  unfold openStep
  rw [attempt_bind]
  rcases (passes s).attempt.run w with ⟨f | _ | _, v⟩ <;> rfl

/-- A sub-flow whose workflow is run passes on its outcome. -/
theorem proceed_inPlace_run (set : Setting) (run : Workflow → Act Outcome) (s : Step) (c : Workflow) (w : World) :
    (proceed set (some run) s (.inPlace c)).attempt.run w =
      let p := (run c).run (w.record (.entered s.reference))
      let v := p.2.record (.exited s.reference)
      let u :=
        if !p.1.succeeded then v.logged .warning ("SubFlow '" ++ s.reference ++ "' failed. Stopping parent flow.")
        else v
      (.ok p.1, u.logged .info (LogMessage.subFlowExited s.reference)) := by
  unfold proceed nested
  simp only [attempt_bind, attempt_lift, attempt_pure, Act.run_record]
  split <;> rfl

/-- A loop whose items are run passes on their outcome. -/
theorem proceed_onEach_run (set : Setting) (run : Workflow → Act Outcome) (s : Step) (c : Workflow)
    (items : List Value) (w : World) :
    (proceed set (some run) s (.onEach c items)).attempt.run w =
      let p := (runItems set run c s.displayName 0 items).run (w.record (.entered s.reference))
      (.ok p.1, (p.2.record (.exited s.reference)).logged .info (LogMessage.loopEnded s.displayName)) := rfl

theorem runStep_run (set : Setting) (deeper : Deeper) (s : Step) (w : World) :
    (runStep set deeper s).run w =
      match (doStep set deeper s).attempt.run w with
      | (.ok outcome, v) => (outcome, v)
      | (.error f, v) =>
        (.failure f.message, ((Act.logTraced ("Error in " ++ s.displayName ++ ": " ++ f.message)).run v).2) := by
  unfold runStep
  rw [Act.run_bind]
  rcases (doStep set deeper s).attempt.run w with ⟨f | outcome, v⟩ <;> rfl

theorem runWorkflow_run (set : Setting) (c : Workflow) (w : World) :
    (runWorkflow set c).run w =
      let p := (scopeAt set maxNesting c).run w
      ({ p.1 with flow := p.2.flow, output := p.2.state }, p.2) := rfl

end Run
end FlowRules
