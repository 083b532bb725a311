import FlowRules.Proofs.Run.Task

/-!
# What runs keep

An action keeps a relation when the world before it and the world after it are always so related.  Main statement: a
relation that can be followed through a run, with calls of handlers and with what goes one level deeper, is kept by
every part of the run (`Run.Kept.scopeAt`, `Run.Kept.task`).  What handlers keep is told by the requests that their
scripts ask (`Run.keeps_perform`).
-/

namespace FlowRules

/-- An action keeps a relation between the world before it and the world after it. -/
def Act.Keeps {α : Type} (R : World → World → Prop) (a : Act α) : Prop := ∀ w, R w (a.run w).2

/-- What happens besides handlers, conditions, and the opening and closing of levels. -/
def Event.isNote : Event → Bool
  | .logged _ | .lookedUp _ | .started .. | .ended .. => true
  | .called .. | .returned .. | .evaluated .. | .entered _ | .exited _ => false

/-- A relation that can be followed through a run outside of handlers.  It looks at nothing but the journal and the
state. -/
structure World.Followed (R : World → World → Prop) : Prop where
  trans {w v u : World} : R w v → R v u → R w u
  unseen {w v : World} : v.journal = w.journal → v.state = w.state → R w v
  note (w : World) {e : Event} : e.isNote = true → R w (w.record e)
  evaluated (w : World) (condition : String) : R w (w.record (.evaluated condition w.toScope))

namespace World.Followed

variable {R : World → World → Prop} {w v : World}

theorem refl (h : Followed R) (w : World) : R w w := h.unseen rfl rfl

theorem record (h : Followed R) (hv : R w v) {e : Event} (he : e.isNote = true) : R w (v.record e) :=
  h.trans hv (h.note v he)

theorem logged (h : Followed R) (hv : R w v) (level : LogLevel) (message : String) : R w (v.logged level message) :=
  h.record hv rfl

theorem logger (h : Followed R) (hv : R w v) (l : ScopedLogger) : R w { v with logger := l } :=
  h.trans hv (h.unseen rfl rfl)

theorem atStep (h : Followed R) (w : World) (s : Step) : R w (w.atStep s) :=
  h.logged (h.logger (h.refl w) (w.logger.atStep s.displayName)) _ _

theorem begun (h : Followed R) (w : World) (name : String) : R w (w.begun name) := by
  have hstarted : R w (w.record (.started name w.toScope)) := h.note w rfl
  exact h.logged (h.logger hstarted (w.logger.inScope name)) _ _

theorem ended (h : Followed R) (hv : R w v) (name : String) (b : Bool) (previous : Option String) :
    R w (v.ended name b previous) := by
  have hlogged := h.logged (h.logger hv (v.logger.inScope name)) .info (LogMessage.scopeEnded name b)
  exact h.record (h.logger hlogged ((v.logger.inScope name).leaving previous)) rfl

end World.Followed

/-! ### Actions in sequence -/

namespace Act

variable {α β : Type} {R : World → World → Prop}

theorem Keeps.pure (h : World.Followed R) (x : α) : Keeps R (Pure.pure x : Act α) := h.refl

theorem Keeps.bind (h : World.Followed R) {a : Act α} {f : α → Act β} (ha : Keeps R a) (hf : ∀ x, Keeps R (f x)) :
    Keeps R (a >>= f) := fun w => h.trans (ha w) (hf _ _)

theorem Keeps.record (h : World.Followed R) {e : Event} (he : e.isNote = true) : Keeps R (record e) :=
  fun w => h.note w he

theorem Keeps.log (h : World.Followed R) {level : LogLevel} {message : String} : Keeps R (log level message) :=
  fun w => h.logged (h.refl w) level message

theorem Keeps.logTraced (h : World.Followed R) {message : String} : Keeps R (logTraced message) :=
  fun w => h.note w rfl

theorem Keeps.moveLogger (h : World.Followed R) {f : ScopedLogger → ScopedLogger} : Keeps R (moveLogger f) :=
  fun w => h.logger (h.refl w) (f w.logger)

theorem Keeps.holds (h : World.Followed R) (c : Option String) : Keeps R (holds c) := by
  intro w
  by_cases hb : ConditionCache.isBlankCondition c = true
  · rw [holds_blank hb]
    exact h.refl w
  · have hevaluated := h.evaluated w (c.getD "")
    rw [holds_run hb]
    dsimp only
    split
    · exact h.trans (h.record hevaluated rfl) (h.unseen rfl rfl)
    · exact h.trans hevaluated (h.unseen rfl rfl)

/-! ### Actions that can fail -/

variable {r : Run α} {k : α → Run β}

theorem Keeps.attempt_bind (h : World.Followed R) (hr : Keeps R r.attempt) (hk : ∀ a, Keeps R (k a).attempt) :
    Keeps R (r >>= k).attempt := by
  intro w
  have hw := hr w
  rw [Run.attempt_bind]
  rcases hv : r.attempt.run w with ⟨f | a, v⟩ <;> rw [hv] at hw
  · exact hw
  · exact h.trans hw (hk a v)

theorem Keeps.attempt_map (hr : Keeps R r.attempt) (f : α → β) : Keeps R (f <$> r).attempt := by
  intro w
  rw [Run.attempt_map]
  exact hr w

theorem Keeps.attempt_lift {a : Act α} (ha : Keeps R a) : Keeps R (liftM a : Run α).attempt := by
  intro w
  rw [Run.attempt_lift]
  exact ha w

theorem Keeps.attempt_tried (hr : Keeps R r.attempt) : Keeps R (Run.tried r).attempt := by
  intro w
  rw [Run.attempt_tried]
  exact hr w

theorem Keeps.attempt_pure (h : World.Followed R) (a : α) : Keeps R (Pure.pure a : Run α).attempt := h.refl

theorem Keeps.attempt_throw (h : World.Followed R) (f : Fault) : Keeps R (throw f : Run α).attempt := h.refl

theorem Keeps.attempt_get (h : World.Followed R) : Keeps R (getThe World : Run World).attempt := h.refl

theorem Keeps.attempt_ofExcept (h : World.Followed R) (e : Except Fault α) : Keeps R (Run.ofExcept e).attempt := by
  intro w
  rw [Run.attempt_ofExcept]
  exact h.refl w

theorem Keeps.attempt_ofEval (h : World.Followed R) (e : Eval α) : Keeps R (Run.ofEval e).attempt := by
  intro w
  rw [Run.attempt_ofEval]
  exact h.unseen rfl rfl

end Act

/-- A script asks for requests of some kind only, whatever it is answered. -/
def Script.Asks {α : Type} (P : Request → Prop) : Script α → Prop
  | .done _ => True
  | .fail _ => True
  | .ask r next => P r ∧ ∀ a, (next a).Asks P

namespace Run

open Act (Keeps)
open World (Followed)

variable {set : Setting}

section

variable {R : World → World → Prop} (h : Followed R)

include h

/-! ### Looking things up -/

theorem keeps_findRule (set : Setting) (key : Option String) : Keeps R (findRule set key).attempt :=
  Keeps.attempt_bind h (Keeps.attempt_lift (Keeps.log h)) fun _ => Keeps.attempt_ofExcept h _

theorem keeps_findValidation (set : Setting) (key : Option String) : Keeps R (findValidation set key).attempt :=
  Keeps.attempt_bind h (Keeps.attempt_lift (Keeps.log h)) fun _ => Keeps.attempt_ofExcept h _

theorem keeps_load (set : Setting) (name role : String) : Keeps R (load set name role).attempt := by
  unfold load
  rcases set.services.repository with _ | repository
  · exact Keeps.attempt_throw h _
  · refine Keeps.attempt_bind h (Keeps.attempt_lift (Keeps.record h rfl)) fun _ => ?_
    refine Keeps.attempt_bind h (Keeps.attempt_ofExcept h _) fun found => ?_
    rcases found with _ | text
    · dsimp only
      split
      · exact Keeps.attempt_throw h _
      · exact Keeps.attempt_bind h (Keeps.attempt_lift (Keeps.record h rfl)) fun _ => Keeps.attempt_throw h _
    · dsimp only
      split
      · exact Keeps.attempt_throw h _
      · exact Keeps.attempt_pure h _

theorem keeps_readDefinition (set : Setting) (text : String) : Keeps R (readDefinition set text).attempt := by
  intro w
  unfold readDefinition
  split
  · rw [attempt_bind, attempt_get]
    dsimp only
    rcases w.definitions.read text with ⟨_ | found, cache⟩ <;> exact h.unseen rfl rfl
  · rw [attempt_ofExcept]
    exact h.refl w

theorem keeps_passes (s : Step) : Keeps R (passes s).attempt := by
  unfold passes
  split
  · exact Keeps.holds h s.condition
  · exact Keeps.attempt_pure h _

/-! ### Scripts -/

/-- A script keeps what the answers to its requests keep. -/
theorem keeps_perform {α : Type} {re : Reentry} {P : Request → Prop} (hP : ∀ r, P r → Keeps R (answer re r))
    {script : Script α} (hs : script.Asks P) : Keeps R (perform re script).attempt := by
  induction script with
  | done a => exact Keeps.attempt_pure h a
  | fail f => exact Keeps.attempt_throw h f
  | ask r next ih =>
    obtain ⟨hr, hnext⟩ := hs
    exact Keeps.attempt_bind h (Keeps.attempt_lift (hP r hr)) fun a => ih a (hnext a)

/-- What looks at the journal only is kept by whatever a handler does in its scope. -/
theorem keeps_answer {re : Reentry} (hjournal : ∀ {w v : World}, v.journal = w.journal → R w v)
    (hrule : ∀ key values, Keeps R (re.runRule key values).attempt) {r : Request}
    (hworkflow : ∀ name, r = .runWorkflow name → Keeps R (re.runWorkflow name)) : Keeps R (answer re r) := by
  cases r with
  | look => exact h.refl
  | setFlow x => exact fun _ => hjournal rfl
  | setState state => exact fun _ => hjournal rfl
  | change x =>
    intro w
    refine hjournal ?_
    show (w.change x).journal = w.journal
    unfold World.change
    split <;> rfl
  | cancel => exact fun _ => hjournal rfl
  | holds c => exact Keeps.holds h c
  | runRule key values => exact hrule key values
  | runWorkflow name => exact hworkflow name rfl

end

/-! ### Steps -/

/-- Handlers of a registry keep a relation when they are called by the engine. -/
structure Calls (set : Setting) (R : World → World → Prop) : Prop where
  rule {key : Option String} {rule : Rule} (hr : Registry.resolve set.services.registry.rules key 0 = .ok (some rule))
    (values : Value) : Keeps R (call set.reentry .rule key rule values).attempt
  validation {key : Option String} {validation : Validation}
    (hv : Registry.resolve set.services.registry.validations key 0 = .ok (some validation)) :
    Keeps R (call set.reentry .validation key validation .null).attempt

section

variable {R : World → World → Prop} (h : Followed R) (hcalls : Calls set R)

include h hcalls

theorem keeps_ruleStep (s : Step) : Keeps R (ruleStep set s).attempt := by
  intro w
  unfold ruleStep
  have hfind := keeps_findRule h set s.implementationKey w
  rw [findRule_run] at hfind
  rw [attempt_bind, findRule_run]
  rcases hr : Registry.resolve set.services.registry.rules s.implementationKey 0 with f | _ | rule
  · exact hfind
  · exact hfind
  · exact h.trans hfind (Keeps.attempt_bind h (hcalls.rule hr .null) (fun _ => Keeps.attempt_pure h _) _)

theorem keeps_verdict (s : Step) : Keeps R (verdict set s).attempt := by
  unfold verdict
  rcases s.mode
  · refine Keeps.attempt_bind h (Keeps.attempt_get h) fun w => ?_
    refine Keeps.attempt_bind h (Keeps.attempt_ofEval h _) fun judgement => ?_
    rcases judgement.remark with _ | remark
    · exact Keeps.attempt_pure h _
    · exact Keeps.attempt_bind h (Keeps.attempt_lift (Keeps.record h rfl)) fun _ => Keeps.attempt_pure h _
  · intro w
    have hfind := keeps_findValidation h set s.implementationKey w
    rw [findValidation_run] at hfind
    rw [attempt_bind, findValidation_run]
    rcases hv : Registry.resolve set.services.registry.validations s.implementationKey 0 with f | _ | validation
    · exact hfind
    · exact hfind
    · exact h.trans hfind (Keeps.attempt_bind h (hcalls.validation hv) (fun _ => Keeps.attempt_pure h _) _)

theorem keeps_validationStep (s : Step) : Keeps R (validationStep set s).attempt := by
  refine Keeps.attempt_bind h (keeps_verdict h hcalls s) fun passed => ?_
  cases passed
  · exact Keeps.attempt_bind h (Keeps.attempt_lift (Keeps.log h)) fun _ => Keeps.attempt_pure h _
  · exact Keeps.attempt_pure h _

omit hcalls in
theorem keeps_openSubFlow (s : Step) : Keeps R (openSubFlow set s).attempt := by
  refine Keeps.attempt_bind h (keeps_load h _ _ _) fun text => ?_
  refine Keeps.attempt_bind h (keeps_readDefinition h _ _) fun definition => ?_
  refine Keeps.attempt_bind h (Keeps.attempt_lift (Keeps.log h)) fun _ => ?_
  rcases definition with _ | workflow
  · exact Keeps.attempt_bind h (Keeps.attempt_lift (Keeps.log h)) fun _ => Keeps.attempt_pure h _
  · exact Keeps.attempt_pure h _

omit hcalls in
theorem keeps_openLoop (s : Step) : Keeps R (openLoop set s).attempt := by
  refine Keeps.attempt_bind h (Keeps.attempt_get h) fun w => ?_
  refine Keeps.attempt_bind h (Keeps.attempt_ofExcept h _) fun source => ?_
  rcases source with message | x
  · exact Keeps.attempt_pure h _
  · refine Keeps.attempt_bind h (keeps_load h _ _ _) fun text => ?_
    refine Keeps.attempt_bind h (keeps_readDefinition h _ _) fun definition => ?_
    refine Keeps.attempt_bind h (Keeps.attempt_ofEval h _) fun items => ?_
    refine Keeps.attempt_bind h (Keeps.attempt_lift (Keeps.log h)) fun _ => ?_
    rcases definition with _ | workflow
    · exact Keeps.attempt_bind h (Keeps.attempt_lift (Keeps.log h)) fun _ => Keeps.attempt_pure h _
    · exact Keeps.attempt_pure h _

theorem keeps_openKind (s : Step) : Keeps R (openKind set s).attempt := by
  unfold openKind
  rcases s.kind
  · exact Keeps.attempt_map (keeps_ruleStep h hcalls s) _
  · exact Keeps.attempt_map (keeps_validationStep h hcalls s) _
  · exact keeps_openSubFlow h s
  · exact keeps_openLoop h s

/-- What a step does by itself. -/
theorem keeps_openStep (s : Step) : Keeps R (openStep set s).attempt := by
  refine Keeps.attempt_bind h (keeps_passes h s) fun go => ?_
  cases go
  · exact Keeps.attempt_bind h (Keeps.attempt_lift (Keeps.log h)) fun _ => Keeps.attempt_pure h _
  · refine Keeps.attempt_bind h (Keeps.attempt_lift (Keeps.moveLogger h)) fun _ => ?_
    exact Keeps.attempt_bind h (Keeps.attempt_lift (Keeps.log h)) fun _ => keeps_openKind h hcalls s

/-- Running a rule outside of any workflow. -/
theorem keeps_runRule (key : Option String) (values : Value) : Keeps R (runRule set key values).attempt := by
  intro w
  unfold runRule
  have hfind := keeps_findRule h set key w
  rw [findRule_run] at hfind
  rw [attempt_bind, findRule_run]
  rcases hr : Registry.resolve set.services.registry.rules key 0 with f | _ | rule
  · exact hfind
  · exact hfind
  · refine h.trans hfind (Keeps.attempt_bind h (Keeps.attempt_tried (hcalls.rule hr values)) (fun r => ?_) _)
    rcases r with f | _
    · exact Keeps.attempt_throw h _
    · exact Keeps.attempt_pure h _

end

/-! ### Scopes -/

/-- For each number of levels that may be opened, a relation that can be followed through a run: also with calls of
handlers, and with what is done one level deeper. -/
structure Kept (set : Setting) (R : Nat → World → World → Prop) : Prop where
  followed (n : Nat) : Followed (R n)
  calls (n : Nat) : Calls set (R n)
  nested {n : Nat} {w v : World} (reference : String) :
    R n (w.record (.entered reference)) v → R (n + 1) w (v.record (.exited reference))

variable {R : Nat → World → World → Prop} {n : Nat} {s : Step}

/-- The scope of an item leaves the journal and the state to what is done in it. -/
theorem keeps_inChild {R : World → World → Prop} (h : Followed R) {α : Type} {body : Act α} (hbody : Keeps R body)
    (item : Value) : Keeps R (inChild item body) := by
  intro w
  have hinto : R w (w.intoItem item) := h.unseen rfl rfl
  rw [inChild_run]
  exact h.trans (h.trans hinto (hbody _)) (h.unseen rfl rfl)

theorem keeps_runItems {R : World → World → Prop} (h : Followed R) (set : Setting) {run : Workflow → Act Outcome} {c : Workflow}
    (hrun : Keeps R (run c)) (label : String) (k : Nat) (items : List Value) :
    Keeps R (runItems set run c label k items) := by
  induction items generalizing k with
  | nil => exact Keeps.pure h _
  | cons item items ih =>
    intro w
    by_cases hh : Halted set w
    · rw [runItems_halted hh]
      exact h.logged (h.refl w) _ _
    · have hitem := keeps_inChild h hrun item w
      rw [runItems_cons hh]
      dsimp only
      split
      · exact h.trans hitem (ih (k + 1) _)
      · exact h.logged hitem _ _

theorem keeps_runSteps {R : World → World → Prop} (h : Followed R) {deeper : Deeper}
    (hstep : ∀ s, Keeps R (runStep set deeper s)) (name : String) (steps : List Step) :
    Keeps R (runSteps set deeper name steps) := by
  induction steps with
  | nil => exact Keeps.pure h _
  | cons s rest ih =>
    intro w
    by_cases hh : Halted set w
    · rw [runSteps_halted hh]
      exact h.logged (h.refl w) _ _
    · rw [runSteps_cons hh]
      dsimp only
      split
      · exact h.trans (hstep s w) (ih _)
      · exact hstep s w

theorem keeps_runScope {R : World → World → Prop} (h : Followed R) {deeper : Deeper}
    (hstep : ∀ s, Keeps R (runStep set deeper s)) (c : Workflow) : Keeps R (runScope set deeper c) := by
  intro w
  rw [runScope_run]
  exact h.ended (h.trans (h.begun w c.name) (keeps_runSteps h hstep c.name c.steps _)) ..

/-- A step keeps what the scopes below it keep one level deeper. -/
theorem Kept.runStep (h : Kept set R) (n : Nat)
    (hscope : ∀ m, n = m + 1 → ∀ c, Keeps (R m) (scopeAt set m c)) (s : Step) :
    Keeps (R n) (runStep set (below set n) s) := by
  intro w
  have hn := h.followed n
  have hopen := keeps_openStep hn (h.calls n) s w
  rcases ho : (openStep set s).attempt.run w with ⟨f | outcome | c | ⟨c, items⟩, v⟩ <;> rw [ho] at hopen
  · rw [runStep_run, doStep, attempt_bind, ho]
    exact hn.record hopen rfl
  · rw [runStep_run, doStep, attempt_bind, ho]
    exact hopen
  · rcases n with _ | m
    · rw [runStep_run, doStep, attempt_bind, ho]
      exact hn.record hopen rfl
    · rw [runStep_inPlace ho]
      have hbody := hn.trans hopen (h.nested s.reference (hscope m rfl c _))
      dsimp only
      split
      · exact hn.logged (hn.logged hbody _ _) _ _
      · exact hn.logged hbody _ _
  · rcases n with _ | m
    · rw [runStep_run, doStep, attempt_bind, ho]
      exact hn.record hopen rfl
    · rw [runStep_onEach ho]
      have hitems := keeps_runItems (h.followed m) set (hscope m rfl c) s.displayName 0 items
      exact hn.logged (hn.trans hopen (h.nested s.reference (hitems _))) _ _

theorem Kept.scopeAt (h : Kept set R) (n : Nat) (c : Workflow) : Keeps (R n) (scopeAt set n c) := by
  induction n generalizing c with
  | zero =>
    rw [scopeAt_eq]
    exact keeps_runScope (h.followed 0) (h.runStep 0 nofun) c
  | succ n ih =>
    rw [scopeAt_eq]
    refine keeps_runScope (h.followed (n + 1)) (h.runStep (n + 1) ?_) c
    rintro m hm c
    cases hm
    exact ih c

/-! ### Runs -/

private theorem keeps_rejected {R : World → World → Prop} (h : Followed R) (f : Fault) : Keeps R (rejected f) := h.refl

theorem Kept.runDefinition (h : Kept set R) (text : String) : Keeps (R maxNesting) (runDefinition set text) := by
  have hR := h.followed maxNesting
  refine Keeps.bind hR (keeps_readDefinition hR _ text) fun r => ?_
  rcases r with f | _ | c
  · dsimp only
    split
    · exact Keeps.bind hR (Keeps.log hR) fun _ => keeps_rejected hR f
    · exact Keeps.bind hR (Keeps.logTraced hR) fun _ => keeps_rejected hR f
  · exact Keeps.pure hR _
  · exact h.scopeAt maxNesting c

theorem Kept.runNamed (h : Kept set R) (name : String) : Keeps (R maxNesting) (runNamed set name) := by
  have hR := h.followed maxNesting
  refine Keeps.bind hR (keeps_load hR _ name "Workflow") fun r => ?_
  rcases r with f | text
  · dsimp only
    split
    · exact Keeps.bind hR (Keeps.log hR) fun _ => keeps_rejected hR f
    · exact Keeps.bind hR (Keeps.logTraced hR) fun _ => keeps_rejected hR f
  · exact h.runDefinition text

theorem Kept.task (h : Kept set R) (t : Task) : Keeps (R maxNesting) (task set t) := by
  cases t with
  | definition text => exact h.runDefinition text
  | named name => exact h.runNamed name

end Run
end FlowRules
