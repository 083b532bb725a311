import FlowRules.Proofs.Check.Still
import FlowRules.Proofs.Run.Opening

/-!
# What runs without handlers leave alone

Where no step calls a handler and no value has sources, a run changes nothing that a handler could tell.  Main statement:
the scope of a workflow that reaches no handler leaves a still world like itself, at every depth of sub-flows and loops,
and whether it succeeds, fails or is cancelled (`Run.quiet_scopeAt`).  The scope of an item is left behind as a whole
(`World.Still.outOfItem`).
-/

namespace FlowRules

open World (Alike)

/-! ### Worlds -/

/-- A world in which no container has been changed, and no value is a source or has one in it. -/
structure World.Still (w : World) : Prop where
  coherent : w.Coherent
  unchanged : w.memory = []
  flow : w.flow.Sourceless
  state : ∀ e ∈ w.state, e.2.Sourceless

namespace World.Still

variable {w v : World} {item : Value}

theorem alike (hw : w.Still) (h : Alike w v) : v.Still := by
  have hflow : v.flow = w.flow := congrArg Scope.flow h.scope.symm
  have hstate : v.state = w.state := congrArg Scope.state h.scope.symm
  exact ⟨h.right, h.memory ▸ hw.unchanged, hflow ▸ hw.flow, hstate ▸ hw.state⟩

theorem environment (hw : w.Still) : (World.environment w.toScope).Sourceless := by
  refine ⟨hw.flow, Value.sourceless_of_parts nofun fun u hu => ?_⟩
  obtain ⟨_, hentry, hu⟩ := List.mem_flatMap.1 hu
  obtain ⟨e, he, rfl⟩ := List.mem_map.1 hentry
  rcases List.mem_pair.1 hu with rfl | rfl
  · exact Value.sourceless_atom _
  · exact hw.state e he

/-- Where no container has been changed, every value is the latest. -/
theorem latest (hw : w.Still) (v : Value) : w.latest v = v := by
  unfold World.latest
  rw [hw.unchanged]
  rfl

theorem intoItem (hw : w.Still) (hitem : item.Sourceless) : (w.intoItem item).Still := by
  refine ⟨⟨hw.coherent.conditions, hw.coherent.definitions, hw.coherent.memory⟩, hw.unchanged, ?_, hw.state⟩
  show (w.latest item).Sourceless
  rw [hw.latest]
  exact hitem

/-- What leaves the scope of an item as it is leaves the scope around it as it is. -/
theorem outOfItem (hw : w.Still) (hitem : item.Sourceless) (h : Alike (w.intoItem item) v) :
    Alike w (v.outOfItem w) := by
  have hback : (w.intoItem item).outOfItem w = w := by
    have hflow : (w.intoItem item).latest w.flow = w.flow := (hw.intoItem hitem).latest w.flow
    unfold World.outOfItem
    rw [hflow]
    rfl
  have hout : Alike ((w.intoItem item).outOfItem w) (v.outOfItem w) := h.outOfItem rfl
  rw [hback] at hout
  exact hout

end World.Still

/-! ### Actions -/

namespace Act

variable {α β : Type} {P : α → Prop} {Q : β → Prop}

/-- An action leaves a still world like itself, and gives what satisfies a predicate. -/
def Quiet (P : α → Prop) (a : Act α) : Prop := ∀ w, w.Still → P (a.run w).1 ∧ Alike w (a.run w).2

/-- An action leaves a still world like itself. -/
abbrev LeavesAlike (a : Act α) : Prop := Quiet (fun _ => True) a

theorem Quiet.pure {x : α} (hx : P x) : Quiet P (Pure.pure x : Act α) := fun _ hw => ⟨hx, Alike.refl hw.coherent⟩

theorem Quiet.bind {a : Act α} {f : α → Act β} (ha : Quiet P a) (hf : ∀ x, P x → Quiet Q (f x)) :
    Quiet Q (a >>= f) := by
  intro w hw
  obtain ⟨hx, hv⟩ := ha w hw
  obtain ⟨hy, hu⟩ := hf _ hx _ (hw.alike hv)
  exact ⟨hy, hv.trans hu⟩

theorem Quiet.get : Quiet World.Still (get : Act World) := fun _ hw => ⟨hw, Alike.refl hw.coherent⟩

theorem Quiet.record {e : Event} (he : e.isCall = false) : LeavesAlike (record e) :=
  fun _ hw => ⟨trivial, World.alike_record hw.coherent he⟩

theorem Quiet.log (level : LogLevel) (message : String) : LeavesAlike (log level message) :=
  fun _ hw => ⟨trivial, World.alike_logged hw.coherent level message⟩

theorem Quiet.logTraced (message : String) : LeavesAlike (logTraced message) :=
  fun _ hw => ⟨trivial, World.alike_record hw.coherent rfl⟩

theorem Quiet.moveLogger (f : ScopedLogger → ScopedLogger) : LeavesAlike (moveLogger f) :=
  fun w hw => ⟨trivial, World.alike_logger hw.coherent (f w.logger)⟩

end Act

open Act (LeavesAlike)

namespace Run

variable {α β : Type} {P : α → Prop} {Q : β → Prop} {r : Run α} {k : α → Run β}

/-- An action that can fail leaves a still world like itself, also when it fails, and what it gives satisfies a
predicate. -/
def Quiet (P : α → Prop) (r : Run α) : Prop := Act.Quiet (fun e => ∀ a, e = .ok a → P a) r.attempt

theorem Quiet.pure {a : α} (ha : P a) : Quiet P (Pure.pure a : Run α) := by
  refine Act.Quiet.pure fun b hb => ?_
  cases hb
  exact ha

theorem Quiet.throw (f : Fault) : Quiet P (throw f : Run α) := Act.Quiet.pure (x := Except.error f) nofun

theorem Quiet.bind (hr : Quiet P r) (hk : ∀ a, P a → Quiet Q (k a)) : Quiet Q (r >>= k) := by
  intro w hw
  obtain ⟨ha, hv⟩ := hr w hw
  rw [attempt_bind]
  rcases h : r.attempt.run w with ⟨f | a, v⟩ <;> rw [h] at ha hv
  · exact ⟨nofun, hv⟩
  · obtain ⟨hb, hu⟩ := hk a (ha a rfl) v (hw.alike hv)
    exact ⟨hb, hv.trans hu⟩

theorem Quiet.get : Quiet World.Still (getThe World : Run World) := by
  refine fun w hw => ⟨fun a ha => ?_, Alike.refl hw.coherent⟩
  cases ha
  exact hw

theorem Quiet.lift {a : Act α} (ha : Act.Quiet P a) : Quiet P (liftM a : Run α) := by
  intro w hw
  obtain ⟨hx, hv⟩ := ha w hw
  refine ⟨fun b hb => ?_, hv⟩
  cases hb
  exact hx

theorem Quiet.ofExcept {e : Except Fault α} (he : ∀ a, e = .ok a → P a) : Quiet P (ofExcept e) := by
  intro w hw
  rw [attempt_ofExcept]
  exact ⟨he, Alike.refl hw.coherent⟩

theorem Quiet.ofEval {e : Eval α} (he : e.Still P) : Quiet P (ofEval e) := by
  intro w hw
  obtain ⟨htaken, hok⟩ := he w.cursors
  rw [attempt_ofEval, htaken]
  exact ⟨hok, Alike.refl hw.coherent⟩

/-- A row that is logged first changes nothing. -/
theorem Quiet.afterLog {level : LogLevel} {message : String} {k : Unit → Run α} (hk : Quiet P (k ())) :
    Quiet P (liftM (Act.log level message) >>= k) := (Quiet.lift (Act.Quiet.log level message)).bind fun _ _ => hk

theorem Quiet.map {f : α → β} (hr : Quiet P r) (hf : ∀ a, P a → Q (f a)) : Quiet Q (f <$> r) :=
  hr.bind fun a ha => Quiet.pure (hf a ha)

end Run

/-! ### Workflows without handlers -/

namespace Services

/-- A workflow reaches itself, and all that is reached by what its sub-flows and loops run. -/
inductive Reaches (services : Services) : Workflow → Workflow → Prop where
  | refl (c : Workflow) : Reaches services c c
  | step {c d e : Workflow} {s : Step} (hs : s ∈ c.steps) (hk : s.kind.runsWorkflow = true)
    (hd : services.Defines s.reference (some d)) (h : Reaches services d e) : Reaches services c e

/-- A workflow and all that it reaches have simple validations, sub-flows and loops only. -/
def HandlerFree (services : Services) (c : Workflow) : Prop :=
  ∀ d, services.Reaches c d → ∀ s ∈ d.steps, s.isDeclarative = true ∨ s.kind.runsWorkflow = true

variable {services : Services} {c d : Workflow} {s : Step}

theorem HandlerFree.step (h : services.HandlerFree c) (hs : s ∈ c.steps) (hk : s.kind.runsWorkflow = true)
    (hd : services.Defines s.reference (some d)) : services.HandlerFree d :=
  fun e he => h e (.step hs hk hd he)

/-- Workflows none of which has a handler have none together, if they reach nothing but one another. -/
theorem handlerFree_of_closed {S : Workflow → Prop}
    (hS : ∀ c, S c → ∀ s ∈ c.steps, s.isDeclarative = true ∨
      s.kind.runsWorkflow = true ∧ ∀ d, services.Defines s.reference (some d) → S d) (hc : S c) :
    services.HandlerFree c := by
  intro d hd
  induction hd with
  | refl c => exact fun s hs => (hS c hc s hs).imp_right And.left
  | step hs hk hd _ ih =>
    rcases hS _ hc _ hs with hdecl | ⟨-, hnext⟩
    · -- a step that is declarative runs no workflow
      rw [Step.isDeclarative, Bool.and_eq_true, decide_eq_true_iff] at hdecl
      rw [hdecl.1] at hk
      cases hk
    · exact ih (hnext _ hd)

end Services

namespace Run

variable {set : Setting}

/-- What a step comes to has no handlers and no sources. -/
def Opening.Free (services : Services) : Opening → Prop
  | .done _ => True
  | .inPlace c => services.HandlerFree c
  | .onEach c items => services.HandlerFree c ∧ ∀ item ∈ items, item.Sourceless

/-! ### Looking things up -/

theorem quiet_load (set : Setting) (name role : String) :
    Quiet (fun text => ∀ d, Definition.read text = .ok d → set.services.Defines name d) (load set name role) := by
  unfold load
  rcases hrepository : set.services.repository with _ | repository
  · exact Quiet.throw _
  · refine (Quiet.lift (Act.Quiet.record rfl)).bind fun _ _ => ?_
    refine (Quiet.ofExcept (P := fun found => repository.find name = .ok found) fun _ h => h).bind ?_
    rintro (_ | text) hfind
    · dsimp only
      split
      · exact Quiet.throw _
      · exact (Quiet.lift (Act.Quiet.record rfl)).bind fun _ _ => Quiet.throw _
    · dsimp only
      split
      · exact Quiet.throw _
      · exact Quiet.pure fun d hread => ⟨repository, text, hrepository, hfind, hread⟩

theorem quiet_readDefinition (set : Setting) (text : String) :
    Quiet (fun d => Definition.read text = .ok d) (readDefinition set text) := by
  intro w hw
  obtain ⟨hread, hv⟩ := readDefinition_spec hw.coherent set text
  exact ⟨fun d hd => hread ▸ hd, hv⟩

theorem quiet_holds (c : Option String) : Quiet (fun _ => True) (holds c) := by
  intro w hw
  have hv := (Act.holds_spec hw.coherent c).2
  rw [Condition.verdict_still hw.environment] at hv
  exact ⟨fun _ _ => trivial, hv⟩

theorem quiet_passes (s : Step) : Quiet (fun _ => True) (passes s) := by
  unfold passes
  split
  · exact quiet_holds s.condition
  · exact Quiet.pure trivial

/-! ### Steps -/

theorem quiet_validationStep {s : Step} (hs : s.mode = .simple) : Quiet (fun _ => True) (validationStep set s) := by
  have hverdict : Quiet (fun _ => True) (verdict set s) := by
    unfold verdict
    rw [hs]
    refine Quiet.get.bind fun w hw => (Quiet.ofEval (Step.still_judge _ s hw.flow)).bind fun judgement _ => ?_
    rcases judgement.remark with _ | remark
    · exact Quiet.pure trivial
    · exact (Quiet.lift (Act.Quiet.record rfl)).bind fun _ _ => Quiet.pure trivial
  refine hverdict.bind fun passed _ => ?_
  cases passed
  · exact Quiet.afterLog (Quiet.pure trivial)
  · exact Quiet.pure trivial

/-- The collection of a loop is found in the flow object. -/
theorem sourceless_loopSource {flow x : Value} (hflow : flow.Sourceless) {property : String}
    (h : loopSource flow property = .ok (.collection x)) : x.Sourceless := by
  unfold loopSource at h
  split at h
  · cases h
  · rcases hf : flow.field? property with f | _ | y <;> rw [hf] at h
    · cases h
    · cases h
    · dsimp only [bind, Except.bind] at h
      split at h <;> cases h
      exact hflow.field hf

section

variable {s : Step} (hfree : ∀ c, set.services.Defines s.reference (some c) → set.services.HandlerFree c)

include hfree

theorem quiet_openSubFlow : Quiet (Opening.Free set.services) (openSubFlow set s) := by
  refine (quiet_load _ _ _).bind fun text hload => (quiet_readDefinition set text).bind fun definition hread => ?_
  refine Quiet.afterLog ?_
  rcases definition with _ | c
  · exact Quiet.afterLog (Quiet.pure trivial)
  · exact Quiet.pure (hfree c (hload _ hread))

theorem quiet_openLoop : Quiet (Opening.Free set.services) (openLoop set s) := by
  -- the collection and its items are found in the flow object, so they have no sources either
  refine Quiet.get.bind fun w hw => ?_
  refine (Quiet.ofExcept (P := fun source => ∀ x, source = .collection x → x.Sourceless) ?_).bind ?_
  · rintro _ hsource x rfl
    exact sourceless_loopSource hw.flow hsource
  · rintro (message | x) hx
    · exact Quiet.pure trivial
    · refine (quiet_load _ _ _).bind fun text hload => (quiet_readDefinition set text).bind fun definition hread => ?_
      refine (Quiet.ofEval (Eval.still_allItems (hx x rfl))).bind fun items hitems => ?_
      refine Quiet.afterLog ?_
      rcases definition with _ | c
      · exact Quiet.afterLog (Quiet.pure trivial)
      · exact Quiet.pure ⟨hfree c (hload _ hread), hitems⟩

end

/-- What a step of a workflow without handlers does by itself. -/
theorem quiet_openStep {c : Workflow} (hc : set.services.HandlerFree c) {s : Step} (hs : s ∈ c.steps) :
    Quiet (Opening.Free set.services) (openStep set s) := by
  have hkind : Quiet (Opening.Free set.services) (openKind set s) := by
    unfold openKind
    rcases hc c (.refl c) s hs with hdecl | hk
    · rw [Step.isDeclarative, Bool.and_eq_true, decide_eq_true_iff, decide_eq_true_iff] at hdecl
      rw [hdecl.1]
      exact (quiet_validationStep hdecl.2).map fun _ _ => trivial
    · have hnext := fun d => hc.step (d := d) hs hk
      rcases hkind : s.kind <;> rw [hkind] at hk
      · cases hk
      · cases hk
      · exact quiet_openSubFlow hnext
      · exact quiet_openLoop hnext
  refine (quiet_passes s).bind fun go _ => ?_
  cases go
  · exact Quiet.afterLog (Quiet.pure trivial)
  · refine (Quiet.lift (Act.Quiet.moveLogger _)).bind fun _ _ => ?_
    exact Quiet.afterLog hkind

/-! ### Scopes -/

theorem quiet_inChild {α : Type} {item : Value} (hitem : item.Sourceless) {body : Act α} (hbody : LeavesAlike body) :
    LeavesAlike (inChild item body) := by
  intro w hw
  rw [inChild_run]
  exact ⟨trivial, hw.outOfItem hitem (hbody _ (hw.intoItem hitem)).2⟩

theorem quiet_runItems {run : Workflow → Act Outcome} {c : Workflow} (hrun : LeavesAlike (run c)) (label : String)
    {items : List Value} (hitems : ∀ item ∈ items, item.Sourceless) (k : Nat) :
    LeavesAlike (runItems set run c label k items) := by
  induction items generalizing k with
  | nil => exact Act.Quiet.pure trivial
  | cons item items ih =>
    obtain ⟨hitem, hrest⟩ := List.forall_mem_cons.1 hitems
    refine Act.Quiet.get.bind fun w _ => ?_
    split
    · exact (Act.Quiet.log _ _).bind fun _ _ => Act.Quiet.pure trivial
    · refine (quiet_inChild hitem hrun).bind fun outcome _ => ?_
      split
      · exact ih hrest (k + 1)
      · exact (Act.Quiet.log _ _).bind fun _ _ => Act.Quiet.pure trivial

/-- What runs workflows one level deeper leaves still worlds like themselves, if the workflows have no handlers. -/
def Deeper.LeavesAlike (services : Services) : Deeper → Prop
  | none => True
  | some run => ∀ c, services.HandlerFree c → (run c).LeavesAlike

variable {deeper : Deeper} (hdeeper : Deeper.LeavesAlike set.services deeper)

include hdeeper

theorem quiet_nested {α : Type} (reference : String) {body : (Workflow → Act Outcome) → Act α}
    (hbody : ∀ run, (∀ c, set.services.HandlerFree c → LeavesAlike (run c)) → LeavesAlike (body run)) :
    Quiet (fun _ => True) (nested deeper reference body) := by
  rcases deeper with _ | run
  · exact Quiet.throw _
  · refine (Quiet.lift (Act.Quiet.record rfl)).bind fun _ _ => ?_
    refine (Quiet.lift (hbody run hdeeper)).bind fun a _ => ?_
    exact (Quiet.lift (Act.Quiet.record rfl)).bind fun _ _ => Quiet.pure trivial

theorem quiet_proceed (s : Step) {o : Opening} (ho : o.Free set.services) :
    Quiet (fun _ => True) (proceed set deeper s o) := by
  rcases o with outcome | c | ⟨c, items⟩
  · exact Quiet.pure trivial
  · refine (quiet_nested hdeeper s.reference fun run hrun => hrun c ho).bind fun outcome _ => ?_
    dsimp only
    split
    · exact Quiet.afterLog (Quiet.afterLog (Quiet.pure trivial))
    · exact Quiet.afterLog (Quiet.pure trivial)
  · refine (quiet_nested hdeeper s.reference fun run hrun => ?_).bind fun outcome _ => ?_
    · exact quiet_runItems (hrun c ho.1) s.displayName ho.2 0
    · exact Quiet.afterLog (Quiet.pure trivial)

theorem quiet_runStep {c : Workflow} (hc : set.services.HandlerFree c) {s : Step} (hs : s ∈ c.steps) :
    LeavesAlike (runStep set deeper s) := by
  have hdo : Quiet (fun _ => True) (doStep set deeper s) :=
    (quiet_openStep hc hs).bind fun o ho => quiet_proceed hdeeper s ho
  refine Act.Quiet.bind hdo fun r _ => ?_
  rcases r with f | outcome
  · exact (Act.Quiet.logTraced _).bind fun _ _ => Act.Quiet.pure trivial
  · exact Act.Quiet.pure trivial

theorem quiet_runSteps {c : Workflow} (hc : set.services.HandlerFree c) (name : String) {steps : List Step}
    (hsteps : ∀ s ∈ steps, s ∈ c.steps) : LeavesAlike (runSteps set deeper name steps) := by
  induction steps with
  | nil => exact Act.Quiet.pure trivial
  | cons s rest ih =>
    obtain ⟨hs, hrest⟩ := List.forall_mem_cons.1 hsteps
    refine Act.Quiet.get.bind fun w _ => ?_
    split
    · exact (Act.Quiet.log _ _).bind fun _ _ => Act.Quiet.pure trivial
    · refine (quiet_runStep hdeeper hc hs).bind fun outcome _ => ?_
      split
      · exact ih hrest
      · exact Act.Quiet.pure trivial

theorem quiet_runScope {c : Workflow} (hc : set.services.HandlerFree c) : LeavesAlike (runScope set deeper c) := by
  intro w hw
  have hbegun := World.alike_begun hw.coherent c.name
  have hsteps := (quiet_runSteps hdeeper hc c.name (fun s hs => hs) _ (hw.alike hbegun)).2
  rw [runScope_run]
  exact ⟨trivial, (hbegun.trans hsteps).trans (World.alike_ended hsteps.right ..)⟩

omit hdeeper in
/-- A workflow without handlers leaves a still world like itself. -/
theorem quiet_scopeAt (n : Nat) {c : Workflow} (hc : set.services.HandlerFree c) : LeavesAlike (scopeAt set n c) := by
  -- what the steps of the workflow open has one level less
  induction n generalizing c with
  | zero =>
    have hnone : Deeper.LeavesAlike set.services none := trivial
    exact quiet_runScope hnone hc
  | succ n ih =>
    have hbelow : Deeper.LeavesAlike set.services (some (scopeAt set n)) := fun c hc => ih hc
    exact quiet_runScope hbelow hc

end Run
end FlowRules
