import FlowRules.Proofs.Run.Spans

/-!
# What the log tells

From one world to a later one the log has got texts that open or close something, and the logger may have moved.  Three
relations say what has been told and where the logger is: `World.Murmurs` where nothing has been told and the logger stays
as it is, `World.UnfoldsAtStep` where it may have lost its step to scopes that have been run, and `World.Unfolds` where it
is still in its workflow.  The
parts of the engine that look up, read and evaluate open and close nothing.
-/

namespace FlowRules

/-! ### The logger -/

namespace ScopedLogger

/-- The logger in its workflow, at no step. -/
def withoutStep (l : ScopedLogger) : ScopedLogger := { l with context := { l.context with step := none } }

theorem inScope_withoutStep (l : ScopedLogger) (workflow : String) :
    l.withoutStep.inScope workflow = l.inScope workflow := rfl

/-- Behind a scope the logger is in the workflow around it. -/
theorem leaving_inScope (l : ScopedLogger) (workflow : String) :
    (l.inScope workflow).leaving l.context.workflow = l.withoutStep := by
  obtain ⟨name, executionId, _ | previous, step⟩ := l
  · rfl
  · rfl

end ScopedLogger

/-! ### Stretches of events -/

namespace Event

/-- A row tells that a level has been refused to a step. -/
def TellsLimit (events : List Event) : Prop :=
  ∃ (row : LogRow) (step : Step), .logged row ∈ events ∧ row.level = .error ∧
    row.message = "Error in " ++ step.displayName ++ ": " ++ step.tooDeep.message

/-- A stretch of events tells of some spans, and of the limit if one of them is refused. -/
structure Tells (events : List Event) (s : Spans) : Prop where
  texts : brackets events = s.texts
  limit : s.complete = true ∨ TellsLimit events

variable {es fs : List Event} {s t : Spans}

theorem TellsLimit.of_subset (h : TellsLimit es) (hsub : ∀ e ∈ es, e ∈ fs) : TellsLimit fs := by
  obtain ⟨row, step, hrow, htext⟩ := h
  exact ⟨row, step, hsub _ hrow, htext⟩

theorem Tells.of_murmur (h : brackets es = []) : Tells es .nil := ⟨h, Or.inl rfl⟩

theorem Tells.append (h : Tells es s) (h' : Tells fs t) : Tells (es ++ fs) (s ++ t) := by
  constructor
  · rw [brackets_append, h.texts, h'.texts, Spans.texts_append]
  · rw [Spans.complete_append]
    rcases h.limit with hs | hs
    · rcases h'.limit with ht | ht
      · exact Or.inl (by rw [hs, ht]; rfl)
      · exact Or.inr (ht.of_subset fun e he => List.mem_append_right _ he)
    · exact Or.inr (hs.of_subset fun e he => List.mem_append_left _ he)

end Event

/-! ### From one world to a later one -/

namespace World

variable {w v u z : World} {s t inner : Spans} {l : Level} {e : Event}

/-- From one world to a later one nothing is told that opens or closes something, and the logger stays as it is. -/
structure Murmurs (w v : World) : Prop where
  wrote : ∃ es, w.Wrote es v ∧ Event.brackets es = []
  logger : v.logger = w.logger

theorem Murmurs.of_eq (hjournal : v.journal = w.journal) (hlogger : v.logger = w.logger) : Murmurs w v :=
  ⟨⟨[], Wrote.nil hjournal, rfl⟩, hlogger⟩

theorem Murmurs.refl (w : World) : Murmurs w w := Murmurs.of_eq rfl rfl

theorem Murmurs.trans (h : Murmurs w v) (h' : Murmurs v u) : Murmurs w u := by
  obtain ⟨es, hes, htexts⟩ := h.wrote
  obtain ⟨fs, hfs, hmore⟩ := h'.wrote
  refine ⟨⟨es ++ fs, hes.append hfs, ?_⟩, h'.logger.trans h.logger⟩
  rw [Event.brackets_append, htexts, hmore]
  rfl

theorem Murmurs.record (w : World) (he : Event.brackets [e] = []) : Murmurs w (w.record e) :=
  ⟨⟨[e], Wrote.single w e, he⟩, rfl⟩

/-- A row at another level than that of information. -/
theorem Murmurs.logged (w : World) {level : LogLevel} (h : level ≠ .info) (message : String) :
    Murmurs w (w.logged level message) := Murmurs.record w (Event.brackets_logged_of_ne h)

theorem Murmurs.raised (w : World) (step : Step) (f : Fault) : Murmurs w (w.raised step f) :=
  Murmurs.record w (Event.brackets_logged_of_ne (show LogLevel.error ≠ .info by decide))

theorem Murmurs.entered (w : World) (step : Step) : Murmurs w (w.record (.entered step.reference)) :=
  Murmurs.record w rfl

/-- From one world to a later one at the same step the log tells of some spans.  The logger has forgotten the step if
there are scopes among them. -/
structure UnfoldsAtStep (w : World) (s : Spans) (v : World) : Prop where
  wrote : ∃ es, w.Wrote es v ∧ Event.Tells es s
  logger : v.logger = if s.scopes = .nil then w.logger else w.logger.withoutStep

theorem Murmurs.atStep (h : Murmurs w v) : UnfoldsAtStep w .nil v := by
  obtain ⟨es, hes, htexts⟩ := h.wrote
  exact ⟨⟨es, hes, Event.Tells.of_murmur htexts⟩, h.logger⟩

theorem UnfoldsAtStep.of_eq (hjournal : v.journal = w.journal) (hlogger : v.logger = w.logger) :
    UnfoldsAtStep w .nil v := (Murmurs.of_eq hjournal hlogger).atStep

theorem UnfoldsAtStep.trans (h : UnfoldsAtStep w s v) (h' : UnfoldsAtStep v t u) : UnfoldsAtStep w (s ++ t) u := by
  obtain ⟨es, hes, hs⟩ := h.wrote
  obtain ⟨fs, hfs, ht⟩ := h'.wrote
  refine ⟨⟨es ++ fs, hes.append hfs, hs.append ht⟩, ?_⟩
  rw [h'.logger, h.logger, Spans.scopes_append]
  by_cases hnil : s.scopes = .nil
  · rw [hnil]
    rfl
  · have happend : s.scopes ++ t.scopes ≠ .nil := fun h => hnil (Spans.append_eq_nil.1 h).1
    rw [if_neg hnil, if_neg happend]
    split <;> rfl

theorem UnfoldsAtStep.murmurs (h : UnfoldsAtStep w s v) (h' : Murmurs v u) : UnfoldsAtStep w s u := by
  have htrans := h.trans h'.atStep
  rwa [Spans.append_nil] at htrans

theorem Murmurs.then (h : Murmurs w v) (h' : UnfoldsAtStep v s u) : UnfoldsAtStep w s u := h.atStep.trans h'

/-- From one world to a later one in the same scope the log tells of some spans. -/
structure Unfolds (w : World) (s : Spans) (v : World) : Prop where
  wrote : ∃ es, w.Wrote es v ∧ Event.Tells es s
  place : v.logger.withoutStep = w.logger.withoutStep

theorem UnfoldsAtStep.unfolds (h : UnfoldsAtStep w s v) : Unfolds w s v := by
  refine ⟨h.wrote, ?_⟩
  rw [h.logger]
  split <;> rfl

theorem Murmurs.unfolds (h : Murmurs w v) : Unfolds w .nil v := h.atStep.unfolds

theorem Unfolds.refl (w : World) : Unfolds w .nil w := (Murmurs.refl w).unfolds

theorem Unfolds.trans (h : Unfolds w s v) (h' : Unfolds v t u) : Unfolds w (s ++ t) u := by
  obtain ⟨es, hes, hs⟩ := h.wrote
  obtain ⟨fs, hfs, ht⟩ := h'.wrote
  exact ⟨⟨es ++ fs, hes.append hfs, hs.append ht⟩, h'.place.trans h.place⟩

theorem Unfolds.murmurs (h : Unfolds w s v) (h' : Murmurs v u) : Unfolds w s u := by
  have htrans := h.trans h'.unfolds
  rwa [Spans.append_nil] at htrans

/-! ### Levels -/

/-- From one world to a later one in the same scope, a level is opened and nothing else. -/
def Opens (w : World) (l : Level) (v : World) : Prop := ∃ z, Unfolds w .nil z ∧ v = z.logged .info l.opening

theorem Unfolds.opens (h : Unfolds w .nil v) (h' : Opens v l u) : Opens w l u := by
  obtain ⟨z, hz, rfl⟩ := h'
  exact ⟨z, h.trans hz, rfl⟩

theorem Opens.wrote (h : Opens w l v) : ∃ es, w.Wrote es v ∧ Event.brackets es = [l.opening] := by
  obtain ⟨z, hz, rfl⟩ := h
  obtain ⟨es, hes, ht⟩ := hz.wrote
  refine ⟨_, hes.append (Wrote.single z _), ?_⟩
  rw [Event.brackets_append, ht.texts, Event.brackets_row _ (LogMessage.isBracket_opening l)]
  rfl

theorem Opens.place (h : Opens w l v) : v.logger.withoutStep = w.logger.withoutStep := by
  obtain ⟨z, hz, rfl⟩ := h
  exact hz.place

/-- A level that is opened is closed behind what is done in it. -/
theorem Opens.close (h : Opens w l v) (hinner : Unfolds v inner u) :
    Unfolds w (.level l inner .nil) (u.logged .info l.closing) := by
  obtain ⟨es, hes, hopening⟩ := h.wrote
  obtain ⟨fs, hfs, ht⟩ := hinner.wrote
  refine ⟨⟨_, (hes.append hfs).append (Wrote.single u _), ?_, ?_⟩, hinner.place.trans h.place⟩
  · rw [Event.brackets_append, Event.brackets_append, hopening, ht.texts,
      Event.brackets_row _ (LogMessage.isBracket_closing l)]
    rfl
  · rw [Spans.complete]
    refine ht.limit.imp (fun hcomplete => ?_) fun hlimit => hlimit.of_subset fun e he => ?_
    · rw [hcomplete]
      rfl
    · exact List.mem_append_left _ (List.mem_append_right _ he)

theorem Opens.leftSubFlow {step : Step} (h : Opens w step.subFlowLevel v) (hbody : Unfolds v t u) (o : Outcome) :
    Unfolds w (.level step.subFlowLevel t .nil) (u.leftSubFlow step o) := by
  have hexited := hbody.murmurs (Murmurs.record u (e := .exited step.reference) rfl)
  unfold World.leftSubFlow
  dsimp only
  split
  · exact h.close (hexited.murmurs (Murmurs.logged _ (by decide) _))
  · exact h.close hexited

theorem Opens.leftLoop {step : Step} {count : Nat} (h : Opens w (step.loopLevel count) v) (hbody : Unfolds v t u) :
    Unfolds w (.level (step.loopLevel count) t .nil) (u.leftLoop step) :=
  h.close (hbody.murmurs (Murmurs.record u rfl))

/-- A level that is refused to a step stays open, and the limit is told. -/
theorem Opens.refuse (h : Opens w l v) (step : Step) : Unfolds w (.refused l .nil) (v.raised step step.tooDeep) := by
  obtain ⟨es, hes, hopening⟩ := h.wrote
  refine ⟨⟨_, hes.append (Wrote.single v _), ?_, ?_⟩, h.place⟩
  · rw [Event.brackets_append, hopening, Event.brackets_logged_of_ne (show LogLevel.error ≠ .info by decide)]
    rfl
  · exact Or.inr ⟨_, step, List.mem_append_right _ List.mem_cons_self, rfl, rfl⟩

/-! ### Scopes -/

/-- A scope is told by its beginning, what its steps tell, and its end, and puts the logger back into the workflow around
it. -/
theorem Unfolds.scope {name : String} (h : Unfolds (w.begun name) t v) (succeeded : Bool) :
    UnfoldsAtStep w (.scope name succeeded t .nil) (v.ended name succeeded w.logger.context.workflow) := by
  obtain ⟨es, hes, ht⟩ := h.wrote
  let starting : LogRow := (w.logger.inScope name).row .info (LogMessage.scopeStarted name) false
  let ending : LogRow := (v.logger.inScope name).row .info (LogMessage.scopeEnded name succeeded) false
  have hbegun : Wrote w [.started name w.toScope, .logged starting] (w.begun name) := rfl
  have hended : Wrote v [.logged ending, .ended name succeeded] (v.ended name succeeded w.logger.context.workflow) := rfl
  refine ⟨⟨_, (hbegun.append hes).append hended, ?_, ?_⟩, ?_⟩
  · have hstarting : LogMessage.isBracket starting.message = true :=
      LogMessage.isBracket_of_tellsScope (LogMessage.tellsScope_scopeStarted name)
    have hending : LogMessage.isBracket ending.message = true :=
      LogMessage.isBracket_of_tellsScope (LogMessage.tellsScope_scopeEnded name succeeded)
    have hbefore : Event.brackets [.started name w.toScope, .logged starting] = [LogMessage.scopeStarted name] :=
      Event.brackets_logged rfl hstarting
    have hafter : Event.brackets [.logged ending, .ended name succeeded] = [LogMessage.scopeEnded name succeeded] :=
      Event.brackets_logged rfl hending
    rw [Event.brackets_append, Event.brackets_append, hbefore, ht.texts, hafter]
    rfl
  · rw [Spans.complete]
    refine ht.limit.imp (fun hcomplete => ?_) fun hlimit => hlimit.of_subset fun e he => ?_
    · rw [hcomplete]
      rfl
    · exact List.mem_append_left _ (List.mem_append_right _ he)
  · have hplace : v.logger.inScope name = w.logger.inScope name := by
      rw [← v.logger.inScope_withoutStep name, h.place]
      rfl
    show (v.logger.inScope name).leaving w.logger.context.workflow = w.logger.withoutStep
    rw [hplace, ScopedLogger.leaving_inScope]

end World

/-! ### Actions that open and close nothing -/

namespace Act

open World (UnfoldsAtStep Murmurs)

variable {α β : Type}

/-- What an action opens and closes, by the world from which it is carried out. -/
def Unfolds (a : Act α) (spans : World → Spans) : Prop := ∀ w, UnfoldsAtStep w (spans w) (a.run w).2

/-- An action that opens and closes nothing. -/
abbrev IsMurmur (a : Act α) : Prop := ∀ w, Murmurs w (a.run w).2

theorem IsMurmur.log {level : LogLevel} (h : level ≠ .info) (message : String) : IsMurmur (log level message) :=
  fun w => Murmurs.logged w h message

theorem IsMurmur.holds (c : Option String) : IsMurmur (holds c) := by
  intro w
  by_cases hb : ConditionCache.isBlankCondition c = true
  · rw [holds_blank hb]
    exact Murmurs.refl w
  · rw [holds_run hb]
    dsimp only
    split
    · refine ⟨⟨[.evaluated (c.getD "") w.toScope, .logged _], rfl, ?_⟩, rfl⟩
      exact (Event.brackets_append [_] [_]).trans (Event.brackets_logged_of_ne (show LogLevel.debug ≠ .info by decide))
    · exact ⟨⟨[.evaluated (c.getD "") w.toScope], rfl, rfl⟩, rfl⟩

variable {r : Run α} {k : α → Run β}

theorem IsMurmur.attempt_bind (hr : IsMurmur r.attempt) (hk : ∀ a, IsMurmur (k a).attempt) :
    IsMurmur (r >>= k).attempt := by
  intro w
  have hw := hr w
  rw [Run.attempt_bind]
  rcases hv : r.attempt.run w with ⟨f | a, v⟩ <;> rw [hv] at hw
  · exact hw
  · exact hw.trans (hk a v)

theorem IsMurmur.attempt_pure (a : α) : IsMurmur (pure a : Run α).attempt := Murmurs.refl

theorem IsMurmur.attempt_throw (f : Fault) : IsMurmur (throw f : Run α).attempt := Murmurs.refl

theorem IsMurmur.attempt_get : IsMurmur (getThe World : Run World).attempt := Murmurs.refl

theorem IsMurmur.attempt_ofExcept (e : Except Fault α) : IsMurmur (Run.ofExcept e).attempt := by
  intro w
  rw [Run.attempt_ofExcept]
  exact Murmurs.refl w

theorem IsMurmur.attempt_ofEval (e : Eval α) : IsMurmur (Run.ofEval e).attempt := by
  intro w
  rw [Run.attempt_ofEval]
  exact Murmurs.of_eq rfl rfl

/-- What a computation opens and closes, with a continuation that opens and closes nothing. -/
theorem Unfolds.attempt_bind {f : World → Spans} (hr : Unfolds r.attempt f) (hk : ∀ a, IsMurmur (k a).attempt) :
    Unfolds (r >>= k).attempt f := by
  intro w
  have hw := hr w
  rw [Run.attempt_bind]
  rcases hv : r.attempt.run w with ⟨e | a, v⟩ <;> rw [hv] at hw
  · exact hw
  · exact hw.murmurs (hk a v)

theorem Unfolds.attempt_tried {f : World → Spans} (hr : Unfolds r.attempt f) : Unfolds (Run.tried r).attempt f := by
  intro w
  rw [Run.attempt_tried]
  exact hr w

theorem IsMurmur.attempt_record {e : Event} (he : Event.brackets [e] = []) :
    IsMurmur (liftM (record e) : Run Unit).attempt := fun w => Murmurs.record w he

end Act

namespace Run

open Act (IsMurmur)
open World (Unfolds UnfoldsAtStep Murmurs)

theorem murmurs_load (set : Setting) (name role : String) : IsMurmur (load set name role).attempt := by
  unfold load
  rcases set.services.repository with _ | repository
  · exact IsMurmur.attempt_throw _
  · refine IsMurmur.attempt_bind (IsMurmur.attempt_record rfl) fun _ => ?_
    refine IsMurmur.attempt_bind (IsMurmur.attempt_ofExcept _) fun found => ?_
    rcases found with _ | text
    · dsimp only
      split
      · exact IsMurmur.attempt_throw _
      · refine IsMurmur.attempt_bind (IsMurmur.attempt_record ?_) fun _ => IsMurmur.attempt_throw _
        exact Event.brackets_logged_of_ne (show LogLevel.debug ≠ .info by decide)
    · dsimp only
      split
      · exact IsMurmur.attempt_throw _
      · exact IsMurmur.attempt_pure _

theorem murmurs_readDefinition (set : Setting) (text : String) : IsMurmur (readDefinition set text).attempt := by
  intro w
  unfold readDefinition
  split
  · rw [attempt_bind, attempt_get]
    dsimp only
    rcases w.definitions.read text with ⟨_ | found, cache⟩ <;> exact Murmurs.of_eq rfl rfl
  · rw [attempt_ofExcept]
    exact Murmurs.refl w

theorem murmurs_passes (s : Step) : IsMurmur (passes s).attempt := by
  unfold passes
  split
  · exact IsMurmur.holds s.condition
  · exact IsMurmur.attempt_pure _

theorem murmurs_findRule (set : Setting) (key : Option String) : IsMurmur (findRule set key).attempt := by
  intro w
  rw [findRule_run]
  exact Murmurs.logged w (by decide) _

theorem murmurs_findValidation (set : Setting) (key : Option String) : IsMurmur (findValidation set key).attempt := by
  intro w
  rw [findValidation_run]
  exact Murmurs.logged w (by decide) _

end Run
end FlowRules
