import FlowRules.Proofs.Failure
import FlowRules.Proofs.Run.Unfolding

/-!
# Which step the log names

The logger puts the workflow and the step that it is at on each row.  Main statement: what is reported about a step
carries the name of the workflow that the step belongs to; it carries the label of the step if the step has been started
and no scope has been run since, no label if a scope has been run since, and the context in which the step has begun
if it is not started, which is that of the step before (`Run.report_context`).
-/

namespace FlowRules

/-- What the engine reports about a step. -/
inductive StepReport where
  | started
  | skipped
  | invalid (message : String)
  | raised (f : Fault)
  | loopStarted (count : Nat)
  | loopEnded
  | itemFailed (index : Nat)
  | entered
  | exited
  | subFlowFailed

namespace StepReport

def level : StepReport → LogLevel
  | started | skipped => .debug
  | loopStarted _ | loopEnded | entered | exited => .info
  | invalid _ | itemFailed _ | subFlowFailed => .warning
  | raised _ => .error

def message (s : Step) : StepReport → String
  | started => LogMessage.stepStarted s.displayName s.kind.name
  | skipped => LogMessage.stepSkipped s.displayName (s.condition.getD "")
  | invalid message => LogMessage.stepFailed s.displayName message
  | raised f => "Error in " ++ s.displayName ++ ": " ++ f.message
  | loopStarted count => LogMessage.loopStarted s.displayName (some count)
  | loopEnded => LogMessage.loopEnded s.displayName
  | itemFailed index => "Loop Item #" ++ toString index ++ " Failed."
  | entered => LogMessage.subFlowEntered s.reference
  | exited => LogMessage.subFlowExited s.reference
  | subFlowFailed => "SubFlow '" ++ s.reference ++ "' failed. Stopping parent flow."

/-- A fault is reported together with where it arose. -/
def traced : StepReport → Bool
  | raised _ => true
  | _ => false

/-- The row that a logger writes for a report. -/
def row (r : StepReport) (s : Step) (l : ScopedLogger) : LogRow := l.row r.level (r.message s) r.traced

end StepReport

/-- The world in which a step has been started. -/
def World.onStep (w : World) (s : Step) : World := { w with logger := w.logger.atStep s.displayName }

/-- The world once a report about a step has been written. -/
def World.reported (w : World) (r : StepReport) (s : Step) : World := w.record (.logged (r.row s w.logger))

namespace Run

open Act (IsMurmur)

/-- In the run of some steps from a world, a step of them is begun in a world. -/
inductive StepBegins (set : Setting) (n : Nat) : List Step → World → Step → World → Prop where
  | here {s : Step} {rest : List Step} {w : World} (h : ¬ Halted set w) : StepBegins set n (s :: rest) w s w
  | later {s s' : Step} {rest : List Step} {w v : World} (h : ¬ Halted set w)
    (ho : ((runStep set (below set n) s').run w).1.succeeded = true)
    (hs : StepBegins set n rest ((runStep set (below set n) s').run w).2 s v) : StepBegins set n (s' :: rest) w s v

/-- In the run of a task, the scope of a workflow is run from a world with some number of levels left: that of its own
workflow, or one to which a step of another has come. -/
inductive RunsScope (set : Setting) (t : Task) (w : World) : Nat → Workflow → World → Prop where
  | outermost {c : Workflow} {v : World} (h : ComesTo set t w c v) : RunsScope set t w maxNesting c v
  | inPlace {n : Nat} {c d : Workflow} {v u z : World} {s : Step} (h : RunsScope set t w (n + 1) c v)
    (hs : StepBegins set (n + 1) c.steps (v.begun c.name) s u)
    (ho : (openStep set s).attempt.run u = (.ok (.inPlace d), z)) :
    RunsScope set t w n d (z.record (.entered s.reference))
  | onEach {n k : Nat} {c d : Workflow} {items : List Value} {v u z y : World} {s : Step}
    (h : RunsScope set t w (n + 1) c v) (hs : StepBegins set (n + 1) c.steps (v.begun c.name) s u)
    (ho : (openStep set s).attempt.run u = (.ok (.onEach d items), z))
    (hi : ItemBegins set (scopeAt set n d) 0 items (z.record (.entered s.reference)) k y) : RunsScope set t w n d y

/-- A step that begins in a world is reported about, before it has been started or, behind its condition, from a world
on in which it is: the report is written in a world that is given. -/
inductive Reports (set : Setting) : Nat → Step → World → StepReport → Option World → World → Prop where
  | skipped {n : Nat} {s : Step} {w v : World} (hp : (passes s).attempt.run w = (.ok false, v)) :
    Reports set n s w .skipped none v
  | undecided {n : Nat} {s : Step} {w v : World} {f : Fault} (hp : (passes s).attempt.run w = (.error f, v)) :
    Reports set n s w (.raised f) none v
  | started {n : Nat} {s : Step} {w v : World} (hp : (passes s).attempt.run w = (.ok true, v)) :
    Reports set n s w .started (some (v.onStep s)) (v.onStep s)
  | raised {n : Nat} {s : Step} {w v u : World} {f : Fault} (hp : (passes s).attempt.run w = (.ok true, v))
    (h : (openKind set s).attempt.run (v.atStep s) = (.error f, u)) :
    Reports set n s w (.raised f) (some (v.onStep s)) u
  | tooDeep {s : Step} {w v u : World} {o : Opening} (hp : (passes s).attempt.run w = (.ok true, v))
    (h : (openKind set s).attempt.run (v.atStep s) = (.ok o, u)) (ho : ∀ outcome, o ≠ .done outcome) :
    Reports set 0 s w (.raised s.tooDeep) (some (v.onStep s)) u
  | invalid {n : Nat} {s : Step} {w v u : World} (hk : s.kind = .validation)
    (hp : (passes s).attempt.run w = (.ok true, v)) (h : (verdict set s).attempt.run (v.atStep s) = (.ok false, u)) :
    Reports set n s w (.invalid (validationError s)) (some (v.onStep s)) u
  | entered {n : Nat} {s : Step} {w v u z : World} {text : String} {d : Option Workflow} (hk : s.kind = .subFlow)
    (hp : (passes s).attempt.run w = (.ok true, v))
    (hl : (load set s.reference "SubFlow").attempt.run (v.atStep s) = (.ok text, u))
    (hd : (readDefinition set text).attempt.run u = (.ok d, z)) :
    Reports set n s w .entered (some (v.onStep s)) z
  | exitedAtOnce {n : Nat} {s : Step} {w v u z : World} {text : String} (hk : s.kind = .subFlow)
    (hp : (passes s).attempt.run w = (.ok true, v))
    (hl : (load set s.reference "SubFlow").attempt.run (v.atStep s) = (.ok text, u))
    (hd : (readDefinition set text).attempt.run u = (.ok none, z)) :
    Reports set n s w .exited (some (v.onStep s)) (z.reported .entered s)
  | subFlowFailed {n : Nat} {s : Step} {w v u z : World} {c : Workflow} {o : Outcome}
    (hp : (passes s).attempt.run w = (.ok true, v))
    (h : (openKind set s).attempt.run (v.atStep s) = (.ok (.inPlace c), u))
    (hrun : (scopeAt set n c).run (u.record (.entered s.reference)) = (o, z)) (ho : o.succeeded = false) :
    Reports set (n + 1) s w .subFlowFailed (some (v.onStep s)) (z.record (.exited s.reference))
  | exited {n : Nat} {s : Step} {w v u z : World} {c : Workflow} {o : Outcome}
    (hp : (passes s).attempt.run w = (.ok true, v))
    (h : (openKind set s).attempt.run (v.atStep s) = (.ok (.inPlace c), u))
    (hrun : (scopeAt set n c).run (u.record (.entered s.reference)) = (o, z)) :
    Reports set (n + 1) s w .exited (some (v.onStep s))
      (if o.succeeded then z.record (.exited s.reference)
        else (z.record (.exited s.reference)).reported .subFlowFailed s)
  | loopStarted {n : Nat} {s : Step} {w v u z y : World} {text : String} {d : Option Workflow} {x : Value}
    {items : Option (List Value)} (hk : s.kind = .forEach) (hp : (passes s).attempt.run w = (.ok true, v))
    (hsource : loopSource v.flow (s.collectionProperty.getD "") = .ok (.collection x))
    (hl : (load set s.reference "SubFlow").attempt.run (v.atStep s) = (.ok text, u))
    (hd : (readDefinition set text).attempt.run u = (.ok d, z))
    (hi : (ofEval (Eval.allItems? x)).attempt.run z = (.ok items, y)) :
    Reports set n s w (.loopStarted (items.getD []).length) (some (v.onStep s)) y
  | loopEndedAtOnce {n : Nat} {s : Step} {w v u z y : World} {text : String} {x : Value}
    {items : Option (List Value)} (hk : s.kind = .forEach) (hp : (passes s).attempt.run w = (.ok true, v))
    (hsource : loopSource v.flow (s.collectionProperty.getD "") = .ok (.collection x))
    (hl : (load set s.reference "SubFlow").attempt.run (v.atStep s) = (.ok text, u))
    (hd : (readDefinition set text).attempt.run u = (.ok none, z))
    (hi : (ofEval (Eval.allItems? x)).attempt.run z = (.ok items, y)) :
    Reports set n s w .loopEnded (some (v.onStep s)) (y.reported (.loopStarted (items.getD []).length) s)
  | itemFailed {n k : Nat} {s : Step} {w v u z y outer : World} {c : Workflow} {items : List Value} {item : Value}
    {o : Outcome} (hp : (passes s).attempt.run w = (.ok true, v))
    (h : (openKind set s).attempt.run (v.atStep s) = (.ok (.onEach c items), u))
    (hi : ItemBegins set (scopeAt set n c) 0 items (u.record (.entered s.reference)) k (outer.intoItem item))
    (hrun : (scopeAt set n c).run (outer.intoItem item) = (o, z)) (ho : o.succeeded = false) :
    Reports set (n + 1) s w (.itemFailed k) (some (v.onStep s)) (z.outOfItem outer)
  | loopEnded {n : Nat} {s : Step} {w v u z : World} {c : Workflow} {items : List Value} {o : Outcome}
    (hp : (passes s).attempt.run w = (.ok true, v))
    (h : (openKind set s).attempt.run (v.atStep s) = (.ok (.onEach c items), u))
    (hrun : (runItems set (scopeAt set n) c s.displayName 0 items).run (u.record (.entered s.reference)) = (o, z)) :
    Reports set (n + 1) s w .loopEnded (some (v.onStep s)) (z.record (.exited s.reference))

variable {set : Setting} {inner : Unfolding} {n : Nat} {s : Step} {w v u z : World} {c : Workflow} {r : StepReport}

/-! ### The logger of a report -/

/-- From one world to a later one at the same step there are some events, and the logger has forgotten the step if there
is a scope among them. -/
structure Since (w : World) (es : List Event) (v : World) : Prop where
  wrote : w.Wrote es v
  logger : v.logger = if Event.scopeTexts es = [] then w.logger else w.logger.withoutStep

theorem Since.refl (w : World) : Since w [] w := ⟨World.Wrote.nil rfl, rfl⟩

theorem Since.trans {es fs : List Event} (h : Since w es v) (h' : Since v fs u) : Since w (es ++ fs) u := by
  refine ⟨h.wrote.append h'.wrote, ?_⟩
  rw [h'.logger, h.logger, Event.scopeTexts_append]
  by_cases hes : Event.scopeTexts es = []
  · rw [if_pos hes, hes, List.nil_append]
  · have happend : Event.scopeTexts es ++ Event.scopeTexts fs ≠ [] := fun h => hes (List.append_eq_nil_iff.1 h).1
    rw [if_neg hes, if_neg happend]
    split <;> rfl

theorem Since.record (w : World) {e : Event} (he : Event.scopeTexts [e] = []) : Since w [e] (w.record e) :=
  ⟨World.Wrote.single w e, (if_pos he).symm⟩

theorem Since.of_unfolds {t : Spans} (h : w.UnfoldsAtStep t v) : ∃ es, Since w es v := by
  obtain ⟨es, hes, ht⟩ := h.wrote
  have htexts : Event.scopeTexts es = [] ↔ t.scopes = .nil := by
    rw [← Event.filter_brackets, ht.texts, Spans.filter_texts, Spans.texts_eq_nil]
  refine ⟨es, hes, ?_⟩
  rw [h.logger]
  by_cases hnil : t.scopes = .nil
  · rw [if_pos hnil, if_pos (htexts.2 hnil)]
  · rw [if_neg hnil, if_neg fun h => hnil (htexts.1 h)]

/-- No report about a step tells of a scope. -/
theorem Since.reported (w : World) (r : StepReport) (s : Step) :
    Since w [.logged (r.row s w.logger)] (w.reported r s) := by
  refine Since.record w ?_
  cases r with
  | entered => exact Event.scopeTexts_logged_of_not (LogMessage.tellsScope_opening s.subFlowLevel)
  | exited => exact Event.scopeTexts_logged_of_not (LogMessage.tellsScope_closing s.subFlowLevel)
  | loopStarted count => exact Event.scopeTexts_logged_of_not (LogMessage.tellsScope_opening (s.loopLevel count))
  | loopEnded => exact Event.scopeTexts_logged_of_not (LogMessage.tellsScope_closing (s.loopLevel 0))
  | _ => exact Event.scopeTexts_logged_of_ne fun h => LogLevel.noConfusion h

theorem Since.of_murmurs (h : w.Murmurs v) : ∃ es, Since w es v := Since.of_unfolds h.atStep

/-- A world is a later one at the same step. -/
def FollowsStart (w v : World) : Prop := ∃ es, Since w es v

theorem FollowsStart.trans (h : FollowsStart w v) (h' : FollowsStart v u) : FollowsStart w u := by
  obtain ⟨es, hes⟩ := h
  obtain ⟨fs, hfs⟩ := h'
  exact ⟨_, hes.trans hfs⟩

theorem FollowsStart.of_unfolds {t : Spans} (h : w.UnfoldsAtStep t v) : FollowsStart w v := Since.of_unfolds h

theorem FollowsStart.of_murmurs (h : w.Murmurs v) : FollowsStart w v := Since.of_unfolds h.atStep

theorem FollowsStart.reported (w : World) (r : StepReport) (s : Step) : FollowsStart w (w.reported r s) :=
  ⟨_, Since.reported w r s⟩

theorem followsStart_atStep (w : World) (s : Step) : FollowsStart (w.onStep s) (w.atStep s) :=
  FollowsStart.reported (w.onStep s) .started s

theorem followsStart_definition {text : String} {d : Option Workflow} {role : String}
    (hl : (load set s.reference role).attempt.run w = (.ok text, v))
    (hd : (readDefinition set text).attempt.run v = (.ok d, u)) : FollowsStart w u := by
  have hload := murmurs_load set s.reference role w
  have hread := murmurs_readDefinition set text v
  rw [hl] at hload
  rw [hd] at hread
  exact FollowsStart.of_murmurs (hload.trans hread)

theorem followsStart_items {x : Value} {items : Option (List Value)}
    (hi : (ofEval (Eval.allItems? x)).attempt.run w = (.ok items, v)) : FollowsStart w v := by
  have heval := IsMurmur.attempt_ofEval (Eval.allItems? x) w
  rw [hi] at heval
  exact FollowsStart.of_murmurs heval

section

variable (h : Tells set.reentry inner)

include h

theorem followsStart_openKind {o : Except Fault Opening} (ho : (openKind set s).attempt.run w = (o, u)) :
    FollowsStart w u := by
  unfold openKind at ho
  rcases hk : s.kind <;> rw [hk] at ho <;> dsimp only at ho
  · have hrule := FollowsStart.of_unfolds (unfolds_ruleStep h s w)
    rw [attempt_map] at ho
    obtain ⟨-, rfl⟩ := Prod.mk.inj ho
    exact hrule
  · have hvalidation := FollowsStart.of_unfolds (unfolds_validationStep h s w)
    rw [attempt_map] at ho
    obtain ⟨-, rfl⟩ := Prod.mk.inj ho
    exact hvalidation
  · obtain ⟨f, -, hv⟩ | ⟨v, hv, ⟨-, rfl⟩ | ⟨c, -, rfl⟩⟩ := openSubFlow_cases ho
    · exact FollowsStart.of_murmurs hv
    · exact ((FollowsStart.of_murmurs hv).trans (FollowsStart.reported v .entered s)).trans
        (FollowsStart.reported _ .exited s)
    · exact (FollowsStart.of_murmurs hv).trans (FollowsStart.reported v .entered s)
  · obtain ⟨f, -, hv⟩ | ⟨message, -, rfl⟩ | ⟨v, hv, ⟨-, rfl⟩ | ⟨c, items, -, rfl⟩⟩ := openLoop_cases ho
    · exact FollowsStart.of_murmurs hv
    · exact FollowsStart.of_murmurs (World.Murmurs.refl u)
    · exact ((FollowsStart.of_murmurs hv).trans (FollowsStart.reported v (.loopStarted _) s)).trans
        (FollowsStart.reported _ .loopEnded s)
    · exact (FollowsStart.of_murmurs hv).trans (FollowsStart.reported v (.loopStarted _) s)

theorem followsStart_scopeAt {o : Outcome} (hrun : (scopeAt set n c).run w = (o, v)) : FollowsStart w v := by
  have hscope := FollowsStart.of_unfolds (unfolds_scopeAt h n c w)
  rwa [hrun] at hscope

/-- A step goes into a workflow and out of it. -/
theorem followsStart_body {o : Outcome} (hrun : (scopeAt set n c).run (u.record (.entered s.reference)) = (o, z)) :
    FollowsStart u (z.record (.exited s.reference)) :=
  ((FollowsStart.of_murmurs (World.Murmurs.entered u s)).trans (followsStart_scopeAt h hrun)).trans
    (FollowsStart.of_murmurs (World.Murmurs.record z rfl))

theorem unfolds_items (n : Nat) (c : Workflow) (label : String) (k : Nat) (items : List Value) :
    Act.Unfolds (runItems set (scopeAt set n) c label k items)
      (itemsSpans set (scopeAt set n) (scopeSpans set inner n) c items) :=
  unfolds_runItems (unfolds_scopeAt h n c) label k items

theorem followsStart_item {k j : Nat} {items : List Value}
    (hi : ItemBegins set (scopeAt set n c) k items w j v) : FollowsStart w v := by
  induction hi with
  | here _ => exact FollowsStart.of_unfolds (World.UnfoldsAtStep.of_eq rfl rfl)
  | later _ _ _ ih => exact (FollowsStart.of_unfolds (unfolds_inChild (unfolds_scopeAt h n c) _ _)).trans ih

/-- A report about a step that has been started. -/
theorem Reports.followsStart {y : World} (hr : Reports set n s w r (some y) z) :
    FollowsStart y z ∧ ∃ v, (passes s).attempt.run w = (.ok true, v) ∧ y = v.onStep s := by
  cases hr with
  | started hp => exact ⟨⟨[], Since.refl _⟩, _, hp, rfl⟩
  | @raised _ _ _ v _ _ hp ho => exact ⟨(followsStart_atStep v s).trans (followsStart_openKind h ho), v, hp, rfl⟩
  | @tooDeep _ _ v _ _ hp ho => exact ⟨(followsStart_atStep v s).trans (followsStart_openKind h ho), v, hp, rfl⟩
  | @invalid _ _ _ v _ _ hp hverdict =>
    have hown := FollowsStart.of_unfolds (unfolds_verdict h s (v.atStep s))
    rw [hverdict] at hown
    exact ⟨(followsStart_atStep v s).trans hown, v, hp, rfl⟩
  | @entered _ _ _ v _ _ _ _ _ hp hl hd =>
    exact ⟨(followsStart_atStep v s).trans (followsStart_definition hl hd), v, hp, rfl⟩
  | @exitedAtOnce _ _ _ v _ u _ _ hp hl hd =>
    refine ⟨((followsStart_atStep v s).trans (followsStart_definition hl hd)).trans ?_, v, hp, rfl⟩
    exact FollowsStart.reported _ .entered s
  | @subFlowFailed _ _ _ v u z _ _ hp ho hrun _ =>
    refine ⟨?_, v, hp, rfl⟩
    exact ((followsStart_atStep v s).trans (followsStart_openKind h ho)).trans (followsStart_body h hrun)
  | @exited _ _ _ v u z _ o hp ho hrun =>
    have hexited := ((followsStart_atStep v s).trans (followsStart_openKind h ho)).trans (followsStart_body h hrun)
    refine ⟨?_, v, hp, rfl⟩
    split
    · exact hexited
    · exact hexited.trans (FollowsStart.reported _ .subFlowFailed s)
  | @loopStarted _ _ _ v _ _ _ _ _ _ _ _ hp _ hl hd hi =>
    exact ⟨((followsStart_atStep v s).trans (followsStart_definition hl hd)).trans (followsStart_items hi), v, hp, rfl⟩
  | @loopEndedAtOnce _ _ _ v _ _ y _ _ items _ hp _ hl hd hi =>
    have hstarted := ((followsStart_atStep v s).trans (followsStart_definition hl hd)).trans (followsStart_items hi)
    exact ⟨hstarted.trans (FollowsStart.reported y (.loopStarted _) s), v, hp, rfl⟩
  | @itemFailed _ _ _ _ v u z _ outer _ _ _ _ hp ho hi hrun _ =>
    refine ⟨?_, v, hp, rfl⟩
    have hentered := ((followsStart_atStep v s).trans (followsStart_openKind h ho)).trans
      (FollowsStart.of_murmurs (World.Murmurs.entered u s))
    exact ((hentered.trans (followsStart_item h hi)).trans (followsStart_scopeAt h hrun)).trans
      (FollowsStart.of_unfolds (World.UnfoldsAtStep.of_eq rfl rfl))
  | @loopEnded m _ _ v u z c items _ hp ho hrun =>
    refine ⟨?_, v, hp, rfl⟩
    have hitems := FollowsStart.of_unfolds (unfolds_items h m c s.displayName 0 items (u.record (.entered s.reference)))
    rw [hrun] at hitems
    have hentered := ((followsStart_atStep v s).trans (followsStart_openKind h ho)).trans
      (FollowsStart.of_murmurs (World.Murmurs.entered u s))
    exact (hentered.trans hitems).trans (FollowsStart.of_murmurs (World.Murmurs.record z rfl))

end

/-- Before a step is started nothing has moved the logger. -/
theorem Reports.logger_of_unstarted (hr : Reports set n s w r none z) : z.logger = w.logger := by
  have hpasses := (murmurs_passes s w).logger
  cases hr with
  | skipped hp =>
    rw [hp] at hpasses
    exact hpasses
  | undecided hp =>
    rw [hp] at hpasses
    exact hpasses

/-! ### The place of a report -/

/-- What a sub-flow reports once its workflow has been looked up. -/
theorem openSubFlow_run {text : String} {d : Option Workflow}
    (hl : (load set s.reference "SubFlow").attempt.run w = (.ok text, v))
    (hd : (readDefinition set text).attempt.run v = (.ok d, u)) :
    (openSubFlow set s).attempt.run w =
      match d with
      | none => (.ok (.done {}), (u.reported .entered s).reported .exited s)
      | some c => (.ok (.inPlace c), u.reported .entered s) := by
  cases d <;> simp only [openSubFlow, attempt_bind, hl, hd] <;> rfl

/-- What a loop reports once its items have been taken. -/
theorem openLoop_run {text : String} {d : Option Workflow} {x : Value} {items : Option (List Value)}
    (hsource : loopSource w.flow (s.collectionProperty.getD "") = .ok (.collection x))
    (hl : (load set s.reference "SubFlow").attempt.run w = (.ok text, v))
    (hd : (readDefinition set text).attempt.run v = (.ok d, u))
    (hi : (ofEval (Eval.allItems? x)).attempt.run u = (.ok items, z)) :
    (openLoop set s).attempt.run w =
      let started := z.reported (.loopStarted (items.getD []).length) s
      match d with
      | none => (.ok (.done {}), started.reported .loopEnded s)
      | some c => (.ok (.onEach c (items.getD [])), started) := by
  cases d <;> simp only [openLoop, attempt_bind, attempt_get, attempt_ofExcept, hsource, hl, hd, hi] <;> rfl

theorem suffix_record (w : World) (e : Event) : w.journal <:+ (w.record e).journal := List.suffix_cons e w.journal

theorem FollowsStart.suffix (h : FollowsStart w v) : w.journal <:+ v.journal := by
  obtain ⟨es, hes⟩ := h
  exact ⟨es.reverse, hes.wrote.symm⟩

theorem suffix_leftSubFlow (w : World) (s : Step) (o : Outcome) :
    (w.record (.exited s.reference)).journal <:+ (w.leftSubFlow s o).journal := by
  unfold World.leftSubFlow
  dsimp only
  split
  · exact (suffix_record _ _).trans (suffix_record _ _)
  · exact suffix_record _ _

theorem openStep_started (hp : (passes s).attempt.run w = (.ok true, v)) :
    (openStep set s).attempt.run w = (openKind set s).attempt.run (v.atStep s) := by
  rw [openStep_run, hp]

theorem suffix_of_unfolds {t : Spans} (h : w.Unfolds t v) : w.journal <:+ v.journal := by
  obtain ⟨es, hes, -⟩ := h.wrote
  exact ⟨es.reverse, hes.symm⟩

/-- What the steps of a scope tell stays in the journal of the scope. -/
theorem suffix_scopeAt (n : Nat) (c : Workflow) (w : World) :
    ((runSteps set (below set n) c.name c.steps).run (w.begun c.name)).2.journal <:+
      ((scopeAt set n c).run w).2.journal := by
  rw [scopeAt_run rfl]
  exact (List.suffix_cons _ _).trans (List.suffix_cons _ _)

/-- In a loop that fails, what is reported about the item is the last thing. -/
theorem suffix_runItems {k j : Nat} {items : List Value} {item : Value} {outer x : World} {o : Outcome} (label : String)
    (hi : ItemBegins set (scopeAt set n c) k items w j x) (hx : x = outer.intoItem item)
    (hrun : (scopeAt set n c).run x = (o, z)) (ho : o.succeeded = false) :
    ((z.outOfItem outer).reported (.itemFailed j) s).journal <:+
      ((runItems set (scopeAt set n) c label k items).run w).2.journal := by
  induction hi with
  | here hh =>
    rw [runItems_cons hh, inChild_run, hrun]
    dsimp only
    rw [ho]
    exact List.suffix_refl _
  | later hh ho' _ ih =>
    rw [runItems_cons hh]
    dsimp only
    rw [if_pos ho']
    exact ih hx hrun

section

variable (h : Tells set.reentry inner)

include h

/-- What is written before a step goes into a workflow is before what is written behind it. -/
theorem suffix_body {o : Outcome} (hrun : (scopeAt set n c).run (w.record (.entered s.reference)) = (o, z)) :
    w.journal <:+ (z.record (.exited s.reference)).journal := (followsStart_body h hrun).suffix

theorem suffix_loop (n : Nat) (c : Workflow) (items : List Value) (w : World) :
    w.journal <:+
      ((runItems set (scopeAt set n) c s.displayName 0 items).run (w.record (.entered s.reference))).2.journal := by
  have hitems := unfolds_items h n c s.displayName 0 items (w.record (.entered s.reference))
  exact (suffix_record w _).trans (FollowsStart.of_unfolds hitems).suffix

/-- What a step has told by itself stays in the journal. -/
theorem suffix_openStep (n : Nat) (s : Step) (w : World) :
    ((openStep set s).attempt.run w).2.journal <:+ ((runStep set (below set n) s).run w).2.journal := by
  rcases ho : (openStep set s).attempt.run w with ⟨f | outcome | c | ⟨c, items⟩, v⟩
  · rw [runStep_raises ho]
    exact suffix_record v _
  · simp only [runStep_done ho, List.suffix_refl]
  · rcases n with _ | n
    · rw [runStep_tooDeep ho nofun]
      exact suffix_record v _
    · rw [runStep_inPlace ho]
      exact (suffix_body h rfl).trans (suffix_leftSubFlow _ s _)
  · rcases n with _ | n
    · rw [runStep_tooDeep ho nofun]
      exact suffix_record v _
    · rw [runStep_onEach ho]
      exact ((suffix_loop h n c items v).trans (suffix_record _ _)).trans (suffix_record _ _)

/-- What is reported about a step stays in the journal of the step. -/
theorem Reports.suffix {start : Option World} (hr : Reports set n s w r start z) :
    (z.reported r s).journal <:+ ((runStep set (below set n) s).run w).2.journal := by
  have hopen := suffix_openStep h n s w
  cases hr with
  | skipped hp =>
    rw [openStep_run, hp] at hopen
    exact hopen
  | @undecided _ _ _ _ f hp =>
    have ho : (openStep set s).attempt.run w = (.error f, z) := by rw [openStep_run, hp]
    rw [runStep_raises ho]
    exact List.suffix_refl _
  | @started _ _ _ v hp =>
    rw [openStep_started hp] at hopen
    exact (followsStart_openKind h rfl).suffix.trans hopen
  | raised hp ho =>
    rw [← openStep_started hp] at ho
    rw [runStep_raises ho]
    exact List.suffix_refl _
  | tooDeep hp ho hdone =>
    rw [← openStep_started hp] at ho
    rw [runStep_tooDeep ho hdone]
    exact List.suffix_refl _
  | invalid hk hp hverdict =>
    rw [openStep_invalid hk hp hverdict] at hopen
    exact hopen
  | @entered _ _ _ v _ _ _ d hk hp hl hd =>
    rw [openStep_started hp, openKind, hk] at hopen
    dsimp only at hopen
    rw [openSubFlow_run hl hd] at hopen
    cases d with
    | none => exact (suffix_record _ _).trans hopen
    | some c => exact hopen
  | exitedAtOnce hk hp hl hd =>
    rw [openStep_started hp, openKind, hk] at hopen
    dsimp only at hopen
    rw [openSubFlow_run hl hd] at hopen
    exact hopen
  | subFlowFailed hp ho hrun hfailed =>
    rw [← openStep_started hp] at ho
    rw [runStep_inPlace ho, hrun]
    dsimp only
    rw [hfailed]
    exact suffix_record _ _
  | @exited _ _ _ _ _ _ _ o hp ho hrun =>
    rw [← openStep_started hp] at ho
    rw [runStep_inPlace ho, hrun]
    dsimp only
    cases o.succeeded <;> exact List.suffix_refl _
  | @loopStarted _ _ _ v _ _ _ _ d _ items hk hp hsource hl hd hi =>
    rw [openStep_started hp, openKind, hk] at hopen
    dsimp only at hopen
    rw [openLoop_run (w := v.atStep s) hsource hl hd hi] at hopen
    cases d with
    | none => exact (suffix_record _ _).trans hopen
    | some c => exact hopen
  | @loopEndedAtOnce _ _ _ v _ _ _ _ _ _ hk hp hsource hl hd hi =>
    rw [openStep_started hp, openKind, hk] at hopen
    dsimp only at hopen
    rw [openLoop_run (w := v.atStep s) hsource hl hd hi] at hopen
    exact hopen
  | itemFailed hp ho hi hrun hfailed =>
    rw [← openStep_started hp] at ho
    rw [runStep_onEach ho]
    exact ((suffix_runItems s.displayName hi rfl hrun hfailed).trans (suffix_record _ _)).trans (suffix_record _ _)
  | loopEnded hp ho hrun =>
    rw [← openStep_started hp] at ho
    rw [runStep_onEach ho, hrun]
    exact List.suffix_refl _

/-- What is run one level deeper tells something. -/
theorem unfolds_below (n : Nat) :
    ∃ spans : Workflow → World → Spans, ∀ m, n = m + 1 → ∀ c, Act.Unfolds (scopeAt set m c) (spans c) := by
  rcases n with _ | n
  · exact ⟨fun _ _ => .nil, nofun⟩
  · refine ⟨scopeSpans set inner n, fun m hm c => ?_⟩
    cases hm
    exact unfolds_scopeAt h n c

/-- A step tells something, whatever level it is at. -/
theorem unfolds_step (n : Nat) (s : Step) (w : World) :
    ∃ t, w.Unfolds t ((runStep set (below set n) s).run w).2 := by
  obtain ⟨spans, hspans⟩ := unfolds_below h n
  exact ⟨_, unfolds_runStep h hspans s w⟩

theorem unfolds_steps (n : Nat) (name : String) (steps : List Step) (w : World) :
    ∃ t, w.Unfolds t ((runSteps set (below set n) name steps).run w).2 := by
  obtain ⟨spans, hspans⟩ := unfolds_below h n
  exact ⟨_, unfolds_runSteps h hspans name steps w⟩

/-! ### The place of a step -/

/-- What a step tells stays in the journal of the steps around it. -/
theorem suffix_stepBegins {steps : List Step} (hs : StepBegins set n steps w s u) (name : String) :
    ((runStep set (below set n) s).run u).2.journal <:+ ((runSteps set (below set n) name steps).run w).2.journal := by
  induction hs with
  | @here s rest w hh =>
    rw [runSteps_cons hh]
    dsimp only
    split
    · obtain ⟨t, ht⟩ := unfolds_steps h n name rest ((runStep set (below set n) s).run w).2
      exact suffix_of_unfolds ht
    · exact List.suffix_refl _
  | later hh ho _ ih =>
    rw [runSteps_cons hh]
    dsimp only
    rw [if_pos ho]
    exact ih

/-- The steps before it leave the logger in the workflow. -/
theorem place_stepBegins {steps : List Step} (hs : StepBegins set n steps w s u) :
    u.logger.withoutStep = w.logger.withoutStep := by
  induction hs with
  | here _ => rfl
  | @later _ s' _ w _ _ _ _ ih =>
    obtain ⟨t, ht⟩ := unfolds_step h n s' w
    exact ih.trans ht.place

theorem suffix_item {k j : Nat} {items : List Value} {x : World} (label : String)
    (hi : ItemBegins set (scopeAt set n c) k items w j x) :
    ((scopeAt set n c).run x).2.journal <:+ ((runItems set (scopeAt set n) c label k items).run w).2.journal := by
  induction hi with
  | @here k item items w hh =>
    rw [runItems_cons hh, inChild_run]
    dsimp only
    split
    · have hitems := unfolds_items h n c label (k + 1) items (((scopeAt set n c).run (w.intoItem item)).2.outOfItem w)
      exact (FollowsStart.of_unfolds hitems).suffix
    · exact suffix_record _ _
  | later hh ho _ ih =>
    rw [runItems_cons hh]
    dsimp only
    rw [if_pos ho]
    exact ih

/-- What the steps of a scope tell stays in the journal of the task. -/
theorem suffix_runsScope {t : Task} (hc : RunsScope set t w n c v) :
    ((runSteps set (below set n) c.name c.steps).run (v.begun c.name)).2.journal <:+
      ((task set t).run w).2.journal := by
  induction hc with
  | outermost hcomes =>
    rw [hcomes.task_run, runWorkflow_run]
    exact suffix_scopeAt _ _ _
  | inPlace _ hs ho ih =>
    refine ((suffix_scopeAt _ _ _).trans ?_).trans ((suffix_stepBegins h hs _).trans ih)
    rw [runStep_inPlace ho]
    exact (suffix_record _ _).trans (suffix_leftSubFlow _ _ _)
  | @onEach _ _ _ _ _ _ _ _ _ s _ hs ho hi ih =>
    refine ((suffix_scopeAt _ _ _).trans (suffix_item h s.displayName hi)).trans ?_
    refine List.IsSuffix.trans ?_ ((suffix_stepBegins h hs _).trans ih)
    rw [runStep_onEach ho]
    exact (suffix_record _ _).trans (suffix_record _ _)

end

/-! ### The context of a report -/

theorem displayName_ne (s : Step) : s.displayName ≠ "" := by
  have hkind : s.kind.name ≠ "" := by cases s.kind <;> decide
  have hsome {o : Option String} {text : String} (ho : nonEmpty? o = some text) : text ≠ "" := by
    rcases o with _ | found
    · cases ho
    · unfold nonEmpty? at ho
      dsimp only at ho
      split at ho
      · cases ho
      · cases ho
        assumption
  unfold Step.displayName
  rcases hname : nonEmpty? s.name with _ | name
  · rcases hkey : nonEmpty? s.implementationKey with _ | key
    · rcases href : nonEmpty? s.subFlowRef with _ | reference
      · exact hkind
      · exact hsome href
    · exact hsome hkey
  · exact hsome hname

/-- A text that is not empty is put on a row. -/
private theorem shown_some {text : String} (h : text ≠ "") :
    (match some text with
      | some "" => none
      | s => s) = some text := by
  split
  · rename_i htext
    exact absurd (Option.some.inj htext) h
  · rfl

theorem row_workflow {l : ScopedLogger} {name : String} (hl : l.context.workflow = some name) (hname : name ≠ "")
    (r : StepReport) (s : Step) : (r.row s l).context.workflow = some name := by
  obtain ⟨_, _, _, _⟩ := l
  cases hl
  exact shown_some hname

theorem row_step {l : ScopedLogger} (hl : l.context.step = some s.displayName) (r : StepReport) :
    (r.row s l).context.step = some s.displayName := by
  obtain ⟨_, _, _, _⟩ := l
  cases hl
  exact shown_some (displayName_ne s)

/-- A report about a step that has been started: the logger is at the step up to the first scope. -/
theorem step_of_followsStart (hf : FollowsStart (v.onStep s) z) :
    ∃ es, (v.onStep s).Wrote es z ∧
      (r.row s z.logger).context.step = if Event.scopeTexts es = [] then some s.displayName else none := by
  obtain ⟨es, hes⟩ := hf
  refine ⟨es, hes.wrote, ?_⟩
  rw [hes.logger]
  split
  · exact row_step rfl r
  · rfl

/-- Everything that is reported about a step is reported in the workflow in which the step begins. -/
theorem workflow_of_reports (h : Tells set.reentry inner) {start : Option World} (hr : Reports set n s w r start z) :
    z.logger.context.workflow = w.logger.context.workflow := by
  cases start with
  | none => rw [hr.logger_of_unstarted]
  | some y =>
    obtain ⟨⟨es, hes⟩, v, hp, rfl⟩ := hr.followsStart h
    have hpasses := (murmurs_passes s w).logger
    rw [hp] at hpasses
    have hv : v.logger.context.workflow = w.logger.context.workflow :=
      congrArg (fun l : ScopedLogger => l.context.workflow) hpasses
    rw [hes.logger, ← hv]
    split <;> rfl

/-- What is reported about a step is in the log with the name of the workflow that the step belongs to.  Before the step
is started it has the context in which the step begins; once it is started it has the label of the step, but no label
behind a scope that has been run since. -/
theorem report_context (services : Services) (more : Nat) (keepsDefinitions heedsCancel : Bool) {t : Task}
    {w v u z : World} {n : Nat} {c : Workflow} {s : Step} {r : StepReport} {start : Option World}
    (hc : RunsScope ⟨services, reentry services more, keepsDefinitions, heedsCancel⟩ t w n c v) (hname : c.name ≠ "")
    (hs : StepBegins ⟨services, reentry services more, keepsDefinitions, heedsCancel⟩ n c.steps (v.begun c.name) s u)
    (hr : Reports ⟨services, reentry services more, keepsDefinitions, heedsCancel⟩ n s u r start z) :
    let set : Setting := ⟨services, reentry services more, keepsDefinitions, heedsCancel⟩
    let row := r.row s z.logger
    .logged row ∈ ((task set t).run w).2.journal ∧ row.context.workflow = some c.name ∧
      match start with
      | none => row.context = (r.row s u.logger).context
      | some y => ∃ es, y.Wrote es z ∧
          row.context.step = if Event.scopeTexts es = [] then some s.displayName else none := by
  intro set row
  have h := tells_reentry services more
  have hplace : u.logger.context.workflow = some c.name :=
    congrArg (fun l : ScopedLogger => l.context.workflow) (place_stepBegins h hs)
  refine ⟨?_, ?_, ?_⟩
  · have hsuffix := ((hr.suffix h).trans (suffix_stepBegins h hs c.name)).trans (suffix_runsScope h hc)
    exact hsuffix.subset List.mem_cons_self
  · exact row_workflow ((workflow_of_reports h hr).trans hplace) hname r s
  · cases start with
    | none =>
      dsimp only [row]
      rw [hr.logger_of_unstarted]
    | some y =>
      obtain ⟨hf, v, -, rfl⟩ := hr.followsStart h
      exact step_of_followsStart hf

/-! ### A step that is skipped behind one that is run -/

private def firstStep : Step := { implementationKey := some "one" }

private def skippedStep : Step := { name := some "two", implementationKey := some "one", condition := some "false" }

private def skipping : Workflow := ⟨"W", [firstStep, skippedStep]⟩

private theorem read_skipping : Definition.read skipping.written = .ok (some skipping) :=
  Definition.read_written (by decide)

private def skippingServices : Services where
  registry := { rules := [("one", .ready ⟨"One", fun _ => .done ()⟩)] }
  construct := fun _ _ => .error (.type (.stated "no classes"))

private theorem eq_of_fst {α β : Type} {p : α × β} {a : α} (h : p.1 = a) : p = (a, p.2) := by
  rw [← h]

/-- The log tells under the label of the first step that the second is skipped. -/
theorem report_context_skipped :
    ∃ row, .logged row ∈ ((task ⟨skippingServices, reentry skippingServices maxReentry, false, true⟩
        (.definition skipping.written)).run {}).2.journal ∧
      row.message = "Step 'two' skipped, condition is false: false" ∧
      row.context.workflow = some "W" ∧ row.context.step = some "one" := by
  let set : Setting := ⟨skippingServices, reentry skippingServices maxReentry, false, true⟩
  let w : World := World.begun {} "W"
  let first := (runStep set (below set maxNesting) firstStep).run w
  have hread : (readDefinition set skipping.written).attempt.run {} = (.ok (some skipping), {}) := by
    unfold readDefinition
    rw [if_neg Bool.false_ne_true, attempt_ofExcept, read_skipping]
  have hc : RunsScope set (.definition skipping.written) {} maxNesting skipping {} :=
    RunsScope.outermost (ComesTo.definition hread)
  have hsucceeded : first.1.succeeded = true := by decide +kernel
  have hfirst : ¬ Halted set first.2 := by decide +kernel
  have hs : StepBegins set maxNesting skipping.steps w skippedStep first.2 :=
    StepBegins.later (not_halted rfl) hsucceeded (StepBegins.here hfirst)
  have hpasses : ((passes skippedStep).attempt.run first.2).1 = .ok false := by decide +kernel
  have hr : Reports set maxNesting skippedStep first.2 .skipped none ((passes skippedStep).attempt.run first.2).2 :=
    Reports.skipped (eq_of_fst hpasses)
  have hstep : (StepReport.skipped.row skippedStep first.2.logger).context.step = some "one" := by decide +kernel
  have h := report_context skippingServices maxReentry false true hc (by decide) hs hr
  dsimp only at h
  exact ⟨_, h.1, rfl, h.2.1, (congrArg LogContext.step h.2.2).trans hstep⟩

end Run
end FlowRules
