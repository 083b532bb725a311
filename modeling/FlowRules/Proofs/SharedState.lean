import FlowRules.Proofs.Run.Journal
import FlowRules.Proofs.Workflow.Writing

/-!
# One shared state

Main statement: in the run of a workflow every handler is called, and every condition evaluated, with the state that the
handler before has left, at any depth of sub-flows and loops; the result has the state that the last has left
(`Run.state_handed_over`).  Only handlers change the state: from one to the next it is handed over as it is
(`Run.kept_handover`).
-/

namespace FlowRules

open Act (Keeps)
open World (Alike Writes Followed)

namespace Event

/-- The scope that a handler or a condition begins with. -/
def sees? : Event → Option Scope
  | .called _ _ seen | .evaluated _ seen => some seen
  | .logged _ | .returned .. | .lookedUp _ | .started .. | .ended .. | .entered _ | .exited _ => none

/-- The state after some events: what the last handler that has returned has left, or the state before them. -/
def stateAfter (state : List (String × Value)) : List Event → List (String × Value)
  | [] => state
  | .returned _ _ remaining :: es => stateAfter remaining.state es
  | _ :: es => stateAfter state es

theorem stateAfter_append (state : List (String × Value)) (es fs : List Event) :
    stateAfter state (es ++ fs) = stateAfter (stateAfter state es) fs := by
  induction es generalizing state with
  | nil => rfl
  | cons e es ih => cases e <;> exact ih _

/-- A stretch of events hands a state over: outside of handlers, whatever is called or evaluated begins with the state
after the events before it, and the state after all of them is what is left in the end. -/
structure HandsOver (state : List (String × Value)) (es : List Event) (final : List (String × Value)) : Prop where
  /-- Handlers that are called return, each inside the one that has called it. -/
  balanced : Balanced calling (0 ≤ ·) es
  /-- What begins while no handler is running begins with the state that the last has left. -/
  sees {before after : List Event} {e : Event} {seen : Scope} : es = before ++ e :: after → net calling before = 0 →
    e.sees? = some seen → seen.state = stateAfter state before
  final : final = stateAfter state es

variable {state middle final : List (String × Value)} {es fs : List Event}

theorem handsOver_nil (state : List (String × Value)) : HandsOver state [] state :=
  ⟨balanced_nil (Int.le_refl 0), fun h => by simp at h, rfl⟩

/-- A single event that is no handler's. -/
theorem handsOver_single {e : Event} (he : e.calling = 0) (hsees : ∀ seen, e.sees? = some seen → seen.state = state)
    (hafter : stateAfter state [e] = state) : HandsOver state [e] state := by
  refine ⟨balanced_single he (Int.le_refl 0), fun h _ hseen => ?_, hafter.symm⟩
  rcases List.singleton_eq_append_iff.1 h with ⟨rfl, h⟩ | ⟨rfl, h⟩
  · cases h
    exact hsees _ hseen
  · cases h

theorem HandsOver.append (h : HandsOver state es middle) (h' : HandsOver middle fs final) :
    HandsOver state (es ++ fs) final := by
  refine ⟨h.balanced.append h'.balanced, fun {before after e seen} hsplit hnet hseen => ?_, ?_⟩
  · rcases List.append_eq_append_iff.1 hsplit with ⟨rest, rfl, hrest⟩ | ⟨rest, rfl, hrest⟩
    · -- the event is in the second stretch, and all that the first has called has returned
      rw [net_append, h.balanced.settled, Int.zero_add] at hnet
      rw [stateAfter_append, ← h.final]
      exact h'.sees hrest hnet hseen
    · rcases rest with _ | ⟨first, rest⟩
      · rw [List.append_nil] at h
        rw [← h.final]
        have hfirst : fs = [] ++ e :: after := hrest.symm
        exact h'.sees hfirst rfl hseen
      · cases hrest
        exact h.sees rfl hnet hseen
  · rw [stateAfter_append, ← h.final]
    exact h'.final

/-- The call of a handler: it begins with the state, and what it leaves is the state from then on. -/
theorem handsOver_call (hb : Balanced calling (0 ≤ ·) es) (role : Role) (key : Option String) {seen : Scope}
    (hseen : seen.state = state) (remaining : Scope) :
    HandsOver state (.called role key seen :: (es ++ [.returned role key remaining])) remaining.state := by
  refine ⟨hb.enclose rfl rfl (Int.le_refl 0) fun k hk => by omega, fun {before after e s} hsplit hnet hs => ?_, ?_⟩
  · rcases before with _ | ⟨first, inside⟩
    · cases hsplit
      cases hs
      exact hseen
    · -- behind the call, a handler is running until it has returned, and a return begins nothing
      exfalso
      obtain ⟨rfl, hinside⟩ := List.cons.inj hsplit
      rcases List.append_eq_append_iff.1 hinside with ⟨rest, rfl, hrest⟩ | ⟨rest, rfl, -⟩
      · rcases List.cons_eq_append_iff.1 hrest with ⟨rfl, hrest⟩ | ⟨rest', rfl, hrest⟩
        · cases hrest
          cases hs
        · cases rest' <;> cases hrest
      · have hinside := hb.within inside (List.prefix_append inside rest)
        rw [net_cons] at hnet
        have hcalled : calling (.called role key seen) = 1 := rfl
        omega
  · show _ = stateAfter state (es ++ [.returned role key remaining])
    rw [stateAfter_append]
    rfl

end Event

namespace Run

/-! ### Handlers -/

/-- Handlers that are called return. -/
def Returns : World → World → Prop := Writes Event.calling (0 ≤ ·)

theorem followed_returns : Followed Returns := by
  refine World.followed_writes (Int.le_refl 0) (fun e he => ?_) fun _ _ => rfl
  cases e <;> first | rfl | cases he

variable {re : Reentry}

/-- What handlers run themselves keeps a relation. -/
structure RunsKeep (re : Reentry) (R : World → World → Prop) : Prop where
  runRule (key : String) (values : Value) : Keeps R (re.runRule key values).attempt
  runWorkflow (name : String) : Keeps R (re.runWorkflow name)

theorem returns_perform (hre : RunsKeep re Returns) {α : Type} (script : Script α) :
    Keeps Returns (perform re script).attempt := by
  have hanswers : ∀ r, Keeps Returns (answer re r) := fun r =>
    keeps_answer followed_returns (World.Writes.of_journal (Int.le_refl 0)) hre.runRule fun name _ =>
      hre.runWorkflow name
  have hall : script.Asks fun _ => True := by
    induction script with
    | done a => trivial
    | fail f => trivial
    | ask r next ih => exact ⟨trivial, ih⟩
  exact keeps_perform followed_returns (fun r _ => hanswers r) hall

/-- The state is handed over from one world to a later one. -/
def Handover (w v : World) : Prop := ∃ es, w.Wrote es v ∧ Event.HandsOver w.state es v.state

/-- An event that begins nothing and leaves nothing. -/
private theorem handover_record (w : World) {e : Event} (he : e.calling = 0) (hsees : e.sees? = none)
    (hafter : Event.stateAfter w.state [e] = w.state) : Handover w (w.record e) := by
  refine ⟨[e], World.Wrote.single w e, Event.handsOver_single he (fun seen h => ?_) hafter⟩
  rw [hsees] at h
  cases h

theorem followed_handover : Followed Handover where
  trans := by
    rintro w v u ⟨es, hes, h⟩ ⟨fs, hfs, h'⟩
    exact ⟨es ++ fs, hes.append hfs, h.append h'⟩
  unseen hjournal hstate := by
    refine ⟨[], World.Wrote.nil hjournal, ?_⟩
    rw [hstate]
    exact Event.handsOver_nil _
  note w e he := by
    cases e <;> first | exact handover_record w rfl rfl rfl | cases he
  evaluated w condition := by
    refine ⟨_, World.Wrote.single w _, Event.handsOver_single rfl (fun seen h => ?_) rfl⟩
    cases h
    rfl

/-- A handler is called with the state that is there, and leaves the state from which the run goes on. -/
theorem handover_call (hre : RunsKeep re Returns) {α : Type} (role : Role) (key : Option String) (handler : Handler α)
    (values : Value) : Keeps Handover (call re role key handler values).attempt := by
  intro w
  rw [call_run]
  obtain ⟨es, hes, hb⟩ := returns_perform hre (handler.call values) (w.record (.called role key w.toScope))
  exact ⟨_, hes.enclose _, Event.handsOver_call hb role key rfl _⟩

theorem returns_of_handover {w v : World} (h : Handover w v) : Returns w v := by
  obtain ⟨es, hes, h⟩ := h
  exact ⟨es, hes, h.balanced⟩

/-! ### Runs -/

theorem kept_handover (services : Services) (hre : RunsKeep re Returns) (keeps heeds : Bool) :
    Kept ⟨services, re, keeps, heeds⟩ fun _ => Handover where
  followed _ := followed_handover
  calls _ := ⟨fun _ values => handover_call hre _ _ _ values, fun _ => handover_call hre _ _ _ _⟩
  nested {n w v} reference h := by
    have hentered := handover_record w (e := .entered reference) rfl rfl rfl
    exact followed_handover.trans (followed_handover.trans hentered h) (handover_record v rfl rfl rfl)

/-- So it is in the runs that handlers start. -/
theorem handover_reentry (services : Services) (more : Nat) : RunsKeep (reentry services more) Handover := by
  induction more with
  | zero => exact ⟨fun _ _ => Keeps.attempt_throw followed_handover _, fun _ => followed_handover.refl⟩
  | succ more ih =>
    have hre : RunsKeep (reentry services more) Returns :=
      ⟨fun key values w => returns_of_handover (ih.runRule key values w),
        fun name w => returns_of_handover (ih.runWorkflow name w)⟩
    have hkept := kept_handover services hre true false
    exact ⟨fun key values => keeps_runRule followed_handover (hkept.calls 0) (some key) values,
      fun name => hkept.runNamed name⟩

end Run

/-- What is run is the definition of a workflow: the text is, or the one that the repository has under the name. -/
def Task.Defines (services : Services) : Task → Workflow → Prop
  | .definition text, c => Definition.read text = .ok (some c)
  | .named name, c => services.Defines name (some c)

namespace Run

/-- A task that defines a workflow runs it from a world like its own, and begins the steps that this run begins. -/
theorem task_defined {set : Setting} {t : Task} {c : Workflow} (ht : t.Defines set.services c) {w : World}
    (hw : w.Coherent) :
    ∃ v, Alike w v ∧ (task set t).run w = (runWorkflow set c).run v ∧
      ∀ x, Begins set t w x ↔ Visits set maxNesting c.steps (v.begun c.name) x := by
  -- what is read is the workflow, whatever the cache holds
  have hdefinition {text : String} (hread : Definition.read text = .ok (some c)) {u : World} (hu : u.Coherent) :
      ∃ v, Alike u v ∧ (runDefinition set text).run u = (runWorkflow set c).run v ∧
        ∀ x, Begins set (.definition text) u x ↔ Visits set maxNesting c.steps (v.begun c.name) x := by
    obtain ⟨hspec, halike⟩ := readDefinition_spec hu set text
    rcases hr : (readDefinition set text).attempt.run u with ⟨r, v⟩
    rw [hr] at hspec halike
    dsimp only at hspec halike
    rw [hspec, hread] at hr
    refine ⟨v, halike, runDefinition_some hr, fun x => ⟨fun hx => ?_, Begins.definition hr⟩⟩
    cases hx with
    | definition hr' hx =>
      rw [hr] at hr'
      cases hr'
      exact hx
  cases t with
  | definition text => exact hdefinition ht hw
  | named name =>
    obtain ⟨text, hread, hload⟩ := load_found ht
    have hlooked : Alike w (w.record (.lookedUp name)) := World.alike_record hw rfl
    obtain ⟨v, hv, hrun, hbegins⟩ := hdefinition hread hlooked.right
    refine ⟨v, hlooked.trans hv, (runNamed_ok (hload "Workflow" w)).trans hrun, fun x => ⟨fun hx => ?_, fun hx => ?_⟩⟩
    · cases hx with
      | named hload' hx =>
        rw [hload] at hload'
        cases hload'
        exact (hbegins x).1 hx
    · exact .named (hload "Workflow" w) ((hbegins x).2 hx)

/-- The result of a task that defines a workflow has the state that the run leaves. -/
theorem output_eq_state {set : Setting} {t : Task} {c : Workflow} (ht : t.Defines set.services c) {w : World}
    (hw : w.Coherent) : ((task set t).run w).1.output = ((task set t).run w).2.state := by
  obtain ⟨v, -, hrun, -⟩ := task_defined ht hw
  rw [hrun]
  rfl

/-- In the run of a workflow every handler is called, and every condition evaluated, with the state that the handler
before has left, the first with the state from which the run begins, at any depth of sub-flows and loops.  The result
has the state that the last has left, whether the run succeeds, fails or is cancelled.  So it is in the runs of rules
and workflows that handlers start, each from the state that its handler has at that moment. -/
theorem state_handed_over (services : Services) (more : Nat) (keepsDefinitions heedsCancel : Bool) {t : Task}
    {c : Workflow} (ht : t.Defines services c) {w : World} (hw : w.Coherent) :
    let set : Setting := ⟨services, reentry services more, keepsDefinitions, heedsCancel⟩
    let p := (task set t).run w
    (∃ events, w.Wrote events p.2 ∧ Event.HandsOver w.state events p.1.output) ∧ RunsKeep set.reentry Handover := by
  intro set p
  have hre := handover_reentry services more
  have hreturns : RunsKeep (reentry services more) Returns :=
    ⟨fun key values v => returns_of_handover (hre.runRule key values v),
      fun name v => returns_of_handover (hre.runWorkflow name v)⟩
  have houtput : p.1.output = p.2.state :=
    output_eq_state (t := t) (show t.Defines set.services c from ht) hw
  rw [houtput]
  exact ⟨(kept_handover services hreturns keepsDefinitions heedsCancel).task t w, hre⟩

/-! ### A rule that marks the state, in a sub-flow, before one that raises -/

private def markInner : Workflow := { steps := [{ implementationKey := some "mark" }] }

private def markServices : Services where
  registry :=
    { rules := [("mark", .ready ⟨"Mark", fun _ => .ask (.setState [("marked", .bool true)]) Script.done⟩),
        ("burst", .ready ⟨"Burst", fun _ => .fail (.raised "RuntimeError" "kaput")⟩)] }
  repository := some (MemoryStore.repository [("inner", markInner.written)])
  construct := fun _ _ => .error (.type (.stated "no classes"))

private def marked : Workflow :=
  { steps := [{ kind := .subFlow, subFlowRef := some "inner" }, { implementationKey := some "burst" }] }

private theorem read_marked : Definition.read marked.written = .ok (some marked) := Definition.read_written (by decide)

private def unmarked : World :=
  (Pipeline.start markServices .null [("marked", .bool false)] "execution" "pipeline" none).world

private theorem coherent_unmarked : unmarked.Coherent :=
  Pipeline.coherent_start markServices .null [("marked", .bool false)] "execution" "pipeline" none

private def markOf : List (String × Value) → Option Bool
  | [(key, .bool b)] => if key = "marked" then some b else none
  | _ => none

private theorem eq_of_markOf {state : List (String × Value)} {b : Bool} (h : markOf state = some b) :
    state = [("marked", .bool b)] := by
  unfold markOf at h
  split at h
  · split at h
    · next hkey =>
      cases h
      rw [hkey]
    · cases h
  · cases h

private theorem marked_fails :
    let p := (task ⟨markServices, reentry markServices maxReentry, true, true⟩ (.definition marked.written)).run unmarked
    p.1.succeeded = false ∧ markOf p.1.output = some true := by
  decide +kernel

/-- The run fails, and gives the state that its sub-flow has left: marked, where it began unmarked. -/
theorem state_handed_over_marked :
    let set : Setting := ⟨markServices, reentry markServices maxReentry, true, true⟩
    let p := (task set (.definition marked.written)).run unmarked
    Task.Defines markServices (.definition marked.written) marked ∧ unmarked.Coherent ∧
      unmarked.state = [("marked", .bool false)] ∧ p.1.succeeded = false ∧ p.1.output = [("marked", .bool true)] ∧
      ∃ events, unmarked.Wrote events p.2 ∧ Event.HandsOver unmarked.state events p.1.output :=
  ⟨read_marked, coherent_unmarked, rfl, marked_fails.1, eq_of_markOf marked_fails.2,
    (state_handed_over markServices maxReentry true true (t := .definition marked.written) read_marked
      coherent_unmarked).1⟩

end Run
end FlowRules
