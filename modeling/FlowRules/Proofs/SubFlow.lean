import FlowRules.Proofs.Run.Visits
import FlowRules.Proofs.Workflow.Writing

/-!
# Sub-flows in place

Main statement: running a sub-flow is the same as running the steps of its workflow in its place
(`Run.subFlow_in_place`).  The sub-flow goes one level deeper than its steps would go themselves, which makes no
difference below the nesting limit (`Run.runSteps_one_more_level`), and it leaves more rows in the log and more
definitions in the cache, which no later step looks at (`Run.similar_runSteps`).
-/

namespace FlowRules

open World (Alike)

namespace Run

/-- A step runs a workflow in its place: it is a sub-flow without a condition, and its reference is found and defines
the workflow. -/
structure RunsInPlace (services : Services) (s : Step) (c : Workflow) : Prop where
  kind : s.kind = .subFlow
  unconditional : s.hasCondition = false
  defined : services.Defines s.reference (some c)

variable {set : Setting} {s : Step} {c : Workflow}

/-- A sub-flow comes to its workflow in a world that is like the one it begins in. -/
theorem openStep_inPlace (h : RunsInPlace set.services s c) {w : World} (hw : w.Coherent) :
    ∃ v, (openStep set s).attempt.run w = (.ok (.inPlace c), v) ∧ Alike w v := by
  have hstep := World.alike_atStep hw s
  obtain ⟨v, hopen, hv⟩ := openSubFlow_found h.defined hstep.right
  refine ⟨v, ?_, hstep.trans hv⟩
  rw [openStep_run, passes_unconditional h.unconditional]
  simp only [openKind, h.kind, hopen]
  rfl

/-! ### Steps one after another -/

/-- Running two lists of steps one after the other is running them as one list. -/
theorem runSteps_append (h : set.Similar set) {deeper : Deeper} (hd : Deeper.Similar deeper deeper) (name : String)
    (steps post : List Step) {w : World} (hw : w.Coherent) :
    let r := (runSteps set deeper name steps).run w
    let p := if r.1.succeeded then (runSteps set deeper name post).run r.2 else r
    p.1 = ((runSteps set deeper name (steps ++ post)).run w).1 ∧
      Alike p.2 ((runSteps set deeper name (steps ++ post)).run w).2 := by
  induction steps generalizing w with
  | nil => exact similar_runSteps h hd name name post w w (Alike.refl hw)
  | cons s rest ih =>
    rw [List.cons_append]
    by_cases hh : Halted set w
    · rw [runSteps_halted hh, runSteps_halted hh]
      have hv := (World.alike_logged hw .info ("Cancellation requested, stopping '" ++ name ++ "'")).right
      -- the steps that follow are not begun either: they only say so once more
      rcases post with _ | ⟨p, post⟩
      · exact ⟨rfl, Alike.refl hv⟩
      · dsimp only
        rw [if_pos rfl, runSteps_halted (w := w.logged _ _) hh]
        exact ⟨rfl, (World.alike_logged hv _ _).symm⟩
    · rw [runSteps_cons hh, runSteps_cons hh]
      have hv := (similar_runStep h hd s w w (Alike.refl hw)).2.right
      dsimp only
      split
      · exact ih hv
      · exact ⟨rfl, Alike.refl hv⟩

/-! ### In place of a sub-flow -/

/-- A sub-flow gives what the steps of its workflow give, run one level deeper from a world that is like its own. -/
private theorem runStep_inPlace_alike (h : RunsInPlace set.services s c) (hset : set.Similar set) (n : Nat) {w : World}
    (hw : w.Coherent) :
    ∃ u, (openStep set s).attempt.run w = (.ok (.inPlace c), u) ∧
      let v := (u.record (.entered s.reference)).begun c.name
      let p := (runSteps set (below set n) c.name c.steps).run v
      Alike v w ∧ ((runStep set (below set (n + 1)) s).run w).1 = p.1 ∧
        Alike ((runStep set (below set (n + 1)) s).run w).2 p.2 := by
  obtain ⟨u, hopen, hwu⟩ := openStep_inPlace h hw
  have hentered := hwu.recorded (e := .entered s.reference) rfl
  have hv := hentered.trans (World.alike_begun hentered.right c.name)
  refine ⟨u, hopen, hv.symm, ?_⟩
  have hp := (similar_runSteps hset (similar_below hset n) c.name c.name c.steps _ _ (Alike.refl hv.right)).2.right
  rw [runStep_inPlace hopen, scopeAt_eq, runScope_run]
  generalize (runSteps set (below set n) c.name c.steps).run _ = p at hp ⊢
  refine ⟨rfl, ?_⟩
  have hended := World.alike_ended hp c.name p.1.succeeded (u.record (.entered s.reference)).logger.context.workflow
  have hexited := hended.recorded (e := .exited s.reference) rfl
  dsimp only
  split
  · exact ((hexited.logged _ _).logged _ _).symm
  · exact (hexited.logged _ _).symm

/-- A sub-flow among steps may be replaced by the steps of its workflow, as long as the limit is not reached. -/
private theorem runSteps_inPlace (h : RunsInPlace set.services s c) (hset : set.Similar set) (n : Nat) (name : String)
    (pre post : List Step) {w : World} (hw : w.Coherent) (hl : ¬ ReachesLimit set (n + 1) (pre ++ s :: post) w) :
    let p := (runSteps set (below set (n + 1)) name (pre ++ s :: post)).run w
    let q := (runSteps set (below set (n + 1)) name (pre ++ (c.steps ++ post))).run w
    p.1 = q.1 ∧ Alike p.2 q.2 := by
  have hd := similar_below hset (n + 1)
  induction pre generalizing w with
  | nil =>
    -- the workflow's own steps and those after the sub-flow, as one list and one after the other
    have happend := runSteps_append hset hd name c.steps post hw
    dsimp only [List.nil_append] at happend hl ⊢
    by_cases hh : Halted set w
    · rw [runSteps_halted hh]
      rcases hs : c.steps ++ post with _ | ⟨p, rest⟩
      · exact ⟨rfl, (World.alike_logged hw _ _).symm⟩
      · rw [runSteps_halted hh]
        exact ⟨rfl, Alike.refl (World.alike_logged hw _ _).right⟩
    · obtain ⟨u, hopen, hv, hfirst, hafter⟩ := runStep_inPlace_alike h hset n hw
      -- no level is missed below the sub-flow, and its steps do not see that they begin in another world
      rw [← runSteps_one_more_level c.name fun hl' => hl (ReachesLimit.inPlace hh hopen hl')] at hfirst hafter
      obtain ⟨hsame, halike⟩ := similar_runSteps hset hd c.name name c.steps _ _ hv
      have houtcome := hfirst.trans hsame
      have hworld := hafter.trans halike
      rw [runSteps_cons hh]
      dsimp only
      rw [houtcome]
      split
      · rw [if_pos ‹_›] at happend
        obtain ⟨hrest, hrestAlike⟩ := similar_runSteps hset hd name name post _ _ hworld
        exact ⟨hrest.trans happend.1, hrestAlike.trans happend.2⟩
      · rw [if_neg ‹_›] at happend
        exact ⟨houtcome.trans happend.1, hworld.trans happend.2⟩
  | cons p pre ih =>
    dsimp only [List.cons_append]
    by_cases hh : Halted set w
    · rw [runSteps_halted hh, runSteps_halted hh]
      exact ⟨rfl, Alike.refl (World.alike_logged hw _ _).right⟩
    · have hv := (similar_runStep hset hd p w w (Alike.refl hw)).2.right
      rw [runSteps_cons hh, runSteps_cons hh]
      dsimp only
      split
      · exact ih hv fun hl' => hl (ReachesLimit.later hh ‹_› hl')
      · exact ⟨rfl, Alike.refl hv⟩

private theorem runWorkflow_alike {name : String} {steps steps' : List Step} {w : World}
    (ho : ((runSteps set (below set maxNesting) name steps).run (w.begun name)).1 =
      ((runSteps set (below set maxNesting) name steps').run (w.begun name)).1)
    (hv : Alike ((runSteps set (below set maxNesting) name steps).run (w.begun name)).2
      ((runSteps set (below set maxNesting) name steps').run (w.begun name)).2) :
    ((runWorkflow set ⟨name, steps⟩).run w).1 = ((runWorkflow set ⟨name, steps'⟩).run w).1 ∧
      Alike ((runWorkflow set ⟨name, steps⟩).run w).2 ((runWorkflow set ⟨name, steps'⟩).run w).2 := by
  rw [runWorkflow_run, runWorkflow_run, scopeAt_eq, scopeAt_eq, runScope_run, runScope_run]
  dsimp only
  generalize (runSteps set (below set maxNesting) name steps).run _ = p at ho hv ⊢
  generalize (runSteps set (below set maxNesting) name steps').run _ = q at ho hv ⊢
  rw [ho]
  have hended := hv.ended name name q.1.succeeded q.1.succeeded w.logger.context.workflow w.logger.context.workflow
  rw [hended.scope]
  exact ⟨rfl, hended⟩

/-- The nesting limit is far from a sub-flow whose workflow runs rules and validations, with such steps after it. -/
theorem not_reachesLimit_inPlace (h : RunsInPlace set.services s c) (hc : ∀ t ∈ c.steps, t.kind.runsWorkflow = false)
    {post : List Step} (hpost : ∀ t ∈ post, t.kind.runsWorkflow = false) {w : World} (hw : w.Coherent) (n : Nat) :
    ¬ ReachesLimit set (n + 1) (s :: post) w := by
  obtain ⟨u, hopen, -⟩ := openStep_inPlace h hw
  rintro ⟨x, hx, hlevels, hlimit⟩
  cases hx with
  | here => exact absurd hlevels (by simp)
  | later _ _ hx => exact not_reachesLimit hpost ⟨x, hx, hlevels, hlimit⟩
  | inPlace _ ho hx =>
    rw [hopen] at ho
    cases ho
    exact not_reachesLimit hc ⟨x, hx, hlevels, hlimit⟩
  | onEach _ ho =>
    rw [hopen] at ho
    cases ho

/-- A sub-flow without a condition may be replaced by the steps of its workflow: the run has the same result and calls
the same handlers in the same scopes, whatever they do and wherever it is cancelled. -/
theorem subFlow_in_place {services : Services} (h : RunsInPlace services s c) (keepsDefinitions heedsCancel : Bool)
    (name : String) (pre post : List Step) {w : World} (hw : w.Coherent)
    (hl : ¬ ReachesLimit (setting services keepsDefinitions heedsCancel) maxNesting (pre ++ s :: post)
      (w.begun name)) :
    let set := setting services keepsDefinitions heedsCancel
    let p := (runWorkflow set ⟨name, pre ++ s :: post⟩).run w
    let q := (runWorkflow set ⟨name, pre ++ c.steps ++ post⟩).run w
    p.1 = q.1 ∧ p.2.calls = q.2.calls := by
  have hset := similar_setting services keepsDefinitions keepsDefinitions heedsCancel
  have hsteps := runSteps_inPlace h hset (maxNesting - 1) name pre post (World.alike_begun hw name).right hl
  rw [List.append_assoc]
  obtain ⟨hresult, hworld⟩ := runWorkflow_alike hsteps.1 hsteps.2
  exact ⟨hresult, hworld.calls⟩

/-! ### A sub-flow that runs one rule -/

private def marking : Workflow := { steps := [{ implementationKey := some "mark" }] }

private def markingServices : Services where
  registry := { rules := [("mark", .ready ⟨"Mark", fun _ => .ask (.setState [("marked", .bool true)]) Script.done⟩)] }
  repository := some (MemoryStore.repository [("inner", marking.written)])
  construct := fun _ _ => .error (.type (.stated "no classes"))

private def markingStep : Step := { kind := .subFlow, subFlowRef := some "inner" }

private theorem read_marking : Definition.read marking.written = .ok (some marking) :=
  Definition.read_written (by decide)

theorem subFlow_in_place_marking :
    let set := setting markingServices true true
    let w := (Pipeline.start markingServices .null [] "execution" "pipeline" none).world
    RunsInPlace markingServices markingStep marking ∧ w.Coherent ∧
      ¬ ReachesLimit set maxNesting (markingStep :: marking.steps) (w.begun "outer") ∧
      let p := (runWorkflow set ⟨"outer", markingStep :: marking.steps⟩).run w
      let q := (runWorkflow set ⟨"outer", marking.steps ++ marking.steps⟩).run w
      p.1 = q.1 ∧ p.2.calls = q.2.calls := by
  have hw := Pipeline.coherent_start markingServices .null [] "execution" "pipeline" none
  have hstep : RunsInPlace markingServices markingStep marking := ⟨rfl, rfl, _, _, rfl, rfl, read_marking⟩
  have hrules : ∀ t ∈ marking.steps, t.kind.runsWorkflow = false := by decide
  have hset : Setting.services (setting markingServices true true) = markingServices := rfl
  have hl := not_reachesLimit_inPlace (hset ▸ hstep) hrules hrules (World.alike_begun hw "outer").right 31
  exact ⟨hstep, hw, hl, subFlow_in_place hstep true true "outer" [] marking.steps hw hl⟩

end Run
end FlowRules
