import FlowRules.Proofs.Loop
import FlowRules.Proofs.Run.Counted
import FlowRules.Proofs.SharedState
import FlowRules.Proofs.SubFlow

/-!
# Chains of workflows

In a chain each workflow has one step, a sub-flow or a loop, that runs the next, and the last has none.  Main statement:
the run of a chain succeeds exactly if it has no more than 32 steps; a longer one fails at its 33rd step, behind the
first items of the loops above it (`Run.nesting_limit_exact`).  A chain that fits into the levels left runs through all
items of all its loops (`Run.chain_succeeds`), and one that does not comes to a step below which there is no level
(`Run.chain_reaches_limit`).
-/

namespace FlowRules

open World (Alike)

/-- If the step that is begun is a loop, it finds its collection in the flow object, with items left in it. -/
def Visit.FindsItems (x : Visit) : Prop :=
  x.step.kind = .forEach →
    x.world.flow.isNull = false ∧
      ∃ v, x.world.flow.field? (x.step.collectionProperty.getD "") = .ok (some v) ∧ v.isCollection = true ∧
        v.itemsLeft x.world.cursors ≠ []

namespace Run

/-- From a workflow a chain of steps leads to one without steps.  Every other workflow on the way has one step, a
sub-flow or a loop without a condition, and its reference is found and defines the next workflow. -/
inductive Chain (services : Services) : Workflow → List Step → Prop where
  | last {c : Workflow} (h : c.steps = []) : Chain services c []
  | link {c d : Workflow} {s : Step} {rest : List Step} (hsteps : c.steps = [s]) (hk : s.kind.runsWorkflow = true)
    (hcondition : s.hasCondition = false) (hd : services.Defines s.reference (some d)) (h : Chain services d rest) :
    Chain services c (s :: rest)

/-- An error from below some steps of a chain, each loop among them at its first item. -/
def errorBelow (steps : List Step) (message : String) : String :=
  steps.foldr (fun s m => if s.kind = .forEach then loopError s.displayName 0 [m] else m) message

/-! ### Worlds that a run goes on from -/

/-- A coherent world in which the run is not cancelled. -/
structure Going (set : Setting) (w : World) : Prop where
  coherent : w.Coherent
  running : ¬ Halted set w

variable {set : Setting} {n : Nat} {s : Step} {c d : Workflow} {w v : World} {steps : List Step}

theorem Going.alike (h : Going set w) (hv : Alike w v) : Going set v :=
  ⟨hv.right, fun hh => h.running ((halted_iff rfl hv).2 hh)⟩

theorem Going.entered (h : Going set w) (reference : String) : Going set (w.record (.entered reference)) :=
  h.alike (World.alike_record h.coherent rfl)

theorem Going.exited (h : Going set w) (reference : String) : Going set (w.record (.exited reference)) :=
  h.alike (World.alike_record h.coherent rfl)

theorem Going.logged (h : Going set w) (level : LogLevel) (message : String) : Going set (w.logged level message) :=
  h.alike (World.alike_logged h.coherent level message)

theorem Going.begun (h : Going set w) (name : String) : Going set (w.begun name) :=
  h.alike (World.alike_begun h.coherent name)

theorem Going.intoItem (h : Going set w) (item : Value) : Going set (w.intoItem item) :=
  ⟨((Alike.refl h.coherent).intoItem item).right, h.running⟩

theorem Going.outOfItem (h : Going set w) (outer : World) : Going set (w.outOfItem outer) :=
  ⟨((Alike.refl h.coherent).outOfItem rfl).right, h.running⟩

/-- An action succeeds from a world, and the run goes on from the world that it leaves. -/
def Passes (set : Setting) (a : Act Outcome) (w : World) : Prop := ∃ u, a.run w = ({}, u) ∧ Going set u

/-! ### One link -/

/-- A link of a chain comes to the next workflow, a loop with items to run it on. -/
theorem openStep_link (hk : s.kind.runsWorkflow = true) (hcondition : s.hasCondition = false)
    (hd : set.services.Defines s.reference (some d)) (hw : Going set w)
    (hitems : Visit.FindsItems { levels := n, step := s, world := w }) :
    ∃ u, Going set u ∧
      (s.kind = .subFlow ∧ (openStep set s).attempt.run w = (.ok (.inPlace d), u) ∨
        s.kind = .forEach ∧ ∃ item items, (openStep set s).attempt.run w = (.ok (.onEach d (item :: items)), u)) := by
  rcases hkind : s.kind <;> rw [hkind] at hk
  · cases hk
  · cases hk
  · obtain ⟨u, hopen, hu⟩ := openStep_inPlace ⟨hkind, hcondition, hd⟩ hw.coherent
    exact ⟨u, hw.alike hu, .inl ⟨rfl, hopen⟩⟩
  · obtain ⟨hnull, x, hfield, hx, hne⟩ := hitems hkind
    obtain ⟨item, items, hleft⟩ := List.exists_cons_of_ne_nil hne
    obtain ⟨u, hopen, hu, hscope, -⟩ :=
      openStep_onEach hkind hd (passes_unconditional hcondition w) hw.coherent hnull hfield hx
    have hrunning : ¬ Halted set u := by
      unfold Halted
      rw [hscope]
      exact hw.running
    rw [hleft] at hopen
    exact ⟨u, ⟨hu, hrunning⟩, .inr ⟨rfl, item, items, hopen⟩⟩

/-! ### Chains that fit -/

/-- A loop succeeds if its workflow does on every item. -/
theorem runItems_passes {run : Workflow → Act Outcome} (label : String) {k : Nat} {items : List Value}
    (hitems : ∀ j v, ItemBegins set (run c) k items w j v → Going set v → Passes set (run c) v)
    (hw : Going set w) : Passes set (runItems set run c label k items) w := by
  induction items generalizing k w with
  | nil => exact ⟨w, rfl, hw⟩
  | cons item items ih =>
    obtain ⟨u, hrun, hu⟩ := hitems k _ (.here hw.running) (hw.intoItem item)
    have hchild : (inChild item (run c)).run w = ({}, u.outOfItem w) := by rw [inChild_run, hrun]
    have hrest : Passes set (runItems set run c label (k + 1) items) (u.outOfItem w) := by
      refine ih (fun j v hi hv => hitems j v (.later hw.running ?_ ?_) hv) (hu.outOfItem w)
      · rw [hchild]
      · rw [hchild]
        exact hi
    obtain ⟨z, hz, hgoing⟩ := hrest
    refine ⟨z, ?_, hgoing⟩
    rw [runItems_cons hw.running, hchild]
    exact hz

/-- A scope whose steps succeed does so. -/
theorem scopeAt_passes (h : Passes set (runSteps set (below set n) c.name c.steps) (w.begun c.name)) :
    Passes set (scopeAt set n c) w := by
  obtain ⟨u, hrun, hu⟩ := h
  exact ⟨_, scopeAt_run hrun, hu.alike (World.alike_ended hu.coherent ..)⟩

/-- A chain with a level for each of its steps succeeds. -/
theorem chain_succeeds (h : Chain set.services c steps) (hn : steps.length ≤ n) (hw : Going set w)
    (hitems : ∀ x, Visits set n c.steps (w.begun c.name) x → x.FindsItems) : Passes set (scopeAt set n c) w := by
  induction h generalizing n w with
  | @last c hsteps =>
    refine scopeAt_passes ⟨w.begun c.name, ?_, hw.begun c.name⟩
    rw [hsteps]
    rfl
  | @link c d s rest hsteps hk hcondition hd _ ih =>
    obtain ⟨n, rfl⟩ := Nat.exists_eq_add_one.2 (Nat.lt_of_lt_of_le (Nat.succ_pos _) hn)
    have hrest : rest.length ≤ n := Nat.le_of_succ_le_succ hn
    have hbegun := hw.begun c.name
    rw [hsteps] at hitems
    obtain ⟨u, hu, hopen⟩ := openStep_link hk hcondition hd hbegun (hitems _ (.here hbegun.running))
    have hentered := hu.entered s.reference
    have hstep : Passes set (runStep set (below set (n + 1)) s) (w.begun c.name) := by
      rcases hopen with ⟨-, hopen⟩ | ⟨-, item, items, hopen⟩
      · obtain ⟨v, hv, hgoing⟩ := ih hrest hentered fun x hx => hitems x (.inPlace hbegun.running hopen hx)
        refine ⟨_, ?_, (hgoing.exited s.reference).logged .info (LogMessage.subFlowExited s.reference)⟩
        rw [runStep_inPlace hopen, hv]
        rfl
      · have hevery (j : Nat) (z : World) (hi : ItemBegins set (scopeAt set n d) 0 (item :: items)
            (u.record (.entered s.reference)) j z) (hz : Going set z) : Passes set (scopeAt set n d) z :=
          ih hrest hz fun x hx =>
            hitems { x with loops := (s.displayName, j) :: x.loops } (.onEach hbegun.running hopen hi hx)
        obtain ⟨v, hv, hgoing⟩ := runItems_passes s.displayName hevery hentered
        refine ⟨_, ?_, (hgoing.exited s.reference).logged .info (LogMessage.loopEnded s.displayName)⟩
        rw [runStep_onEach hopen, hv]
    obtain ⟨v, hv, hgoing⟩ := hstep
    refine scopeAt_passes ⟨v, ?_, hgoing⟩
    rw [hsteps, runSteps_cons hbegun.running, hv]
    rfl

/-! ### Chains that do not fit -/

/-- A link that comes to the next workflow fails by itself if no level is left. -/
theorem failsItself_tooDeep {o : Opening} (hopen : (openStep set s).attempt.run w = (.ok o, v))
    (hdone : ∀ outcome, o ≠ .done outcome) : ∃ u, FailsItself set 0 s w s.tooDeep.message u := by
  have hdo : (doStep set (below set 0) s).attempt.run w = (.error s.tooDeep, v) := by
    rw [doStep, attempt_bind, hopen]
    rcases o with outcome | c | ⟨c, items⟩
    · exact absurd rfl (hdone outcome)
    · rfl
    · rfl
  exact ⟨_, .raised hdo⟩

/-- A chain with more steps than there are levels left comes to one below which there is none, at the first item of
every loop above it. -/
theorem chain_reaches_limit (h : Chain set.services c steps) (hn : n < steps.length) (hw : Going set w)
    (hitems : ∀ x, Visits set n c.steps (w.begun c.name) x → x.FindsItems) :
    ∃ x u, Visits set n c.steps (w.begun c.name) x ∧
      FailsItself set x.levels x.step x.world steps[n].tooDeep.message u ∧
      ∀ message, x.report message = errorBelow (steps.take n) message := by
  induction h generalizing n w with
  | last => exact absurd hn (Nat.not_lt_zero n)
  | @link c d s rest hsteps hk hcondition hd _ ih =>
    have hbegun := hw.begun c.name
    rw [hsteps] at hitems ⊢
    obtain ⟨v, hv, hopen⟩ := openStep_link hk hcondition hd hbegun (hitems _ (.here hbegun.running))
    rcases n with _ | n
    · have hfails : ∃ u, FailsItself set 0 s (w.begun c.name) s.tooDeep.message u := by
        rcases hopen with ⟨-, hopen⟩ | ⟨-, item, items, hopen⟩
        · exact failsItself_tooDeep hopen nofun
        · exact failsItself_tooDeep hopen nofun
      obtain ⟨u, hu⟩ := hfails
      exact ⟨_, u, .here hbegun.running, hu, fun _ => rfl⟩
    · have hrest : n < rest.length := Nat.lt_of_succ_lt_succ hn
      have hentered := hv.entered s.reference
      rcases hopen with ⟨hkind, hopen⟩ | ⟨hkind, item, items, hopen⟩
      · obtain ⟨x, u, hx, hf, hreport⟩ := ih hrest hentered fun x hx => hitems x (.inPlace hbegun.running hopen hx)
        refine ⟨x, u, .inPlace hbegun.running hopen hx, hf, fun message => ?_⟩
        rw [hreport, List.take_succ_cons, errorBelow, errorBelow, List.foldr_cons, if_neg (by simp [hkind])]
      · -- the first item is enough: the loop ends with it
        have hfirst : ItemBegins set (scopeAt set n d) 0 (item :: items) (v.record (.entered s.reference)) 0 _ :=
          .here hentered.running
        obtain ⟨x, u, hx, hf, hreport⟩ := ih hrest (hentered.intoItem item) fun x hx =>
          hitems { x with loops := (s.displayName, 0) :: x.loops } (.onEach hbegun.running hopen hfirst hx)
        refine ⟨_, u, .onEach hbegun.running hopen hfirst hx, hf, fun message => ?_⟩
        rw [List.take_succ_cons, errorBelow, List.foldr_cons, if_pos hkind]
        have hbelow := hreport message
        rw [errorBelow] at hbelow
        rw [← hbelow]
        rfl

/-! ### Runs of chains -/

/-- The run of a chain that is not cancelled and whose loops find items succeeds exactly if the chain has no more than
32 steps.  A longer one fails with one error: its 33rd step goes too deep, which every loop above this step reports with
the place of its item. -/
theorem nesting_limit_exact {set : Setting} {t : Task} {c : Workflow} {steps : List Step}
    (ht : t.Defines set.services c) (hchain : Chain set.services c steps) {w : World} (hw : w.Coherent)
    (hh : ¬ Halted set w) (hitems : ∀ x, Begins set t w x → x.FindsItems) :
    let r := ((task set t).run w).1
    (r.succeeded = true ↔ steps.length ≤ 32) ∧
      ∀ h : 32 < steps.length, r.errors =
        [errorBelow (steps.take 32) ("Sub-flow nesting exceeds 32 levels at '" ++ steps[32].reference ++ "'")] := by
  obtain ⟨v, hv, hrun, hbegins⟩ := task_defined ht hw
  have hgoing : Going set v := Going.alike ⟨hw, hh⟩ hv
  have hvisits : ∀ x, Visits set maxNesting c.steps (v.begun c.name) x → x.FindsItems := fun x hx =>
    hitems x ((hbegins x).2 hx)
  rw [hrun, runWorkflow_run]
  by_cases hlength : steps.length ≤ 32
  · have hpasses : Passes set (scopeAt set maxNesting c) v := chain_succeeds hchain hlength hgoing hvisits
    obtain ⟨u, hu, -⟩ := hpasses
    rw [hu]
    exact ⟨iff_of_true rfl hlength, fun h => absurd hlength (Nat.not_le.2 h)⟩
  · have h : 32 < steps.length := Nat.not_le.1 hlength
    obtain ⟨x, u, hx, hf, hreport⟩ := chain_reaches_limit hchain h hgoing hvisits
    obtain ⟨u', hu', -⟩ := runSteps_of_visit hx hf c.name
    rw [hreport] at hu'
    have hscope : (scopeAt set maxNesting c).run v = (_, _) := scopeAt_run hu'
    rw [hscope]
    exact ⟨iff_of_false Bool.false_ne_true hlength, fun _ => rfl⟩

/-! ### A loop above thirty-two sub-flows -/

/-- The steps that the run of a chain begins are those of the chain, and only the first begins from the world that the
run is given. -/
theorem Chain.mem_of_visits (hset : set.Similar set) (h : Chain set.services c steps) {x : Visit}
    (hx : Visits set n c.steps w x) (hw : w.Coherent) :
    x.step ∈ steps ∧ (x.world = w ∨ x.step ∈ steps.tail) := by
  induction h generalizing n w x with
  | last hsteps =>
    rw [hsteps] at hx
    cases hx
  | link hsteps _ _ hd _ ih =>
    rw [hsteps] at hx
    cases hx with
    | here => exact ⟨List.mem_cons_self, .inl rfl⟩
    | later _ _ hx => cases hx
    | inPlace _ hopen hx =>
      cases openStep_defined hd hw hopen (.inl rfl)
      obtain ⟨hmem, -⟩ := ih hx (coherent_entered (coherent_openStep hset hw hopen) _ _)
      exact ⟨List.mem_cons_of_mem _ hmem, .inr hmem⟩
    | onEach _ hopen hi hx =>
      cases openStep_defined hd hw hopen (.inr ⟨_, rfl⟩)
      have hitem := hi.coherent hset (World.alike_record (coherent_openStep hset hw hopen) rfl).right
      obtain ⟨hmem, -⟩ := ih hx (World.alike_begun hitem _).right
      exact ⟨List.mem_cons_of_mem _ hmem, .inr hmem⟩

private def linkName (i : Nat) : String := "W" ++ toString i

private def linkStep (i : Nat) : Step := { kind := .subFlow, subFlowRef := some (linkName i) }

private def linkWorkflow (i : Nat) : Workflow := { steps := if i < 33 then [linkStep (i + 1)] else [] }

private def linkText (i : Nat) : String := (linkWorkflow i).written

private def linkServices : Services where
  repository := some { find := fun name => .ok (((List.range 34).find? fun i => linkName i = name).map linkText) }
  construct := fun _ _ => .error (.type (.stated "no classes"))

private def linkSetting : Setting := setting linkServices true true

private theorem link_defined {i : Nat} (h : i < 34) : linkServices.Defines (linkName i) (some (linkWorkflow i)) := by
  have hfind : ∀ i < 34, ((List.range 34).find? fun j => linkName j = linkName i) = some i := by decide +kernel
  have hcomplete : ∀ i < 34, ∀ s ∈ (linkWorkflow i).steps, Schema.missing? s = none := by decide +kernel
  refine ⟨_, linkText i, rfl, ?_, Definition.read_written (hcomplete i h)⟩
  exact congrArg (fun found => Except.ok (Option.map linkText found)) (hfind i h)

private theorem links_chain (k : Nat) {i : Nat} (h : i + k = 33) :
    Chain linkServices (linkWorkflow i) ((List.range' (i + 1) k).map linkStep) := by
  induction k generalizing i with
  | zero =>
    obtain rfl : i = 33 := h
    exact .last rfl
  | succ k ih =>
    have hlt : i < 33 := by omega
    exact .link (if_pos hlt) rfl rfl (link_defined (by omega)) (ih (by omega))

private def chainLoop : Step :=
  { name := some "each", kind := .forEach, collectionProperty := some "items", subFlowRef := some (linkName 1) }

private def chainText : String := Workflow.written { steps := [chainLoop] }

private def linkSteps : List Step := chainLoop :: (List.range' 2 32).map linkStep

private def linkWorld : World :=
  (Pipeline.start linkServices (.dict none [(.text "items", .list none [.text "first", .text "second"])]) []
    "execution" "pipeline" none).world

private theorem loop_defined : Task.Defines linkSetting.services (.definition chainText) { steps := [chainLoop] } :=
  Definition.read_written (by decide)

private theorem loop_chain : Chain linkSetting.services { steps := [chainLoop] } linkSteps :=
  .link rfl rfl rfl (link_defined (i := 1) (by decide)) (links_chain 32 rfl)

private theorem coherent_linkWorld : linkWorld.Coherent := Pipeline.coherent_start ..

/-- The loop begins with the flow object of the run, and there is no other loop. -/
private theorem loop_findsItems {x : Visit}
    (hx : Begins linkSetting (.definition chainText) linkWorld x) : x.FindsItems := by
  intro hkind
  obtain ⟨v, hv, -, hbegins⟩ := task_defined loop_defined coherent_linkWorld
  have hbegun := hv.trans (World.alike_begun hv.right "")
  obtain ⟨hmem, hworld⟩ :=
    loop_chain.mem_of_visits (similar_setting linkServices true true true) ((hbegins x).1 hx) hbegun.right
  have hlater : x.step ∉ linkSteps.tail := by
    intro hlater
    obtain ⟨i, -, hi⟩ := List.mem_map.1 hlater
    rw [← hi] at hkind
    cases hkind
  have hstep : x.step = chainLoop := (List.mem_cons.1 hmem).resolve_right hlater
  rw [hstep, hworld.resolve_right hlater, ← hbegun.cursors, ← congrArg Scope.flow hbegun.scope]
  exact ⟨rfl, .list none [.text "first", .text "second"], rfl, rfl, List.cons_ne_nil _ _⟩

/-- Thirty-two sub-flows below a loop are one step too many: the loop fails at its first item. -/
theorem nesting_limit_exact_each :
    let r := ((task linkSetting (.definition chainText)).run linkWorld).1
    Chain linkServices { steps := [chainLoop] } linkSteps ∧ linkSteps.length = 33 ∧ r.succeeded = false ∧
      r.errors = ["Failure in loop 'each' at index 0: Sub-flow nesting exceeds 32 levels at 'W33'"] := by
  obtain ⟨hsucceeded, herrors⟩ := nesting_limit_exact loop_defined loop_chain coherent_linkWorld
    (not_halted rfl) fun _ => loop_findsItems
  have hlength : linkSteps.length = 33 := by decide
  refine ⟨loop_chain, hlength, Bool.eq_false_iff.2 fun h => ?_, (herrors (by decide)).trans (by decide +kernel)⟩
  have hle := hsucceeded.1 h
  omega

end Run
end FlowRules
