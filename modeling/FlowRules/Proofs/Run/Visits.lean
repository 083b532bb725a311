import FlowRules.Proofs.Run.Simulation

/-!
# The steps that a run begins

A run begins steps at several depths: those of its workflow, those of the workflows that sub-flows run in their place,
and those of the workflows that loops run on their items.  `Visits` says which steps are begun, in which world, inside
which loops, and how many levels are left below them.
-/

namespace FlowRules

/-- A step that is begun in a run. -/
structure Visit where
  /-- The labels of the loops around the step, the outermost first, each with the index of its item. -/
  loops : List (String × Nat) := []
  /-- How many more levels may be opened. -/
  levels : Nat
  step : Step
  /-- The world in which the step begins. -/
  world : World

namespace Run

open World (Alike)

/-- How workflows are run below a scope with some number of levels left. -/
def below (set : Setting) : Nat → Deeper
  | 0 => none
  | levels + 1 => some (scopeAt set levels)

theorem scopeAt_eq (set : Setting) (levels : Nat) (c : Workflow) :
    scopeAt set levels c = runScope set (below set levels) c := by
  cases levels <;> rfl

/-- A scope has the outcome of its steps. -/
theorem scopeAt_run {set : Setting} {n : Nat} {c : Workflow} {w u : World} {o : Outcome}
    (h : (runSteps set (below set n) c.name c.steps).run (w.begun c.name) = (o, u)) :
    (scopeAt set n c).run w = (o, u.ended c.name o.succeeded w.logger.context.workflow) := by
  rw [scopeAt_eq, runScope_run, h]

theorem similar_below {set : Setting} (h : set.Similar set) (n : Nat) :
    Deeper.Similar (below set n) (below set n) := by
  cases n with
  | zero => trivial
  | succ n => exact similar_scopeAt h n

/-- In a loop through some items from a world, the scope of the item with an index begins in a world: all items before
it have succeeded. -/
inductive ItemBegins (set : Setting) (body : Act Outcome) : Nat → List Value → World → Nat → World → Prop where
  | here {k : Nat} {item : Value} {items : List Value} {w : World} (h : ¬ Halted set w) :
    ItemBegins set body k (item :: items) w k (w.intoItem item)
  | later {k j : Nat} {item : Value} {items : List Value} {w v : World} (h : ¬ Halted set w)
    (ho : ((inChild item body).run w).1.succeeded = true)
    (hi : ItemBegins set body (k + 1) items ((inChild item body).run w).2 j v) :
    ItemBegins set body k (item :: items) w j v

/-- In a run of some steps from a world, a step is begun. -/
inductive Visits (set : Setting) : Nat → List Step → World → Visit → Prop where
  | here {n : Nat} {s : Step} {rest : List Step} {w : World} (h : ¬ Halted set w) :
    Visits set n (s :: rest) w { levels := n, step := s, world := w }
  | later {n : Nat} {s : Step} {rest : List Step} {w : World} {x : Visit} (h : ¬ Halted set w)
    (ho : ((runStep set (below set n) s).run w).1.succeeded = true)
    (hx : Visits set n rest ((runStep set (below set n) s).run w).2 x) :
    Visits set n (s :: rest) w x
  | inPlace {n : Nat} {s : Step} {rest : List Step} {w v : World} {c : Workflow} {x : Visit} (h : ¬ Halted set w)
    (ho : (openStep set s).attempt.run w = (.ok (.inPlace c), v))
    (hx : Visits set n c.steps ((v.record (.entered s.reference)).begun c.name) x) :
    Visits set (n + 1) (s :: rest) w x
  | onEach {n k : Nat} {s : Step} {rest : List Step} {w v u : World} {c : Workflow} {items : List Value} {x : Visit}
    (h : ¬ Halted set w) (ho : (openStep set s).attempt.run w = (.ok (.onEach c items), v))
    (hi : ItemBegins set (scopeAt set n c) 0 items (v.record (.entered s.reference)) k u)
    (hx : Visits set n c.steps (u.begun c.name) x) :
    Visits set (n + 1) (s :: rest) w { x with loops := (s.displayName, k) :: x.loops }

/-- A run comes to a step that is about to run another workflow while no level is left for it. -/
def ReachesLimit (set : Setting) (levels : Nat) (steps : List Step) (w : World) : Prop :=
  ∃ x, Visits set levels steps w x ∧ x.levels = 0 ∧
    ∃ o v, (openStep set x.step).attempt.run x.world = (.ok o, v) ∧ ∀ outcome, o ≠ .done outcome

/-! ### Coherence -/

section

variable {set : Setting} {n : Nat} {s : Step} {w v : World}

theorem coherent_runStep (h : set.Similar set) (hw : w.Coherent) :
    ((runStep set (below set n) s).run w).2.Coherent :=
  (similar_runStep h (similar_below h n) s w w (Alike.refl hw)).2.right

theorem coherent_openStep (h : set.Similar set) (hw : w.Coherent) {r : Except Fault Opening}
    (ho : (openStep set s).attempt.run w = (r, v)) : v.Coherent := by
  have hv := (similar_openStep h s w w (Alike.refl hw)).2.right
  rw [ho] at hv
  exact hv

theorem coherent_entered (hw : w.Coherent) (reference name : String) :
    ((w.record (.entered reference)).begun name).Coherent :=
  (World.alike_begun (World.alike_record hw rfl).right name).right

theorem ItemBegins.coherent (h : set.Similar set) {c : Workflow} {k j : Nat} {items : List Value}
    (hi : ItemBegins set (scopeAt set n c) k items w j v) (hw : w.Coherent) : v.Coherent := by
  induction hi with
  | here _ => exact ((Alike.refl hw).intoItem _).right
  | later _ _ _ ih => exact ih (similar_inChild (similar_scopeAt h n c) _ _ _ (Alike.refl hw)).2.right

/-- Every step that is begun in a run from a coherent world begins in a coherent world. -/
theorem Visits.coherent (h : set.Similar set) {steps : List Step} {x : Visit} (hx : Visits set n steps w x)
    (hw : w.Coherent) : x.world.Coherent := by
  induction hx with
  | here => exact hw
  | later _ _ _ ih => exact ih (coherent_runStep h hw)
  | inPlace _ ho _ ih => exact ih (coherent_entered (coherent_openStep h hw ho) _ _)
  | onEach _ ho hi _ ih =>
    have hitem := hi.coherent h (World.alike_record (coherent_openStep h hw ho) rfl).right
    exact ih (World.alike_begun hitem _).right

end

/-! ### Steps that run no workflow -/

theorem openStep_done {set : Setting} {s : Step} (h : s.kind.runsWorkflow = false) {w v : World} {o : Opening}
    (ho : (openStep set s).attempt.run w = (.ok o, v)) : ∃ outcome, o = .done outcome := by
  have hopens : (∀ outcome, o ≠ .done outcome) → False := by
    intro hdone
    obtain ⟨_, _, ⟨hk, -⟩ | ⟨hk, -⟩⟩ := openStep_opens ho hdone <;> rw [hk] at h <;> cases h
  rcases o with outcome | c | ⟨c, items⟩
  · exact ⟨outcome, rfl⟩
  · exact (hopens nofun).elim
  · exact (hopens nofun).elim

/-- Where no step runs a workflow, all steps that are begun are among the given ones. -/
theorem Visits.mem {set : Setting} {n : Nat} {steps : List Step} {w : World} {x : Visit}
    (h : ∀ s ∈ steps, s.kind.runsWorkflow = false) (hx : Visits set n steps w x) : x.step ∈ steps := by
  induction hx with
  | here => exact List.mem_cons_self
  | later _ _ _ ih => exact List.mem_cons_of_mem _ (ih fun s hs => h s (List.mem_cons_of_mem _ hs))
  | inPlace _ ho =>
    obtain ⟨outcome, ho⟩ := openStep_done (h _ List.mem_cons_self) ho
    cases ho
  | onEach _ ho =>
    obtain ⟨outcome, ho⟩ := openStep_done (h _ List.mem_cons_self) ho
    cases ho

theorem not_reachesLimit {set : Setting} {n : Nat} {steps : List Step} {w : World}
    (h : ∀ s ∈ steps, s.kind.runsWorkflow = false) : ¬ ReachesLimit set n steps w := by
  rintro ⟨x, hx, -, o, v, ho, hdone⟩
  obtain ⟨outcome, rfl⟩ := openStep_done (h _ (hx.mem h)) ho
  exact hdone outcome rfl

/-! ### Steps that run a workflow -/

section

variable {set : Setting} {n : Nat} {s : Step} {w v : World} {c : Workflow}

/-- A sub-flow whose workflow is run has its outcome. -/
theorem runStep_inPlace (ho : (openStep set s).attempt.run w = (.ok (.inPlace c), v)) :
    (runStep set (below set (n + 1)) s).run w =
      let p := (scopeAt set n c).run (v.record (.entered s.reference))
      let z := p.2.record (.exited s.reference)
      let u :=
        if !p.1.succeeded then z.logged .warning ("SubFlow '" ++ s.reference ++ "' failed. Stopping parent flow.")
        else z
      (p.1, u.logged .info (LogMessage.subFlowExited s.reference)) := by
  have hlevel : below set (n + 1) = some (scopeAt set n) := rfl
  rw [hlevel, runStep_run, doStep, attempt_bind, ho]
  dsimp only
  rw [proceed_inPlace_run]

/-- A loop whose items are run has their outcome. -/
theorem runStep_onEach {items : List Value} (ho : (openStep set s).attempt.run w = (.ok (.onEach c items), v)) :
    (runStep set (below set (n + 1)) s).run w =
      let p := (runItems set (scopeAt set n) c s.displayName 0 items).run (v.record (.entered s.reference))
      (p.1, (p.2.record (.exited s.reference)).logged .info (LogMessage.loopEnded s.displayName)) := by
  have hlevel : below set (n + 1) = some (scopeAt set n) := rfl
  rw [hlevel, runStep_run, doStep, attempt_bind, ho]
  dsimp only
  rw [proceed_onEach_run]

end

/-! ### Doing without the limit -/

private theorem runItems_congr {set : Setting} (run run' : Workflow → Act Outcome) {c : Workflow} (label : String)
    {items : List Value} {k : Nat} {w : World}
    (h : ∀ j v, ItemBegins set (run c) k items w j v → (run c).run v = (run' c).run v) :
    (runItems set run c label k items).run w = (runItems set run' c label k items).run w := by
  induction items generalizing k w with
  | nil => rfl
  | cons item items ih =>
    by_cases hh : Halted set w
    · rw [runItems_halted hh, runItems_halted hh]
    · have hfirst : (inChild item (run c)).run w = (inChild item (run' c)).run w := by
        rw [inChild_run, inChild_run, h k _ (ItemBegins.here hh)]
      rw [runItems_cons hh, runItems_cons hh, ← hfirst]
      dsimp only
      split
      · exact ih fun j v hi => h j v (ItemBegins.later hh ‹_› hi)
      · rfl

section

variable {set : Setting} {n : Nat} {s : Step} {rest : List Step} {w v : World} {c : Workflow}

theorem ReachesLimit.later (h : ¬ Halted set w) (ho : ((runStep set (below set n) s).run w).1.succeeded = true)
    (hl : ReachesLimit set n rest ((runStep set (below set n) s).run w).2) : ReachesLimit set n (s :: rest) w := by
  obtain ⟨x, hx, hlevels, hopen⟩ := hl
  exact ⟨x, Visits.later h ho hx, hlevels, hopen⟩

theorem ReachesLimit.inPlace (h : ¬ Halted set w) (ho : (openStep set s).attempt.run w = (.ok (.inPlace c), v))
    (hl : ReachesLimit set n c.steps ((v.record (.entered s.reference)).begun c.name)) :
    ReachesLimit set (n + 1) (s :: rest) w := by
  obtain ⟨x, hx, hlevels, hopen⟩ := hl
  exact ⟨x, Visits.inPlace h ho hx, hlevels, hopen⟩

theorem ReachesLimit.onEach {items : List Value} {k : Nat} {u : World} (h : ¬ Halted set w)
    (ho : (openStep set s).attempt.run w = (.ok (.onEach c items), v))
    (hi : ItemBegins set (scopeAt set n c) 0 items (v.record (.entered s.reference)) k u)
    (hl : ReachesLimit set n c.steps (u.begun c.name)) : ReachesLimit set (n + 1) (s :: rest) w := by
  obtain ⟨x, hx, hlevels, hopen⟩ := hl
  exact ⟨_, Visits.onEach h ho hi hx, hlevels, hopen⟩

/-- At the last level the limit is reached by every step that is about to run another workflow. -/
theorem ReachesLimit.here {o : Opening} (h : ¬ Halted set w) (ho : (openStep set s).attempt.run w = (.ok o, v))
    (hdone : ∀ outcome, o ≠ .done outcome) : ReachesLimit set 0 (s :: rest) w :=
  ⟨_, Visits.here h, rfl, o, v, ho, hdone⟩

end

private theorem doStep_one_more_level {set : Setting} {n : Nat} {s : Step} {rest : List Step} {w : World}
    (hh : ¬ Halted set w) (h : ¬ ReachesLimit set n (s :: rest) w)
    (hscope : ∀ m, n = m + 1 → ∀ c u, ¬ ReachesLimit set m c.steps (u.begun c.name) →
      (scopeAt set (m + 1) c).run u = (scopeAt set m c).run u) :
    (doStep set (below set (n + 1)) s).attempt.run w = (doStep set (below set n) s).attempt.run w := by
  unfold doStep
  rw [attempt_bind, attempt_bind]
  rcases ho : (openStep set s).attempt.run w with ⟨f | outcome | c | ⟨c, items⟩, v⟩
  · rfl
  · rfl
  · rcases n with _ | n
    · exact absurd (ReachesLimit.here hh ho nofun) h
    · dsimp only [below]
      rw [proceed_inPlace_run, proceed_inPlace_run,
        hscope n rfl c _ fun hl => h (ReachesLimit.inPlace hh ho hl)]
  · rcases n with _ | n
    · exact absurd (ReachesLimit.here hh ho nofun) h
    · dsimp only [below]
      rw [proceed_onEach_run, proceed_onEach_run]
      have hitems := runItems_congr (scopeAt set n) (scopeAt set (n + 1)) s.displayName
        fun j u hi => (hscope n rfl c u fun hl => h (ReachesLimit.onEach hh ho hi hl)).symm
      rw [hitems]

/-- One more level makes no difference to a run that does not come to the limit. -/
theorem runSteps_one_more_level {set : Setting} {n : Nat} (name : String) {steps : List Step} {w : World}
    (h : ¬ ReachesLimit set n steps w) :
    (runSteps set (below set (n + 1)) name steps).run w = (runSteps set (below set n) name steps).run w := by
  -- the scopes that these steps open have fewer levels left, and the later steps as many
  induction n using Nat.strongRecOn generalizing name steps w with
  | ind n ihn =>
    have hscope : ∀ m, n = m + 1 → ∀ c u, ¬ ReachesLimit set m c.steps (u.begun c.name) →
        (scopeAt set (m + 1) c).run u = (scopeAt set m c).run u := by
      intro m hm c u hl
      rw [scopeAt_eq, scopeAt_eq, runScope_run, runScope_run, ihn m (by omega) c.name hl]
    induction steps generalizing w with
    | nil => rfl
    | cons s rest ih =>
      by_cases hh : Halted set w
      · rw [runSteps_halted hh, runSteps_halted hh]
      · have hstep : (runStep set (below set (n + 1)) s).run w = (runStep set (below set n) s).run w := by
          rw [runStep_run, runStep_run, doStep_one_more_level hh h hscope]
        rw [runSteps_cons hh, runSteps_cons hh, hstep]
        dsimp only
        split
        · exact ih fun hl => h (ReachesLimit.later hh ‹_› hl)
        · rfl

end Run
end FlowRules
