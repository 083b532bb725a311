import FlowRules.Proofs.Review.Visit
import Mathlib.Logic.Relation

/-!
# What a review has seen

At every stage of a review the names that it has looked up are pairwise distinct, they can be reached, and what their
workflows refer to has been looked up or is pending (`Review.Stage`); each name that is taken up preserves this.  Main
statements: a review that ends has looked up the names that can be reached, and found the defects under them
(`Review.walk_stage`, `Review.Stage.mem_visited`); and where it has found none, nothing is wrong with any of their
workflows (`Review.walk_sound`).
-/

namespace FlowRules

namespace Repository

/-- A step of the workflow under one name runs the workflow under another. -/
def Refers (r : Repository) (name other : String) : Prop :=
  ∃ c, r.Defines name c ∧ ∃ s ∈ c.steps, s.kind.runsWorkflow = true ∧ s.reference = other

/-- From one name another can be reached. -/
def Reaches (r : Repository) : String → String → Prop := Relation.ReflTransGen r.Refers

theorem refers_iff {r : Repository} {name other : String} : r.Refers name other ↔ other ∈ r.references name := by
  unfold Refers references Defines Definition.references
  constructor
  · rintro ⟨c, ⟨text, hfind, hread⟩, hs⟩
    rw [hfind]
    dsimp only
    rw [hread]
    exact Workflow.mem_references.2 hs
  · intro h
    split at h
    · next text hfind =>
      split at h
      · next c hread => exact ⟨c, ⟨text, hfind, hread⟩, Workflow.mem_references.1 h⟩
      · cases h
    · cases h

end Repository

/-- Nothing is wrong with a step: its condition, if it has one, can be parsed, and what it calls is there. -/
structure Step.Sound (registry : Registry) (s : Step) : Prop where
  condition : s.hasCondition = true → ∃ tree, Expr.ofText (s.condition.getD "") = .ok tree
  problem : Review.stepProblem? registry s = none

namespace Review

variable {registry : Registry} {repository : Repository} {r r' : Review}

/-! ### One workflow -/

/-- Under a name there is a definition, and nothing is wrong with the workflow that it defines, if it defines one; its
references are among some names. -/
def SoundIn (registry : Registry) (repository : Repository) (names : List String) (name : String) : Prop :=
  ∃ text d, repository.find name = .ok (some text) ∧ Definition.read text = .ok d ∧
    ∀ c, d = some c → ∀ s ∈ c.steps, s.Sound registry ∧ (s.kind.runsWorkflow = true → s.reference ∈ names)

/-- Where no condition and no step has a defect, all steps are sound. -/
private theorem sound_of_no_defects {c : Workflow} {name : String}
    (h : defectsOf name Step.conditionProblems c.steps ++ defectsOf name (Step.missing registry) c.steps = []) :
    ∀ s ∈ c.steps, s.Sound registry := by
  obtain ⟨hconditions, hmissing⟩ := List.append_eq_nil_iff.1 h
  intro s hs
  constructor
  · intro hcondition
    have hproblems := List.map_eq_nil_iff.1 (List.flatMap_eq_nil_iff.1 hconditions s hs)
    rw [Step.conditionProblems, if_pos hcondition] at hproblems
    exact Condition.problem?_eq_none.1 (Option.toList_eq_nil_iff.1 hproblems)
  · have hproblems := List.map_eq_nil_iff.1 (List.flatMap_eq_nil_iff.1 hmissing s hs)
    rw [← toList_stepProblem?] at hproblems
    exact Option.toList_eq_nil_iff.1 hproblems

/-- Where nothing is wrong under a name, a definition has been found and all its steps are sound. -/
theorem soundIn_of_no_defects {name : String} (h : repository.defects registry name = []) :
    SoundIn registry repository (repository.references name) name := by
  unfold Repository.defects at h
  split at h
  · cases h
  · next found hfind =>
    split at h
    · cases h
    · next text hfound =>
      rw [eq_of_nonEmpty hfound] at hfind
      rw [references_of_read hfind, Definition.references]
      split at h
      · cases h
      · next hread =>
        refine ⟨text, none, hfind, hread, ?_⟩
        rintro c ⟨⟩
      · next c hread =>
        refine ⟨text, some c, hfind, hread, ?_⟩
        rintro _ ⟨⟩ s hs
        rw [hread]
        exact ⟨sound_of_no_defects h s hs, fun hk => Workflow.mem_references.2 ⟨s, hs, hk, rfl⟩⟩

theorem SoundIn.mono {names names' : List String} {name : String} (h : SoundIn registry repository names name)
    (hsub : ∀ n ∈ names, n ∈ names') : SoundIn registry repository names' name := by
  obtain ⟨text, d, hfind, hread, hsteps⟩ := h
  refine ⟨text, d, hfind, hread, fun c hc s hs => ?_⟩
  obtain ⟨hsound, href⟩ := hsteps c hc s hs
  exact ⟨hsound, fun hk => hsub _ (href hk)⟩

/-! ### All that can be reached -/

variable {root name : String} {pending : List String}

/-- What holds of a review of the workflow under a name while others are pending. -/
structure Stage (registry : Registry) (repository : Repository) (root : String) (pending : List String) (r : Review) :
    Prop where
  nodup : r.visited.Nodup
  reached : ∀ n ∈ r.visited ++ pending, repository.Reaches root n
  begun : root ∈ r.visited ++ pending
  closed : ∀ n ∈ r.visited, ∀ m ∈ repository.references n, m ∈ r.visited ++ pending
  defects : r.defects = r.visited.flatMap (repository.defects registry)
  conditions : r.conditions.Coherent

theorem Stage.start (registry : Registry) (repository : Repository) (root : String) {conditions : ConditionCache}
    (hc : conditions.Coherent) : Stage registry repository root [root] { conditions := conditions } where
  nodup := List.nodup_nil
  reached := List.forall_mem_singleton.2 Relation.ReflTransGen.refl
  begun := List.mem_singleton_self root
  closed := nofun
  defects := rfl
  conditions := hc

/-- A name that has been looked up before need not be pending. -/
theorem Stage.skip (h : Stage registry repository root (name :: pending) r) (hname : name ∈ r.visited) :
    Stage registry repository root pending r := by
  have hdropped (n : String) (hn : n ∈ r.visited ++ name :: pending) : n ∈ r.visited ++ pending := by
    rcases List.mem_append.1 hn with hn | hn
    · exact List.mem_append_left _ hn
    · rcases List.mem_cons.1 hn with rfl | hn
      · exact List.mem_append_left _ hname
      · exact List.mem_append_right _ hn
  refine ⟨h.nodup, fun n hn => h.reached n ?_, hdropped _ h.begun, fun n hn m hm => hdropped m (h.closed n hn m hm),
    h.defects, h.conditions⟩
  exact (List.append_sublist_append_left _).2 (List.sublist_cons_self _ _) |>.subset hn

/-- A visit moves its name from those that are pending to those that have been looked up, and makes pending what it
refers to. -/
theorem Stage.visit {references : List String} (h : Stage registry repository root (name :: pending) r)
    (hname : name ∉ r.visited) (hv : Review.visit registry repository name r = .ok (r', references)) :
    Stage registry repository root (pending ++ references) r' := by
  obtain ⟨hcoherent, hvisited, hdefects, rfl⟩ := visit_spec hv h.conditions
  -- looked up or pending is what was so before, and what the workflow refers to
  have hsplit (n : String) : n ∈ r'.visited ++ (pending ++ repository.references name) ↔
      n ∈ r.visited ++ name :: pending ∨ n ∈ repository.references name := by
    rw [hvisited]
    simp only [List.mem_append, List.mem_cons, List.not_mem_nil, or_false, or_assoc]
  have hreached := h.reached name (List.mem_append_right _ List.mem_cons_self)
  refine ⟨?_, fun n hn => ?_, (hsplit _).2 (Or.inl h.begun), fun n hn m hm => (hsplit m).2 ?_, ?_, hcoherent⟩
  · rw [hvisited]
    exact List.nodup_append'.2 ⟨h.nodup, List.nodup_singleton name, List.disjoint_singleton.2 hname⟩
  · rcases (hsplit n).1 hn with hn | hn
    · exact h.reached n hn
    · exact hreached.tail (Repository.refers_iff.2 hn)
  · rw [hvisited] at hn
    rcases List.mem_append.1 hn with hn | hn
    · exact Or.inl (h.closed n hn m hm)
    · cases List.mem_singleton.1 hn
      exact Or.inr hm
  · rw [hdefects, hvisited, List.flatMap_append, h.defects, List.flatMap_singleton]

/-- A review that ends has come to a stage where nothing is pending. -/
theorem walk_stage {limit : Nat} (h : walk registry repository limit pending r = .ok (some r'))
    (hr : Stage registry repository root pending r) : Stage registry repository root [] r' := by
  induction limit generalizing pending r with
  | zero =>
    rcases pending with _ | ⟨name, pending⟩ <;> cases h
    exact hr
  | succ limit ih =>
    rcases pending with _ | ⟨name, pending⟩
    · cases h
      exact hr
    · rw [walk] at h
      split at h
      · next hname => exact ih h (hr.skip hname)
      · next hname =>
        rcases hv : Review.visit registry repository name r with f | ⟨next, references⟩ <;> rw [hv] at h
        · cases h
        · exact ih h (hr.visit hname hv)

/-- Where nothing is pending, the names that have been looked up are those that can be reached. -/
theorem Stage.mem_visited (h : Stage registry repository root [] r) {n : String} :
    n ∈ r.visited ↔ repository.Reaches root n := by
  obtain ⟨-, hreached, hbegun, hclosed, -, -⟩ := h
  rw [List.append_nil] at hreached hbegun hclosed
  refine ⟨hreached n, fun hn => ?_⟩
  induction hn with
  | refl => exact hbegun
  | tail _ href ih => exact hclosed _ ih _ (Repository.refers_iff.1 href)

/-- A review without defects has looked up its root, and with each name that it has looked up nothing is wrong, and
what this refers to has been looked up too. -/
theorem walk_sound {limit : Nat} {conditions : ConditionCache}
    (h : walk registry repository limit [root] { conditions := conditions } = .ok (some r))
    (hc : conditions.Coherent) (hd : r.defects = []) :
    root ∈ r.visited ∧ ∀ n ∈ r.visited, SoundIn registry repository r.visited n := by
  have hstage := walk_stage h (Stage.start registry repository root hc)
  have hnone := hstage.defects.symm.trans hd
  refine ⟨hstage.mem_visited.2 Relation.ReflTransGen.refl, fun n hn => ?_⟩
  have hclosed := hstage.closed n hn
  rw [List.append_nil] at hclosed
  exact (soundIn_of_no_defects (List.flatMap_eq_nil_iff.1 hnone n hn)).mono hclosed

end Review
end FlowRules
