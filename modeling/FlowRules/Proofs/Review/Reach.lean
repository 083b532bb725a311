import FlowRules.Proofs.Review.Walk
import FlowRules.Proofs.Store.Size
import FlowRules.Proofs.Workflow.Extent
import FlowRules.Proofs.Workflow.Writing
import Mathlib.Algebra.Order.BigOperators.Group.Finset
import Mathlib.Data.Set.Finite.Basic

/-!
# Reviews end

Main statement: if finitely many names can be reached, and all that fails there is reported, then a review ends; it
looks up the names that can be reached, each once, and no other, and it reports the defects under each of them
(`review_visits_reachable`).  Each step of the walk lowers the number of names that are pending and of references that
have not come up yet.  Where the size of a repository is right, its names and their references are few enough for the
limit of a review (`Repository.Sized.pending_le_extent`), as it is for definitions in memory and in a directory of
files (`MemoryStore.sized_repository`, `FileTree.sized_repository`).
-/

namespace FlowRules

theorem Definition.length_references (text : String) : (references text).length ≤ text.length := by
  unfold references
  split
  · next c hread => exact c.length_references.trans (length_steps hread)
  · exact Nat.zero_le _

namespace Repository

variable {repository : Repository} {root name : String}

theorem mem_references {n : String} :
    n ∈ repository.references name ↔
      ∃ text, repository.find name = .ok (some text) ∧ n ∈ Definition.references text := by
  unfold references
  split
  · next text hfind =>
    rw [hfind]
    simp
  · next hnone =>
    refine ⟨nofun, ?_⟩
    rintro ⟨text, hfind, -⟩
    exact absurd hfind (hnone text)

/-- All names that can be reached but the first are mentioned in a definition. -/
theorem Reaches.mentioned {n : String} (h : repository.Reaches root n) (hn : n ≠ root) :
    ∃ text, (∃ m, repository.find m = .ok (some text)) ∧ n ∈ Definition.references text := by
  rcases Relation.ReflTransGen.cases_tail h with rfl | ⟨m, -, hm⟩
  · exact absurd rfl hn
  · obtain ⟨text, hfind, hmem⟩ := mem_references.1 (refers_iff.1 hm)
    exact ⟨text, ⟨m, hfind⟩, hmem⟩

/-- The number of references that come up when the names are looked up that have not been. -/
def unseen (repository : Repository) (names : Finset String) (visited : List String) : Nat :=
  ∑ n ∈ names with n ∉ visited, (repository.references n).length

theorem unseen_visit (repository : Repository) {names : Finset String} {visited : List String} (hmem : name ∈ names)
    (hname : name ∉ visited) :
    repository.unseen names (visited ++ [name]) + (repository.references name).length =
      repository.unseen names visited := by
  have herase : (names.filter fun n => n ∉ visited ++ [name]) = (names.filter fun n => n ∉ visited).erase name := by
    ext n
    simp only [Finset.mem_filter, Finset.mem_erase, List.mem_append, List.mem_singleton, not_or]
    tauto
  unfold unseen
  rw [herase]
  exact Finset.sum_erase_add _ _ (Finset.mem_filter.2 ⟨hmem, hname⟩)

/-! ### Repositories whose size is right -/

namespace Sized

variable (h : repository.Sized)

include h

theorem length_references_le (name : String) : (repository.references name).length ≤ repository.size := by
  unfold references
  split
  · next text hfind =>
    have htext := h [text] (List.nodup_singleton text) (List.forall_mem_singleton.2 ⟨name, hfind⟩)
    rw [List.map_singleton, List.sum_singleton] at htext
    exact (Definition.length_references text).trans htext
  · exact Nat.zero_le _

/-- Each name but the first takes a place among the references of some definition. -/
theorem card_le {names : Finset String} (hnames : ∀ n ∈ names, repository.Reaches root n) :
    names.card ≤ repository.size + 1 := by
  have hmentioned (n : String) (hn : n ∈ names.erase root) :
      ∃ text, (∃ m, repository.find m = .ok (some text)) ∧ n ∈ Definition.references text :=
    (hnames n (Finset.mem_of_mem_erase hn)).mentioned (Finset.ne_of_mem_erase hn)
  -- each name is charged to one definition that mentions it
  choose! text hfound hmem using hmentioned
  let texts := (names.erase root).image text
  have hsize : ∑ t ∈ texts, t.length ≤ repository.size := by
    have hsum := h texts.toList texts.nodup_toList fun t ht => by
      obtain ⟨n, hn, rfl⟩ := Finset.mem_image.1 (Finset.mem_toList.1 ht)
      exact hfound n hn
    rwa [Finset.sum_map_toList] at hsum
  have hsub : names.erase root ⊆ texts.biUnion fun t => (Definition.references t).toFinset := fun n hn =>
    Finset.mem_biUnion.2 ⟨text n, Finset.mem_image_of_mem text hn, List.mem_toFinset.2 (hmem n hn)⟩
  have hcard : (names.erase root).card ≤ repository.size :=
    calc (names.erase root).card
      _ ≤ (texts.biUnion fun t => (Definition.references t).toFinset).card := Finset.card_le_card hsub
      _ ≤ ∑ t ∈ texts, (Definition.references t).toFinset.card := Finset.card_biUnion_le
      _ ≤ ∑ t ∈ texts, t.length := Finset.sum_le_sum fun t _ =>
        (List.toFinset_card_le _).trans (Definition.length_references t)
      _ ≤ repository.size := hsize
  have herase := Finset.pred_card_le_card_erase (s := names) (a := root)
  omega

theorem finite_reaches (root : String) : {n | repository.Reaches root n}.Finite := by
  by_contra hinfinite
  obtain ⟨names, hnames, hcard⟩ := Set.Infinite.exists_subset_card_eq hinfinite (repository.size + 2)
  have hle : names.card ≤ repository.size + 1 := h.card_le fun n hn => hnames (Finset.mem_coe.2 hn)
  omega

/-- The limit of a review covers its root and all references that can come up. -/
theorem pending_le_extent {names : Finset String} (hnames : ∀ n ∈ names, repository.Reaches root n) :
    1 + repository.unseen names [] ≤ repository.extent := by
  have hsum : repository.unseen names [] ≤ names.card * repository.size := by
    refine (Finset.sum_le_card_nsmul _ _ _ fun n _ => h.length_references_le n).trans ?_
    exact Nat.mul_le_mul_right _ (Finset.card_filter_le _ _)
  have hcard := Nat.mul_le_mul_right repository.size (h.card_le hnames)
  have hsize : (repository.size + 1) * repository.size ≤ (repository.size + 1) * (repository.size + 1) :=
    Nat.mul_le_mul_left _ (Nat.le_succ _)
  unfold extent
  omega

end Sized

end Repository

namespace Review

variable {registry : Registry} {repository other : Repository} {root : String} {pending : List String} {r r' : Review}
  {limit : Nat}

/-! ### The walk -/

/-- A walk that ends within a limit ends in the same way within a higher one. -/
theorem walk_add (h : walk registry repository limit pending r = .ok (some r')) (more : Nat) :
    walk registry repository (limit + more) pending r = .ok (some r') := by
  induction limit generalizing pending r with
  | zero =>
    rcases pending with _ | ⟨name, pending⟩ <;> cases h
    cases more <;> rfl
  | succ limit ih =>
    rw [Nat.succ_add]
    rcases pending with _ | ⟨name, pending⟩
    · exact h
    · rw [walk] at h ⊢
      split at h
      · next hname =>
        rw [if_pos hname]
        exact ih h
      · next hname =>
        rw [if_neg hname]
        rcases hv : visit registry repository name r with f | ⟨next, references⟩ <;> rw [hv] at h
        · cases h
        · exact ih h

/-- A walk goes through where what fails under the names that can be reached is reported, and the limit is no less than
the number of names that are pending and of references that have not come up. -/
theorem exists_walk {names : Finset String} (hnames : ∀ n, repository.Reaches root n → n ∈ names)
    (hreportable : ∀ n, repository.Reaches root n → repository.Reportable n)
    (hr : Stage registry repository root pending r)
    (hlimit : pending.length + repository.unseen names r.visited ≤ limit) :
    ∃ r', walk registry repository limit pending r = .ok (some r') := by
  -- skipping takes a name off the pending ones; a visit does too, and makes pending what was unseen of its references
  induction limit generalizing pending r with
  | zero =>
    have hpending : pending = [] := List.eq_nil_of_length_eq_zero (by omega)
    rw [hpending]
    exact ⟨r, rfl⟩
  | succ limit ih =>
    rcases pending with _ | ⟨name, pending⟩
    · exact ⟨r, rfl⟩
    · rw [List.length_cons] at hlimit
      rw [walk]
      split
      · next hname => exact ih (hr.skip hname) (by omega)
      · next hname =>
        have hreached := hr.reached name (List.mem_append_right _ List.mem_cons_self)
        obtain ⟨next, references, hv⟩ := exists_visit registry (hreportable name hreached) hr.conditions
        obtain ⟨-, hvisited, -, rfl⟩ := visit_spec hv hr.conditions
        have hseen := Repository.unseen_visit repository (hnames name hreached) hname
        rw [hv]
        refine ih (hr.visit hname hv) ?_
        rw [hvisited, List.length_append]
        omega

/-- A walk sees nothing of a repository but what is under the names that can be reached. -/
theorem walk_congr (hother : ∀ n, repository.Reaches root n →
      other.find n = repository.find n ∧ other.missingNote n = repository.missingNote n)
    (hr : Stage registry repository root pending r) :
    walk registry other limit pending r = walk registry repository limit pending r := by
  induction limit generalizing pending r with
  | zero => cases pending <;> rfl
  | succ limit ih =>
    rcases pending with _ | ⟨name, pending⟩
    · rfl
    · rw [walk, walk]
      split
      · next hname => exact ih (hr.skip hname)
      · next hname =>
        obtain ⟨hfind, hnote⟩ := hother name (hr.reached name (List.mem_append_right _ List.mem_cons_self))
        rw [visit_congr hfind hnote]
        rcases hv : visit registry repository name r with f | ⟨next, references⟩
        · rfl
        · exact ih (hr.visit hname hv)

end Review

/-- If finitely many names can be reached, and all that fails under them is reported, then a review ends, from some
limit on, in the same way; the limit that it is given is high enough if the size of the repository is right.  It has
looked up the names that can be reached, each once, and has the defects under each of them.  It has seen nothing else of
the repository: in any other that has the same under these names it is the same. -/
theorem review_visits_reachable {registry : Registry} {repository : Repository} {conditions : ConditionCache}
    {root : String} (hfinite : {n | repository.Reaches root n}.Finite)
    (hreportable : ∀ n, repository.Reaches root n → repository.Reportable n) (hc : conditions.Coherent) :
    ∃ r limit,
      (∀ more, Review.walk registry repository (limit + more) [root] { conditions := conditions } = .ok (some r)) ∧
      (repository.Sized → reviewWorkflow registry repository conditions root = .ok (some r)) ∧
      r.visited.Nodup ∧ (∀ n, n ∈ r.visited ↔ repository.Reaches root n) ∧
      r.defects = r.visited.flatMap (repository.defects registry) ∧
      ∀ other : Repository,
        (∀ n, repository.Reaches root n →
          other.find n = repository.find n ∧ other.missingNote n = repository.missingNote n) →
        ∀ more, Review.walk registry other (limit + more) [root] { conditions := conditions } = .ok (some r) := by
  have hstart := Review.Stage.start registry repository root hc
  have hnames (n : String) : n ∈ hfinite.toFinset ↔ repository.Reaches root n := hfinite.mem_toFinset
  let limit := 1 + repository.unseen hfinite.toFinset []
  have hlimit : [root].length + repository.unseen hfinite.toFinset [] ≤ limit := Nat.le_refl _
  obtain ⟨r, hr⟩ := Review.exists_walk (fun n => (hnames n).2) hreportable hstart hlimit
  have hstage := Review.walk_stage hr hstart
  have hmore := Review.walk_add hr
  refine ⟨r, limit, hmore, ?_, hstage.nodup, fun n => hstage.mem_visited, hstage.defects, ?_⟩
  · intro hsized
    obtain ⟨more, hextent⟩ := Nat.exists_eq_add_of_le (hsized.pending_le_extent fun n => (hnames n).1)
    unfold reviewWorkflow
    rw [hextent]
    exact hmore more
  · intro other hother more
    rw [Review.walk_congr hother hstart]
    exact hmore more

/-! ### Two workflows that refer to each other and to a third that is missing -/

section

private def onceWorkflow : Workflow :=
  { steps := [{ kind := .subFlow, subFlowRef := some "twice" }, { kind := .subFlow, subFlowRef := some "nowhere" },
      { implementationKey := some "absent" }] }

private def twiceWorkflow : Workflow :=
  { steps := [{ kind := .subFlow, subFlowRef := some "once", condition := some "(" },
      { kind := .subFlow, subFlowRef := some "nowhere" },
      { kind := .validation, mode := .simple, targetProperty := some "name", operator := some "~=" }] }

private def cyclicRepository : Repository :=
  MemoryStore.repository [("once", onceWorkflow.written), ("twice", twiceWorkflow.written)]

private theorem complete_once : ∀ s ∈ onceWorkflow.steps, Schema.missing? s = none := by decide

private theorem complete_twice : ∀ s ∈ twiceWorkflow.steps, Schema.missing? s = none := by decide

private def failsInEngine (condition : String) : Bool :=
  match Expr.ofText condition with
  | .error f => f.isEngineFault
  | .ok _ => true

private theorem reportable_written {c : Workflow} (hsteps : ∀ s ∈ c.steps, Schema.missing? s = none)
    (h : (c.conditions.all fun e => failsInEngine e.2) = true) : Definition.Reportable c.written := by
  have hread := Definition.read_written hsteps
  constructor
  · intro f hfault
    rw [hread] at hfault
    cases hfault
  · intro c' hc' s hs hcondition f hparse
    obtain rfl := Option.some.inj (Except.ok.inj (hread.symm.trans hc'))
    have he := List.all_eq_true.1 h _ (Workflow.mem_conditions hs hcondition)
    dsimp only at he
    rw [failsInEngine, hparse] at he
    exact he

private theorem reportable_cyclic (name : String) : cyclicRepository.Reportable name := by
  refine ⟨nofun, fun text hfind => ?_⟩
  have hmem := mem_of_lookup (Except.ok.inj hfind)
  simp only [List.mem_cons, Prod.mk.injEq, List.not_mem_nil, or_false] at hmem
  rcases hmem with ⟨-, rfl⟩ | ⟨-, rfl⟩
  · exact reportable_written complete_once (by decide)
  · exact reportable_written complete_twice (by decide)

/-- The review ends, and under each of the three names there is something wrong. -/
theorem review_visits_reachable_cyclic :
    cyclicRepository.defects {} "once" = [⟨"once", "absent", "no rule registered as 'absent'"⟩] ∧
      cyclicRepository.defects {} "twice" =
        [⟨"twice", "once", "Invalid Condition Syntax: '(' (expected a value, found end of input at position 1)"⟩,
          ⟨"twice", "Validation", "unsupported operator '~='"⟩] ∧
      cyclicRepository.defects {} "nowhere" = [⟨"nowhere", "-", "workflow not found"⟩] ∧
      cyclicRepository.Sized ∧ {n | cyclicRepository.Reaches "once" n}.Finite ∧
      (∀ n, cyclicRepository.Reaches "once" n → cyclicRepository.Reportable n) ∧
      ∃ r limit,
        (∀ more, Review.walk {} cyclicRepository (limit + more) ["once"] {} = .ok (some r)) ∧
        (cyclicRepository.Sized → reviewWorkflow {} cyclicRepository {} "once" = .ok (some r)) ∧
        r.visited.Nodup ∧ (∀ n, n ∈ r.visited ↔ cyclicRepository.Reaches "once" n) ∧
        r.defects = r.visited.flatMap (cyclicRepository.defects {}) ∧
        ∀ other : Repository,
          (∀ n, cyclicRepository.Reaches "once" n →
            other.find n = cyclicRepository.find n ∧ other.missingNote n = cyclicRepository.missingNote n) →
          ∀ more, Review.walk {} other (limit + more) ["once"] {} = .ok (some r) := by
  have hsized : cyclicRepository.Sized := MemoryStore.sized_repository _
  have hfinite := hsized.finite_reaches "once"
  have hreportable (n : String) (_ : cyclicRepository.Reaches "once" n) := reportable_cyclic n
  have honce : cyclicRepository.Defines "once" onceWorkflow := ⟨_, rfl, Definition.read_written complete_once⟩
  have htwice : cyclicRepository.Defines "twice" twiceWorkflow := ⟨_, rfl, Definition.read_written complete_twice⟩
  refine ⟨?_, ?_, rfl, hsized, hfinite, hreportable, ?_⟩
  · rw [honce.defects]
    decide
  · rw [htwice.defects]
    decide
  exact review_visits_reachable hfinite hreportable ConditionCache.coherent_empty

end

end FlowRules
