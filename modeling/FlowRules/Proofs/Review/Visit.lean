import FlowRules.Proofs.Run.Coherence
import FlowRules.Review.Static

/-!
# What a visit adds to a review

What is wrong with the workflow under a name, and which names it refers to, is a matter of the repository and the
registry alone.  Main statements: a visit adds exactly these defects and hands on exactly these references, whatever
the review has found so far (`Review.visit_spec`), and it succeeds where all that fails is reported
(`Review.exists_visit`).
-/

namespace FlowRules

namespace Workflow

variable {c : Workflow} {s : Step}

/-! ### References -/

theorem mem_conditions (hs : s ∈ c.steps) (hc : s.hasCondition = true) : (s, s.condition.getD "") ∈ c.conditions := by
  unfold conditions
  exact List.mem_map.2 ⟨s, List.mem_filter.2 ⟨hs, hc⟩, rfl⟩

private def addReference (names : List String) (s : Step) : List String :=
  if s.reference ∈ names then names else names ++ [s.reference]

private theorem mem_addReference {names : List String} {n : String} :
    n ∈ addReference names s ↔ n ∈ names ∨ s.reference = n := by
  unfold addReference
  split
  · next hs =>
    refine ⟨Or.inl, ?_⟩
    rintro (hn | rfl)
    · exact hn
    · exact hs
  · rw [List.mem_append, List.mem_singleton, eq_comm (a := n)]

private theorem length_addReference (names : List String) (s : Step) :
    (addReference names s).length ≤ names.length + 1 := by
  unfold addReference
  split
  · exact Nat.le_succ _
  · exact Nat.le_of_eq List.length_append

private theorem mem_foldl_addReference {steps : List Step} {names : List String} {n : String} :
    n ∈ steps.foldl addReference names ↔ n ∈ names ∨ ∃ s ∈ steps, s.reference = n := by
  induction steps generalizing names with
  | nil => simp
  | cons s steps ih => rw [List.foldl_cons, ih, mem_addReference, List.exists_mem_cons_iff, or_assoc]

private theorem length_foldl_addReference (steps : List Step) (names : List String) :
    (steps.foldl addReference names).length ≤ names.length + steps.length := by
  induction steps generalizing names with
  | nil => exact Nat.le_refl _
  | cons s steps ih =>
    have hs := length_addReference names s
    have hsteps := ih (addReference names s)
    rw [List.foldl_cons, List.length_cons]
    omega

theorem mem_references {n : String} :
    n ∈ c.references ↔ ∃ s ∈ c.steps, s.kind.runsWorkflow = true ∧ s.reference = n := by
  have h : n ∈ (c.steps.filter (·.kind.runsWorkflow)).foldl addReference [] ↔ _ := mem_foldl_addReference
  simp only [List.not_mem_nil, false_or, List.mem_filter, and_assoc] at h
  exact h

theorem length_references (c : Workflow) : c.references.length ≤ c.steps.length := by
  have hfold := length_foldl_addReference (c.steps.filter (·.kind.runsWorkflow)) []
  have hfilter := List.length_filter_le (fun s : Step => s.kind.runsWorkflow) c.steps
  rw [List.length_nil, Nat.zero_add] at hfold
  exact Nat.le_trans hfold hfilter

end Workflow

/-! ### Defects -/

/-- What is wrong with a text as a condition. -/
def Condition.problem? (text : String) : Option String :=
  match Expr.ofText text with
  | .error f => some f.message
  | .ok _ => none

theorem Condition.problem?_eq_none {text : String} : problem? text = none ↔ ∃ tree, Expr.ofText text = .ok tree := by
  unfold problem?
  rcases Expr.ofText text with f | tree <;> simp

/-- What is wrong with the condition of a step, if it has one. -/
def Step.conditionProblems (s : Step) : List String :=
  if s.hasCondition then (Condition.problem? (s.condition.getD "")).toList else []

/-- What a step uses that is not there: the handler of a rule, the operator of a validation that names one, the handler
of a validation that names none. -/
def Step.missing (registry : Registry) (s : Step) : List String :=
  (if s.kind = .rule ∧ registry.hasRule (s.implementationKey.getD "") = false then
    ["no rule registered as '" ++ Text.shownOption s.implementationKey ++ "'"] else []) ++
  (if s.kind = .validation ∧ s.mode = .simple ∧ Operator.ofSpelling? s.operator = none then
    ["unsupported operator '" ++ Text.shownOption s.operator ++ "'"] else []) ++
  (if s.kind = .validation ∧ s.mode = .complex ∧ registry.hasValidation (s.implementationKey.getD "") = false then
    ["no validation rule registered as '" ++ Text.shownOption s.implementationKey ++ "'"] else [])

/-- Problems of steps as defects of their workflow, in the order of the steps. -/
def Review.defectsOf (workflow : String) (problems : Step → List String) (steps : List Step) : List Defect :=
  steps.flatMap fun s => (problems s).map fun problem => ⟨workflow, s.displayName, problem⟩

/-- The review of a step finds at most one thing missing, as the tests exclude each other. -/
theorem Review.toList_stepProblem? (registry : Registry) (s : Step) :
    (stepProblem? registry s).toList = s.missing registry := by
  unfold stepProblem? Step.missing
  rcases hk : s.kind with _ | _ | _ | _
  · rcases h : registry.hasRule (s.implementationKey.getD "") with _ | _ <;> simp [h]
  · rcases hm : s.mode with _ | _
    · rcases Operator.ofSpelling? s.operator with _ | _ <;> simp
    · rcases h : registry.hasValidation (s.implementationKey.getD "") with _ | _ <;> simp [h]
  all_goals simp

namespace Repository

/-- Under a name there is the definition of a workflow. -/
def Defines (r : Repository) (name : String) (c : Workflow) : Prop :=
  ∃ text, r.find name = .ok (some text) ∧ Definition.read text = .ok (some c)

/-- What is wrong with the workflow under a name: its definition is not found or cannot be read, or else some of its
conditions or steps are wrong. -/
def defects (registry : Registry) (r : Repository) (name : String) : List Defect :=
  match r.find name with
  | .error f => [⟨name, Review.noStep, f.message⟩]
  | .ok found =>
    match nonEmpty? found with
    | none => [⟨name, Review.noStep, "workflow not found"⟩]
    | some text =>
      match Definition.read text with
      | .error f => [⟨name, Review.noStep, f.message⟩]
      | .ok none => []
      | .ok (some c) =>
        Review.defectsOf name Step.conditionProblems c.steps ++ Review.defectsOf name (Step.missing registry) c.steps

end Repository

/-- The names of the workflows that a text refers to, if it defines a workflow. -/
def Definition.references (text : String) : List String :=
  match read text with
  | .ok (some c) => c.references
  | _ => []

theorem Definition.read_empty : read "" = .error (.workflowDefinition .empty) := by decide

namespace Repository

/-- Where a workflow is defined, what is wrong is wrong with its conditions and steps. -/
theorem Defines.defects {r : Repository} {name : String} {c : Workflow} (h : r.Defines name c) (registry : Registry) :
    r.defects registry name =
      Review.defectsOf name Step.conditionProblems c.steps ++ Review.defectsOf name (Step.missing registry) c.steps := by
  obtain ⟨text, hfind, hread⟩ := h
  have hne : text ≠ "" := by
    rintro rfl
    rw [Definition.read_empty] at hread
    cases hread
  rw [Repository.defects, hfind]
  dsimp only
  rw [nonEmpty?, if_neg hne]
  dsimp only
  rw [hread]

/-- The names of the workflows that the one under a name refers to, if there is one. -/
def references (r : Repository) (name : String) : List String :=
  match r.find name with
  | .ok (some text) => Definition.references text
  | _ => []

end Repository

/-- Only faults of the engine keep a text from being read, and the conditions in it from being parsed. -/
structure Definition.Reportable (text : String) : Prop where
  reading : ∀ f, read text = .error f → f.isEngineFault = true
  parsing : ∀ c, read text = .ok (some c) → ∀ s ∈ c.steps, s.hasCondition = true →
    ∀ f, Expr.ofText (s.condition.getD "") = .error f → f.isEngineFault = true

/-- Only what a review reports goes wrong under a name: the name is refused, or its definition fails. -/
structure Repository.Reportable (r : Repository) (name : String) : Prop where
  lookup : ∀ f, r.find name = .error f → f.isA "ValueError" = true
  definition : ∀ text, r.find name = .ok (some text) → Definition.Reportable text

namespace Review

variable {registry : Registry} {repository : Repository} {workflow name : String} {r r' : Review}

/-! ### One workflow -/

/-- What is wrong with some conditions of a workflow, in their order. -/
def conditionDefects (workflow : String) (conditions : List (Step × String)) : List Defect :=
  conditions.flatMap fun e => (Condition.problem? e.2).toList.map fun problem => ⟨workflow, e.1.displayName, problem⟩

theorem conditionDefects_conditions (workflow : String) (c : Workflow) :
    conditionDefects workflow c.conditions = defectsOf workflow Step.conditionProblems c.steps := by
  unfold conditionDefects defectsOf Workflow.conditions
  induction c.steps with
  | nil => rfl
  | cons s steps ih =>
    rw [List.flatMap_cons, ← ih, List.filter_cons, Step.conditionProblems]
    split <;> rfl

theorem checkConditions_spec {conditions : List (Step × String)}
    (h : checkConditions workflow conditions r = .ok r') (hc : r.conditions.Coherent) :
    r'.conditions.Coherent ∧ r'.visited = r.visited ∧
      r'.defects = r.defects ++ conditionDefects workflow conditions := by
  induction conditions generalizing r with
  | nil =>
    cases h
    exact ⟨hc, rfl, (List.append_nil _).symm⟩
  | cons e rest ih =>
    obtain ⟨s, condition⟩ := e
    have hcache := ConditionCache.coherent_compile hc condition
    -- one condition leaves the cache coherent and adds what is wrong with it
    obtain ⟨next, hnext, hconditions, hvisited, hdefects⟩ : ∃ next, checkConditions workflow rest next = .ok r' ∧
        next.conditions = (r.conditions.compile condition).2 ∧ next.visited = r.visited ∧
        next.defects = r.defects ++
          ((Condition.problem? condition).map fun problem => (⟨workflow, s.displayName, problem⟩ : Defect)).toList := by
      unfold checkConditions at h
      unfold Condition.problem?
      rcases htree : Expr.ofText condition with f | tree
      · have hfails := ConditionCache.compile_error hc htree
        rcases hp : r.conditions.compile condition with ⟨compiled, cache⟩
        rw [hp] at h hfails
        cases hfails
        dsimp only at h
        split at h
        · exact ⟨_, h, rfl, rfl, rfl⟩
        · cases h
      · obtain ⟨found, parsed, hfound, -⟩ := ConditionCache.compile_ok hc htree
        rcases hp : r.conditions.compile condition with ⟨compiled, cache⟩
        rw [hp] at h hfound
        cases hfound
        refine ⟨_, h, ?_⟩
        cases parsed <;> exact ⟨rfl, rfl, (List.append_nil _).symm⟩
    rw [← hconditions] at hcache
    obtain ⟨hcoherent, hvisited', hdefects'⟩ := ih hnext hcache
    refine ⟨hcoherent, hvisited'.trans hvisited, ?_⟩
    rw [hdefects', hdefects, List.append_assoc, conditionDefects, conditionDefects, List.flatMap_cons]
    rcases Condition.problem? condition with _ | problem <;> rfl

theorem exists_checkConditions {conditions : List (Step × String)}
    (h : ∀ e ∈ conditions, ∀ f, Expr.ofText e.2 = .error f → f.isEngineFault = true) (hc : r.conditions.Coherent) :
    ∃ r', checkConditions workflow conditions r = .ok r' := by
  induction conditions generalizing r with
  | nil => exact ⟨r, rfl⟩
  | cons e rest ih =>
    obtain ⟨s, condition⟩ := e
    obtain ⟨hfirst, hrest⟩ := List.forall_mem_cons.1 h
    have hcache := ConditionCache.coherent_compile hc condition
    unfold checkConditions
    rcases htree : Expr.ofText condition with f | tree
    · have hfails := ConditionCache.compile_error hc htree
      rcases hp : r.conditions.compile condition with ⟨compiled, cache⟩
      rw [hp] at hcache hfails
      cases hfails
      dsimp only
      rw [if_pos (hfirst f htree)]
      exact ih hrest hcache
    · obtain ⟨found, parsed, hfound, -⟩ := ConditionCache.compile_ok hc htree
      rcases hp : r.conditions.compile condition with ⟨compiled, cache⟩
      rw [hp] at hcache hfound
      cases hfound
      cases parsed <;> exact ih hrest hcache

theorem checkSteps_eq (registry : Registry) (workflow : String) (steps : List Step) (r : Review) :
    checkSteps registry workflow steps r =
      { r with defects := r.defects ++ defectsOf workflow (Step.missing registry) steps } := by
  induction steps generalizing r with
  | nil =>
    change r = { r with defects := r.defects ++ [] }
    rw [List.append_nil]
  | cons s steps ih =>
    have hcons : checkSteps registry workflow (s :: steps) r = checkSteps registry workflow steps
        (match stepProblem? registry s with
          | none => r
          | some problem => r.addDefect workflow s.displayName problem) := rfl
    rw [hcons, ih, defectsOf, defectsOf, List.flatMap_cons, ← toList_stepProblem?]
    rcases stepProblem? registry s with _ | problem
    · rfl
    · simp only [addDefect, Option.toList_some, List.map_singleton, List.append_assoc, List.singleton_append]

theorem eq_of_nonEmpty {found : Option String} {text : String} (h : nonEmpty? found = some text) :
    found = some text := by
  cases found with
  | none => cases h
  | some s =>
    dsimp only [nonEmpty?] at h
    split at h
    · cases h
    · exact h

/-- An empty text defines nothing, so it refers to nothing. -/
private theorem references_of_nonEmpty {found : Option String} (hfind : repository.find name = .ok found)
    (h : nonEmpty? found = none) : repository.references name = [] := by
  unfold Repository.references
  rw [hfind]
  rcases found with _ | text
  · rfl
  · dsimp only [nonEmpty?] at h
    split at h
    · next hempty =>
      dsimp only
      rw [hempty, Definition.references, Definition.read_empty]
    · cases h

theorem references_of_read {text : String} (hfind : repository.find name = .ok (some text)) :
    repository.references name = Definition.references text := by
  unfold Repository.references
  rw [hfind]

/-- A visit adds the name and what is wrong under it, and hands on what it refers to. -/
theorem visit_spec {references : List String} (h : visit registry repository name r = .ok (r', references))
    (hc : r.conditions.Coherent) :
    r'.conditions.Coherent ∧ r'.visited = r.visited ++ [name] ∧
      r'.defects = r.defects ++ repository.defects registry name ∧ references = repository.references name := by
  unfold visit at h
  unfold Repository.defects
  dsimp only at h
  rcases hfind : repository.find name with f | found <;> rw [hfind] at h <;> dsimp only at h ⊢
  · have hreferences : repository.references name = [] := by
      unfold Repository.references
      rw [hfind]
    split at h
    · cases h
      exact ⟨hc, rfl, rfl, hreferences.symm⟩
    · cases h
  · rcases hfound : nonEmpty? found with _ | text <;> rw [hfound] at h <;> dsimp only at h ⊢
    · cases h
      refine ⟨?_, ?_, ?_, (references_of_nonEmpty hfind hfound).symm⟩
      · split <;> exact hc
      · split <;> rfl
      · split <;> rfl
    · rw [eq_of_nonEmpty hfound] at hfind
      rw [references_of_read hfind, Definition.references]
      rcases hread : Definition.read text with f | _ | c <;> rw [hread] at h <;> dsimp only at h ⊢
      · split at h
        · cases h
          exact ⟨hc, rfl, rfl, rfl⟩
        · cases h
      · cases h
        exact ⟨hc, rfl, (List.append_nil _).symm, rfl⟩
      · rcases hconditions : checkConditions name c.conditions { r with visited := r.visited ++ [name] } with f | next
          <;> rw [hconditions] at h <;> cases h
        obtain ⟨hcoherent, hvisited, hdefects⟩ := checkConditions_spec hconditions hc
        rw [checkSteps_eq]
        refine ⟨hcoherent, hvisited, ?_, rfl⟩
        dsimp only
        rw [hdefects, conditionDefects_conditions, List.append_assoc]

theorem exists_visit (registry : Registry) (h : repository.Reportable name) (hc : r.conditions.Coherent) :
    ∃ r' references, visit registry repository name r = .ok (r', references) := by
  unfold visit
  dsimp only
  split
  · next f hfind =>
    rw [if_pos (h.lookup f hfind)]
    exact ⟨_, _, rfl⟩
  · next found hfind =>
    split
    · exact ⟨_, _, rfl⟩
    · next text hfound =>
      rw [eq_of_nonEmpty hfound] at hfind
      split
      · next f hread =>
        rw [if_pos ((h.definition text hfind).reading f hread)]
        exact ⟨_, _, rfl⟩
      · exact ⟨_, _, rfl⟩
      · next c hread =>
        have hconditions : ∀ e ∈ c.conditions, ∀ f, Expr.ofText e.2 = .error f → f.isEngineFault = true := by
          intro e he
          obtain ⟨s, hs, rfl⟩ := List.mem_map.1 he
          obtain ⟨hmem, hcondition⟩ := List.mem_filter.1 hs
          exact (h.definition text hfind).parsing c hread s hmem hcondition
        obtain ⟨next, hnext⟩ : ∃ next, checkConditions name c.conditions { r with visited := r.visited ++ [name] } =
            .ok next := exists_checkConditions hconditions hc
        rw [hnext]
        exact ⟨_, _, rfl⟩

/-- Of a repository a visit sees what is under its name, and how this is told if there is nothing. -/
theorem visit_congr {other : Repository} (hfind : other.find name = repository.find name)
    (hnote : other.missingNote name = repository.missingNote name) :
    visit registry other name r = visit registry repository name r := by
  unfold visit
  rw [hfind, hnote]

end Review
end FlowRules
