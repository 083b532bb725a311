import FlowRules.Proofs.Json.RoundTrip
import FlowRules.Proofs.Workflow.Library
import FlowRules.Proofs.Workflow.Refusal

/-!
# Workflows step by step

Whether a workflow is valid is decided at each of its steps alone.  Main statement: a definition with the steps
`s₁ … sₙ` is accepted exactly when each definition with one step `sᵢ` is, and gives the steps that these give; where it
is refused, the report names the steps that are refused alone; and an accepted step has all that its kind needs
(`Definition.decided_by_steps`).  It holds for every library for data models that behaves as is documented.
-/

namespace FlowRules

/-- A field is there and is not blank. -/
def IsFilled (field : Option String) : Prop := ∃ s, field = some s ∧ Text.isBlankText s = false

/-- A step has the fields that its kind needs. -/
structure Step.Complete (s : Step) : Prop where
  reference : s.kind.runsWorkflow = true → IsFilled s.subFlowRef
  collection : s.kind = .forEach → IsFilled s.collectionProperty
  target : s.isDeclarative = true → IsFilled s.targetProperty
  operator : s.isDeclarative = true → IsFilled s.operator

/-- A problem is placed at the step with a number, or inside it. -/
def SchemaProblem.AtStep (p : SchemaProblem) (i : Nat) : Prop := ∃ inside, p.place = "rules" :: toString i :: inside

theorem SchemaProblem.AtStep.inj {p : SchemaProblem} {i k : Nat} (hi : p.AtStep i) (hk : p.AtStep k) : i = k := by
  obtain ⟨inside, hi⟩ := hi
  obtain ⟨inside', hk⟩ := hk
  obtain ⟨-, hplace⟩ := List.cons.inj (hi.symm.trans hk)
  have hdigits : Text.natDigits i = Text.natDigits k := String.ofList_injective (List.cons.inj hplace).1
  rw [← Text.digitsValue_natDigits i, hdigits, Text.digitsValue_natDigits]

namespace Schema

/-! ### What a kind needs -/

theorem isGiven_iff {field : Option String} : isGiven field = true ↔ IsFilled field := by
  cases field with
  | none => simp [isGiven, IsFilled]
  | some s => simp [isGiven, IsFilled]

private theorem given {p : Prop} {field : Option String} (h : ¬(p ∧ isGiven field = false)) (hp : p) : IsFilled field :=
  isGiven_iff.1 (Bool.of_not_eq_false fun hfield => h ⟨hp, hfield⟩)

/-- A step that lacks nothing has all that its kind needs. -/
theorem complete_of_missing?_eq_none {s : Step} (h : missing? s = none) : s.Complete := by
  unfold missing? at h
  simp only [Bool.and_eq_true, Bool.not_eq_true', decide_eq_true_eq] at h
  split at h
  · cases h
  · next hreference =>
    split at h
    · cases h
    · next hcollection =>
      split at h
      · cases h
      · next htarget =>
        split at h
        · cases h
        · next hoperator =>
          exact ⟨given hreference, given hcollection, given htarget, given hoperator⟩

/-! ### Steps of a list -/

namespace Library

/-- A JSON value describes a step. -/
def IsStep (lib : Library) (j : Json) : Prop := (lib.step j).problems = []

instance (lib : Library) (j : Json) : Decidable (lib.IsStep j) :=
  inferInstanceAs (Decidable ((lib.step j).problems = []))

namespace Lawful

variable {lib : Library} (h : lib.Lawful) {members : List (String × Json)} {rules : List Json}

include h

/-- A step that is read has passed the check of what its kind needs. -/
theorem complete {j : Json} (hj : lib.IsStep j) : (lib.step j).value.Complete := by
  unfold IsStep at hj
  cases j with
  | object members =>
    have hstep : lib.step (.object members) = lib.stepOf members := h.model_members ..
    rw [hstep] at hj ⊢
    obtain ⟨-, hmissing, hvalue⟩ := h.checked_valid hj
    rw [stepOf, hvalue]
    exact complete_of_missing?_eq_none hmissing
  | _ => exact absurd hj (h.model_other _ _ _ nofun)

/-- Of an array the steps are read one by one. -/
theorem stepsOf_valid (hlookup : members.lookup "rules" = some (.array rules)) (hrules : ∀ j ∈ rules, lib.IsStep j) :
    lib.stepsOf members = ⟨rules.map fun j => (lib.step j).value, []⟩ := by
  have hfirst : firstMember? members ["rules"] = some ("rules", .array rules) := by rw [firstMember?, hlookup]
  have hitems : lib.items lib.step (.array rules) = ⟨rules.map fun j => (lib.step j).value, []⟩ := h.items_valid hrules
  refine (h.field_valid [] hfirst ?_).trans ?_
  · exact congrArg Reading.problems hitems
  · exact congrArg (fun read => Reading.mk read.value []) hitems

theorem stepsOf_invalid (hlookup : members.lookup "rules" = some (.array rules))
    (hrules : ¬∀ j ∈ rules, lib.IsStep j) :
    (lib.stepsOf members).problems = under ["rules"] (lib.items lib.step (.array rules)).problems := by
  have hfirst : firstMember? members ["rules"] = some ("rules", .array rules) := by rw [firstMember?, hlookup]
  exact h.field_invalid [] hfirst fun hnil => hrules (h.items_problems_eq_nil.1 hnil)

/-- Steps that are read without problems have all that their kinds need, whether they are missing, null or listed. -/
theorem complete_of_stepsOf (hproblems : (lib.stepsOf members).problems = []) :
    ∀ s ∈ (lib.stepsOf members).value, s.Complete := by
  rcases hfirst : firstMember? members ["rules"] with _ | ⟨key, j⟩
  · rw [stepsOf, h.field_missing [] _ hfirst]
    exact List.forall_mem_nil _
  · have hvalid : (lib.items lib.step (emptyIfNull j)).problems = [] := by
      by_contra hinvalid
      rw [stepsOf, h.field_invalid [] hfirst hinvalid] at hproblems
      exact hinvalid (List.map_eq_nil_iff.1 hproblems)
    rw [stepsOf, h.field_valid [] hfirst hvalid]
    obtain ⟨js, hjs⟩ : ∃ js, emptyIfNull j = .array js := by
      by_contra hother
      exact h.items_other lib.step (not_exists.1 hother) hvalid
    rw [hjs] at hvalid ⊢
    have hsteps := h.items_problems_eq_nil.1 hvalid
    rw [h.items_valid hsteps]
    intro s hs
    obtain ⟨i, hi, rfl⟩ := List.mem_map.1 hs
    exact h.complete (hsteps i hi)

/-! ### Where the problems are -/

/-- Each problem of a list of steps is placed at one of them that is not valid. -/
theorem atStep_of_mem {p : SchemaProblem} (hp : p ∈ under ["rules"] (lib.items lib.step (.array rules)).problems) :
    ∃ i j, p.AtStep i ∧ rules[i]? = some j ∧ ¬lib.IsStep j := by
  obtain ⟨q, hq, rfl⟩ := List.mem_map.1 hp
  obtain ⟨i, j, inside, hj, hstep, hplace⟩ := h.items_reported hq
  exact ⟨i, j, ⟨inside, congrArg ("rules" :: ·) hplace⟩, hj, hstep⟩

/-- The steps at which there are problems are those that are not valid. -/
theorem atStep_iff {i : Nat} :
    (∃ p ∈ under ["rules"] (lib.items lib.step (.array rules)).problems, p.AtStep i) ↔
      ∃ j, rules[i]? = some j ∧ ¬lib.IsStep j := by
  constructor
  · rintro ⟨p, hp, hi⟩
    obtain ⟨k, j, hk, hj⟩ := h.atStep_of_mem hp
    obtain rfl := hi.inj hk
    exact ⟨j, hj⟩
  · rintro ⟨j, hj, hstep⟩
    obtain ⟨q, hq, inside, hplace⟩ := h.items_report hj hstep
    exact ⟨_, List.mem_map_of_mem hq, inside, congrArg ("rules" :: ·) hplace⟩

end Lawful

theorem workflow_eq_ok {lib : Library} (h : lib.Lawful) {members : List (String × Json)} {w : Workflow}
    (hw : lib.workflow members = .ok w) :
    w.steps = (lib.stepsOf members).value ∧ (lib.stepsOf members).problems = [] := by
  unfold workflow at hw
  dsimp only at hw
  split at hw
  · next hproblems =>
    cases hw
    exact ⟨rfl, h.together_eq_nil.1 hproblems _ (List.mem_cons_of_mem _ List.mem_cons_self)⟩
  · cases hw

end Library

end Schema

namespace Definition

variable {lib : Schema.Library} {text : String} {rules : List Json}

/-! ### Documents -/

/-- A text is the JSON of a workflow that has the given steps, under a name that may stand there. -/
def IsDocument (lib : Schema.Library) (text : String) (rules : List Json) : Prop :=
  ∃ members, Json.read text = .ok (.object members) ∧ members.lookup "rules" = some (.array rules) ∧
    (lib.nameOf members).problems = []

/-- An object that is read is a workflow, or is refused with what is wrong with it. -/
theorem readBy_object (lib : Schema.Library) {members : List (String × Json)}
    (h : Json.read text = .ok (.object members)) :
    ∃ name, readBy lib text =
      match lib.workflow members with
      | .ok w => .ok (some w)
      | .error problems => .error (.workflowDefinition (.invalid name problems)) := by
  obtain ⟨name, hname⟩ := exists_reportedName ((Json.read_spec text).1 _ h)
  refine ⟨name, ?_⟩
  rw [readBy, Json.not_blank_of_read h, h]
  dsimp only
  rw [hname]
  rfl

/-- A workflow is read from the members of an object. -/
theorem exists_members {w : Workflow} (h : readBy lib text = .ok (some w)) :
    ∃ members, Json.read text = .ok (.object members) ∧ lib.workflow members = .ok w := by
  unfold readBy at h
  split at h
  · cases h
  · split at h
    · cases h
    · cases h
    · cases h
    · cases h
    · next members hread =>
      split at h
      · next hmembers =>
        cases h
        exact ⟨members, hread, hmembers⟩
      · rcases hname : reportedName members with f | name <;> rw [hname] at h <;> cases h
    · cases h

section

variable (hlib : lib.Lawful)

include hlib

/-- A definition whose steps are all valid gives these steps. -/
theorem IsDocument.accepted (h : IsDocument lib text rules) (hrules : ∀ j ∈ rules, lib.IsStep j) :
    ∃ w, readBy lib text = .ok (some w) ∧ w.steps = rules.map fun j => (lib.step j).value := by
  obtain ⟨members, hread, hlookup, hname⟩ := h
  obtain ⟨name, h⟩ := readBy_object lib hread
  have hsteps := hlib.stepsOf_valid hlookup hrules
  have hnone : lib.together [(lib.nameOf members).problems, (lib.stepsOf members).problems] = [] := by
    rw [hname, hsteps]
    exact hlib.together_eq_nil.2 (by simp)
  rw [Schema.Library.workflow, hnone, hsteps] at h
  exact ⟨_, h, rfl⟩

/-- A definition with a step that is not valid is refused with the problems of its steps. -/
theorem IsDocument.refused (h : IsDocument lib text rules) (hrules : ¬∀ j ∈ rules, lib.IsStep j) :
    ∃ name problems, readBy lib text = .error (.workflowDefinition (.invalid name problems)) ∧
      ∀ p, p ∈ problems ↔ p ∈ Schema.under ["rules"] (lib.items lib.step (.array rules)).problems := by
  obtain ⟨members, hread, hlookup, hname⟩ := h
  obtain ⟨name, h⟩ := readBy_object lib hread
  have hmem (p : SchemaProblem) : p ∈ lib.together [(lib.nameOf members).problems, (lib.stepsOf members).problems] ↔
      p ∈ Schema.under ["rules"] (lib.items lib.step (.array rules)).problems := by
    rw [hlib.mem_together, hname, hlib.stepsOf_invalid hlookup hrules]
    simp
  refine ⟨name, _, ?_, hmem⟩
  have hsome : lib.together [(lib.nameOf members).problems, (lib.stepsOf members).problems] ≠ [] := by
    intro hnil
    obtain ⟨j, hj⟩ := not_forall.1 hrules
    obtain ⟨hj, hstep⟩ := Classical.not_imp.1 hj
    obtain ⟨i, hi⟩ := List.mem_iff_getElem?.1 hj
    obtain ⟨p, hp, -⟩ := hlib.atStep_iff.2 ⟨j, hi, hstep⟩
    rw [← hmem, hnil] at hp
    cases hp
  rw [h, Schema.Library.workflow]
  split
  · next hw =>
    split at hw
    · next hnil => exact absurd hnil hsome
    · cases hw
  · next hw =>
    split at hw
    · cases hw
    · cases hw
      rfl

/-- A definition that is accepted is so because its steps are valid. -/
theorem IsDocument.accepted_iff (h : IsDocument lib text rules) :
    (∃ w, readBy lib text = .ok (some w)) ↔ ∀ j ∈ rules, lib.IsStep j := by
  constructor
  · rintro ⟨w, hw⟩
    by_contra hrules
    obtain ⟨name, problems, hrefused, -⟩ := h.refused hlib hrules
    rw [hw] at hrefused
    cases hrefused
  · intro hrules
    obtain ⟨w, hw, -⟩ := h.accepted hlib hrules
    exact ⟨w, hw⟩

theorem IsDocument.refused_iff (h : IsDocument lib text rules) :
    (∃ f, readBy lib text = .error f) ↔ ¬∀ j ∈ rules, lib.IsStep j := by
  constructor
  · rintro ⟨f, hf⟩ hrules
    obtain ⟨w, hw, -⟩ := h.accepted hlib hrules
    rw [hw] at hf
    cases hf
  · intro hrules
    obtain ⟨name, problems, hrefused, -⟩ := h.refused hlib hrules
    exact ⟨_, hrefused⟩

theorem complete_of_read {w : Workflow} (h : readBy lib text = .ok (some w)) : ∀ s ∈ w.steps, s.Complete := by
  obtain ⟨members, -, hmembers⟩ := exists_members h
  obtain ⟨hsteps, hproblems⟩ := Schema.Library.workflow_eq_ok hlib hmembers
  rw [hsteps]
  exact hlib.complete_of_stepsOf hproblems

/-! ### Steps in a document and alone -/

/-- A definition is accepted exactly when each of its steps is accepted alone, and gives the steps that these give;
where it is refused, the report names exactly the steps that are refused alone; and a step that is accepted has all
that its kind needs. -/
theorem decided_by_steps {single : Fin rules.length → String} (htext : IsDocument lib text rules)
    (hsingle : ∀ i, IsDocument lib (single i) [rules[i]]) :
    ((∃ w, readBy lib text = .ok (some w)) ↔ ∀ i, ∃ w, readBy lib (single i) = .ok (some w)) ∧
    (∀ w, readBy lib text = .ok (some w) → w.steps.length = rules.length ∧
      ∀ i, ∃ v s, readBy lib (single i) = .ok (some v) ∧ v.steps = [s] ∧ w.steps[i.val]? = some s) ∧
    (∀ f, readBy lib text = .error f → ∃ name problems, f = .workflowDefinition (.invalid name problems) ∧
      (∀ p ∈ problems, ∃ i : Fin rules.length, p.AtStep i) ∧
      ∀ i : Fin rules.length, (∃ p ∈ problems, p.AtStep i) ↔ ∃ g, readBy lib (single i) = .error g) ∧
    ∀ text w, readBy lib text = .ok (some w) → ∀ s ∈ w.steps, s.Complete := by
  have hvalid (i : Fin rules.length) : (∀ j ∈ [rules[i]], lib.IsStep j) ↔ lib.IsStep rules[i] :=
    List.forall_mem_singleton
  have hrules : (∀ j ∈ rules, lib.IsStep j) ↔ ∀ i : Fin rules.length, lib.IsStep rules[i] := by
    rw [List.forall_mem_iff_forall_getElem, Fin.forall_iff]
    rfl
  refine ⟨?accepted, ?steps, ?refused, fun _ _ => complete_of_read hlib⟩
  case accepted =>
    rw [htext.accepted_iff hlib, hrules]
    exact forall_congr' fun i => (((hsingle i).accepted_iff hlib).trans (hvalid i)).symm
  case steps =>
    intro w hw
    have hall := (htext.accepted_iff hlib).1 ⟨w, hw⟩
    obtain ⟨v, hv, hsteps⟩ := htext.accepted hlib hall
    obtain rfl : w = v := by
      rw [hw] at hv
      cases hv
      rfl
    refine ⟨by rw [hsteps, List.length_map], fun i => ?_⟩
    obtain ⟨v, hv, hstep⟩ := (hsingle i).accepted hlib ((hvalid i).2 (hrules.1 hall i))
    refine ⟨v, _, hv, hstep, ?_⟩
    rw [hsteps, List.getElem?_map, List.getElem?_eq_getElem i.isLt]
    rfl
  case refused =>
    intro f hf
    obtain ⟨name, problems, hname, hmem⟩ := htext.refused hlib ((htext.refused_iff hlib).1 ⟨f, hf⟩)
    obtain rfl := Except.error.inj (hf.symm.trans hname)
    refine ⟨name, problems, rfl, fun p hp => ?_, fun i => ?_⟩
    · obtain ⟨i, j, hat, hj, -⟩ := hlib.atStep_of_mem ((hmem p).1 hp)
      obtain ⟨hi, -⟩ := List.getElem?_eq_some_iff.1 hj
      exact ⟨⟨i, hi⟩, hat⟩
    · simp only [hmem]
      rw [hlib.atStep_iff, (hsingle i).refused_iff hlib, hvalid, List.getElem?_eq_getElem i.isLt]
      constructor
      · rintro ⟨j, hj, hstep⟩
        obtain rfl := Option.some.inj hj
        exact hstep
      · intro hstep
        exact ⟨_, rfl, hstep⟩

end

private def loopRules : List Json :=
  [.object [], .object [("kind", .text "foreach")],
    .object [("kind", .text "subflow"), ("subFlowRef", .text "Line")]]

private theorem loopRules_fit : ∀ j ∈ loopRules, j.Fits (Json.maxDepth - 2) := by
  refine List.forall_mem_cons.2 ⟨?_, List.forall_mem_cons.2 ⟨?_, List.forall_mem_singleton.2 ?_⟩⟩
  · exact .object List.nodup_nil nofun
  · exact .object (by decide) (List.forall_mem_singleton.2 (.text _))
  · exact .object (by decide) (List.forall_mem_cons.2 ⟨.text _, List.forall_mem_singleton.2 (.text _)⟩)

private def rulesText (rules : List Json) : String := Json.written (.object [("rules", .array rules)])

private theorem isDocument_rulesText {rules : List Json} (hfits : ∀ j ∈ rules, j.Fits (Json.maxDepth - 2))
    (hcanonical : (Json.array rules).canonical = .array rules) :
    IsDocument Schema.standard (rulesText rules) rules := by
  have hobject : (Json.object [("rules", .array rules)]).Fits Json.maxDepth :=
    .object (List.nodup_singleton _) (List.forall_mem_singleton.2 (.array hfits))
  refine ⟨[("rules", .array rules)], ?_, rfl, rfl⟩
  rw [rulesText, Json.read_written hobject]
  show Except.ok (Json.object [("rules", (Json.array rules).canonical)]) = _
  rw [hcanonical]

/-- A workflow whose second step has no workflow to run: the report names the second step, and the other two are
accepted alone. -/
theorem decided_by_steps_loop :
    let text := rulesText loopRules
    let single : Fin 3 → String := fun i => rulesText [loopRules[i]]
    Schema.standard.Lawful ∧ IsDocument Schema.standard text loopRules ∧
      (∀ i : Fin 3, IsDocument Schema.standard (single i) [loopRules[i]]) ∧
      ∃ name problems, read text = .error (.workflowDefinition (.invalid name problems)) ∧
        (∀ i : Fin 3, (∃ p ∈ problems, p.AtStep i) ↔ ∃ g, read (single i) = .error g) ∧
        ∀ i : Fin 3, (∃ p ∈ problems, p.AtStep i) ↔ i = 1 := by
  intro text single
  have hlib := Schema.standard_lawful
  have htext : IsDocument Schema.standard text loopRules := isDocument_rulesText loopRules_fit rfl
  have hsingle : ∀ i : Fin 3, IsDocument Schema.standard (single i) [loopRules[i]] := by
    intro i
    refine isDocument_rulesText (List.forall_mem_singleton.2 (loopRules_fit _ (List.getElem_mem _))) ?_
    match i with
    | 0 | 1 | 2 => rfl
  obtain ⟨f, hf⟩ := (htext.refused_iff hlib).2 (by decide)
  obtain ⟨name, problems, rfl, -, hnamed⟩ := (decided_by_steps hlib htext hsingle).2.2.1 f hf
  refine ⟨hlib, htext, hsingle, name, problems, hf, hnamed, fun i => ?_⟩
  rw [hnamed i]
  refine ((hsingle i).refused_iff hlib).trans ?_
  revert i
  decide

end Definition
end FlowRules
