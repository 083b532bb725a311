import FlowRules.Proofs.Check.Reading
import FlowRules.Proofs.Registry
import FlowRules.Proofs.Review.Walk
import FlowRules.Proofs.Run.Visits
import FlowRules.Proofs.Workflow.Writing

/-!
# Reviewed workflows

Main statement: after a review without defects no run of the workflow fails for a reason that a review looks for
(`Run.review_sound`).  A sound step raises no such fault by itself (`Run.openStep_error`), and every step that a run
begins is sound, as the names that the review has looked up are closed under the references of their workflows
(`Run.Visits.sound`).
-/

namespace FlowRules

open World (Alike)

/-- The kinds of faults that a review looks for. -/
def Fault.reviewed : List String :=
  ["ConditionSyntaxError", "UnsupportedOperatorError", "MissingImplementationError", "WorkflowNotFoundError",
    "WorkflowDefinitionError"]

/-! ### What a sound step has -/

private theorem Condition.kind_of_wrap (text : String) (f : Fault) :
    (Condition.wrap text f).kind = "ConditionEvaluationError" := by
  unfold Condition.wrap
  split <;> rfl

theorem Condition.holds_error {c : Condition} {env : Environment} {cs ds : Cursors} {f : Fault}
    (h : (c.holds env).run cs = (.error f, ds)) : f.kind = "ConditionEvaluationError" := by
  unfold Condition.holds at h
  rcases Eval.run_bind_error h with h | ⟨v, es, -, h⟩
  · rw [Eval.run_tryCatch] at h
    split at h
    · cases h
    · cases h
      exact kind_of_wrap _ _
  · cases h

namespace Step.Sound

variable {registry : Registry} {s : Step}

theorem hasRule (hs : s.Sound registry) (hk : s.kind = .rule) :
    registry.hasRule (s.implementationKey.getD "") = true := by
  have h := hs.problem
  simp only [Review.stepProblem?, hk] at h
  split at h
  · rename_i hregistered
    exact hregistered
  · cases h

theorem hasValidation (hs : s.Sound registry) (hk : s.kind = .validation) (hm : s.mode = .complex) :
    registry.hasValidation (s.implementationKey.getD "") = true := by
  have h := hs.problem
  simp only [Review.stepProblem?, hk, hm] at h
  split at h
  · rename_i hregistered
    exact hregistered
  · cases h

theorem operator (hs : s.Sound registry) (hk : s.kind = .validation) (hm : s.mode = .simple) :
    (Operator.ofSpelling? s.operator).isSome = true := by
  have h := hs.problem
  simp only [Review.stepProblem?, hk, hm] at h
  split at h
  · rename_i hknown
    exact hknown
  · cases h

end Step.Sound

namespace Run

variable {set : Setting} {registry : Registry} {s : Step} {w u : World} {f : Fault}

/-- The handler under a key raises a fault in a scope: making it fails, or it ends with the fault. -/
def EntryRaises {α : Type} (re : Reentry) (entries : List (String × Entry α)) (key : Option String) (scope : Scope)
    (f : Fault) : Prop :=
  Registry.resolve entries key 0 = .error f ∨
    ∃ handler v u, Registry.resolve entries key 0 = .ok (some handler) ∧ v.toScope = scope ∧
      (perform re (handler.call .null)).attempt.run v = (.error f, u)

/-- The host raises a fault in a step that begins in a world: the handler of the step does, or an attribute of the
flow object. -/
inductive RaisedByHost (set : Setting) (s : Step) (w : World) (f : Fault) : Prop where
  | rule (h : EntryRaises set.reentry set.services.registry.rules s.implementationKey w.toScope f)
  | validation (h : EntryRaises set.reentry set.services.registry.validations s.implementationKey w.toScope f)
  | attribute (h : w.flow.Raises f)

/-! ### Conditions -/

/-- A condition that can be parsed fails only in its evaluation. -/
theorem passes_error (hs : s.Sound registry) (hw : w.Coherent) (h : (passes s).attempt.run w = (.error f, u)) :
    f.kind = "ConditionEvaluationError" := by
  unfold passes at h
  split at h
  · rename_i hcondition
    obtain ⟨tree, htree⟩ := hs.condition hcondition
    have hverdict := (Act.holds_spec hw s.condition).1
    rw [attempt_holds] at h
    rw [h] at hverdict
    unfold Condition.verdict at hverdict
    split at hverdict
    · cases hverdict
    · rw [htree] at hverdict
      exact Condition.holds_error (Prod.ext hverdict.symm rfl)
  · cases h

/-! ### Handlers -/

private theorem resolve_ne_none {α : Type} {entries : List (String × Entry α)} {key : Option String}
    (hempty : entries.lookup "" = none) (h : (entries.lookup (key.getD "")).isSome = true) :
    Registry.resolve entries key 0 ≠ .ok none := by
  obtain ⟨e, he⟩ := Registry.exists_entry hempty h
  unfold Registry.resolve
  rw [he]
  dsimp only
  intro h
  rcases hr : e.resolve 0 with f | handler <;> rw [hr] at h <;> cases h

/-- A handler that is called ends with its own fault. -/
private theorem entryRaises_of_call {α : Type} {re : Reentry} {role : Role} {entries : List (String × Entry α)}
    {key : Option String} {handler : Handler α} {scope : Scope}
    (hr : Registry.resolve entries key 0 = .ok (some handler)) (hw : w.toScope = scope)
    (h : (call re role key handler .null).attempt.run w = (.error f, u)) :
    EntryRaises re entries key scope f := by
  rw [call_run] at h
  let p := (perform re (handler.call .null)).attempt.run (w.record (.called role key w.toScope))
  have hp : p.1 = .error f := congrArg Prod.fst h
  exact Or.inr ⟨handler, w.record (.called role key w.toScope), p.2, hr, hw, Prod.ext hp rfl⟩

private theorem ruleStep_error (hbuilt : set.services.registry.Built) (hk : s.kind = .rule)
    (hs : s.Sound set.services.registry) (h : (ruleStep set s).attempt.run w = (.error f, u)) :
    EntryRaises set.reentry set.services.registry.rules s.implementationKey w.toScope f := by
  rcases attempt_bind_error.1 h with h | ⟨found, v, hfind, h⟩
  · rw [findRule_run] at h
    exact Or.inl (congrArg Prod.fst h)
  · rw [findRule_run] at hfind
    obtain ⟨hr, hv⟩ := Prod.mk.inj hfind
    have hscope : v.toScope = w.toScope := by
      rw [← hv]
      rfl
    rcases found with _ | rule
    · exact absurd hr (resolve_ne_none hbuilt.lookup_empty.1 (hs.hasRule hk))
    · rcases attempt_bind_error.1 h with h | ⟨_, _, _, h⟩
      · exact entryRaises_of_call hr hscope h
      · cases h

private theorem verdict_error (hbuilt : set.services.registry.Built) (hk : s.kind = .validation)
    (hs : s.Sound set.services.registry) (h : (verdict set s).attempt.run w = (.error f, u)) :
    EntryRaises set.reentry set.services.registry.validations s.implementationKey w.toScope f ∨
      w.flow.ReadFault f := by
  unfold verdict at h
  rcases hm : s.mode <;> rw [hm] at h
  · right
    rcases attempt_bind_error.1 h with h | ⟨_, _, hget, h⟩
    · cases h
    · cases hget
      rcases attempt_bind_error.1 h with h | ⟨judgement, _, _, h⟩
      · rw [attempt_ofEval] at h
        have hjudge := congrArg Prod.fst h
        exact Step.judge_error (hs.operator hk hm) (Prod.ext hjudge rfl)
      · split at h <;> cases h
  · left
    rcases attempt_bind_error.1 h with h | ⟨found, v, hfind, h⟩
    · rw [findValidation_run] at h
      exact Or.inl (congrArg Prod.fst h)
    · rw [findValidation_run] at hfind
      obtain ⟨hr, hv⟩ := Prod.mk.inj hfind
      have hscope : v.toScope = w.toScope := by
        rw [← hv]
        rfl
      rcases found with _ | validation
      · exact absurd hr (resolve_ne_none hbuilt.lookup_empty.2 (hs.hasValidation hk hm))
      · rcases attempt_bind_error.1 h with h | ⟨_, _, _, h⟩
        · exact entryRaises_of_call hr hscope h
        · cases h

/-! ### Steps -/

private theorem loopSource_error {flow : Value} {property : String} (h : loopSource flow property = .error f) :
    flow.ReadFault f := by
  unfold loopSource at h
  split at h
  · cases h
  · rcases hf : flow.field? property with g | _ | x <;> rw [hf] at h
    · cases h
      exact Value.field_error hf
    · cases h
    · change (if x.isCollection = true then _ else _) = _ at h
      split at h <;> cases h

/-- What the reference of a step defines, for the steps that have one. -/
def Referred (services : Services) (s : Step) : Prop :=
  s.kind.runsWorkflow = true → ∃ d, services.Defines s.reference d

/-- What a sound step raises by itself comes from the host, or it is no concern of a review. -/
theorem openStep_error (hbuilt : set.services.registry.Built) (hs : s.Sound set.services.registry)
    (href : Referred set.services s) (hw : w.Coherent) (h : (openStep set s).attempt.run w = (.error f, u))
    (hf : f.kind ∈ Fault.reviewed) : RaisedByHost set s w f := by
  have hread (hr : w.flow.ReadFault f) : RaisedByHost set s w f := by
    rcases hr with hr | ⟨n, hn⟩
    · exact RaisedByHost.attribute hr
    · have hkind : f.kind = "ValueError" := by
        rw [hn]
        rfl
      rw [hkind] at hf
      exact absurd hf (by decide)
  rw [openStep_run] at h
  split at h
  · rename_i v hp
    obtain ⟨taken, hv⟩ := passes_alike hw hp
    have hscope : (v.atStep s).toScope = w.toScope := hv.scope.symm
    have hflow : (v.atStep s).flow = w.flow := congrArg Scope.flow hscope
    have hstep := World.alike_atStep hv.right s
    unfold openKind at h
    -- a handler is found where the review has found one, so the fault is its own
    rcases hk : s.kind <;> rw [hk] at h
    · have hrule := ruleStep_error hbuilt hk hs (attempt_map_error.1 h)
      rw [hscope] at hrule
      exact RaisedByHost.rule hrule
    · have hvalidation := attempt_map_error.1 h
      rcases attempt_bind_error.1 hvalidation with hverdict | ⟨passed, _, _, hverdict⟩
      · rcases verdict_error hbuilt hk hs hverdict with hentry | hflowFault
        · rw [hscope] at hentry
          exact RaisedByHost.validation hentry
        · rw [hflow] at hflowFault
          exact hread hflowFault
      · cases passed <;> cases hverdict
    · obtain ⟨d, hd⟩ := href (by rw [hk]; rfl)
      obtain ⟨z, hopen, -⟩ := openSubFlow_found hd hstep.right
      rw [hopen] at h
      cases h
    · obtain ⟨d, hd⟩ := href (by rw [hk]; rfl)
      rcases hsource : loopSource (v.atStep s).flow (s.collectionProperty.getD "") with g | message | x
      · rw [openLoop_error hsource] at h
        cases h
        rw [hflow] at hsource
        exact hread (loopSource_error hsource)
      · rw [openLoop_unavailable hsource] at h
        cases h
      · obtain ⟨z, _, hopen, -⟩ := openLoop_found hd hstep.right hsource (loopSource_collection hsource)
        rw [hopen] at h
        cases h
  · cases h
  · rename_i hp
    cases h
    rw [passes_error hs hw hp] at hf
    exact absurd hf (by decide)

/-- Besides what it raises by itself, a step raises that the nesting limit is reached. -/
theorem doStep_error {deeper : Deeper} (h : (doStep set deeper s).attempt.run w = (.error f, u)) :
    (openStep set s).attempt.run w = (.error f, u) ∨
      ∃ reference, f = .workflowDefinition (.nestingLimit reference) := by
  rcases attempt_bind_error.1 h with h | ⟨o, v, -, h⟩
  · exact Or.inl h
  · right
    rcases o with outcome | c | ⟨c, items⟩
    · cases h
    · rcases deeper with _ | run
      · cases h
        exact ⟨_, rfl⟩
      · rw [proceed_inPlace_run] at h
        cases h
    · rcases deeper with _ | run
      · cases h
        exact ⟨_, rfl⟩
      · rw [proceed_onEach_run] at h
        cases h

/-! ### Runs -/

/-- Nothing is wrong with some steps, and they refer to some names only. -/
def StepsSound (registry : Registry) (names : List String) (steps : List Step) : Prop :=
  ∀ s ∈ steps, s.Sound registry ∧ (s.kind.runsWorkflow = true → s.reference ∈ names)

section

variable {repository : Repository} {names : List String}

private theorem stepsSound_workflow (hrepository : set.services.repository = some repository)
    (hnames : ∀ n ∈ names, Review.SoundIn set.services.registry repository names n)
    (hs : s.kind.runsWorkflow = true → s.reference ∈ names) (hw : w.Coherent) {o : Opening} {v : World} {c : Workflow}
    (h : (openStep set s).attempt.run w = (.ok o, v)) (ho : o = .inPlace c ∨ ∃ items, o = .onEach c items) :
    StepsSound set.services.registry names c.steps := by
  have hk : s.kind.runsWorkflow = true := by
    rcases hk : s.kind.runsWorkflow with _ | _
    · obtain ⟨outcome, rfl⟩ := openStep_done hk h
      rcases ho with ho | ⟨items, ho⟩ <;> cases ho
    · rfl
  obtain ⟨text, d, hfind, hread, hsteps⟩ := hnames _ (hs hk)
  exact hsteps c (openStep_defined ⟨repository, text, hrepository, hfind, hread⟩ hw h ho)

/-- Every step that a run of sound steps begins is sound, and what it refers to is one of the names. -/
theorem Visits.sound (hset : set.Similar set) (hrepository : set.services.repository = some repository)
    (hnames : ∀ n ∈ names, Review.SoundIn set.services.registry repository names n) {n : Nat} {steps : List Step}
    {x : Visit} (hx : Visits set n steps w x) (hw : w.Coherent)
    (hsteps : StepsSound set.services.registry names steps) :
    x.step.Sound set.services.registry ∧ (x.step.kind.runsWorkflow = true → x.step.reference ∈ names) := by
  induction hx with
  | here => exact hsteps _ List.mem_cons_self
  | later _ _ _ ih => exact ih (coherent_runStep hset hw) fun s hs => hsteps s (List.mem_cons_of_mem _ hs)
  | inPlace _ ho _ ih =>
    have hc := stepsSound_workflow hrepository hnames (hsteps _ List.mem_cons_self).2 hw ho (Or.inl rfl)
    exact ih (coherent_entered (coherent_openStep hset hw ho) _ _) hc
  | onEach _ ho hi _ ih =>
    have hc := stepsSound_workflow hrepository hnames (hsteps _ List.mem_cons_self).2 hw ho (Or.inr ⟨_, rfl⟩)
    have hitem := hi.coherent hset (World.alike_record (coherent_openStep hset hw ho) rfl).right
    exact ih (World.alike_begun hitem _).right hc

end

/-- A run of a definition that is found runs its workflow, if it has one, in a world like the one it begins in. -/
theorem runNamed_found (set : Setting) {name : String} {d : Option Workflow} (h : set.services.Defines name d)
    (hw : w.Coherent) :
    ∃ v, (runNamed set name).run w = (d.elim (pure {}) (runWorkflow set)).run v ∧ Alike w v := by
  obtain ⟨text, v, hload, hread, hv⟩ := lookUp_found h hw
  refine ⟨v, ?_, hv⟩
  unfold runNamed runDefinition
  rw [Act.run_bind, hload]
  dsimp only
  rw [Act.run_bind, hread]
  cases d <;> rfl

/-- After a review without defects, however many workflows it took up, the definition of the workflow is found and read
in every run, and no step that a run begins raises a fault of the kinds that a review looks for, except that the nesting
limit is reached or that the host raises it. -/
theorem review_sound {services : Services} {repository : Repository} {cache : ConditionCache} {limit : Nat}
    {name : String} {r : Review} (hrepository : services.repository = some repository)
    (hbuilt : services.registry.Built) (hcache : cache.Coherent)
    (hr : Review.walk services.registry repository limit [name] { conditions := cache } = .ok (some r))
    (hd : r.defects = []) (more : Nat) (keepsDefinitions heedsCancel : Bool) {w : World} (hw : w.Coherent) :
    let set : Setting := ⟨services, reentry services more, keepsDefinitions, heedsCancel⟩
    ∃ d v, services.Defines name d ∧ Alike w v ∧
      (runNamed set name).run w = (d.elim (pure {}) (runWorkflow set)).run v ∧
      ∀ c, d = some c → ∀ x, Visits set maxNesting c.steps (v.begun c.name) x →
        ∀ f u, (doStep set (below set x.levels) x.step).attempt.run x.world = (.error f, u) →
          f.kind ∈ Fault.reviewed →
          (∃ reference, f = .workflowDefinition (.nestingLimit reference)) ∨ RaisedByHost set x.step x.world f := by
  intro set
  have hset : set.Similar set := ⟨rfl, rfl, similar_reentry services more⟩
  obtain ⟨hroot, hnames⟩ := Review.walk_sound hr hcache hd
  obtain ⟨text, d, hfind, hread, hsteps⟩ := hnames name hroot
  have hdefined : services.Defines name d := ⟨repository, text, hrepository, hfind, hread⟩
  obtain ⟨v, hrun, hv⟩ := runNamed_found set hdefined hw
  refine ⟨d, v, hdefined, hv, hrun, ?_⟩
  intro c hc x hx f u hdo hf
  have hbegun := (World.alike_begun hv.right c.name).right
  obtain ⟨hstep, href⟩ := hx.sound hset hrepository hnames hbegun (hsteps c hc)
  rcases doStep_error hdo with hopen | hlimit
  · right
    refine openStep_error hbuilt hstep ?_ (hx.coherent hset hbegun) hopen hf
    intro hk
    obtain ⟨text, d, hfind, hread, -⟩ := hnames _ (href hk)
    exact ⟨d, repository, text, hrepository, hfind, hread⟩
  · exact Or.inl hlimit

/-! ### Two workflows that refer to each other -/

private def outerWorkflow : Workflow :=
  { steps := [{ kind := .subFlow, subFlowRef := some "inner" },
      { kind := .validation, mode := .simple, targetProperty := some "name", operator := some "==" }] }

private def innerWorkflow : Workflow :=
  { steps := [{ implementationKey := some "mark" }, { kind := .subFlow, subFlowRef := some "outer" }] }

private def markEntry : Entry Unit := .ready ⟨"Mark", fun _ => .ask (.setState [("marked", .bool true)]) Script.done⟩

private def reviewedRepository : Repository :=
  MemoryStore.repository [("outer", outerWorkflow.written), ("inner", innerWorkflow.written)]

private def reviewedServices : Services where
  registry := { rules := [("mark", markEntry)] }
  repository := some reviewedRepository
  construct := fun _ _ => .error (.type (.stated "no classes"))

private theorem built_reviewed : reviewedServices.registry.Built := by
  have hadded : Registry.addRule {} "mark" markEntry = .ok (reviewedServices.registry, []) := by rfl
  exact Registry.Built.empty.rule hadded

private theorem walk_reviewed :
    ∃ r, Review.walk reviewedServices.registry reviewedRepository 3 ["outer"] {} = .ok (some r) ∧ r.defects = [] := by
  have h : ((Review.walk reviewedServices.registry reviewedRepository 3 ["outer"] {}).toOption.bind
      fun r => r.map Review.defects) = some [] := by decide +kernel
  rcases hr : Review.walk reviewedServices.registry reviewedRepository 3 ["outer"] {} with f | _ | r <;> rw [hr] at h
  · cases h
  · cases h
  · exact ⟨r, rfl, Option.some.inj h⟩

theorem review_sound_marking :
    let set : Setting := ⟨reviewedServices, reentry reviewedServices 1, true, true⟩
    let w := (Pipeline.start reviewedServices .null [("ready", .bool true)] "execution" "pipeline" none).world
    (∃ r, Review.walk reviewedServices.registry reviewedRepository 3 ["outer"] {} = .ok (some r) ∧ r.defects = []) ∧
      w.Coherent ∧
      ∃ d v, reviewedServices.Defines "outer" d ∧ Alike w v ∧
        (runNamed set "outer").run w = (d.elim (pure {}) (runWorkflow set)).run v ∧
        ∀ c, d = some c → ∀ x, Visits set maxNesting c.steps (v.begun c.name) x →
          ∀ f u, (doStep set (below set x.levels) x.step).attempt.run x.world = (.error f, u) →
            f.kind ∈ Fault.reviewed →
            (∃ reference, f = .workflowDefinition (.nestingLimit reference)) ∨ RaisedByHost set x.step x.world f := by
  have hw := Pipeline.coherent_start reviewedServices .null [("ready", .bool true)] "execution" "pipeline" none
  obtain ⟨r, hr, hd⟩ := walk_reviewed
  refine ⟨⟨r, hr, hd⟩, hw, ?_⟩
  exact review_sound rfl built_reviewed ConditionCache.coherent_empty hr hd 1 true true hw

end Run
end FlowRules
