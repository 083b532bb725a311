import FlowRules.Proofs.Entries
import FlowRules.Run.Pipeline

/-!
# Coherent worlds

The caches of a world hold what their texts stand for, and its memory holds the contents of containers under their own
identities.  Main statements: a coherent cache answers as an empty one does (`ConditionCache.evaluate_eq`,
`DefinitionCache.read_eq`) and stays coherent, and refreshing a value against a faithful memory keeps its identity
(`Value.identity_refresh`).
-/

namespace FlowRules

/-! ### Conditions -/

/-- Whether the condition with a text holds and the counts of items taken, as the text alone has it. -/
def Condition.verdict (env : Environment) (text : Option String) (cursors : Cursors) : Except Fault Bool × Cursors :=
  if ConditionCache.isBlankCondition text then (.ok true, cursors)
  else
    match Expr.ofText (text.getD "") with
    | .error f => (.error f, cursors)
    | .ok tree => (Condition.holds ⟨text.getD "", tree, 0⟩ env).run cursors

theorem Condition.holds_congr {c d : Condition} (ht : c.text = d.text) (hd : c.tree = d.tree)
    (env : Environment) : c.holds env = d.holds env := by
  unfold Condition.holds
  rw [ht, hd]

namespace ConditionCache

/-- Every condition that is kept is what its text stands for. -/
def Coherent (c : ConditionCache) : Prop := ∀ e ∈ c.entries, e.2.text = e.1 ∧ Expr.ofText e.1 = .ok e.2.tree

theorem coherent_empty : ({} : ConditionCache).Coherent := by
  intro e he
  cases he

theorem compile_error {c : ConditionCache} (hc : c.Coherent) {text : String} {f : Fault}
    (h : Expr.ofText text = .error f) : (c.compile text).1 = .error f := by
  unfold compile
  split
  · rename_i found hl
    have := (hc _ (mem_of_lookup hl)).2
    rw [h] at this
    cases this
  · rw [h]

theorem compile_ok {c : ConditionCache} (hc : c.Coherent) {text : String} {tree : Expr}
    (h : Expr.ofText text = .ok tree) :
    ∃ condition parsed, (c.compile text).1 = .ok (condition, parsed) ∧ condition.text = text ∧
      condition.tree = tree := by
  unfold compile
  split
  · rename_i found hl
    obtain ⟨ht, hr⟩ := hc _ (mem_of_lookup hl)
    rw [h] at hr
    exact ⟨found, false, rfl, ht, (Except.ok.inj hr).symm⟩
  · rw [h]
    exact ⟨_, true, rfl, rfl, rfl⟩

theorem coherent_compile {c : ConditionCache} (hc : c.Coherent) (text : String) : (c.compile text).2.Coherent := by
  unfold compile
  split
  · exact hc
  · split
    · exact hc
    · rename_i tree hr
      intro e he
      rcases List.mem_append.1 he with he | he
      · exact hc e he
      · rw [List.mem_singleton] at he
        subst he
        exact ⟨rfl, hr⟩

/-- A coherent cache does not show in the outcome of a condition. -/
theorem evaluate_eq {c : ConditionCache} (hc : c.Coherent) (env : Environment) (text : Option String)
    (cursors : Cursors) :
    ((c.evaluate env text cursors).outcome, (c.evaluate env text cursors).cursors) =
      Condition.verdict env text cursors := by
  unfold evaluate Condition.verdict
  split
  · rfl
  · rcases h : Expr.ofText (text.getD "") with f | tree
    · have hcomp := compile_error hc h
      rcases hp : c.compile (text.getD "") with ⟨r, c'⟩
      rw [hp] at hcomp
      subst hcomp
      rfl
    · obtain ⟨condition, parsed, hcomp, ht, hd⟩ := compile_ok hc h
      rcases hp : c.compile (text.getD "") with ⟨r, c'⟩
      rw [hp] at hcomp
      subst hcomp
      have hsame : condition.holds env = Condition.holds ⟨text.getD "", tree, 0⟩ env :=
        Condition.holds_congr ht hd env
      simp only [hsame]
      rfl

theorem coherent_evaluate {c : ConditionCache} (hc : c.Coherent) (env : Environment) (text : Option String)
    (cursors : Cursors) : (c.evaluate env text cursors).cache.Coherent := by
  have h := coherent_compile hc (text.getD "")
  unfold evaluate
  split
  · exact hc
  · rcases hp : c.compile (text.getD "") with ⟨_ | ⟨condition, parsed⟩, c'⟩
    · rw [hp] at h
      exact h
    · rw [hp] at h
      exact h

end ConditionCache

/-! ### Definitions -/

namespace DefinitionCache

/-- Every definition that is kept is what its text stands for. -/
def Coherent (c : DefinitionCache) : Prop := ∀ e ∈ c.entries, Definition.read e.1 = .ok e.2.workflow

theorem coherent_empty : ({} : DefinitionCache).Coherent := by
  intro e he
  cases he

/-- A coherent cache does not show in what is read. -/
theorem read_eq {c : DefinitionCache} (hc : c.Coherent) (text : String) :
    (c.read text).1.map Definition.workflow = Definition.read text := by
  unfold read
  split
  · rename_i found hl
    exact (hc _ (mem_of_lookup hl)).symm
  · split
    · rename_i f hr
      exact hr.symm
    · rename_i w hr
      exact hr.symm

theorem coherent_read {c : DefinitionCache} (hc : c.Coherent) (text : String) : (c.read text).2.Coherent := by
  unfold read
  split
  · rename_i found hl
    intro e he
    rcases List.mem_cons.1 he with rfl | he
    · exact hc _ (mem_of_lookup hl)
    · exact hc e (List.mem_filter.1 he).1
  · split
    · exact hc
    · rename_i w hr
      intro e he
      rcases List.mem_cons.1 (List.mem_of_mem_take he) with rfl | he
      · exact hr
      · exact hc e he

end DefinitionCache

/-! ### Memory -/

/-- Every content is kept under the identity of its container. -/
def Memory.Faithful (m : Memory) : Prop := ∀ e ∈ m, e.2.identity = some e.1

private theorem Memory.identity_of_latest {m : Memory} (hm : m.Faithful) {id : Identity} {v : Value}
    (h : m.latest? id = some v) : v.identity = id := by
  obtain ⟨i, rfl, hl⟩ := Option.bind_eq_some_iff.1 h
  exact hm (i, v) (mem_of_lookup hl)

theorem Value.identity_refresh {m : Memory} (hm : m.Faithful) (v : Value) : (v.refresh m).identity = v.identity := by
  cases v with
  | atom a => rfl
  | member e name a => rfl
  | source id items => rfl
  | other type => rfl
  | tuple id label items | list id items | set id items | dict id entries | object id cls fields offers failing =>
    rw [Value.refresh]
    split
    · rename_i v hv
      exact Memory.identity_of_latest hm hv
    · rfl

theorem Memory.faithful_write {m : Memory} (hm : m.Faithful) {id : Nat} {v : Value} (hv : v.identity = some id) :
    (m.write id v).Faithful := by
  intro e he
  rcases List.mem_cons.1 he with rfl | he
  · exact hv
  · obtain ⟨entry, hentry, rfl⟩ := List.mem_map.1 he
    have hsingle : Memory.Faithful [(id, v)] := by
      intro e he
      rw [List.mem_singleton] at he
      subst he
      exact hv
    rw [Value.identity_refresh hsingle]
    exact hm entry (List.mem_filter.1 hentry).1

/-! ### Worlds -/

/-- A world whose caches and memory hold what they are meant to. -/
structure World.Coherent (w : World) : Prop where
  conditions : w.conditions.Coherent
  definitions : w.definitions.Coherent
  memory : w.memory.Faithful

namespace World

theorem Coherent.change {w : World} (hw : w.Coherent) (v : Value) : (w.change v).Coherent := by
  unfold World.change
  split
  · exact ⟨hw.conditions, hw.definitions, hw.memory⟩
  · rename_i id hv
    exact ⟨hw.conditions, hw.definitions, Memory.faithful_write hw.memory hv⟩

end World

/-- A pipeline starts in a coherent world. -/
theorem Pipeline.coherent_start (services : Services) (flow : Value) (state : List (String × Value))
    (executionId loggerName : String) (loggerExecution : Option String) :
    (Pipeline.start services flow state executionId loggerName loggerExecution).world.Coherent := by
  refine ⟨ConditionCache.coherent_empty, DefinitionCache.coherent_empty, ?_⟩
  intro e he
  cases he

end FlowRules
