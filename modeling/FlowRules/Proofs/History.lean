import FlowRules.Proofs.Run.Task

/-!
# Runs and the history of their process

A process keeps two caches for as long as it lives, one of conditions and one of definitions.  All that it has done, runs
that succeed, fail or are cancelled included, is left in the caches, and leaves them coherent (`Caches.coherent_after`,
`Caches.coherent_history`).  Main statement: a run on a pipeline of its own has the result, and calls the handlers in the
scopes, that it has in a process that has done nothing before, whether definitions are kept or not
(`run_ignores_history`).
-/

namespace FlowRules

open World (Alike)

/-! ### Processes -/

/-- What a process keeps from one run to the next. -/
structure Caches where
  conditions : ConditionCache := {}
  definitions : DefinitionCache := {}

/-- A run on a pipeline that is made for it. -/
structure Launch where
  services : Services
  task : Task
  flow : Value := .null
  state : List (String × Value) := []
  executionId : String
  loggerName : String := "pipeline"
  loggerExecution : Option String := none
  /-- Cancellation has been asked for before the run begins. -/
  cancelled : Bool := false
  keepsDefinitions : Bool := true
  heedsCancel : Bool := true

namespace Launch

/-- The world in which a run begins. -/
def world (l : Launch) (c : Caches) : World :=
  let fresh := (Pipeline.start l.services l.flow l.state l.executionId l.loggerName l.loggerExecution).world
  { fresh with cancelled := l.cancelled, conditions := c.conditions, definitions := c.definitions }

/-- The result of a run, and the world that it leaves. -/
def run (l : Launch) (c : Caches) : RunResult × World :=
  (Run.task (Run.setting l.services l.keepsDefinitions l.heedsCancel) l.task).run (l.world c)

end Launch

/-- What a process does with its caches. -/
inductive Activity where
  | compile (condition : String)
  | evaluate (condition : Option String) (env : Environment) (cursors : Cursors)
  | resetConditions
  | read (text : String)
  | run (l : Launch)

namespace Caches

/-- The caches once something has been done. -/
def after (c : Caches) : Activity → Caches
  | .compile condition => { c with conditions := (c.conditions.compile condition).2 }
  | .evaluate condition env cursors => { c with conditions := (c.conditions.evaluate env condition cursors).cache }
  | .resetConditions => { c with conditions := c.conditions.reset }
  | .read text => { c with definitions := (c.definitions.read text).2 }
  | .run l =>
    let w := (l.run c).2
    { conditions := w.conditions, definitions := w.definitions }

/-! ### Coherence -/

structure Coherent (c : Caches) : Prop where
  conditions : c.conditions.Coherent
  definitions : c.definitions.Coherent

theorem coherent_empty : ({} : Caches).Coherent :=
  ⟨ConditionCache.coherent_empty, DefinitionCache.coherent_empty⟩

end Caches

section

variable {c d : Caches} (l : Launch)

theorem Launch.coherent_world (hc : c.Coherent) : (l.world c).Coherent :=
  have hfresh := Pipeline.coherent_start l.services l.flow l.state l.executionId l.loggerName l.loggerExecution
  ⟨hc.conditions, hc.definitions, hfresh.memory⟩

/-- The worlds in which a run begins differ in nothing but the caches. -/
theorem Launch.alike_world (hc : c.Coherent) (hd : d.Coherent) : Alike (l.world c) (l.world d) :=
  ⟨rfl, rfl, rfl, rfl, l.coherent_world hc, l.coherent_world hd⟩

/-- Runs from coherent caches do not tell what the caches hold, nor whether definitions are kept. -/
theorem Launch.run_alike (hc : c.Coherent) (hd : d.Coherent) (keepsDefinitions : Bool) :
    let l' := { l with keepsDefinitions := keepsDefinitions }
    (l.run c).1 = (l'.run d).1 ∧ Alike (l.run c).2 (l'.run d).2 := by
  have hset := Run.similar_setting l.services l.keepsDefinitions keepsDefinitions l.heedsCancel
  exact Run.similar_task hset l.task _ _ (l.alike_world hc hd)

end

namespace Caches

/-- Whatever is done keeps coherent caches coherent: what is found, what is missing and put in, what fails and what
makes room for others. -/
theorem coherent_after {c : Caches} (hc : c.Coherent) (a : Activity) : (c.after a).Coherent := by
  cases a with
  | compile condition => exact ⟨ConditionCache.coherent_compile hc.conditions condition, hc.definitions⟩
  | evaluate condition env cursors =>
    exact ⟨ConditionCache.coherent_evaluate hc.conditions env condition cursors, hc.definitions⟩
  | resetConditions => exact ⟨ConditionCache.coherent_empty, hc.definitions⟩
  | read text => exact ⟨hc.conditions, DefinitionCache.coherent_read hc.definitions text⟩
  | run l =>
    have hw := (l.run_alike hc hc l.keepsDefinitions).2.left
    exact ⟨hw.conditions, hw.definitions⟩

/-- So does any number of things done one after another. -/
theorem coherent_history {c : Caches} (hc : c.Coherent) (history : List Activity) :
    (history.foldl after c).Coherent := by
  induction history generalizing c with
  | nil => exact hc
  | cons a history ih => exact ih (coherent_after hc a)

end Caches

/-- A run has the same result in every process, and calls the same handlers in the same scopes, with what the process
has done before as in one that has done nothing, and with definitions kept or not. -/
theorem run_ignores_history (history : List Activity) (l : Launch) (keepsDefinitions : Bool) :
    let p := l.run (history.foldl Caches.after {})
    let q := { l with keepsDefinitions := keepsDefinitions }.run {}
    p.1 = q.1 ∧ p.2.calls = q.2.calls := by
  have hhistory := Caches.coherent_history Caches.coherent_empty history
  obtain ⟨hresult, hworld⟩ := l.run_alike hhistory Caches.coherent_empty keepsDefinitions
  exact ⟨hresult, hworld.calls⟩

end FlowRules
