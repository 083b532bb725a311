import FlowRules.Proofs.History
import FlowRules.Proofs.Run.Quiet
import FlowRules.Proofs.SharedState

/-!
# Runs without handlers

Main statement: the run of a workflow that reaches no handler leaves the flow object and the state as they were, and
gives the same result when it is run again on the same pipeline (`run_readOnly`).  It leaves a world that is like the one
in which it has begun (`Run.quiet_task`), and from worlds that are alike a task gives the same (`Run.similar_task`).
-/

namespace FlowRules

open Act (LeavesAlike)

namespace Run

variable {set : Setting}

theorem quiet_rejected (f : Fault) : LeavesAlike (rejected f) := Act.Quiet.get.bind fun _ _ => Act.Quiet.pure trivial

theorem quiet_runDefinition {text : String}
    (hfree : ∀ c, Definition.read text = .ok (some c) → set.services.HandlerFree c) :
    LeavesAlike (runDefinition set text) := by
  refine Act.Quiet.bind (quiet_readDefinition set text) fun r hr => ?_
  rcases r with f | _ | c
  · dsimp only
    split
    · exact (Act.Quiet.log _ _).bind fun _ _ => quiet_rejected f
    · exact (Act.Quiet.logTraced _).bind fun _ _ => quiet_rejected f
  · exact Act.Quiet.pure trivial
  · refine (quiet_scopeAt maxNesting (hfree c (hr _ rfl))).bind fun outcome _ => ?_
    exact Act.Quiet.get.bind fun _ _ => Act.Quiet.pure trivial

theorem quiet_runNamed {name : String} (hfree : ∀ c, set.services.Defines name (some c) → set.services.HandlerFree c) :
    LeavesAlike (runNamed set name) := by
  refine Act.Quiet.bind (quiet_load set name "Workflow") fun r hr => ?_
  rcases r with f | text
  · dsimp only
    split
    · exact (Act.Quiet.log _ _).bind fun _ _ => quiet_rejected f
    · exact (Act.Quiet.logTraced _).bind fun _ _ => quiet_rejected f
  · exact quiet_runDefinition fun c hread => hfree c (hr text rfl _ hread)

/-- A task that reaches no handler leaves a still world like itself, also when it fails. -/
theorem quiet_task {t : Task} (hfree : ∀ c, t.Defines set.services c → set.services.HandlerFree c) :
    LeavesAlike (task set t) := by
  cases t with
  | definition text => exact quiet_runDefinition hfree
  | named name => exact quiet_runNamed hfree

end Run

/-- The world in which a run begins is still where neither the flow object nor the state has sources. -/
theorem Launch.still_world {l : Launch} {c : Caches} (hc : c.Coherent) (hflow : l.flow.Sourceless)
    (hstate : ∀ e ∈ l.state, e.2.Sourceless) : (l.world c).Still :=
  ⟨l.coherent_world hc, rfl, hflow, hstate⟩

/-- The run of a workflow that reaches no handler, with what its process has done before, leaves the flow object and the
state as they were, and gives the same result when it is run again on the pipeline that it leaves. -/
theorem run_readOnly (history : List Activity) (l : Launch)
    (hfree : ∀ c, l.task.Defines l.services c → l.services.HandlerFree c) (hflow : l.flow.Sourceless)
    (hstate : ∀ e ∈ l.state, e.2.Sourceless) :
    let p := l.run (history.foldl Caches.after {})
    let q := (Run.task (Run.setting l.services l.keepsDefinitions l.heedsCancel) l.task).run p.2
    p.2.flow = l.flow ∧ p.2.state = l.state ∧ q.1 = p.1 := by
  intro p q
  have hhistory := Caches.coherent_history Caches.coherent_empty history
  have hstill := Launch.still_world hhistory hflow hstate
  have hquiet : LeavesAlike (Run.task (Run.setting l.services l.keepsDefinitions l.heedsCancel) l.task) :=
    Run.quiet_task hfree
  -- the second run begins in a world that is like that of the first
  have halike : World.Alike (l.world (history.foldl Caches.after {})) p.2 := (hquiet _ hstill).2
  have hset := Run.similar_setting l.services l.keepsDefinitions l.keepsDefinitions l.heedsCancel
  have hsame := (Run.similar_task hset l.task _ _ halike).1
  exact ⟨congrArg Scope.flow halike.scope.symm, congrArg Scope.state halike.scope.symm, hsame.symm⟩

/-! ### A condition, a sub-flow and a loop on the orders of a customer -/

private def paid : Workflow :=
  { steps :=
      [{ kind := .validation, mode := .simple, targetProperty := some "paid", operator := some "Equals",
         targetValue := some "yes" }] }

private def orders : Workflow :=
  { steps :=
      [{ kind := .subFlow, subFlowRef := some "paid", condition := some "len(flow.orders) > 1" },
        { kind := .forEach, collectionProperty := some "orders", subFlowRef := some "paid" }] }

private theorem read_paid : Definition.read paid.written = .ok (some paid) :=
  Definition.read_written (by decide)

private theorem read_orders : Definition.read orders.written = .ok (some orders) :=
  Definition.read_written (by decide)

private def order : Value := .dict none [(.text "paid", .bool true)]

private def ordersLaunch : Launch where
  services :=
    { repository := some (MemoryStore.repository [("paid", paid.written)])
      construct := fun _ _ => .error (.type (.stated "no classes")) }
  task := .definition orders.written
  flow := .dict none [(.text "paid", .bool true), (.text "orders", .list none [order, order])]
  executionId := "execution"

private theorem orders_handlerFree (c : Workflow) (hc : ordersLaunch.task.Defines ordersLaunch.services c) :
    ordersLaunch.services.HandlerFree c := by
  have hpaid : ordersLaunch.services.Defines "paid" (some paid) := ⟨_, _, rfl, rfl, read_paid⟩
  have horders : c = orders := Option.some.inj (Except.ok.inj (hc.symm.trans read_orders))
  subst horders
  refine Services.handlerFree_of_closed (S := fun c => c = orders ∨ c = paid) ?_ (.inl rfl)
  rintro _ (rfl | rfl) s hs
  · rcases List.mem_pair.1 hs with rfl | rfl <;>
      exact .inr ⟨rfl, fun d hd => .inr (Option.some.inj (hd.unique hpaid))⟩
  · cases List.mem_singleton.1 hs
    exact .inl rfl

private theorem orders_sourceless : ordersLaunch.flow.Sourceless := by
  have horder : order.Sourceless := by
    refine Value.sourceless_of_parts nofun fun w hw => ?_
    rcases List.mem_pair.1 hw with rfl | rfl <;> exact Value.sourceless_atom _
  have hlist : (Value.list none [order, order]).Sourceless := by
    refine Value.sourceless_of_parts nofun fun w hw => ?_
    rcases List.mem_pair.1 hw with rfl | rfl <;> exact horder
  have hparts : ∀ w ∈ [Value.text "paid", .bool true, .text "orders", .list none [order, order]], w.Sourceless := by
    simp only [List.forall_mem_cons]
    exact ⟨Value.sourceless_atom _, Value.sourceless_atom _, Value.sourceless_atom _, hlist, nofun⟩
  exact Value.sourceless_of_parts nofun hparts

private theorem orders_succeed :
    (ordersLaunch.run ([.run ordersLaunch, .resetConditions].foldl Caches.after {})).1.succeeded = true := by
  decide +kernel

/-- The customer and both orders have paid, in a process that has run the workflow before. -/
theorem run_readOnly_orders :
    let p := ordersLaunch.run ([.run ordersLaunch, .resetConditions].foldl Caches.after {})
    let q := (Run.task (Run.setting ordersLaunch.services true true) ordersLaunch.task).run p.2
    p.1.succeeded = true ∧ p.2.flow = ordersLaunch.flow ∧ p.2.state = ordersLaunch.state ∧ q.1 = p.1 :=
  ⟨orders_succeed, run_readOnly _ ordersLaunch orders_handlerFree orders_sourceless nofun⟩

end FlowRules
