import FlowRules.Value.Source

/-!
# Running evaluations

An evaluation is run with the counts of items taken so far.  A bind goes on with the counts that its first part leaves,
or stops where that part fails.
-/

namespace FlowRules.Eval

variable {α β : Type} {r : Eval α} {k : α → Eval β} {cs ds : Cursors} {f : Fault} {a : α}

theorem run_ofExcept (e : Except Fault α) (cs : Cursors) : (ofExcept e).run cs = (e, cs) := by
  cases e <;> rfl

theorem run_bind (r : Eval α) (k : α → Eval β) (cs : Cursors) :
    (r >>= k).run cs =
      match r.run cs with
      | (.ok a, ds) => (k a).run ds
      | (.error f, ds) => (.error f, ds) := by
  unfold ExceptT.run
  simp only [bind, ExceptT.bind, ExceptT.mk, StateT.bind, ExceptT.bindCont]
  rcases r cs with ⟨_ | a, ds⟩ <;> rfl

theorem run_bind_ok (h : r.run cs = (.ok a, ds)) : (r >>= k).run cs = (k a).run ds := by
  rw [run_bind, h]

theorem run_bind_fault (h : r.run cs = (.error f, ds)) : (r >>= k).run cs = (.error f, ds) := by
  rw [run_bind, h]

theorem run_bind_error (h : (r >>= k).run cs = (.error f, ds)) :
    r.run cs = (.error f, ds) ∨ ∃ a es, r.run cs = (.ok a, es) ∧ (k a).run es = (.error f, ds) := by
  rw [run_bind] at h
  split at h
  · next a es hr => exact .inr ⟨a, es, hr, h⟩
  · next hr =>
    cases h
    exact .inl hr

theorem run_tryCatch (r : Eval α) (handle : Fault → Eval α) (cs : Cursors) :
    (tryCatchThe Fault r handle).run cs =
      match r.run cs with
      | (.ok a, ds) => (.ok a, ds)
      | (.error f, ds) => (handle f).run ds := by
  unfold ExceptT.run
  simp only [tryCatchThe, MonadExceptOf.tryCatch, ExceptT.tryCatch, ExceptT.mk, bind, StateT.bind]
  rcases r cs with ⟨_ | a, es⟩ <;> rfl

end FlowRules.Eval
