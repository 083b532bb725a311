import FlowRules.Proofs.Run.Alike

/-!
# Similar actions

Two actions are similar when they give the same from worlds that are alike and leave worlds that are alike.  Main
statements: similar parts make similar actions (`Act.Similar.bind`, `Act.Similar.attempt_bind`), and so a run is
compared with another by going through their parts side by side.  A condition holds by its text alone, whatever has
been parsed before (`Act.holds_spec`).
-/

namespace FlowRules

open World (Alike)

/-- Two actions that give the same from worlds that are alike, and leave worlds that are alike. -/
def Act.Similar {α : Type} (a b : Act α) : Prop :=
  ∀ w v, Alike w v → (a.run w).1 = (b.run v).1 ∧ Alike (a.run w).2 (b.run v).2

namespace Act

variable {α β : Type}

theorem Similar.pure (x : α) : Similar (Pure.pure x : Act α) (Pure.pure x) := fun _ _ h => ⟨rfl, h⟩

theorem Similar.bind {a b : Act α} {f g : α → Act β} (h : Similar a b) (hf : ∀ x, Similar (f x) (g x)) :
    Similar (a >>= f) (b >>= g) := by
  intro w v hwv
  obtain ⟨hx, hu⟩ := h w v hwv
  rw [run_bind, run_bind, ← hx]
  exact hf _ _ _ hu

theorem Similar.modify {f g : World → World} (h : ∀ w v, Alike w v → Alike (f w) (g v)) :
    Similar (modify f) (modify g) := fun w v hwv => ⟨rfl, h w v hwv⟩

/-- What is recorded besides calls need not be the same, and may be missing on one side. -/
theorem Similar.record {e e' : Event} (he : e.isCall = false) (he' : e'.isCall = false) :
    Similar (record e) (record e') := Similar.modify fun _ _ h => h.record he he'

theorem Similar.log {level level' : LogLevel} {message message' : String} :
    Similar (log level message) (log level' message') := Similar.modify fun _ _ h => h.record rfl rfl

theorem Similar.logTraced {message message' : String} : Similar (logTraced message) (logTraced message') :=
  Similar.modify fun _ _ h => h.record rfl rfl

theorem Similar.moveLogger {f g : ScopedLogger → ScopedLogger} : Similar (moveLogger f) (moveLogger g) :=
  Similar.modify fun _ _ h => h.logger _ _

/-- A condition holds by its text, its environment and the counts of items taken alone. -/
theorem holds_spec {w : World} (hw : w.Coherent) (c : Option String) :
    ((holds c).run w).1 = (Condition.verdict (World.environment w.toScope) c w.cursors).1 ∧
      Alike { w with cursors := (Condition.verdict (World.environment w.toScope) c w.cursors).2 }
        ((holds c).run w).2 := by
  by_cases hb : ConditionCache.isBlankCondition c = true
  · rw [holds_blank hb, Condition.verdict, if_pos hb]
    exact ⟨rfl, Alike.refl hw⟩
  · have hc := ConditionCache.coherent_evaluate hw.conditions (World.environment w.toScope) c w.cursors
    rw [holds_run hb, ← ConditionCache.evaluate_eq hw.conditions]
    refine ⟨rfl, rfl, rfl, rfl, ?_, ⟨hw.conditions, hw.definitions, hw.memory⟩, ⟨hc, hw.definitions, hw.memory⟩⟩
    unfold World.calls
    dsimp only
    split <;> simp [Event.isCall]

theorem Similar.holds (c : Option String) : Similar (holds c) (holds c) := by
  intro w v h
  obtain ⟨hr, hw⟩ := holds_spec h.left c
  obtain ⟨hr', hv⟩ := holds_spec h.right c
  have he : Condition.verdict (World.environment v.toScope) c v.cursors =
      Condition.verdict (World.environment w.toScope) c w.cursors := by
    rw [h.scope, h.cursors]
  rw [he] at hr' hv
  rw [hr, hr']
  exact ⟨rfl, (hw.symm.trans (h.withCursors _)).trans hv⟩

/-! ### Actions that can fail -/

variable {r r' : Run α} {k k' : α → Run β}

theorem Similar.attempt_bind (h : Similar r.attempt r'.attempt) (hk : ∀ a, Similar (k a).attempt (k' a).attempt) :
    Similar (r >>= k).attempt (r' >>= k').attempt := by
  intro w v hwv
  obtain ⟨ha, hu⟩ := h w v hwv
  rw [Run.attempt_bind, Run.attempt_bind]
  rcases hr : r.attempt.run w with ⟨f | a, u⟩ <;> rcases hr' : r'.attempt.run v with ⟨f' | a', u'⟩ <;>
    rw [hr, hr'] at ha hu
  · cases ha
    exact ⟨rfl, hu⟩
  · cases ha
  · cases ha
  · cases ha
    exact hk a u u' hu

theorem Similar.attempt_pure (a : α) : Similar (Pure.pure a : Run α).attempt (Pure.pure a : Run α).attempt :=
  Similar.pure (Except.ok a)

theorem Similar.attempt_throw (f : Fault) : Similar (throw f : Run α).attempt (throw f : Run α).attempt :=
  Similar.pure (Except.error f)

theorem Similar.attempt_ofExcept (e : Except Fault α) :
    Similar (Run.ofExcept e).attempt (Run.ofExcept e).attempt := by
  cases e with
  | error f => exact Similar.attempt_throw f
  | ok a => exact Similar.attempt_pure a

theorem Similar.attempt_lift {a b : Act α} (h : Similar a b) :
    Similar (liftM a : Run α).attempt (liftM b : Run α).attempt := by
  intro w v hwv
  obtain ⟨hx, hu⟩ := h w v hwv
  rw [Run.attempt_lift, Run.attempt_lift, hx]
  exact ⟨rfl, hu⟩

theorem Similar.attempt_tried (h : Similar r.attempt r'.attempt) :
    Similar (Run.tried r).attempt (Run.tried r').attempt := by
  intro w v hwv
  obtain ⟨hx, hu⟩ := h w v hwv
  rw [Run.attempt_tried, Run.attempt_tried, hx]
  exact ⟨rfl, hu⟩

theorem Similar.attempt_map (h : Similar r.attempt r'.attempt) (f : α → β) :
    Similar (f <$> r).attempt (f <$> r').attempt := by
  intro w v hwv
  obtain ⟨hx, hu⟩ := h w v hwv
  rw [Run.attempt_map, Run.attempt_map, hx]
  exact ⟨rfl, hu⟩

theorem Similar.attempt_ofEval (e : Eval α) : Similar (Run.ofEval e).attempt (Run.ofEval e).attempt := by
  intro w v hwv
  rw [Run.attempt_ofEval, Run.attempt_ofEval, ← hwv.cursors]
  exact ⟨rfl, hwv.withCursors _⟩

/-- After the world has been looked at, two computations have to be similar for all worlds that are alike. -/
theorem Similar.attempt_get_bind {k k' : World → Run β}
    (h : ∀ w v, Alike w v →
      ((k w).attempt.run w).1 = ((k' v).attempt.run v).1 ∧ Alike ((k w).attempt.run w).2 ((k' v).attempt.run v).2) :
    Similar (getThe World >>= k).attempt (getThe World >>= k').attempt := h

end Act
end FlowRules
