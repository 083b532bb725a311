import FlowRules.Proofs.Check.Agreement
import FlowRules.Proofs.Number.Order

/-!
# Conditions order numbers totally

Integers, floating-point numbers and decimals are compared in conditions as the decimals they count as, and these have
places on one line.  So numbers of any kinds are in the order of their places (`places_compared`), which is linear
(`numbers_ordered_totally`).
-/

namespace FlowRules

variable {r : Relation} {v w a b c : Value} {p q : Extended} {answer : Except Fault Bool}

/-! ### What a comparison answers -/

/-- A condition answers this when it compares two operands with these values, whatever expressions the operands are. -/
def Relation.Answers (r : Relation) (v w : Value) (answer : Except Fault Bool) : Prop :=
  ∀ (env : Environment) (left right : Expr) (before between after : Cursors),
    (Expr.eval env left).run before = (.ok v, between) → (Expr.eval env right).run between = (.ok w, after) →
      (Expr.eval env (.compare r left right)).run before = (answer.map .bool, after)

theorem Relation.answers_of_relate (hr : r.containerFirst = false) (h : Expr.relate r v w = Eval.ofExcept answer) :
    r.Answers v w answer := by
  intro env left right before between after hleft hright
  rw [Expr.eval, hr, if_neg Bool.false_ne_true, Eval.run_bind_ok hleft, Eval.run_bind_ok hright, h, Eval.run_bind,
    Eval.run_ofExcept]
  cases answer <;> rfl

theorem Relation.answers_equal (v w : Value) : Relation.equal.Answers v w (Expr.valuesEqual v w) :=
  answers_of_relate rfl rfl

theorem Relation.answers_ordered (op : Comparison) (v w : Value) :
    (Relation.ordered op).Answers v w (Expr.valuesOrdered op v w) :=
  answers_of_relate rfl rfl

/-- There is one answer: the operands can be the flow object and the shared state. -/
theorem Relation.Answers.unique {other : Except Fault Bool} (h : r.Answers v w answer) (h' : r.Answers v w other) :
    answer = other := by
  have heq := (h ⟨v, w, ""⟩ (.root .flow) (.root .state) [] [] [] rfl rfl).symm.trans
    (h' ⟨v, w, ""⟩ (.root .flow) (.root .state) [] [] [] rfl rfl)
  have hmap : answer.map Value.bool = other.map Value.bool := (Prod.mk.inj heq).1
  cases answer with
  | error f => cases other <;> cases hmap; rfl
  | ok x => cases other <;> cases hmap; rfl

/-! ### Places -/

/-- Where a number stands: at the place of the decimal that it counts as. -/
def Value.StandsAt (v : Value) (p : Extended) : Prop := ∃ x, v.CountsAs x ∧ x.value? = some p

theorem Value.IsNumber.exists_place (hv : v.IsNumber) : ∃ p, v.StandsAt p := by
  obtain ⟨x, hx⟩ := hv.countsAs
  have hne : x.value? ≠ none := by
    intro hnone
    have hnan := Decimal.value?_eq_none.1 hnone
    rw [hx.1] at hnan
    cases hnan
  obtain ⟨p, hp⟩ := Option.ne_none_iff_exists'.1 hne
  exact ⟨p, x, hx, hp⟩

/-- What the order of two places says on a relation is what a condition answers on numbers that stand there. -/
theorem places_compared (hv : v.StandsAt p) (hw : w.StandsAt q) :
    Relation.equal.Answers v w (.ok (cmp p q == .eq)) ∧
      ∀ op : Comparison, (Relation.ordered op).Answers v w (.ok (op.holds (cmp p q))) := by
  obtain ⟨x, hx, hp⟩ := hv
  obtain ⟨y, hy, hq⟩ := hw
  have ho : Decimal.compare? x y = some (cmp p q) := by
    rw [Decimal.compare?_eq, hp, hq]
    rfl
  constructor
  · have hequal := Relation.answers_equal v w
    rwa [valuesEqual_countsAs hx hy ho] at hequal
  · intro op
    have hordered := Relation.answers_ordered op v w
    rwa [valuesOrdered_countsAs hx hy ho op] at hordered

theorem equal_iff_place (hv : v.StandsAt p) (hw : w.StandsAt q) : Relation.equal.Answers v w (.ok true) ↔ p = q := by
  have hanswer := (places_compared hv hw).1
  constructor
  · intro h
    have heq := Except.ok.inj (hanswer.unique h)
    exact (cmp_eq_eq_iff p q).1 (beq_iff_eq.1 heq)
  · rintro rfl
    rwa [cmp_self_eq_eq] at hanswer

theorem less_iff_place (hv : v.StandsAt p) (hw : w.StandsAt q) :
    (Relation.ordered .lt).Answers v w (.ok true) ↔ p < q := by
  have hanswer := (places_compared hv hw).2 .lt
  constructor
  · intro h
    have heq := Except.ok.inj (hanswer.unique h)
    exact (cmp_eq_lt_iff p q).1 (beq_iff_eq.1 heq)
  · intro h
    rwa [h.cmp_eq_lt] at hanswer

/-! ### The order -/

/-- Of any two numbers exactly one is less or they are equal, "at most" and "at least" mean what they say, and equality
and the order are transitive, also together. -/
theorem numbers_ordered_totally (ha : a.IsNumber) (hb : b.IsNumber) (hc : c.IsNumber) :
    (∃ less same more : Bool,
      (Relation.ordered .lt).Answers a b (.ok less) ∧ Relation.equal.Answers a b (.ok same) ∧
      (Relation.ordered .gt).Answers a b (.ok more) ∧ [less, same, more].count true = 1 ∧
      (Relation.ordered .le).Answers a b (.ok (less || same)) ∧
      (Relation.ordered .ge).Answers a b (.ok (more || same))) ∧
    (Relation.equal.Answers a b (.ok true) → Relation.equal.Answers b c (.ok true) →
      Relation.equal.Answers a c (.ok true)) ∧
    ((Relation.ordered .lt).Answers a b (.ok true) → (Relation.ordered .lt).Answers b c (.ok true) →
      (Relation.ordered .lt).Answers a c (.ok true)) ∧
    (Relation.equal.Answers a b (.ok true) → (Relation.ordered .lt).Answers b c (.ok true) →
      (Relation.ordered .lt).Answers a c (.ok true)) := by
  obtain ⟨p, hp⟩ := ha.exists_place
  obtain ⟨q, hq⟩ := hb.exists_place
  obtain ⟨s, hs⟩ := hc.exists_place
  refine ⟨?_, ?_, ?_, ?_⟩
  · obtain ⟨hequal, hordered⟩ := places_compared hp hq
    have hcount (o : Ordering) : [Comparison.lt.holds o, o == .eq, Comparison.gt.holds o].count true = 1 := by
      cases o <;> rfl
    have hle (o : Ordering) : Comparison.le.holds o = (Comparison.lt.holds o || o == .eq) := by
      cases o <;> rfl
    have hge (o : Ordering) : Comparison.ge.holds o = (Comparison.gt.holds o || o == .eq) := by
      cases o <;> rfl
    refine ⟨_, _, _, hordered .lt, hequal, hordered .gt, hcount _, ?_, ?_⟩
    · rw [← hle]
      exact hordered .le
    · rw [← hge]
      exact hordered .ge
  · rw [equal_iff_place hp hq, equal_iff_place hq hs, equal_iff_place hp hs]
    exact Eq.trans
  · rw [less_iff_place hp hq, less_iff_place hq hs, less_iff_place hp hs]
    exact lt_trans
  · rw [equal_iff_place hp hq, less_iff_place hq hs, less_iff_place hp hs]
    exact fun heq hlt => heq ▸ hlt

private def oneTenth : Binary64 := ⟨false, ⟨1019, by decide⟩, ⟨2702159776422298, by decide⟩⟩

/-- The decimal `0.10` equals the floating-point number `0.1`, which is less than the integer `1`; so the decimal is. -/
theorem numbers_ordered_totally_mixed :
    (Value.decimal (.finite false 10 (-2))).IsNumber ∧ (Value.float oneTenth).IsNumber ∧ (Value.int 1).IsNumber ∧
      (Relation.ordered .lt).Answers (.decimal (.finite false 10 (-2))) (.int 1) (.ok true) := by
  have ha : (Value.decimal (.finite false 10 (-2))).IsNumber := .decimal rfl
  have hb : (Value.float oneTenth).IsNumber := .float rfl
  have hc : (Value.int 1).IsNumber := .int (by decide)
  have hequal : Relation.equal.Answers (.decimal (.finite false 10 (-2))) (.float oneTenth) (.ok true) :=
    Relation.answers_equal _ _
  have hless : (Relation.ordered .lt).Answers (.float oneTenth) (.int 1) (.ok true) :=
    Relation.answers_ordered .lt _ _
  exact ⟨ha, hb, hc, (numbers_ordered_totally ha hb hc).2.2.2 hequal hless⟩

end FlowRules
