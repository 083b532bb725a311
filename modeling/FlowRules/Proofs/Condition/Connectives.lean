import FlowRules.Condition.Eval
import FlowRules.Proofs.Value.Source

/-!
# Laws of connectives

The operands of a connective are evaluated one after the other.  The first that decides is the last that is evaluated:
one that is false decides an `and`, one that is true an `or`, and one that fails decides both, with its own fault.  So
connectives of one kind inside one another are a single one over all their operands, a negation goes through a
connective to its operands, and what stands behind the operand that decides makes no difference
(`Expr.connective_laws`).  The laws are equations of evaluations: they hold of values and faults, and of the items taken
from sources.
-/

namespace FlowRules

namespace Connective

/-- The truth of an operand that decides. -/
def decider : Connective → Bool
  | and => false
  | or => true

/-- The connective of the negations. -/
def dual : Connective → Connective
  | and => or
  | or => and

theorem decider_dual (c : Connective) : c.dual.decider = !c.decider := by cases c <;> rfl

end Connective

namespace Expr

variable {env : Environment} {c : Connective} {e : Expr} {es ds parts operands before : List Expr} {v : Value}
  {cs us ws : Cursors} {f : Fault}

/-! ### One operand after the other -/

/-- Whether a connective over these operands holds. -/
def evalParts (env : Environment) : Connective → List Expr → Eval Bool
  | .and => evalAll env
  | .or => evalAny env

theorem eval_connective (env : Environment) (c : Connective) (parts : List Expr) :
    eval env (.connective c parts) = evalParts env c parts >>= fun b => pure (.bool b) := by
  cases c <;> rfl

theorem evalParts_nil (env : Environment) (c : Connective) : evalParts env c [] = pure !c.decider := by
  cases c <;> rfl

theorem evalParts_cons (env : Environment) (c : Connective) (e : Expr) (es : List Expr) :
    evalParts env c (e :: es) =
      eval env e >>= fun v => if v.truth = c.decider then pure c.decider else evalParts env c es := by
  cases c with
  | and =>
    show (eval env e >>= fun v => if v.truth then evalAll env es else pure false) = _
    refine bind_congr fun v => ?_
    cases v.truth <;> rfl
  | or => rfl

theorem evalParts_append (env : Environment) (c : Connective) (ds es : List Expr) :
    evalParts env c (ds ++ es) =
      evalParts env c ds >>= fun b => if b = c.decider then pure c.decider else evalParts env c es := by
  induction ds with
  | nil =>
    have hopen : (!c.decider) ≠ c.decider := by cases c <;> decide
    rw [List.nil_append, evalParts_nil, pure_bind, if_neg hopen]
  | cons d ds ih =>
    rw [List.cons_append, evalParts_cons, evalParts_cons, bind_assoc]
    refine bind_congr fun v => ?_
    split
    · rw [pure_bind, if_pos rfl]
    · exact ih

/-! ### Connectives inside one another -/

/-- Over these operands, in their order, the parts are built by connectives of the one kind, as deep as may be. -/
inductive Nesting (c : Connective) : List Expr → List Expr → Prop
  | nil : Nesting c [] []
  | operand {parts operands : List Expr} (e : Expr) : Nesting c parts operands → Nesting c (e :: parts) (e :: operands)
  | node {inner ds parts operands : List Expr} : Nesting c inner ds → Nesting c parts operands →
      Nesting c (.connective c inner :: parts) (ds ++ operands)

theorem Nesting.evalParts_eq (env : Environment) (h : Nesting c parts operands) :
    evalParts env c parts = evalParts env c operands := by
  induction h with
  | nil => rfl
  | operand e _ ih => rw [evalParts_cons, evalParts_cons, ih]
  | node _ _ ihinner ih =>
    -- the truth of the inner connective is its answer, so it decides where one of its operands has
    rw [evalParts_cons, eval_connective, ihinner, evalParts_append, ih, bind_assoc]
    exact bind_congr fun b => pure_bind _ _

/-! ### Negations -/

theorem evalParts_not (env : Environment) (c : Connective) (operands : List Expr) :
    evalParts env c.dual (operands.map .not) = evalParts env c operands >>= fun b => pure !b := by
  induction operands with
  | nil => rw [List.map_nil, evalParts_nil, evalParts_nil, pure_bind, Connective.decider_dual]
  | cons e es ih =>
    have hnot : eval env (.not e) = eval env e >>= fun v => pure (.bool !v.truth) := rfl
    rw [List.map_cons, evalParts_cons, evalParts_cons, ih, hnot, bind_assoc, bind_assoc, Connective.decider_dual]
    refine bind_congr fun v => ?_
    have htruth : (Value.bool !v.truth).truth = (!c.decider) ↔ v.truth = c.decider := Bool.not_inj_iff
    rw [pure_bind]
    by_cases hv : v.truth = c.decider
    · rw [if_pos (htruth.2 hv), if_pos hv, pure_bind]
    · rw [if_neg (mt htruth.1 hv), if_neg hv]

/-! ### Operands that do not decide -/

/-- The operands are evaluated in turn, with these counts of items taken before and after, and none of them decides. -/
inductive Undecided (env : Environment) (c : Connective) : List Expr → Cursors → Cursors → Prop
  | nil (cs : Cursors) : Undecided env c [] cs cs
  | cons {e : Expr} {es : List Expr} {v : Value} {cs us ws : Cursors} : (eval env e).run cs = (.ok v, us) →
      v.truth ≠ c.decider → Undecided env c es us ws → Undecided env c (e :: es) cs ws

theorem Undecided.run_append (h : Undecided env c before cs us) (after : List Expr) :
    (evalParts env c (before ++ after)).run cs = (evalParts env c after).run us := by
  induction h with
  | nil => rfl
  | cons he hv _ ih => rw [List.cons_append, evalParts_cons, Eval.run_bind_ok he, if_neg hv, ih]

theorem Undecided.run (h : Undecided env c before cs us) :
    (evalParts env c before).run cs = (.ok !c.decider, us) := by
  have hrun := h.run_append []
  rw [List.append_nil, evalParts_nil] at hrun
  exact hrun

theorem Undecided.run_decider (h : Undecided env c before cs us) (he : (eval env e).run us = (.ok v, ws))
    (hv : v.truth = c.decider) (after : List Expr) :
    (evalParts env c (before ++ e :: after)).run cs = (.ok c.decider, ws) := by
  rw [h.run_append, evalParts_cons, Eval.run_bind_ok he, if_pos hv]
  rfl

theorem Undecided.run_fault (h : Undecided env c before cs us) (he : (eval env e).run us = (.error f, ws))
    (after : List Expr) : (evalParts env c (before ++ e :: after)).run cs = (.error f, ws) := by
  rw [h.run_append, evalParts_cons, Eval.run_bind_fault he]

/-! ### The laws -/

/-- Connectives of one kind inside one another are evaluated as the one over all the operands, a negated connective is
evaluated as the other one over the negated operands, and a connective comes to what its operands give in turn: none
decides, or the first that decides, or fails, gives the outcome and the counts of items taken, whatever is behind it. -/
theorem connective_laws (env : Environment) (c : Connective) :
    (∀ parts operands, Nesting c parts operands →
      eval env (.connective c parts) = eval env (.connective c operands)) ∧
    (∀ operands, eval env (.not (.connective c operands)) = eval env (.connective c.dual (operands.map .not))) ∧
    ∀ before cs us, Undecided env c before cs us →
      (eval env (.connective c before)).run cs = (.ok (.bool !c.decider), us) ∧
      ∀ e after ws,
        (∀ v, (eval env e).run us = (.ok v, ws) → v.truth = c.decider →
          (eval env (.connective c (before ++ e :: after))).run cs = (.ok (.bool c.decider), ws)) ∧
        ∀ f, (eval env e).run us = (.error f, ws) →
          (eval env (.connective c (before ++ e :: after))).run cs = (.error f, ws) := by
  refine ⟨fun parts operands h => ?_, fun operands => ?_, fun before cs us h => ⟨?_, fun e after ws => ⟨?_, ?_⟩⟩⟩
  · rw [eval_connective, eval_connective, h.evalParts_eq]
  · have hnot : eval env (.not (.connective c operands)) =
        eval env (.connective c operands) >>= fun v => pure (.bool !v.truth) := rfl
    rw [hnot, eval_connective, eval_connective, evalParts_not, bind_assoc, bind_assoc]
    refine bind_congr fun b => ?_
    rw [pure_bind, pure_bind]
    rfl
  · rw [eval_connective, Eval.run_bind_ok h.run]
    rfl
  · intro v he hv
    rw [eval_connective, Eval.run_bind_ok (h.run_decider he hv after)]
    rfl
  · intro f he
    rw [eval_connective, Eval.run_bind_fault (h.run_fault he after)]

/-- A source of two items, which are taken as they are looked for. -/
private def sourceEnvironment : Environment := ⟨.source 0 [.text "a", .text "b"], .null, "exec-1"⟩

private def looksFor (s : String) : Expr := .compare .within (.literal (.text s)) (.root .flow)

/-- The first item is found and taken with the second time in vain, so the call without arguments is not reached. -/
theorem connective_laws_source :
    Nesting .and [.connective .and [looksFor "a", looksFor "a"], .call .length []]
        [looksFor "a", looksFor "a", .call .length []] ∧
      (eval sourceEnvironment
        (.connective .and [.connective .and [looksFor "a", looksFor "a"], .call .length []])).run [] =
          (.ok (.bool false), [(0, 2)]) := by
  have hnesting : Nesting .and [.connective .and [looksFor "a", looksFor "a"], .call .length []]
      [looksFor "a", looksFor "a", .call .length []] :=
    .node (.operand _ (.operand _ .nil)) (.operand _ .nil)
  have hfound : (eval sourceEnvironment (looksFor "a")).run [] = (.ok (.bool true), [(0, 1)]) := rfl
  have hmissed : (eval sourceEnvironment (looksFor "a")).run [(0, 1)] = (.ok (.bool false), [(0, 2)]) := rfl
  obtain ⟨hflat, -, hturn⟩ := connective_laws sourceEnvironment .and
  have hbefore : Undecided sourceEnvironment .and [looksFor "a"] [] [(0, 1)] := .cons hfound nofun (.nil _)
  refine ⟨hnesting, ?_⟩
  rw [hflat _ _ hnesting]
  exact (((hturn _ _ _ hbefore).2 (looksFor "a") [.call .length []] [(0, 2)]).1) _ hmissed rfl

end Expr
end FlowRules
