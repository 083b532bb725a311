import FlowRules.Proofs.Run.Coherence
import FlowRules.Proofs.Value.Sources

/-!
# Evaluations that take nothing

Conditions and checks can change nothing but the counts of items taken from sources.  Main statements: where there are
no sources, a condition (`Condition.verdict_still`) and a declarative validation (`Step.still_judge`) leave the counts as
they are, whatever they come to, and so does an operator that fails (`still_check`).
-/

namespace FlowRules

namespace Eval

variable {α β : Type} {P : α → Prop} {Q : β → Prop} {r : Eval α} {k : α → Eval β}

/-- An evaluation takes nothing from sources, and what it gives satisfies a predicate. -/
def Still (P : α → Prop) (r : Eval α) : Prop := ∀ cs, (r.run cs).2 = cs ∧ ∀ a, (r.run cs).1 = .ok a → P a

/-- An evaluation takes nothing from sources. -/
abbrev TakesNothing (r : Eval α) : Prop := Still (fun _ => True) r

theorem Still.pure {a : α} (ha : P a) : Still P (Pure.pure a) := by
  refine fun cs => ⟨rfl, fun b hb => ?_⟩
  cases hb
  exact ha

theorem Still.throw (f : Fault) : Still P (throw f : Eval α) := fun _ => ⟨rfl, nofun⟩

theorem Still.ofExcept {e : Except Fault α} (he : ∀ a, e = .ok a → P a) : Still P (ofExcept e) := by
  intro cs
  rw [run_ofExcept]
  exact ⟨rfl, he⟩

theorem TakesNothing.ofExcept (e : Except Fault α) : TakesNothing (ofExcept e) := Still.ofExcept fun _ _ => trivial

theorem Still.bind (hr : Still P r) (hk : ∀ a, P a → Still Q (k a)) : Still Q (r >>= k) := by
  intro cs
  obtain ⟨hcs, hok⟩ := hr cs
  rw [run_bind]
  rcases h : r.run cs with ⟨f | a, ds⟩ <;> rw [h] at hcs hok <;> subst hcs
  · exact ⟨rfl, nofun⟩
  · exact hk a (hok a rfl) _

theorem Still.map {g : α → β} (hr : Still P r) (hg : ∀ a, P a → Q (g a)) : Still Q (r >>= fun a => Pure.pure (g a)) :=
  hr.bind fun a ha => Still.pure (hg a ha)

theorem Still.tryCatch {handle : Fault → Eval α} (hr : Still P r) (hh : ∀ f, Still P (handle f)) :
    Still P (tryCatchThe Fault r handle) := by
  intro cs
  obtain ⟨hcs, hok⟩ := hr cs
  rw [run_tryCatch]
  rcases h : r.run cs with ⟨f | a, ds⟩ <;> rw [h] at hcs hok <;> subst hcs
  · exact hh f _
  · exact ⟨rfl, hok⟩

/-! ### Going through items -/

variable {v : Value}

theorem anyOf_takesNothing (hv : v.Sourceless) (test : Value → Except Fault Bool) (items : List Value) :
    TakesNothing (anyOf test v items) := by
  unfold anyOf
  split
  · exact absurd rfl (hv.ne_source _ _)
  · exact TakesNothing.ofExcept _

/-- The items of a value without sources have none. -/
theorem still_allItems (hv : v.Sourceless) :
    Still (fun items => ∀ w ∈ items.getD [], w.Sourceless) (allItems? v) := by
  unfold allItems?
  split
  · exact absurd rfl (hv.ne_source _ _)
  · refine Still.pure fun w hw => ?_
    rcases hitems : v.items? with _ | items <;> rw [hitems] at hw
    · cases hw
    · exact hv.items hitems hw

end Eval

open Eval (Still TakesNothing)

/-! ### Conditions -/

/-- Neither the flow object nor the state has sources in it. -/
structure Environment.Sourceless (env : Environment) : Prop where
  flow : env.flow.Sourceless
  state : env.state.Sourceless

namespace Expr

variable {v w : Value}

theorem sourceless_fieldOf (hv : v.Sourceless) {name : String} (h : fieldOf v name = .ok w) : w.Sourceless := by
  unfold fieldOf at h
  rcases hf : v.field? name with f | _ | u <;> rw [hf] at h <;> cases h
  · exact Value.sourceless_atom _
  · exact hv.field hf

/-- The items that a condition finds by their places are atoms, or offered by the value. -/
theorem sourceless_placedItem (hv : v.Sourceless) {items : List Value} (h : placedItems? v = some items)
    (hw : w ∈ items) : w.Sourceless := by
  unfold placedItems? at h
  split at h
  · cases h
    obtain ⟨b, -, rfl⟩ := List.mem_map.1 hw
    exact Value.sourceless_atom _
  · exact hv.offers (.item h hw)

theorem sourceless_itemOf (hv : v.Sourceless) {key : Value} (h : itemOf v key = .ok w) : w.Sourceless := by
  unfold itemOf at h
  split at h
  · cases h
    exact Value.sourceless_atom _
  · rename_i id entries
    rcases hl : Value.lookup key entries with f | _ | u <;> rw [hl] at h <;> cases h
    · exact Value.sourceless_atom _
    · obtain ⟨k, hk⟩ := Value.mem_of_lookupKey hl
      exact hv.offers (.entry hk)
  · split at h
    · rename_i items n hitems _
      rcases hi : Value.itemAt? items n with _ | u <;> rw [hi] at h <;> cases h
      · exact Value.sourceless_atom _
      · exact sourceless_placedItem hv hitems (Value.mem_of_itemAt hi)
    · rcases ht : key.textForm with f | name <;> rw [ht] at h
      · cases h
      · exact sourceless_fieldOf hv h

/-- Operations give atoms. -/
theorem sourceless_apply {f : Operation} {args : List Value} (h : apply f args = .ok w) : w.Sourceless := by
  have htext {e : Except Fault String} {g : String → String}
      (h : (e >>= fun s => .ok (.text (g s))) = (.ok w : Except Fault Value)) : w.Sourceless := by
    rcases e with _ | s <;> cases h
    exact Value.sourceless_atom _
  rcases args with _ | ⟨v, _ | ⟨u, args⟩⟩
  · cases h
  · cases f with
    | length =>
      dsimp only [apply] at h
      split at h
      · cases h
        exact Value.sourceless_atom _
      · split at h <;> cases h
        exact Value.sourceless_atom _
    | lower => exact htext h
    | upper => exact htext h
    | text => exact htext (g := id) h
  · cases h

theorem sourceless_negated (h : negated v = .ok w) : w.Sourceless := by
  unfold negated at h
  split at h
  · cases h
    exact Value.sourceless_atom _
  · cases h
    exact Value.sourceless_atom _
  · cases h
    exact Value.sourceless_atom _
  · rename_i d _
    rcases hd : Fault.ofDecimal d.negate with f | e <;> rw [hd] at h <;> cases h
    exact Value.sourceless_atom _
  · split at h <;> cases h
    exact Value.sourceless_atom _
  · cases h

theorem contains_takesNothing (hv : v.Sourceless) (item : Value) : TakesNothing (contains v item) := by
  unfold contains
  split
  · exact Still.pure trivial
  · exact (TakesNothing.ofExcept _).map fun _ _ => trivial
  · split
    · exact (TakesNothing.ofExcept _).map fun _ _ => trivial
    · split
      · exact Eval.anyOf_takesNothing hv _ _
      · exact Still.throw _

theorem relate_takesNothing (r : Relation) (v : Value) (hw : w.Sourceless) : TakesNothing (relate r v w) := by
  cases r with
  | equal => exact TakesNothing.ofExcept _
  | different => exact (TakesNothing.ofExcept _).map fun _ _ => trivial
  | ordered op => exact TakesNothing.ofExcept _
  | within => exact contains_takesNothing hw v
  | outside => exact (contains_takesNothing hw v).map fun _ _ => trivial

mutual

/-- An expression takes nothing where there are no sources, and its value has none. -/
theorem still_eval {env : Environment} (henv : env.Sourceless) (e : Expr) : Still Value.Sourceless (eval env e) := by
  -- the recursion follows `eval`
  match e with
  | .literal a => exact Still.pure (Value.sourceless_atom a)
  | .root .flow => exact Still.pure henv.flow
  | .root .state => exact Still.pure henv.state
  | .root .executionId => exact Still.pure (Value.sourceless_atom _)
  | .attribute target name =>
    exact (still_eval henv target).bind fun v hv => Still.ofExcept fun w hw => sourceless_fieldOf hv hw
  | .index target key =>
    exact (still_eval henv target).bind fun v hv => (still_eval henv key).bind fun k _ =>
      Still.ofExcept fun w hw => sourceless_itemOf hv hw
  | .call f args =>
    exact (still_evalList henv args).bind fun vs _ => Still.ofExcept fun w hw => sourceless_apply hw
  | .negate operand =>
    exact (still_eval henv operand).bind fun v _ => Still.ofExcept fun w hw => sourceless_negated hw
  | .not operand => exact (still_eval henv operand).map fun v _ => Value.sourceless_atom _
  | .connective .and parts =>
    exact (still_evalAll henv parts).map fun b _ => Value.sourceless_atom _
  | .connective .or parts =>
    exact (still_evalAny henv parts).map fun b _ => Value.sourceless_atom _
  | .compare r left right =>
    have hanswer (v : Value) {w : Value} (hw : w.Sourceless) :
        Still Value.Sourceless (relate r v w >>= fun b => Pure.pure (.bool b)) :=
      (relate_takesNothing r v hw).map fun b _ => Value.sourceless_atom _
    rw [eval]
    split
    · exact (still_eval henv right).bind fun w hw => (still_eval henv left).bind fun v _ => hanswer v hw
    · exact (still_eval henv left).bind fun v _ => (still_eval henv right).bind fun w hw => hanswer v hw
termination_by structural e

theorem still_evalList {env : Environment} (henv : env.Sourceless) (es : List Expr) :
    TakesNothing (evalList env es) := by
  match es with
  | [] => exact Still.pure trivial
  | e :: es =>
    exact (still_eval henv e).bind fun v _ => (still_evalList henv es).map fun vs _ => trivial
termination_by structural es

theorem still_evalAll {env : Environment} (henv : env.Sourceless) (es : List Expr) :
    TakesNothing (evalAll env es) := by
  match es with
  | [] => exact Still.pure trivial
  | e :: es =>
    refine (still_eval henv e).bind fun v _ => ?_
    split
    · exact still_evalAll henv es
    · exact Still.pure trivial
termination_by structural es

theorem still_evalAny {env : Environment} (henv : env.Sourceless) (es : List Expr) :
    TakesNothing (evalAny env es) := by
  match es with
  | [] => exact Still.pure trivial
  | e :: es =>
    refine (still_eval henv e).bind fun v _ => ?_
    split
    · exact Still.pure trivial
    · exact still_evalAny henv es
termination_by structural es

end

end Expr

namespace Condition

variable {env : Environment} (henv : env.Sourceless)

include henv

theorem holds_takesNothing (c : Condition) : TakesNothing (c.holds env) :=
  ((Expr.still_eval henv c.tree).tryCatch fun _ => Still.throw _).map fun _ _ => trivial

/-- A condition leaves the counts of items taken as they are, also when it fails. -/
theorem verdict_still (text : Option String) (cursors : Cursors) : (verdict env text cursors).2 = cursors := by
  unfold verdict
  split
  · rfl
  · split
    · rfl
    · exact (holds_takesNothing henv _ cursors).1

end Condition

/-! ### Checks -/

section

variable {make : Constructors} {actual : Value} (hactual : actual.Sourceless)

include hactual

theorem Operator.apply_takesNothing (op : Operator) (target : Option String) (declared : Option TypeRef) :
    TakesNothing (op.apply make actual target declared) := by
  cases op with
  | isNull => exact Still.pure trivial
  | isNotNull => exact Still.pure trivial
  | listContains =>
    dsimp only [apply, listHasTarget]
    split
    · exact Still.pure trivial
    · exact Eval.anyOf_takesNothing hactual _ _
  | listCount =>
    dsimp only [apply, listCountsTarget]
    split
    · exact Still.pure trivial
    · split
      · exact Still.throw _
      · exact (Eval.still_allItems hactual).map fun _ _ => trivial
  | _ => exact TakesNothing.ofExcept _

/-- A check takes nothing, also when its operator fails. -/
theorem still_check (spelling target : Option String) (declared : Option TypeRef) :
    TakesNothing (check make actual spelling target declared) := by
  unfold check
  split
  · exact Still.throw _
  · exact Still.pure trivial
  · exact Still.pure trivial
  · rename_i op _ _ _
    refine (TakesNothing.ofExcept _).bind fun shown _ => Still.tryCatch ?_ fun f => Still.pure trivial
    exact (Operator.apply_takesNothing hactual op target declared).map fun b _ => trivial

end

/-- A declarative validation takes nothing from a flow object without sources. -/
theorem Step.still_judge (make : Constructors) (s : Step) {flow : Value} (hflow : flow.Sourceless) :
    TakesNothing (s.judge make flow) := by
  unfold Step.judge
  dsimp only
  split
  · exact Still.pure trivial
  · refine (Still.ofExcept (P := fun found => ∀ actual, found = some actual → actual.Sourceless) ?_).bind ?_
    · rintro found hfound actual rfl
      exact hflow.field hfound
    · rintro (_ | actual) hactual
      · exact Still.pure trivial
      · refine (TakesNothing.ofExcept _).bind fun type _ => ?_
        exact (still_check (hactual actual rfl) _ _ _).map fun checked _ => trivial

end FlowRules
