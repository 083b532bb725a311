import FlowRules.Check.Declared
import FlowRules.Proofs.Check.Answer
import FlowRules.Proofs.Value.Declaration

/-!
# Fields of any type

A field can be declared with the type of anything, which says nothing about its values.  The target of a check on it is
read as that type all the same, and nothing can be read as it.  Main statement: a validation of such a field comes to
what the validation of the same value in a dictionary comes to, except where it is an equality or an inequality that the
type of the value decides and that holds of the dictionary; on the object it fails (`Step.untyped_outcome_iff`).
-/

namespace FlowRules

variable {make : Constructors} {v : Value} {spelling target : Option String} {op : Operator} {t t' : Option TypeRef}

/-! ### What depends on the type -/

/-- Values whose equality with a text is decided by the type that the text is read as: all but null and truth values. -/
def Value.ReadByType (v : Value) : Prop := v ≠ .null ∧ ∀ b, v ≠ .bool b

namespace Operator

/-- The operators that read a target as a type. -/
def ReadsTarget (op : Operator) : Prop := op = .equals ∨ op = .notEquals

/-- Nothing is read as the type of anything. -/
theorem equalsTarget_any (make : Constructors) (hv : v.ReadByType) (s : String) :
    ∃ f, equalsTarget make v (some s) (some .any) = .error f := by
  refine ⟨.type (.stated "Any cannot be instantiated"), ?_⟩
  cases v with
  | atom a =>
    cases a with
    | null => exact absurd rfl hv.1
    | bool b => exact absurd rfl (hv.2 b)
    | _ => rfl
  | _ => rfl

theorem equalsTarget_untyped (h : ¬(v.ReadByType ∧ target ≠ none)) :
    equalsTarget make v target t = equalsTarget make v target t' := by
  rcases target with _ | s
  · cases v with
    | atom a => cases a <;> rfl
    | _ => rfl
  · have hv : v = .null ∨ ∃ b, v = .bool b := by
      by_contra hv
      rw [not_or, not_exists] at hv
      exact h ⟨hv, nofun⟩
    rcases hv with rfl | ⟨b, rfl⟩ <;> rfl

/-- The other operators do not look at the type, and these look at it only to read a target. -/
theorem apply_untyped (h : ¬(op.ReadsTarget ∧ v.ReadByType ∧ target ≠ none)) :
    op.apply make v target t = op.apply make v target t' := by
  cases op with
  | equals => rw [apply, apply, equalsTarget_untyped fun hv => h ⟨.inl rfl, hv⟩]
  | notEquals => rw [apply, apply, equalsTarget_untyped fun hv => h ⟨.inr rfl, hv⟩]
  | _ => rfl

/-- Where the target would have to be read as the type of anything, the operator cannot be applied. -/
theorem apply_any (make : Constructors) (hop : op.ReadsTarget) (hv : v.ReadByType) (htarget : target ≠ none)
    (cs : Cursors) : ∃ f, (op.apply make v target (some .any)).run cs = (.error f, cs) := by
  obtain ⟨s, rfl⟩ := Option.ne_none_iff_exists'.1 htarget
  obtain ⟨f, hf⟩ := equalsTarget_any make hv s
  refine ⟨f, ?_⟩
  rcases hop with rfl | rfl
  · rw [apply, hf]
    rfl
  · rw [apply, hf]
    rfl

/-- Reading a target takes no items. -/
theorem apply_run (make : Constructors) (hop : op.ReadsTarget) (v : Value) (target : Option String)
    (t : Option TypeRef) (cs : Cursors) : ∃ r, (op.apply make v target t).run cs = (r, cs) := by
  rcases hop with rfl | rfl
  · exact ⟨_, Eval.run_ofExcept _ cs⟩
  · exact ⟨_, Eval.run_ofExcept _ cs⟩

end Operator

/-! ### Checks -/

/-- What a check comes to but for its note: whether it passes, or what it raises. -/
def Checked.outcome (r : Except Fault Checked × Cursors) : Except Fault Bool × Cursors :=
  (r.1.map Checked.passed, r.2)

/-- A check that is an equality or an inequality of a value that is read by type, with a target. -/
def ComparesByType (v : Value) (spelling target : Option String) : Prop :=
  (∃ op, Operator.ofSpelling? spelling = some op ∧ op.ReadsTarget) ∧ v.ReadByType ∧ target ≠ none

/-- All other checks come to the same with any two types. -/
theorem check_untyped (h : ¬ComparesByType v spelling target) :
    check make v spelling target t = check make v spelling target t' := by
  have happly (op : Operator) (hop : Operator.ofSpelling? spelling = some op) :
      op.apply make v target t = op.apply make v target t' :=
    Operator.apply_untyped fun hreads => h ⟨⟨op, hop, hreads.1⟩, hreads.2⟩
  unfold check
  split
  · rfl
  · rfl
  · rfl
  · next hop => rw [happly _ hop]

/-- Such a check raises what showing the value raises, or else it answers; with the type of anything it fails. -/
theorem check_comparesByType (h : ComparesByType v spelling target) (make : Constructors) (cs : Cursors) :
    (∃ f, ∀ t, Checked.outcome ((check make v spelling target t).run cs) = (.error f, cs)) ∨
      (∀ t, ∃ passed, Checked.outcome ((check make v spelling target t).run cs) = (.ok passed, cs)) ∧
        Checked.outcome ((check make v spelling target (some .any)).run cs) = (.ok false, cs) := by
  obtain ⟨⟨op, hop, hreads⟩, hv, htarget⟩ := h
  have hnull : op.key ∉ Operator.nullTests := by
    rcases hreads with rfl | rfl <;> decide
  rcases hshown : v.display with f | shown
  · refine .inl ⟨f, fun t => ?_⟩
    rw [check_run make target t cs hop hnull, hshown]
    rfl
  · refine .inr ⟨fun t => ?_, ?_⟩
    · obtain ⟨r, hr⟩ := Operator.apply_run make hreads v target t cs
      rw [check_run make target t cs hop hnull, hshown, hr]
      rcases r with f | passed
      · exact ⟨false, rfl⟩
      · exact ⟨passed, rfl⟩
    · obtain ⟨f, hany⟩ := Operator.apply_any make hreads hv htarget cs
      rw [check_run make target (some .any) cs hop hnull, hshown, hany]
      rfl

/-- Reading the target as the type of anything makes a difference to a check exactly where the check compares by type
and passes with the type that it has otherwise. -/
theorem check_any_iff (make : Constructors) (v : Value) (spelling target : Option String) (t : Option TypeRef)
    (cs : Cursors) :
    let typed := Checked.outcome ((check make v spelling target t).run cs)
    let untyped := Checked.outcome ((check make v spelling target (some .any)).run cs)
    (untyped = typed ↔ ¬(ComparesByType v spelling target ∧ typed.1 = .ok true)) ∧
      (ComparesByType v spelling target → typed.1 = .ok true → untyped = (.ok false, cs)) := by
  intro typed untyped
  by_cases hreads : ComparesByType v spelling target
  · rcases check_comparesByType hreads make cs with ⟨f, hf⟩ | ⟨hanswers, hany⟩
    · have htyped : typed = (.error f, cs) := hf t
      have huntyped : untyped = (.error f, cs) := hf (some .any)
      rw [htyped, huntyped]
      exact ⟨iff_of_true rfl fun h => (nomatch h.2), fun _ h => nomatch h⟩
    · obtain ⟨passed, hpassed⟩ := hanswers t
      have htyped : typed = (.ok passed, cs) := hpassed
      have huntyped : untyped = (.ok false, cs) := hany
      rw [htyped, huntyped]
      refine ⟨?_, fun _ _ => rfl⟩
      cases passed with
      | false => exact iff_of_true rfl fun h => nomatch h.2
      | true => exact iff_of_false nofun fun h => h ⟨hreads, rfl⟩
  · have hsame : untyped = typed := by
      show Checked.outcome _ = Checked.outcome _
      rw [check_untyped hreads]
    exact ⟨iff_of_true hsame fun h => hreads h.1, fun h => absurd h hreads⟩

/-! ### Fields -/

namespace Value

/-- An object of a record class holds a value in a field of this name that is declared with the type of anything.  A
name that begins with an underscore is found where no field before it differs from it in letter case only. -/
def HoldsUntyped (flow : Value) (name : String) (v : Value) : Prop :=
  match flow with
  | .object _ c _ _ _ =>
    c.shape = .record ∧ c.declared.lookup name = some (.type .any) ∧ flow.attribute? name = .ok (some v) ∧
      (Text.startsWith name "_" = true → (c.declared.map (·.1)).find? (sameName · name) = some name)
  | _ => False

/-- A dictionary holds a value under a name. -/
def HoldsUnder (flow : Value) (name : String) (v : Value) : Prop :=
  match flow with
  | .dict _ entries => lookup (.text name) entries = .ok (some v)
  | _ => False

variable {name : String} {flow : Value}

/-- In a dictionary the value is found, and no type is known for it. -/
theorem HoldsUnder.spec (h : flow.HoldsUnder name v) (hpoint : '.' ∉ name.toList) :
    flow.isNull = false ∧ flow.segment? name = .ok (some v) ∧ flow.declaredType? name = .ok none := by
  cases flow with
  | dict id entries =>
    have hlookup : lookup (.text name) entries = .ok (some v) := h
    refine ⟨rfl, ?_, ?_⟩
    · rw [segment?, hlookup]
      rfl
    · rw [declaredType?, cutLast_single hpoint]
      split <;> rfl
  | _ => exact h.elim

/-- In an object with an untyped field the value is found, with the type of anything. -/
theorem HoldsUntyped.spec (h : flow.HoldsUntyped name v) (hempty : name ≠ "") (hpoint : '.' ∉ name.toList) :
    flow.isNull = false ∧ flow.segment? name = .ok (some v) ∧ flow.declaredType? name = .ok (some .any) := by
  cases flow with
  | object id c fields offers failing =>
    obtain ⟨hshape, hdeclared, hattribute, hfirst⟩ := h
    refine ⟨rfl, ?_, ?_⟩
    · show (Value.object id c fields offers failing).namedField? name = _
      rw [namedField?]
      by_cases hprivate : Text.startsWith name "_" = true
      · have hnames : (Value.object id c fields offers failing).fieldNames = c.declared.map (·.1) := by
          rw [fieldNames, hshape]
        rw [if_neg (by simp [hprivate]), looseField?, hnames, hfirst hprivate]
        exact hattribute
      · have hpresent : (Value.object id c fields offers failing).present? name = .ok (some v) := by
          rw [present?, hattribute]
        rw [if_pos (by simpa using hprivate), hpresent]
        rfl
    · have hdeclares : c.annotation? name = some (.type .any) :=
        ClassInfo.annotation_of_lookup (by simp [hshape]) hdeclared rfl
      rw [declaredType?, if_neg hempty, cutLast_single hpoint]
      show Except.ok ((c.annotation? name).bind Annotation.typeRef?) = _
      rw [hdeclares]
      rfl
  | _ => exact h.elim

end Value

/-! ### Validations -/

/-- What a validation comes to but for its remark: whether it holds, or what it raises. -/
def Step.outcome (make : Constructors) (s : Step) (flow : Value) (cs : Cursors) : Except Fault Bool × Cursors :=
  let (r, ds) := (s.judge make flow).run cs
  (r.map Judgement.passed, ds)

/-- A validation of a field that is found comes to what the check of the value comes to. -/
theorem Step.outcome_field {s : Step} {flow : Value} (hnull : flow.isNull = false)
    (hfield : flow.field? (s.targetProperty.getD "") = .ok (some v))
    (htype : Step.comparisonType flow v (s.targetProperty.getD "") = .ok t) (make : Constructors) (cs : Cursors) :
    s.outcome make flow cs = Checked.outcome ((check make v s.operator s.targetValue t).run cs) := by
  have hjudge : (s.judge make flow).run cs = ((check make v s.operator s.targetValue t) >>= fun checked =>
      (return ⟨checked.passed, checked.note.map Remark.operatorFailed⟩ : Eval Judgement)).run cs := by
    unfold judge
    rw [hnull, if_neg Bool.false_ne_true, hfield, Eval.run_bind_ok (Eval.run_ofExcept _ cs)]
    dsimp only
    rw [htype, Eval.run_bind_ok (Eval.run_ofExcept _ cs)]
  rw [outcome, hjudge]
  rcases hcheck : (check make v s.operator s.targetValue t).run cs with ⟨f | checked, ds⟩
  · rw [Eval.run_bind_fault hcheck]
    rfl
  · rw [Eval.run_bind_ok hcheck]
    rfl

theorem Step.outcome_found {s : Step} {flow : Value} {name : String} (hs : s.targetProperty = some name)
    (hnull : flow.isNull = false) (hfield : flow.field? name = .ok (some v))
    (htype : Step.comparisonType flow v name = .ok t) (make : Constructors) (cs : Cursors) :
    s.outcome make flow cs = Checked.outcome ((check make v s.operator s.targetValue t).run cs) := by
  have hname : s.targetProperty.getD "" = name := by
    rw [hs, Option.getD_some]
  exact outcome_field hnull (hname ▸ hfield) (hname ▸ htype) make cs

/-- A validation of a field that is declared with the type of anything comes to what the validation of the same value in
a dictionary comes to, unless its operator is an equality or an inequality, the value is neither null nor a truth value,
there is a target, and the validation of the dictionary holds.  Then it does not hold of the object. -/
theorem Step.untyped_outcome_iff (make : Constructors) {s : Step} {name : String} {object dictionary v : Value}
    (hs : s.targetProperty = some name) (hempty : name ≠ "") (hpoint : '.' ∉ name.toList)
    (hobject : object.HoldsUntyped name v) (hdictionary : dictionary.HoldsUnder name v) (cs : Cursors) :
    (s.outcome make object cs = s.outcome make dictionary cs ↔
        ¬(ComparesByType v s.operator s.targetValue ∧ (s.outcome make dictionary cs).1 = .ok true)) ∧
      (ComparesByType v s.operator s.targetValue → (s.outcome make dictionary cs).1 = .ok true →
        s.outcome make object cs = (.ok false, cs)) := by
  have htyped : s.outcome make dictionary cs = Checked.outcome ((check make v s.operator s.targetValue
      (if v.isNull then none else some v.typeRef)).run cs) := by
    obtain ⟨hnull, hsegment, htype⟩ := hdictionary.spec hpoint
    refine outcome_found hs hnull ((Value.field_single hempty hpoint _).trans hsegment) ?_ make cs
    rw [comparisonType, htype]
    rfl
  have huntyped : s.outcome make object cs =
      Checked.outcome ((check make v s.operator s.targetValue (some .any)).run cs) := by
    obtain ⟨hnull, hsegment, htype⟩ := hobject.spec hempty hpoint
    refine outcome_found hs hnull ((Value.field_single hempty hpoint _).trans hsegment) ?_ make cs
    rw [comparisonType, htype]
    rfl
  rw [htyped, huntyped]
  exact check_any_iff make v s.operator s.targetValue _ cs

/-! ### A record with a note of any type -/

private def noted : Value :=
  .object none ⟨"Noted", .record, [("id", .type .int), ("note", .type .any)]⟩ [("id", .int 7), ("note", .text "late")]
    [] []

private def noteEntries : Value := .dict none [(.text "note", .text "late")]

private def noteCheck (operator target : String) : Step :=
  { kind := .validation, mode := .simple, targetProperty := some "note", operator := some operator,
    targetValue := some target }

private theorem noted_holds : noted.HoldsUntyped "note" (.text "late") := ⟨rfl, rfl, rfl, nofun⟩

private theorem noteEntries_hold : noteEntries.HoldsUnder "note" (.text "late") := rfl

/-- A part of the note is found in the object as it is in the dictionary. -/
theorem Step.untyped_outcome_iff_contains :
    noted.HoldsUntyped "note" (.text "late") ∧ noteEntries.HoldsUnder "note" (.text "late") ∧
      (noteCheck "contains" "ate").outcome default noted [] =
        (noteCheck "contains" "ate").outcome default noteEntries [] := by
  have hiff := Step.untyped_outcome_iff default (s := noteCheck "contains" "ate") rfl (by decide) (by decide)
    noted_holds noteEntries_hold []
  refine ⟨noted_holds, noteEntries_hold, hiff.1.2 ?_⟩
  rintro ⟨⟨⟨op, hop, hreads⟩, -⟩, -⟩
  have hcontains : Operator.ofSpelling? (noteCheck "contains" "ate").operator = some .contains := by decide
  rw [hcontains] at hop
  cases hop
  rcases hreads with hreads | hreads <;> cases hreads

/-- The note equals its own text in the dictionary and not in the object. -/
theorem Step.untyped_equality_fails :
    noted.HoldsUntyped "note" (.text "late") ∧ noteEntries.HoldsUnder "note" (.text "late") ∧
      (noteCheck "equals" "late").outcome default noted [] = (.ok false, []) ∧
      (noteCheck "equals" "late").outcome default noteEntries [] = (.ok true, []) :=
  ⟨noted_holds, noteEntries_hold, rfl, rfl⟩

end FlowRules
