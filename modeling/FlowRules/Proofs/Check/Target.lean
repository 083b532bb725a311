import FlowRules.Proofs.Check.Annotation
import FlowRules.Proofs.Check.Numeric

/-!
# Targets of numeric checks

The operators that compare numbers ask two things of a target: which number it denotes, and, where the checked value is
a truth value, of which truth value it is a word.  Main statements: a target that denotes a number can be replaced in all
validations of numeric fields by another one that answers both questions alike (`SameTarget.outcome`), and by no other
(`sameTarget_of_equality`).
-/

namespace FlowRules

variable {make : Constructors} {v : Value} {s s' name : String} {t : Option TypeRef} {p : Extended} {x y z : Decimal}
  {op : Operator} {spelling : Option String} {flow : Value}

/-- The value of the number that a text denotes. -/
def Text.number? (s : String) : Option Extended := (Decimal.read? s).bind Decimal.value?

/-- The operators that compare numbers. -/
def Operator.comparing : List Operator :=
  [.equals, .notEquals, .lessThan, .lessThanOrEqual, .greaterThan, .greaterThanOrEqual]

/-- Two targets that denote one number, and of which both or neither is a word for a truth value. -/
structure SameTarget (s s' : String) : Prop where
  number : Text.number? s = Text.number? s'
  truth : (readBool s).toOption = (readBool s').toOption

/-- A step with another target. -/
def Step.withTarget (s : Step) (target : String) : Step := { s with targetValue := some target }

/-- A declarative validation of a numeric field, if the flow object has the field at all, by an operator that compares
numbers. -/
structure Step.ComparesNumbers (s : Step) (flow : Value) : Prop where
  declarative : s.isDeclarative = true
  operator : ∃ op ∈ Operator.comparing, Operator.ofSpelling? s.operator = some op
  numeric : ∀ v t, flow.field? (s.targetProperty.getD "") = .ok (some v) →
    Step.comparisonType flow v (s.targetProperty.getD "") = .ok t → t ∈ numericTypes

/-! ### What is asked of a target -/

theorem Decimal.order_congr (h : y.value? = z.value?) (x : Decimal) : x.order y = x.order z := by
  rw [order, order, compare?_eq, compare?_eq, h]

theorem Decimal.equals_congr (hy : y.value? = some p) (hz : z.value? = some p) (x : Decimal) :
    x.equals y = x.equals z := by
  rw [equals, equals, compare?_eq, compare?_eq, isSignaling_of_value hy, isSignaling_of_value hz, hy, hz]

/-- A text that denotes a number is taken for a decimal of this value. -/
theorem exists_toDecimal_text (hs : Text.number? s = some p) :
    ∃ y, toDecimal (.text s) = .ok y ∧ y.value? = some p := by
  rcases toDecimal_text s with ⟨y, hread, hy⟩ | ⟨hread, -⟩
  · rw [Text.number?, hread] at hs
    exact ⟨y, hy, hs⟩
  · rw [Text.number?, hread] at hs
    cases hs

theorem orderTarget_congr (hs : Text.number? s = some p) (hs' : Text.number? s' = some p) (v : Value) :
    Operator.orderTarget v (some s) = Operator.orderTarget v (some s') := by
  obtain ⟨y, hy, hvalue⟩ := exists_toDecimal_text hs
  obtain ⟨z, hz, hvalue'⟩ := exists_toDecimal_text hs'
  rw [Operator.orderTarget, Operator.orderTarget, targetDecimal, targetDecimal, hy, hz]
  rcases toDecimal v with f | x
  · rfl
  · exact congrArg Fault.ofDecimal (Decimal.order_congr (hvalue.trans hvalue'.symm) x)

/-- The equality of a value with a target in a field with a numeric type is one of numbers, unless the value is null or
a truth value. -/
theorem equalsTarget_numeric (make : Constructors) (hv : v.ReadByType) (ht : t ∈ numericTypes) (hnone : t ≠ none)
    (s : String) : Operator.equalsTarget make v (some s) t =
      (toDecimal v >>= fun x => toDecimal (.text s) >>= fun y => Fault.ofDecimal (x.equals y)) := by
  simp only [numericTypes, List.mem_cons, List.not_mem_nil, or_false] at ht
  cases v with
  | atom a =>
    cases a with
    | null => exact absurd rfl hv.1
    | bool b => exact absurd rfl (hv.2 b)
    | _ =>
      rcases ht with rfl | rfl | rfl | rfl
      · exact absurd rfl hnone
      all_goals rfl
  | _ =>
    rcases ht with rfl | rfl | rfl | rfl
    · exact absurd rfl hnone
    all_goals rfl

/-- A truth value equals the target that is the word for it. -/
theorem equalsTarget_bool (make : Constructors) (b : Bool) (s : String) (t : Option TypeRef) :
    (Operator.equalsTarget make (.bool b) (some s) t).toOption = (readBool s).toOption.map (b == ·) := by
  show (((readBool s).map Value.bool) >>= fun w => (Value.bool b).equals w).toOption = _
  rcases readBool s with f | c
  · rfl
  · cases b <;> cases c <;> rfl

theorem equalsTarget_congr (make : Constructors) (hs : Text.number? s = some p) (h : SameTarget s s')
    (ht : t ∈ numericTypes) (hnone : t = none → v = .null) :
    (Operator.equalsTarget make v (some s) t).toOption = (Operator.equalsTarget make v (some s') t).toOption := by
  by_cases hv : v.ReadByType
  · obtain ⟨y, hy, hvalue⟩ := exists_toDecimal_text hs
    obtain ⟨z, hz, hvalue'⟩ := exists_toDecimal_text (h.number ▸ hs)
    have htype : t ≠ none := fun h => hv.1 (hnone h)
    rw [equalsTarget_numeric make hv ht htype, equalsTarget_numeric make hv ht htype, hy, hz]
    rcases toDecimal v with f | x
    · rfl
    · exact congrArg (Except.toOption ∘ Fault.ofDecimal) (Decimal.equals_congr hvalue hvalue' x)
  · have hcases : v = .null ∨ ∃ b, v = .bool b := by
      by_contra hother
      rw [not_or, not_exists] at hother
      exact hv hother
    rcases hcases with rfl | ⟨b, rfl⟩
    · rfl
    · rw [equalsTarget_bool, equalsTarget_bool, h.truth]

/-! ### Checks and validations -/

/-- What is decided for one of two targets is decided for the other, and so is its opposite. -/
theorem apply_congr (make : Constructors) (hs : Text.number? s = some p) (h : SameTarget s s')
    (hop : op ∈ Operator.comparing) (ht : t ∈ numericTypes) (hnone : t = none → v = .null) :
    ∃ r r', op.apply make v (some s) t = Eval.ofExcept r ∧ op.apply make v (some s') t = Eval.ofExcept r' ∧
      r.toOption = r'.toOption := by
  have hequals := equalsTarget_congr make hs h ht hnone
  have horder := orderTarget_congr hs (h.number ▸ hs) v
  simp only [Operator.comparing, List.mem_cons, List.not_mem_nil, or_false] at hop
  rcases hop with rfl | rfl | rfl | rfl | rfl | rfl
  · exact ⟨_, _, rfl, rfl, hequals⟩
  · have hnot (r : Except Fault Bool) : (r.map (!·)).toOption = r.toOption.map (!·) := by cases r <;> rfl
    exact ⟨_, _, rfl, rfl, by rw [hnot, hnot, hequals]⟩
  all_goals
    refine ⟨_, _, rfl, rfl, ?_⟩
    rw [horder]

theorem check_congr (make : Constructors) (hs : Text.number? s = some p) (h : SameTarget s s')
    (hspelling : ∃ op ∈ Operator.comparing, Operator.ofSpelling? spelling = some op) (ht : t ∈ numericTypes)
    (hnone : t = none → v = .null) (cs : Cursors) :
    Checked.outcome ((check make v spelling (some s) t).run cs) =
      Checked.outcome ((check make v spelling (some s') t).run cs) := by
  obtain ⟨op, hop, hspelling⟩ := hspelling
  have hcompares : op.key ∉ Operator.nullTests := by
    have hall : ∀ op ∈ Operator.comparing, op.key ∉ Operator.nullTests := by decide
    exact hall op hop
  obtain ⟨r, r', happly, happly', hdecides⟩ := apply_congr make hs h hop ht hnone
  rw [check_run make (some s) t cs hspelling hcompares, check_run make (some s') t cs hspelling hcompares, happly,
    happly', Eval.run_ofExcept, Eval.run_ofExcept]
  rcases v.display with f | shown
  · rfl
  · rcases r with f | b <;> rcases r' with f' | b'
    · rfl
    · cases hdecides
    · cases hdecides
    · cases hdecides
      rfl

/-- Without a declared type it is the type of the value that a target is read as, so only null goes without a type. -/
theorem Step.eq_null_of_comparisonType (h : Step.comparisonType flow v name = .ok none) : v = .null := by
  rw [comparisonType] at h
  rcases hdeclared : flow.declaredType? name with f | _ | declared
  · rw [hdeclared] at h
    cases h
  · rw [hdeclared] at h
    change Except.ok (if v.isNull then none else some v.typeRef) = .ok none at h
    cases v with
    | atom a =>
      cases a with
      | null => rfl
      | _ => cases h
    | _ => cases h
  · rw [hdeclared] at h
    cases h

/-- A validation depends on its target no more than the check of the field that it names does. -/
theorem Step.outcome_congr (make : Constructors) (step : Step) (flow : Value) (cs : Cursors)
    (h : ∀ v t, flow.field? (step.targetProperty.getD "") = .ok (some v) →
      Step.comparisonType flow v (step.targetProperty.getD "") = .ok t →
      Checked.outcome ((check make v step.operator (some s) t).run cs) =
        Checked.outcome ((check make v step.operator (some s') t).run cs)) :
    (step.withTarget s).outcome make flow cs = (step.withTarget s').outcome make flow cs := by
  have hsame {r : Except Fault Judgement × Cursors} (hr : ∀ s, ((step.withTarget s).judge make flow).run cs = r) :
      (step.withTarget s).outcome make flow cs = (step.withTarget s').outcome make flow cs := by
    rw [outcome, outcome, hr, hr]
  rcases hnull : flow.isNull with _ | _
  · rcases hfield : flow.field? (step.targetProperty.getD "") with f | _ | v
    · refine hsame (r := (.error f, cs)) fun s => ?_
      unfold judge withTarget
      rw [hnull, if_neg Bool.false_ne_true, hfield, Eval.run_bind_fault (Eval.run_ofExcept _ cs)]
    · refine hsame (r := (.ok ⟨false, some (.noProperty (step.targetProperty.getD "") flow.typeName)⟩, cs)) fun s => ?_
      unfold judge withTarget
      rw [hnull, if_neg Bool.false_ne_true, hfield, Eval.run_bind_ok (Eval.run_ofExcept _ cs)]
      rfl
    · rcases htype : comparisonType flow v (step.targetProperty.getD "") with f | t
      · refine hsame (r := (.error f, cs)) fun s => ?_
        unfold judge withTarget
        rw [hnull, if_neg Bool.false_ne_true, hfield, Eval.run_bind_ok (Eval.run_ofExcept _ cs)]
        dsimp only
        rw [htype, Eval.run_bind_fault (Eval.run_ofExcept _ cs)]
      · have hfound (s : String) := outcome_field (s := step.withTarget s) hnull hfield htype make cs
        rw [hfound, hfound]
        exact h v t hfield htype
  · refine hsame (r := (.ok ⟨false, some (.noFlow (step.targetProperty.getD ""))⟩, cs)) fun s => ?_
    unfold judge withTarget
    rw [hnull, if_pos rfl]
    rfl

theorem SameTarget.outcome {step : Step} (h : SameTarget s s') (hs : Text.number? s = some p)
    (hstep : step.ComparesNumbers flow) (make : Constructors) (cs : Cursors) :
    (step.withTarget s).outcome make flow cs = (step.withTarget s').outcome make flow cs := by
  refine Step.outcome_congr make step flow cs fun v t hfield htype => ?_
  refine check_congr make hs h hstep.operator (hstep.numeric v t hfield htype) ?_ cs
  rintro rfl
  exact Step.eq_null_of_comparisonType htype

/-! ### Fields that tell targets apart -/

/-- A validation of the field `v` for equality. -/
def equality : Step :=
  { kind := .validation, mode := .simple, targetProperty := some "v", operator := some "equals" }

/-- A field that has the type of a decimal, and an integer field that holds a truth value. -/
def decimalField (x : Decimal) : Value := .dict none [(.text "v", .decimal x)]
def boolField (b : Bool) : Value := .object none ⟨"Counted", .record, [("v", .type .int)]⟩ [("v", .bool b)] [] []

theorem equality_outcome (hshown : ∃ shown, v.display = .ok shown) (hnull : flow.isNull = false)
    (hfield : flow.field? "v" = .ok (some v)) (htype : Step.comparisonType flow v "v" = .ok t) (make : Constructors)
    (s : String) (cs : Cursors) : (equality.withTarget s).outcome make flow cs =
      (.ok ((Operator.equalsTarget make v (some s) t).toOption.getD false), cs) := by
  obtain ⟨shown, hshown⟩ := hshown
  rw [Step.outcome_found (s := equality.withTarget s) rfl hnull hfield htype make cs]
  show Checked.outcome ((check make v (some "equals") (some s) t).run cs) = _
  have hspelling : Operator.ofSpelling? "equals" = some .equals := by decide
  rw [check_run make (some s) t cs hspelling (by decide), hshown, Operator.apply, Eval.run_ofExcept]
  rcases Operator.equalsTarget make v (some s) t with f | b <;> rfl

theorem field_decimalField (x : Decimal) : (decimalField x).field? "v" = .ok (some (.decimal x)) := rfl

theorem field_boolField (b : Bool) : (boolField b).field? "v" = .ok (some (.bool b)) := rfl

/-- A decimal field equals the targets that denote its number. -/
theorem equality_decimalField (hx : x.value? = some p) (make : Constructors) (s : String) :
    (equality.withTarget s).outcome make (decimalField x) [] = (.ok true, []) ↔ Text.number? s = some p := by
  have htype : Step.comparisonType (decimalField x) (.decimal x) "v" = .ok (some .decimal) := rfl
  have hread : (Value.decimal x).ReadByType := ⟨by rintro ⟨⟩, by rintro b ⟨⟩⟩
  rw [equality_outcome ⟨_, rfl⟩ rfl (field_decimalField x) htype,
    equalsTarget_numeric make hread (by simp [numericTypes]) (by rintro ⟨⟩)]
  rcases toDecimal_text s with ⟨y, hread, hy⟩ | ⟨hread, f, hf⟩
  · have hequals := Decimal.equals_iff (y := y) hx
    rw [hy, Text.number?, hread, Option.bind_some, ← hequals]
    show (Except.ok ((Fault.ofDecimal (x.equals y)).toOption.getD false), ([] : Cursors)) = (.ok true, []) ↔ _
    rcases x.equals y with f | _ | _ <;> simp [Fault.ofDecimal, Except.toOption]
  · rw [hf, Text.number?, hread]
    exact iff_of_false (by rintro ⟨⟩) (by rintro ⟨⟩)

/-- A truth value in an integer field equals the targets that are words for it. -/
theorem equality_boolField (b : Bool) (make : Constructors) (s : String) :
    (equality.withTarget s).outcome make (boolField b) [] = (.ok true, []) ↔ (readBool s).toOption = some b := by
  have htype : Step.comparisonType (boolField b) (.bool b) "v" = .ok (some .int) := rfl
  rw [equality_outcome ⟨_, rfl⟩ rfl (field_boolField b) htype, equalsTarget_bool]
  rcases readBool s with f | c
  · exact iff_of_false (by rintro ⟨⟩) (by rintro ⟨⟩)
  · cases b <;> cases c <;> simp [Except.toOption]

theorem equality_comparesNumbers (hnumeric : ∀ v t, flow.field? "v" = .ok (some v) →
    Step.comparisonType flow v "v" = .ok t → t ∈ numericTypes) : equality.ComparesNumbers flow :=
  ⟨rfl, ⟨.equals, by decide, by decide⟩, hnumeric⟩

theorem comparesNumbers_decimalField (x : Decimal) : equality.ComparesNumbers (decimalField x) := by
  refine equality_comparesNumbers fun v t hfield htype => ?_
  cases (field_decimalField x).symm.trans hfield
  have hdecimal : Step.comparisonType (decimalField x) (.decimal x) "v" = .ok (some .decimal) := rfl
  cases hdecimal.symm.trans htype
  simp [numericTypes]

theorem comparesNumbers_boolField (b : Bool) : equality.ComparesNumbers (boolField b) := by
  refine equality_comparesNumbers fun v t _ htype => ?_
  have hint : Step.comparisonType (boolField b) v "v" = .ok (some .int) := rfl
  cases hint.symm.trans htype
  simp [numericTypes]

/-- Two targets, of which the one denotes a number, that no such field tells apart. -/
theorem sameTarget_of_equality (hs : Text.number? s = some p)
    (h : ∀ flow, equality.ComparesNumbers flow →
      (equality.withTarget s).outcome default flow [] = (equality.withTarget s').outcome default flow []) :
    SameTarget s s' := by
  constructor
  · obtain ⟨x, -, hvalue⟩ := exists_toDecimal_text hs
    have hsame := h (decimalField x) (comparesNumbers_decimalField x)
    rw [hs, (equality_decimalField hvalue default s').1]
    exact hsame.symm.trans ((equality_decimalField hvalue default s).2 hs)
  · refine Option.ext fun b => ?_
    have hsame := h (boolField b) (comparesNumbers_boolField b)
    rw [← equality_boolField b default s, ← equality_boolField b default s', hsame]

end FlowRules
