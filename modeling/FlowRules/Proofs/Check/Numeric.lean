import FlowRules.Proofs.Check.Agreement
import FlowRules.Proofs.Number.Order

/-!
# Numeric checks are coherent

The checks of a number against a text by `equals`, the four orders and `between` ask for one and the same thing: how
the number stands to the number that the text denotes, if it denotes one (`standing?`).  So what they answer fits
together (`numeric_checks_coherent`).
-/

namespace FlowRules

/-- The values that checks compare as numbers: integers that are not too long to be written, all decimals and all
floating-point numbers, so also what is not a number. -/
inductive Value.IsNumeric : Value → Prop
  | int {n : Int} (h : Decimal.digitCount n.natAbs ≤ Numeral.maxDigits) : IsNumeric (.int n)
  | decimal (d : Decimal) : IsNumeric (.decimal d)
  | float (x : Binary64) : IsNumeric (.float x)

/-- The declared types with which `equals` compares numbers. -/
def numericTypes : List (Option TypeRef) := [none, some .int, some .float, some .decimal]

/-- A text that denotes a number, which may be infinite. -/
def Text.IsNumeral (s : String) : Prop := ∃ y, Decimal.read? s = some y ∧ y.isNaN = false

/-- A check with this operator, however it is spelled, comes to this answer. -/
def Operator.Answers (op : Operator) (make : Constructors) (v : Value) (s : String) (declared : Option TypeRef)
    (passed : Bool) : Prop :=
  ∀ (spelling : Option String) (cs : Cursors), Operator.ofSpelling? spelling = some op →
    ∃ note, (check make v spelling (some s) declared).run cs = (.ok ⟨passed, note⟩, cs)

variable {make : Constructors} {v : Value} {s low high : String} {declared : Option TypeRef} {x y : Decimal} {o : Ordering}

/-! ### The two sides -/

theorem Value.IsNumeric.display (hv : v.IsNumeric) : ∃ shown, v.display = .ok shown := by
  cases hv with
  | int hn => exact (IsNumber.int hn).display
  | decimal | float => exact ⟨_, rfl⟩

/-- A numeric value is taken for a decimal, which is a number if the value is one. -/
theorem Value.IsNumeric.toDecimal (hv : v.IsNumeric) :
    ∃ x, FlowRules.toDecimal v = .ok x ∧ (x.isNaN = false ↔ v.IsNumber) := by
  have hnumber (hv : v.IsNumber) : ∃ x, FlowRules.toDecimal v = .ok x ∧ (x.isNaN = false ↔ v.IsNumber) := by
    obtain ⟨x, hx⟩ := hv.countsAs
    exact ⟨x, hx.2.2, iff_of_true hx.1 hv⟩
  cases hv with
  | int hn => exact hnumber (.int hn)
  | decimal d =>
    refine ⟨d, rfl, fun hd => .decimal hd, fun h => ?_⟩
    cases h
    assumption
  | float z =>
    rcases hz : z.isNaN with _ | _
    · exact hnumber (.float hz)
    · have htext : z.toText = "nan" := by
        rw [Binary64.toText, Binary64.toChars, hz]
        rfl
      have hread : Decimal.read? z.toText = some (.nan false false 0) := by
        rw [htext]
        rfl
      have hnan : Decimal.isNaN (.nan false false 0) ≠ false := by decide
      have hdecimal : FlowRules.toDecimal (.float z) = .ok (.nan false false 0) :=
        toDecimal_of_text rfl hread (by rintro d ⟨⟩) (by rintro b ⟨⟩)
      refine ⟨_, hdecimal, iff_of_false hnan fun h => ?_⟩
      cases h with
      | float h =>
        rw [hz] at h
        cases h

/-- A text is taken for the decimal that it denotes, white space around it ignored, and for no number if it denotes
none. -/
theorem toDecimal_text (s : String) :
    (∃ y, Decimal.read? s = some y ∧ toDecimal (.text s) = .ok y) ∨
      (Decimal.read? s = none ∧ ∃ f, toDecimal (.text s) = .error f) := by
  rcases hs : Decimal.read? s with _ | y
  · refine .inr ⟨rfl, .value (.notNumber (Text.quoted s)), ?_⟩
    have hplain : (Value.text s).plainText = .ok s := rfl
    have hdisplay : (Value.text s).display = .ok (Text.quoted s) := rfl
    rw [toDecimal]
    · simp only [hplain, bind, Except.bind, Decimal.read_trim, hs, hdisplay]
    · rintro d ⟨⟩
    · rintro b ⟨⟩
  · exact .inl ⟨y, rfl, toDecimal_of_text rfl hs (by rintro d ⟨⟩) (by rintro b ⟨⟩)⟩

/-- How a value stands to the number that a text denotes, if both are numbers. -/
def standing? (v : Value) (s : String) : Option Ordering :=
  match toDecimal v, Decimal.read? s with
  | .ok x, some y => Decimal.compare? x y
  | _, _ => none

theorem standing?_eq_none (hv : v.IsNumeric) : standing? v s = none ↔ ¬(v.IsNumber ∧ Text.IsNumeral s) := by
  obtain ⟨x, hx, hnumber⟩ := hv.toDecimal
  rcases hs : Decimal.read? s with _ | y
  · simp [standing?, hx, hs, Text.IsNumeral]
  · have hnone : Decimal.compare? x y = none ↔ ¬(x.isNaN = false ∧ y.isNaN = false) := by
      rw [Decimal.compare?_eq, ← Bool.not_eq_true, ← Bool.not_eq_true, ← Decimal.value?_eq_none,
        ← Decimal.value?_eq_none]
      rcases x.value? with _ | p <;> rcases y.value? with _ | q <;> simp
    simp [standing?, hx, hs, hnone, ← hnumber, Text.IsNumeral]

/-! ### What the operators say -/

/-- An operator that decides on the standing, or fails and so is answered by no, answers this. -/
theorem answers_of_apply {op : Operator} {decide : Except Fault Bool} {passed : Bool}
    (hdisplay : ∃ shown, v.display = .ok shown) (hcompares : op.key ∉ Operator.nullTests)
    (happly : op.apply make v (some s) declared = Eval.ofExcept decide)
    (hdecide : decide.toOption.getD false = passed) : op.Answers make v s declared passed := by
  intro spelling cs hspelling
  obtain ⟨shown, hshown⟩ := hdisplay
  rw [check_run make (some s) declared cs hspelling hcompares, hshown, happly, Eval.run_ofExcept]
  subst hdecide
  cases decide with
  | ok b => exact ⟨none, rfl⟩
  | error f => exact ⟨_, rfl⟩

theorem Operator.ofSpelling?_key (op : Operator) : Operator.ofSpelling? (some op.key) = some op := by
  cases op <;> decide

/-- An operator has one answer. -/
theorem Operator.Answers.unique {op : Operator} {passed passed' : Bool} (h : op.Answers make v s declared passed)
    (h' : op.Answers make v s declared passed') : passed = passed' := by
  obtain ⟨note, hrun⟩ := h (some op.key) [] (Operator.ofSpelling?_key op)
  obtain ⟨note', hrun'⟩ := h' (some op.key) [] (Operator.ofSpelling?_key op)
  rw [hrun] at hrun'
  cases hrun'
  rfl

/-- Only a value that can be shown has an answer. -/
theorem Operator.Answers.not_oversized {op : Operator} {passed : Bool} (hcompares : op.key ∉ Operator.nullTests)
    (h : op.Answers make v s declared passed) : ¬v.Oversized := by
  intro hv
  have hkey : op.key = Operator.normalize (some op.key) := Operator.key_of_ofSpelling? (Operator.ofSpelling?_key op)
  have hkeys : Operator.normalize (some op.key) ∈ Operator.keys := by
    rw [← hkey]
    cases op <;> decide
  obtain ⟨note, hrun⟩ := h (some op.key) [] (Operator.ofSpelling?_key op)
  rw [check_of_oversized make (some s) declared [] hv hkeys (hkey ▸ hcompares)] at hrun
  cases hrun

/-- The order that a check asks for is the standing. -/
theorem orderTarget_toOption (hv : v.IsNumeric) (s : String) :
    (Operator.orderTarget v (some s)).toOption = standing? v s := by
  obtain ⟨x, hx, -⟩ := hv.toDecimal
  rw [Operator.orderTarget, targetDecimal, hx]
  rcases toDecimal_text s with ⟨y, hs, hy⟩ | ⟨hs, f, hf⟩
  · simp only [standing?, hx, hs, hy]
    show (Fault.ofDecimal (x.order y)).toOption = _
    rw [Decimal.order]
    rcases Decimal.compare? x y with _ | o <;> rfl
  · simp only [standing?, hx, hs, hf]
    rfl

theorem order_answers {op : Operator} {c : Comparison} (hv : v.IsNumeric)
    (hop : (op, c) ∈ [(Operator.lessThan, Comparison.lt), (.lessThanOrEqual, .le), (.greaterThan, .gt),
      (.greaterThanOrEqual, .ge)]) :
    op.Answers make v s declared ((standing? v s).any c.holds) := by
  have hdecide : (((Operator.orderTarget v (some s)).map c.holds).toOption.getD false) = (standing? v s).any c.holds := by
    rw [← orderTarget_toOption hv s]
    rcases Operator.orderTarget v (some s) with f | o <;> rfl
  simp only [List.mem_cons, Prod.mk.injEq, List.not_mem_nil, or_false] at hop
  rcases hop with ⟨rfl, rfl⟩ | ⟨rfl, rfl⟩ | ⟨rfl, rfl⟩ | ⟨rfl, rfl⟩ <;>
    exact answers_of_apply hv.display (by decide) rfl hdecide

/-- Only numbers stand in an order, and a signaling decimal is none. -/
theorem compare?_of_signaling (h : (x.isSignaling || y.isSignaling) = true) : Decimal.compare? x y = none := by
  rcases Bool.or_eq_true_iff.1 h with h | h
  · cases x with
    | nan => rfl
    | finite | infinite => cases h
  · cases y with
    | nan => cases x <;> rfl
    | finite | infinite => cases h

theorem equals_answers (hv : v.IsNumeric) (hdeclared : declared ∈ numericTypes) :
    Operator.equals.Answers make v s declared (standing? v s == some .eq) := by
  obtain ⟨x, hx, -⟩ := hv.toDecimal
  have hdecimals : Operator.equalsTarget make v (some s) declared =
      (toDecimal v >>= fun x => toDecimal (.text s) >>= fun y => Fault.ofDecimal (x.equals y)) := by
    simp only [numericTypes, List.mem_cons, List.not_mem_nil, or_false] at hdeclared
    rcases hdeclared with rfl | rfl | rfl | rfl <;> cases hv <;> rfl
  refine answers_of_apply hv.display (by decide) rfl ?_
  rw [hdecimals, hx]
  rcases toDecimal_text s with ⟨y, hs, hy⟩ | ⟨hs, f, hf⟩
  · simp only [standing?, hx, hs, hy]
    show (Fault.ofDecimal (x.equals y)).toOption.getD false = _
    rcases hsignaling : x.isSignaling || y.isSignaling with _ | _
    · rw [Decimal.equals, hsignaling]
      rfl
    · rw [Decimal.equals, hsignaling, compare?_of_signaling hsignaling]
      rfl
  · simp only [standing?, hx, hs, hf]
    rfl

/-- A value is between two bounds when it is at least the one and at most the other: a bound that is no number lets
nothing in, and it does not matter that the upper bound is read before the lower one is compared. -/
theorem between_answers (hv : v.IsNumeric) (hlow : ',' ∉ low.toList) (hhigh : ',' ∉ high.toList) :
    Operator.between.Answers make v (low ++ "," ++ high) declared
      ((standing? v low).any Comparison.ge.holds && (standing? v high).any Comparison.le.holds) := by
  obtain ⟨x, hx, -⟩ := hv.toDecimal
  have hbounds : (Text.split ',' (low ++ "," ++ high)).map Text.trim = [Text.trim low, Text.trim high] := by
    have hchars : (low ++ "," ++ high).toList = low.toList ++ ',' :: high.toList := by simp
    rw [Text.split, hchars, Text.splitChars_append hlow, Text.splitChars_of_notMem hhigh]
    simp
  have hbetween : Operator.betweenTarget v (some (low ++ "," ++ high)) =
      (toDecimal (.text (Text.trim low)) >>= fun l => toDecimal (.text (Text.trim high)) >>= fun h =>
        toDecimal v >>= fun x => Fault.ofDecimal (l.order x) >>= fun fromLow =>
          if fromLow = .gt then .ok false
          else Fault.ofDecimal (x.order h) >>= fun toHigh => .ok (toHigh != .gt)) := by
    rw [Operator.betweenTarget, Option.getD_some, hbounds]
  refine answers_of_apply hv.display (by decide) rfl ?_
  rw [hbetween, hx]
  rcases toDecimal_text (Text.trim low) with ⟨l, hl, hreadLow⟩ | ⟨hl, f, hf⟩
  · rcases toDecimal_text (Text.trim high) with ⟨h, hh, hreadHigh⟩ | ⟨hh, f, hf⟩
    · rw [Decimal.read_trim] at hl hh
      simp only [standing?, hx, hl, hh, hreadLow, hreadHigh]
      rw [Decimal.compare?_swap l x]
      show (Fault.ofDecimal (l.order x) >>= fun fromLow => if fromLow = .gt then Except.ok false
        else Fault.ofDecimal (x.order h) >>= fun toHigh => .ok (toHigh != .gt)).toOption.getD false = _
      rw [Decimal.order, Decimal.order]
      rcases Decimal.compare? l x with _ | _ | _ | _ <;> rcases Decimal.compare? x h with _ | _ | _ | _ <;> rfl
    · rw [Decimal.read_trim] at hh
      have hnone : standing? v high = none := by simp only [standing?, hx, hh]
      rw [hnone, Option.any_none, Bool.and_false, hreadLow, hf]
      rfl
  · rw [Decimal.read_trim] at hl
    have hnone : standing? v low = none := by simp only [standing?, hx, hl]
    rw [hnone, Option.any_none, Bool.false_and, hf]
    rfl

/-! ### Coherence -/

/-- Of a number and a text that denotes one, exactly one of "less", "equal" and "greater" is answered by yes, and "at
most" and "at least" mean what they say; if one of the two is no number, all five are answered by no.  A value is
between two bounds exactly when it is at least the one and at most the other. -/
theorem numeric_checks_coherent (make : Constructors) (s : String) (hv : v.IsNumeric)
    (hdeclared : declared ∈ numericTypes) :
    (∃ less same more atMost atLeast : Bool,
      Operator.lessThan.Answers make v s declared less ∧ Operator.equals.Answers make v s declared same ∧
      Operator.greaterThan.Answers make v s declared more ∧
      Operator.lessThanOrEqual.Answers make v s declared atMost ∧
      Operator.greaterThanOrEqual.Answers make v s declared atLeast ∧
      (v.IsNumber ∧ Text.IsNumeral s →
        [less, same, more].count true = 1 ∧ atMost = (less || same) ∧ atLeast = (more || same)) ∧
      (¬(v.IsNumber ∧ Text.IsNumeral s) → [less, same, more, atMost, atLeast].count true = 0)) ∧
    ∀ low high : String, ',' ∉ low.toList → ',' ∉ high.toList → ∃ fromLow toHigh : Bool,
      Operator.greaterThanOrEqual.Answers make v low declared fromLow ∧
      Operator.lessThanOrEqual.Answers make v high declared toHigh ∧
      Operator.between.Answers make v (low ++ "," ++ high) declared (fromLow && toHigh) := by
  constructor
  · refine ⟨_, _, _, _, _, order_answers hv (c := .lt) (by simp), equals_answers hv hdeclared,
      order_answers hv (c := .gt) (by simp), order_answers hv (c := .le) (by simp),
      order_answers hv (c := .ge) (by simp), fun hnumbers => ?_, fun hnumbers => ?_⟩
    · rcases ho : standing? v s with _ | o
      · exact absurd hnumbers ((standing?_eq_none hv).1 ho)
      · cases o <;> decide
    · rw [(standing?_eq_none hv).2 hnumbers]
      rfl
  · intro low high hlow hhigh
    exact ⟨_, _, order_answers hv (by simp), order_answers hv (by simp), between_answers hv hlow hhigh⟩

/-- The decimal `12` and the text `" 1_2 "`, and bounds of which only one is a number. -/
theorem numeric_checks_coherent_bounds :
    (Value.decimal (.finite false 12 0)).IsNumeric ∧ some TypeRef.float ∈ numericTypes ∧
      ((Value.decimal (.finite false 12 0)).IsNumber ∧ Text.IsNumeral " 1_2 ") ∧
      ',' ∉ "1".toList ∧ ',' ∉ "".toList ∧
      ∃ fromLow toHigh : Bool,
        Operator.greaterThanOrEqual.Answers default (.decimal (.finite false 12 0)) "1" (some .float) fromLow ∧
        Operator.lessThanOrEqual.Answers default (.decimal (.finite false 12 0)) "" (some .float) toHigh ∧
        Operator.between.Answers default (.decimal (.finite false 12 0)) "1," (some .float) (fromLow && toHigh) := by
  have hv : (Value.decimal (.finite false 12 0)).IsNumeric := .decimal _
  have hdeclared : some TypeRef.float ∈ numericTypes := by simp [numericTypes]
  have hnumeral : Text.IsNumeral " 1_2 " := ⟨.finite false 12 0, rfl, rfl⟩
  have hlow : ',' ∉ "1".toList := by decide
  have hhigh : ',' ∉ "".toList := by decide
  exact ⟨hv, hdeclared, ⟨.decimal rfl, hnumeral⟩, hlow, hhigh,
    (numeric_checks_coherent default " 1_2 " hv hdeclared).2 "1" "" hlow hhigh⟩

end FlowRules
