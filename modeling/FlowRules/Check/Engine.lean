import FlowRules.Check.Coerce
import FlowRules.Check.Operator
import FlowRules.Pattern.Search
import FlowRules.Value.Source

/-!
# Checks

A check applies an operator to a value and a target.  An operator that is not known is a fault of the workflow.
Whatever goes wrong in applying a known one, a target that is no number or values that cannot be compared, makes
the check fail, with a note of the reason.
-/

namespace FlowRules

/-- The outcome of a check, with the note that is logged when the operator could not be applied. -/
structure Checked where
  passed : Bool
  note : Option String
  deriving DecidableEq, Repr

namespace Operator

/-- Whether a value equals a target.  Numbers are compared by their decimal texts, and a truth value with one of
the words for truth values. -/
def equalsTarget (make : Constructors) (actual : Value) (target : Option String) (declared : Option TypeRef) :
    Except Fault Bool :=
  match actual, target with
  | .null, _ => .ok target.isNone
  | _, none => .ok false
  | .bool _, some s => do
    let w ← coerceText make s .bool
    actual.equals w
  | _, some s =>
    let t := declared.getD actual.typeRef
    if t = .int ∨ t = .float ∨ t = .decimal then do
      let x ← toDecimal actual
      let y ← toDecimal (.text s)
      Fault.ofDecimal (x.equals y)
    else do
      let w ← coerceText make s t
      actual.equals w

/-- The order of a value and a target, both by their decimal texts. -/
def orderTarget (actual : Value) (target : Option String) : Except Fault Ordering := do
  let x ← toDecimal actual
  let y ← targetDecimal target
  Fault.ofDecimal (x.order y)

/-- Whether a value lies between two bounds, which are included. -/
def betweenTarget (actual : Value) (target : Option String) : Except Fault Bool :=
  match (Text.split ',' (target.getD "")).map Text.trim with
  | [low, high] => do
    let l ← toDecimal (.text low)
    let h ← toDecimal (.text high)
    let x ← toDecimal actual
    let fromLow ← Fault.ofDecimal (l.order x)
    if fromLow = .gt then .ok false
    else do
      let toHigh ← Fault.ofDecimal (x.order h)
      .ok (toHigh != .gt)
  | _ => .error (.value (.badBounds target))

/-- Compare the text form of a value with a target, both in small letters. -/
def onTexts (test : List Char → List Char → Bool) (actual : Value) (target : Option String) : Except Fault Bool := do
  let s ← actual.textForm
  .ok (test (Text.lowerChars (target.getD "").toList) (Text.lowerChars s.toList))

/-- Whether the target, as a pattern, occurs in the text form of a value. -/
def matchesTarget (actual : Value) (target : Option String) : Except Fault Bool := do
  let s ← actual.textForm
  match Pattern.search (target.getD "") s with
  | .ok b => .ok b
  | .error f => .error (.raised "error" f.message)

/-- Whether the text form of an item is the target but for letter case. -/
def listHasTarget (actual : Value) (target : Option String) : Eval Bool :=
  match actual.items? with
  | none => pure false
  | some items =>
    let wanted := Text.lower (target.getD "")
    Eval.anyOf (fun v => do
      let s ← v.textForm
      .ok (Text.lower s == wanted)) actual items

/-- Whether the number of items is the target. -/
def listCountsTarget (actual : Value) (target : Option String) : Eval Bool :=
  if !actual.isCollection then pure false
  else
    match Numeral.read (Text.trim (target.getD "")) with
    | .error f => throw (.value (.numeral f))
    | .ok n => do
      let items ← Eval.allItems? actual
      return decide (((items.getD []).length : Int) = n)

/-- Apply an operator; it may fail. -/
def apply (make : Constructors) (op : Operator) (actual : Value) (target : Option String)
    (declared : Option TypeRef) : Eval Bool :=
  match op with
  | .isNull => pure actual.isNull
  | .isNotNull => pure (!actual.isNull)
  | .equals => Eval.ofExcept (equalsTarget make actual target declared)
  | .notEquals => Eval.ofExcept ((equalsTarget make actual target declared).map (!·))
  | .greaterThan => Eval.ofExcept ((orderTarget actual target).map (· == .gt))
  | .greaterThanOrEqual => Eval.ofExcept ((orderTarget actual target).map (· != .lt))
  | .lessThan => Eval.ofExcept ((orderTarget actual target).map (· == .lt))
  | .lessThanOrEqual => Eval.ofExcept ((orderTarget actual target).map (· != .gt))
  | .between => Eval.ofExcept (betweenTarget actual target)
  | .contains => Eval.ofExcept (onTexts Text.occursIn actual target)
  | .startsWith => Eval.ofExcept (onTexts List.isPrefixOf actual target)
  | .endsWith => Eval.ofExcept (onTexts List.isSuffixOf actual target)
  | .regex => Eval.ofExcept (matchesTarget actual target)
  | .listContains => listHasTarget actual target
  | .listCount => listCountsTarget actual target

/-- The note on an operator that could not be applied. -/
def failureNote (spelling : Option String) (shown : String) (target : Option String) (f : Fault) : String :=
  "Operator '" ++ Text.shownOption spelling ++ "' failed for " ++ shown ++ " against " ++ Text.quotedOption target ++
    ": " ++ f.message

end Operator

/-- Check a value.  Besides an unknown operator, only a value that cannot be written stops a check. -/
def check (make : Constructors) (actual : Value) (spelling target : Option String) (declared : Option TypeRef) :
    Eval Checked :=
  match Operator.ofSpelling? spelling with
  | none => throw (.unsupportedOperator spelling)
  | some .isNull => return ⟨actual.isNull, none⟩
  | some .isNotNull => return ⟨!actual.isNull, none⟩
  | some op => do
    let shown ← Eval.ofExcept actual.display
    tryCatchThe Fault
      (do
        let b ← op.apply make actual target declared
        return ⟨b, none⟩)
      fun f => return ⟨false, some (Operator.failureNote spelling shown target f)⟩

end FlowRules
