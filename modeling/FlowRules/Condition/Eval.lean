import FlowRules.Condition.Expr
import FlowRules.Text.LetterCase
import FlowRules.Value.Display
import FlowRules.Value.Field
import FlowRules.Value.Source

/-!
# Evaluating conditions

A missing field or item is null, and null stands in no order.  Numbers are compared by their decimal texts, so that
`0.1` equals the decimal `0.1`; a member of an enumeration equals the text of its name or value.
-/

namespace FlowRules

/-- What a condition is evaluated against. -/
structure Environment where
  flow : Value
  state : Value
  executionId : String

namespace Expr

/-! ### Numbers in conditions -/

/-- The decimal that an exact number or a floating-point number is compared as: the one its text denotes. -/
def decimal? (v : Value) : Except Fault (Option Decimal) :=
  match v with
  | .bool _ => .ok none
  | .decimal d => .ok (some d)
  | .int _ | .float _ => do
    let s ← v.plainText
    .ok (Decimal.read? s)
  | .member e _ _ =>
    if e.mixin = .int then do
      let s ← v.plainText
      .ok (Decimal.read? s)
    else .ok none
  | _ => .ok none

/-- Both values as decimals, if both are numbers. -/
def decimals? (v w : Value) : Except Fault (Option (Decimal × Decimal)) := do
  let l ← decimal? v
  let r ← decimal? w
  match l, r with
  | some x, some y => .ok (some (x, y))
  | _, _ => .ok none

/-! ### Comparisons -/

/-- Whether a text is the name or the value of a member. -/
def names (name : String) (value : Atom) (s : Atom) : Bool := s == .text name || s == value

/-- The text a value is: a plain one, or a member that is also a text. -/
def textAtom? (v : Value) : Option Atom :=
  match v.atom? with
  | some (.text s) => some (.text s)
  | _ => none

/-- Equality of values in conditions. -/
def valuesEqual (v w : Value) : Except Fault Bool := do
  match ← decimals? v w with
  | some (x, y) => Fault.ofDecimal (x.equals y)
  | none =>
    match v, textAtom? w with
    | .member _ name a, some t => .ok (names name a t)
    | _, _ =>
      match w, textAtom? v with
      | .member _ name a, some t => .ok (names name a t)
      | _, _ => v.equals w

/-- Order of values in conditions. -/
def valuesOrdered (op : Comparison) (v w : Value) : Except Fault Bool :=
  if v.isNull || w.isNull then .ok false
  else do
    match ← decimals? v w with
    | some (x, y) => do
      let o ← Fault.ofDecimal (x.order y)
      .ok (op.holds o)
    | none => v.ordered op w

/-- Bytes as numbers. -/
def byteItems (bs : List UInt8) : List Value := bs.map fun b => .int b.toNat

/-- Whether a value is in a container: a text in a text, a key in a dictionary, an item in anything else. -/
def contains (container item : Value) : Eval Bool :=
  match container with
  | .null => pure false
  | .dict _ entries => do
    let found ← Eval.ofExcept (Value.lookup item entries)
    return found.isSome
  | _ =>
    match container.atom? with
    | some (.text s) => do
      let t ← Eval.ofExcept item.textForm
      return Text.contains s t
    | a =>
      match (a.bind Atom.bytes?).map byteItems <|> container.items? with
      | some items => Eval.anyOf (valuesEqual item) container items
      | none => throw (.type (.notIterable container.fullTypeName))

/-! ### Fields and items -/

/-- A field of a value; a missing one is null. -/
def fieldOf (v : Value) (name : String) : Except Fault Value := do
  let w ← v.field? name
  .ok (w.getD .null)

/-- The items that a condition finds by their places: those of a list or tuple, and bytes that can be changed. -/
def placedItems? : Value → Option (List Value)
  | .byteArray bs => some (byteItems bs)
  | v => v.sequenceItems?

/-- The integer that a value can stand for as a place in a sequence. -/
def place? (v : Value) : Option Int :=
  match v.atom? with
  | some (.int n) => some n
  | some (.bool b) => some (if b then 1 else 0)
  | _ => none

/-- An item of a value: the entry at a key, the item at a place, or a field; a missing one is null. -/
def itemOf (v key : Value) : Except Fault Value :=
  match v with
  | .null => .ok .null
  | .dict _ entries => do
    let w ← Value.lookup key entries
    .ok (w.getD .null)
  | _ =>
    match placedItems? v, place? key with
    | some items, some n => .ok ((Value.itemAt? items n).getD .null)
    | _, _ => do
      let name ← key.textForm
      fieldOf v name

/-! ### Operations -/

/-- Apply an operation to its arguments. -/
def apply (f : Operation) (args : List Value) : Except Fault Value :=
  match args with
  | [] => .error (.type (.missingArgument f.reportName "value"))
  | [v] =>
    match f with
    | .length =>
      if v.isNull then .ok (.int 0)
      else
        match v.size? with
        | some n => .ok (.int n)
        | none => .error (.type (.noLength v.fullTypeName))
    | .lower => do
      let s ← v.textForm
      .ok (.text (Text.lower s))
    | .upper => do
      let s ← v.textForm
      .ok (.text (Text.upper s))
    | .text => do
      let s ← v.textForm
      .ok (.text s)
  | _ => .error (.type (.extraArguments f.reportName 1 args.length))

/-- The number with the opposite sign. -/
def negated (v : Value) : Except Fault Value :=
  match v.atom? with
  | some (.int n) => .ok (.int (-n))
  | some (.bool b) => .ok (.int (if b then -1 else 0))
  | some (.float x) => .ok (.float x.negate)
  | some (.decimal d) => do
    let e ← Fault.ofDecimal d.negate
    .ok (.decimal e)
  | some (.span n) =>
    if -n < Atom.leastSpan then
      .error (.raised "OverflowError" "days=-1000000000; must have magnitude <= 999999999")
    else .ok (.span (-n))
  | _ => .error (.type (.notNegatable v.fullTypeName))

/-! ### Expressions -/

def rootValue (env : Environment) : Root → Value
  | .flow => env.flow
  | .state => env.state
  | .executionId => .text env.executionId

/-- Whether two values stand in a relation. -/
def relate (r : Relation) (v w : Value) : Eval Bool :=
  match r with
  | .equal => Eval.ofExcept (valuesEqual v w)
  | .different => do
    let b ← Eval.ofExcept (valuesEqual v w)
    return !b
  | .ordered op => Eval.ofExcept (valuesOrdered op v w)
  | .within => contains w v
  | .outside => do
    let b ← contains w v
    return !b

mutual

/-- The value of an expression.  The operands of a connective are evaluated in order up to the first that decides. -/
def eval (env : Environment) : Expr → Eval Value
  | .literal a => pure (.atom a)
  | .root r => pure (rootValue env r)
  | .attribute target name => do
    let v ← eval env target
    Eval.ofExcept (fieldOf v name)
  | .index target key => do
    let v ← eval env target
    let k ← eval env key
    Eval.ofExcept (itemOf v k)
  | .call f args => do
    let vs ← evalList env args
    Eval.ofExcept (apply f vs)
  | .negate operand => do
    let v ← eval env operand
    Eval.ofExcept (negated v)
  | .not operand => do
    let v ← eval env operand
    return .bool (!v.truth)
  | .connective .and parts => do
    let b ← evalAll env parts
    return .bool b
  | .connective .or parts => do
    let b ← evalAny env parts
    return .bool b
  | .compare r left right => do
    if r.containerFirst then
      let w ← eval env right
      let v ← eval env left
      let b ← relate r v w
      return .bool b
    else
      let v ← eval env left
      let w ← eval env right
      let b ← relate r v w
      return .bool b
termination_by structural e => e

def evalList (env : Environment) : List Expr → Eval (List Value)
  | [] => pure []
  | e :: es => do
    let v ← eval env e
    let vs ← evalList env es
    return v :: vs
termination_by structural es => es

/-- Whether every part is true. -/
def evalAll (env : Environment) : List Expr → Eval Bool
  | [] => pure true
  | e :: es => do
    let v ← eval env e
    if v.truth then evalAll env es else return false
termination_by structural es => es

/-- Whether some part is true. -/
def evalAny (env : Environment) : List Expr → Eval Bool
  | [] => pure false
  | e :: es => do
    let v ← eval env e
    if v.truth then return true else evalAny env es
termination_by structural es => es

end

end Expr
end FlowRules
