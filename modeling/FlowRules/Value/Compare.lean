import FlowRules.Value.Basic

/-!
# Equality, order and truth of values

Numbers of every kind are compared by their exact values.  A member of an enumeration that is also a text or an
integer is compared as that; any other member equals only itself.  Containers are compared part by part, except
that a container is always taken to equal itself.
-/

namespace FlowRules

/-! ### Numbers -/

/-- A number of any kind; truth values count as zero and one. -/
inductive Number where
  | int (n : Int)
  | float (x : Binary64)
  | decimal (d : Decimal)
  deriving DecidableEq, Repr

namespace Number

/-- The exact decimal value. -/
def exact : Number → Decimal
  | int n => Decimal.ofInt n
  | float x => x.exactDecimal
  | decimal d => d

def equals : Number → Number → Except DecimalFault Bool
  | int m, int n => .ok (m == n)
  | int m, float y => .ok (y.compareInt? m == some .eq)
  | float x, int n => .ok (x.compareInt? n == some .eq)
  | float x, float y => .ok (x.compare? y == some .eq)
  | x, y => x.exact.equals y.exact

/-- The order of two numbers.  A floating-point not-a-number has none; to ask for that of a decimal one is an
error. -/
def order : Number → Number → Except DecimalFault (Option Ordering)
  | int m, int n => .ok (some (compare m n))
  | int m, float y => .ok ((y.compareInt? m).map Ordering.swap)
  | float x, int n => .ok (x.compareInt? n)
  | float x, float y => .ok (x.compare? y)
  | x, y => (x.exact.order y.exact).map some

end Number

def Fault.ofDecimal {α : Type} : Except DecimalFault α → Except Fault α
  | .ok a => .ok a
  | .error f => .error (.decimal f)

namespace Atom

def number? : Atom → Option Number
  | .bool b => some (.int (if b then 1 else 0))
  | .int n => some (.int n)
  | .float x => some (.float x)
  | .decimal d => some (.decimal d)
  | _ => none

/-- The bytes of an atom of either kind that has them. -/
def bytes? : Atom → Option (List UInt8)
  | .bytes bs => some bs
  | .byteArray bs => some bs
  | _ => none

def equals (a b : Atom) : Except Fault Bool :=
  match a.number?, b.number? with
  | some m, some n => Fault.ofDecimal (m.equals n)
  | _, _ =>
    match a.bytes?, b.bytes? with
    | some s, some t => .ok (s == t)
    | _, _ =>
      match a, b with
      | .dateTime t, .dateTime u => .ok (t.compare? u == some .eq)
      | _, _ => .ok (a == b)

def truth : Atom → Bool
  | .null => false
  | .bool b => b
  | .int n => n != 0
  | .float x => !x.isZero
  | .decimal d => !d.isZero
  | .text s => !s.isEmpty
  | .bytes bs => !bs.isEmpty
  | .byteArray bs => !bs.isEmpty
  | .date _ => true
  | .dateTime _ => true
  | .span n => n != 0
  | .zone _ => true

end Atom

/-! ### Equality -/

/-- Whether two containers are one and the same. -/
def sameIdentity : Identity → Identity → Bool
  | some i, some j => i == j
  | _, _ => false

/-- The first entry whose key satisfies a test that may fail. -/
def findEntry (test : Value → Except Fault Bool) : List (Value × Value) → Except Fault (Option Value)
  | [] => .ok none
  | (k, v) :: es => do
    if ← test k then .ok (some v) else findEntry test es

def anyItem (test : Value → Except Fault Bool) : List Value → Except Fault Bool
  | [] => .ok false
  | v :: vs => do
    if ← test v then .ok true else anyItem test vs

namespace ClassInfo

/-- The names of the declared fields in order. -/
def fieldNames (c : ClassInfo) : List String := c.declared.map (·.1)

/-- Whether two classes are one and the same. -/
def isSame (c d : ClassInfo) : Bool := c.shape == d.shape && c.name == d.name && c.fieldNames == d.fieldNames

end ClassInfo

/-- Whether the fields with these names, of which one side is given by tests, are equal, name by name. -/
def equalsNamed (tests : List (String × (Value → Except Fault Bool))) (fields : List (String × Value)) :
    List String → Except Fault Bool
  | [] => .ok true
  | name :: names =>
    match tests.lookup name, fields.lookup name with
    | some test, some w => do if ← test w then equalsNamed tests fields names else .ok false
    | none, none => equalsNamed tests fields names
    | _, _ => .ok false

namespace Value

mutual

/-- Whether two values are equal.  It fails when a signaling not-a-number is compared.  Of objects the declared fields
are compared. -/
def equals : Value → Value → Except Fault Bool
  | .atom a, w =>
    match w.atom? with
    | some b => a.equals b
    | none => .ok false
  | .member e name a, w =>
    if e.mixin = .none then
      match w with
      | .member e' name' _ => .ok (e == e' && name == name')
      | _ => .ok false
    else
      match w.atom? with
      | some b => a.equals b
      | none => .ok false
  | .tuple id _ xs, w =>
    match w with
    | .tuple id' _ ys => if sameIdentity id id' then .ok true else equalsList xs ys
    | _ => .ok false
  | .list id xs, w =>
    match w with
    | .list id' ys =>
      if sameIdentity id id' then .ok true
      else if xs.length ≠ ys.length then .ok false
      else equalsList xs ys
    | _ => .ok false
  | .set id xs, w =>
    match w with
    | .set id' ys =>
      if sameIdentity id id' then .ok true
      else if xs.length ≠ ys.length then .ok false
      else equalsWithin xs ys
    | _ => .ok false
  | .dict id es, w =>
    match w with
    | .dict id' es' =>
      if sameIdentity id id' then .ok true
      else if es.length ≠ es'.length then .ok false
      else equalsEntries es es'
    | _ => .ok false
  | .object id c fields _ _, w =>
    match w with
    | .object id' c' fields' _ _ =>
      if sameIdentity id id' then .ok true
      else if c.shape = .plain ∨ c.isSame c' = false then .ok false
      else equalsNamed (fieldTests fields) fields' c.fieldNames
    | _ => .ok false
  | .source id _, w =>
    match w with
    | .source id' _ => .ok (id == id')
    | _ => .ok false
  | .other _, _ => .ok false
termination_by structural v => v

/-- Equality of sequences, place by place. -/
def equalsList : List Value → List Value → Except Fault Bool
  | [], ys => .ok ys.isEmpty
  | x :: xs, ys =>
    match ys with
    | [] => .ok false
    | y :: ys => do if ← equals x y then equalsList xs ys else .ok false
termination_by structural xs => xs

/-- Whether every item of the first list is among those of the second. -/
def equalsWithin : List Value → List Value → Except Fault Bool
  | [], _ => .ok true
  | x :: xs, ys => do
    if ← anyItem (fun y => equals x y) ys then equalsWithin xs ys else .ok false
termination_by structural xs => xs

/-- Whether every entry of the first list has an equal entry in the second. -/
def equalsEntries : List (Value × Value) → List (Value × Value) → Except Fault Bool
  | [], _ => .ok true
  | (k, v) :: es, es' => do
    match ← findEntry (fun k' => equals k k') es' with
    | none => .ok false
    | some v' => if ← equals v v' then equalsEntries es es' else .ok false
termination_by structural es => es

/-- The tests for being equal to the fields of an object. -/
def fieldTests : List (String × Value) → List (String × (Value → Except Fault Bool))
  | [] => []
  | (k, v) :: fs => (k, equals v) :: fieldTests fs
termination_by structural fs => fs

end

/-! ### Keys -/

mutual

/-- Whether a value can be a key; what can change cannot. -/
def checkKey : Value → Except Fault Unit
  | .decimal d => if d.isSignaling then .error (.type .unhashableSignal) else .ok ()
  | .byteArray _ => .error (.type (.unhashable "bytearray"))
  | .tuple _ _ items => checkKeys items
  | .list .. => .error (.type (.unhashable "list"))
  | .set .. => .error (.type (.unhashable "set"))
  | .dict .. => .error (.type (.unhashable "dict"))
  | .object _ c _ _ _ => if c.shape = .plain then .ok () else .error (.type (.unhashable c.name))
  | _ => .ok ()
termination_by structural v => v

def checkKeys : List Value → Except Fault Unit
  | [] => .ok ()
  | v :: vs => do
    checkKey v
    checkKeys vs
termination_by structural vs => vs

end

/-- The value at a key of a list of entries. -/
def lookup (key : Value) (entries : List (Value × Value)) : Except Fault (Option Value) := do
  checkKey key
  findEntry (fun k => equals key k) entries

/-- Put a value under a key, in place of the one under an equal key. -/
def putEntry (key v : Value) : List (Value × Value) → List (Value × Value)
  | [] => [(key, v)]
  | e :: es =>
    match e.1.equals key with
    | .ok true => (e.1, v) :: es
    | _ => e :: putEntry key v es

mutual

/-- Lay a value over another: dictionaries are joined entry by entry, and of anything else the upper stays. -/
def overlaid (base : Value) : Value → Value
  | .dict id entries =>
    match base with
    | .dict _ es => .dict id (overlaidEntries es entries)
    | _ => .dict id entries
  | w => w
termination_by structural w => w

def overlaidEntries (base : List (Value × Value)) : List (Value × Value) → List (Value × Value)
  | [] => base
  | (k, w) :: rest =>
    let joined :=
      match lookup k base with
      | .ok (some v) => overlaid v w
      | _ => w
    overlaidEntries (putEntry k joined base) rest
termination_by structural es => es

end

/-! ### Order -/

end Value

/-- The four ways to ask for an order. -/
inductive Comparison where
  | lt
  | le
  | gt
  | ge
  deriving DecidableEq, Repr

namespace Comparison

def text : Comparison → String
  | lt => "<"
  | le => "<="
  | gt => ">"
  | ge => ">="

def holds : Comparison → Ordering → Bool
  | lt, o => o == .lt
  | le, o => o != .gt
  | gt, o => o == .gt
  | ge, o => o != .lt

end Comparison

/-- The order of texts, by code points. -/
def compareChars : List Char → List Char → Ordering
  | [], [] => .eq
  | [], _ :: _ => .lt
  | _ :: _, [] => .gt
  | c :: cs, d :: ds =>
    match compare c.toNat d.toNat with
    | .eq => compareChars cs ds
    | o => o

def compareBytes : List UInt8 → List UInt8 → Ordering
  | [], [] => .eq
  | [], _ :: _ => .lt
  | _ :: _, [] => .gt
  | c :: cs, d :: ds =>
    match compare c.toNat d.toNat with
    | .eq => compareBytes cs ds
    | o => o

namespace Atom

/-- The order of two atoms, if they are of kinds that have one. -/
def ordered? (op : Comparison) (a b : Atom) : Option (Except Fault Bool) :=
  match a.number?, b.number? with
  | some m, some n =>
    some <| match m.order n with
      | .ok (some o) => .ok (op.holds o)
      | .ok none => .ok false
      | .error f => .error (.decimal f)
  | _, _ =>
    match a, b with
    | .text s, .text t => some (.ok (op.holds (compareChars s.toList t.toList)))
    | .date d, .date e => some (.ok (op.holds (compare d.ordinal e.ordinal)))
    | .dateTime t, .dateTime u =>
      some <| match t.compare? u with
        | some o => .ok (op.holds o)
        | none => .error (.type .mixedOffsets)
    | .span m, .span n => some (.ok (op.holds (compare m n)))
    | .date _, .dateTime _ => some (.error (.type (.notComparable "datetime.datetime" "datetime.date")))
    | .dateTime _, .date _ => some (.error (.type (.notComparable "datetime.datetime" "datetime.date")))
    | a, b =>
      match a.bytes?, b.bytes? with
      | some s, some t => some (.ok (op.holds (compareBytes s t)))
      | _, _ => none

end Atom

namespace Value

/-- Whether the first of two sets is contained in the second. -/
def subset (xs ys : List Value) : Except Fault Bool := equalsWithin xs ys

def setOrdered (op : Comparison) (xs ys : List Value) : Except Fault Bool :=
  match op with
  | .lt => if xs.length < ys.length then subset xs ys else .ok false
  | .le => if xs.length ≤ ys.length then subset xs ys else .ok false
  | .gt => if ys.length < xs.length then subset ys xs else .ok false
  | .ge => if ys.length ≤ xs.length then subset ys xs else .ok false

mutual

/-- Whether two values stand in an order.  It fails for values that have none. -/
def ordered (op : Comparison) : Value → Value → Except Fault Bool
  | .tuple id label xs, w =>
    match w with
    | .tuple _ _ ys => orderedList op xs ys
    | _ => .error (.type (.notOrdered op.text (Value.tuple id label xs).fullTypeName w.fullTypeName))
  | .list id xs, w =>
    match w with
    | .list _ ys => orderedList op xs ys
    | _ => .error (.type (.notOrdered op.text (Value.list id xs).fullTypeName w.fullTypeName))
  | .set id xs, w =>
    match w with
    | .set _ ys => setOrdered op xs ys
    | _ => .error (.type (.notOrdered op.text (Value.set id xs).fullTypeName w.fullTypeName))
  | v, w =>
    let unordered : Except Fault Bool := .error (.type (.notOrdered op.text v.fullTypeName w.fullTypeName))
    match v.atom?, w.atom? with
    | some a, some b => (a.ordered? op b).getD unordered
    | _, _ => unordered
termination_by structural v => v

/-- The order of sequences: that of the first two items that differ, else of the lengths. -/
def orderedList (op : Comparison) : List Value → List Value → Except Fault Bool
  | [], ys => .ok (op.holds (if ys.isEmpty then .eq else .lt))
  | x :: xs, ys =>
    match ys with
    | [] => .ok (op.holds .gt)
    | y :: ys => do if ← equals x y then orderedList op xs ys else ordered op x y
termination_by structural xs => xs

end

/-! ### Truth and size -/

/-- Zero, nothing and what is empty are false; all else is true. -/
def truth : Value → Bool
  | .atom a => a.truth
  | .member e _ a => e.mixin = .none || a.truth
  | .tuple _ _ items => !items.isEmpty
  | .list _ items => !items.isEmpty
  | .set _ items => !items.isEmpty
  | .dict _ entries => !entries.isEmpty
  | _ => true

/-- The number of characters, bytes, items or entries. -/
def size? (v : Value) : Option Nat :=
  match v with
  | .tuple _ _ items => some items.length
  | .list _ items => some items.length
  | .set _ items => some items.length
  | .dict _ entries => some entries.length
  | v =>
    match v.atom? with
    | some (.text s) => some s.toList.length
    | some a => a.bytes?.map List.length
    | none => none

/-- Whether a value has items to go through and is no text. -/
def isCollection : Value → Bool
  | .tuple .. | .list .. | .set .. | .dict .. | .source .. => true
  | .object _ c _ _ _ => c.shape = .model
  | _ => false

/-- The items of a collection, those of a source as if none had been taken: an object yields its fields as pairs of
name and value, a dictionary its keys. -/
def items? : Value → Option (List Value)
  | .tuple _ _ items => some items
  | .list _ items => some items
  | .set _ items => some items
  | .dict _ entries => some (entries.map (·.1))
  | .source _ items => some items
  | .object _ c fields _ _ =>
    if c.shape = .model then
      some (c.declared.filterMap fun f => (fields.lookup f.1).map fun v => .tuple none none [.text f.1, v])
    else none
  | _ => none

end Value
end FlowRules
