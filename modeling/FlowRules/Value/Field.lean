import FlowRules.Text.LetterCase
import FlowRules.Value.Attribute
import FlowRules.Value.Compare

/-!
# Field paths

A path such as `customer.orders.0.total` names a part of a value.  Each segment is looked up as a key of a
dictionary, as a number into a sequence, or as an attribute; where nothing has exactly that name, the first field
with the same name but for letter case is taken.  Attributes whose names begin with an underscore are private.
-/

namespace FlowRules

namespace Value

/-- The text of a key that is a text. -/
def keyText? : Value → Option String
  | .text s => some s
  | .member e _ (.text s) => if e.mixin = .text then some s else none
  | _ => none

/-- The names that a lookup without regard to letter case goes through. -/
def fieldNames : Value → List String
  | .dict _ entries => entries.filterMap fun e => e.1.keyText?
  | .object _ c fields _ _ =>
    match c.shape with
    | .plain => (fields.map (·.1)).filter fun n => !Text.startsWith n "_"
    | _ => c.declared.map (·.1)
  | _ => []

/-- Whether two names differ in letter case only. -/
def sameName (a b : String) : Bool := Text.lower a == Text.lower b

/-- The value of the first field whose name differs from `name` in letter case only. -/
def looseField? (v : Value) (name : String) : Except Fault (Option Value) :=
  match v.fieldNames.find? (sameName · name) with
  | none => .ok none
  | some found =>
    match v with
    | .dict _ entries => lookup (.text found) entries
    | _ => v.attribute? found

/-- The item of a sequence at a place; negative places count from the end. -/
def itemAt? (items : List Value) (place : Int) : Option Value :=
  if 0 ≤ place then items[place.toNat]?
  else if -(items.length : Int) ≤ place then items[(items.length + place).toNat]?
  else none

/-- Whether a segment of a path is a place in a sequence. -/
def isPlace (name : String) : Bool :=
  let digits := name.toList.dropWhile (· = '-')
  !digits.isEmpty && digits.all Text.isNumeral

/-- The items that a path finds by their places: those of a list or tuple. -/
def sequenceItems? : Value → Option (List Value)
  | .list _ items => some items
  | .tuple _ _ items => some items
  | _ => none

/-- The attribute a segment names, then the field that differs in letter case only. -/
def namedField? (v : Value) (name : String) : Except Fault (Option Value) := do
  if !Text.startsWith name "_" then
    match ← v.present? name with
    | some w => return some w
    | none => pure ()
  v.looseField? name

/-- The part of a value that one segment of a path names. -/
def segment? (v : Value) (name : String) : Except Fault (Option Value) :=
  match v with
  | .null => .ok none
  | .dict _ entries => do
    match ← lookup (.text name) entries with
    | some w => .ok (some w)
    | none => v.looseField? name
  | _ =>
    match v.sequenceItems? with
    | some items =>
      if isPlace name then
        match Numeral.read name with
        | .ok place => .ok (itemAt? items place)
        | .error f => .error (.value (.numeral f))
      else v.namedField? name
    | none => v.namedField? name

/-- Follow the segments of a path. -/
def follow? (v : Value) : List String → Except Fault (Option Value)
  | [] => .ok (some v)
  | name :: rest => do
    match ← v.segment? name with
    | some w => follow? w rest
    | none => .ok none

/-- The part of a value that a path names; the empty path names nothing. -/
def field? (v : Value) (path : String) : Except Fault (Option Value) :=
  if path = "" then .ok none else v.follow? (Text.split '.' path)

/-- The part of a value that a path names, or a fallback; a missing field without fallback is a fault. -/
def field (v : Value) (path : String) (fallback : Option Value) : Except Fault Value := do
  match ← v.field? path with
  | some w => .ok w
  | none =>
    match fallback with
    | some w => .ok w
    | none => .error (.noField v.typeName path)

end Value

/-! ### Declared types -/

namespace Annotation

/-- Whether a declaration is told. -/
def isTold : Annotation → Bool
  | .untold => false
  | _ => true

/-- The type that a declaration tells: an optional type tells its type, a container type its kind of container, and
a choice between several types tells none. -/
def typeRef? : Annotation → Option TypeRef
  | .type t => some t
  | .generic origin => some origin
  | .unresolved _ | .untold => none
  | .union parts =>
    match parts.filter (fun p => match p with | .type .null => false | _ => true) with
    | [.type t] => some t
    | _ => none

end Annotation

namespace ClassInfo

/-- The declarations that a class tells. -/
def told (c : ClassInfo) : List (String × Annotation) := c.declared.filter fun f => f.2.isTold

/-- The declaration of a field: in a model the first that matches but for letter case; elsewhere, of those that are
told, the exact one before those. -/
def annotation? (c : ClassInfo) (name : String) : Option Annotation :=
  match c.shape with
  | .model => (c.declared.find? fun f => f.1 == name || Value.sameName f.1 name).map (·.2)
  | _ => (c.told.lookup name).or ((c.told.find? fun f => f.1 == name || Value.sameName f.1 name).map (·.2))

end ClassInfo

/-- A path cut at its last point. -/
def cutLast (path : String) : String × String :=
  let back := path.toList.reverse
  let leaf := (back.takeWhile (· ≠ '.')).reverse
  let owner := ((back.dropWhile (· ≠ '.')).drop 1).reverse
  (String.ofList owner, String.ofList leaf)

namespace Value

/-- The declared type of a part of this value. -/
def ownType? (v : Value) (name : String) : Option TypeRef :=
  match v with
  | .object _ c _ _ _ => (c.annotation? name).bind Annotation.typeRef?
  | _ => none

/-- The declared type of the field at a path, if its owner's class declares it. -/
def declaredType? (v : Value) (path : String) : Except Fault (Option TypeRef) := do
  if path = "" then return none
  let (owner, leaf) := cutLast path
  if owner = "" then return v.ownType? leaf
  match ← v.field? owner with
  | some w => return w.ownType? leaf
  | none => return none

end Value
end FlowRules
