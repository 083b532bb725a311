import FlowRules.Fault

/-!
# Values

The data that workflows read: what a host hands over as flow object and keeps in the shared state.  A value is a
tree.  A container carries an identity when the host can hold it in two places at once; a container without one is
known to be held once.
-/

namespace FlowRules

/-- A value without parts. -/
inductive Atom where
  | null
  | bool (b : Bool)
  | int (n : Int)
  | float (x : Binary64)
  | decimal (d : Decimal)
  | text (s : String)
  | bytes (bs : List UInt8)
  /-- Bytes that can be changed, so that they are no key. -/
  | byteArray (bs : List UInt8)
  | date (d : Date)
  | dateTime (t : DateTime)
  /-- A span of time in microseconds. -/
  | span (micros : Int)
  | zone (x : Offset)
  deriving DecidableEq, Repr, Inhabited

/-- What the members of an enumeration are besides members: nothing, texts, or integers. -/
inductive Mixin where
  | none
  | text
  | int
  deriving DecidableEq, Repr, Inhabited

/-- An enumeration with its declared names, in order, each with the value of its member.  A name whose value was
declared before is an alias of the earlier name. -/
structure EnumClass where
  name : String
  mixin : Mixin
  /-- Members are written as their values, and not by their names. -/
  writtenAsValue : Bool
  declared : List (String × Atom)
  deriving DecidableEq, Repr, Inhabited

/-- A type as fields are declared with it. -/
inductive TypeRef where
  | null
  | bool
  | int
  | float
  | text
  | bytes
  | decimal
  | date
  | dateTime
  | list
  | tuple
  | set
  | dict
  | any
  | enumeration (e : EnumClass)
  /-- A class of the host. -/
  | host (name : String)
  /-- A type that fields are not declared with. -/
  | other (name : String)
  deriving DecidableEq, Repr, Inhabited

/-- How a field is declared. -/
inductive Annotation where
  | type (t : TypeRef)
  /-- A container type with the types of its elements. -/
  | generic (origin : TypeRef)
  | union (parts : List Annotation)
  /-- A text that could not be resolved to a type. -/
  | unresolved (text : String)
  /-- A declaration of a wider class that is not told, as some declaration of the class could not be resolved. -/
  | untold
  deriving Repr, Inhabited

/-- How the objects of a class of the host behave. -/
inductive ClassShape where
  /-- Declared fields, compared and shown field by field. -/
  | record
  /-- Declared fields, and iterable over pairs of name and value. -/
  | model
  /-- Whatever attributes were set; compared by identity. -/
  | plain
  deriving DecidableEq, Repr, Inhabited

structure ClassInfo where
  name : String
  shape : ClassShape
  /-- The declared fields in order, those of wider classes first. -/
  declared : List (String × Annotation)
  deriving Repr, Inhabited

/-- A class of tuples whose places have names. -/
structure TupleClass where
  name : String
  fields : List String
  deriving DecidableEq, Repr, Inhabited

/-- What tells a container from an equal one. -/
abbrev Identity := Option Nat

inductive Value where
  | atom (a : Atom)
  /-- A member of an enumeration by its canonical name, with its value. -/
  | member (e : EnumClass) (name : String) (value : Atom)
  | tuple (id : Identity) (label : Option TupleClass) (items : List Value)
  | list (id : Identity) (items : List Value)
  | set (id : Identity) (items : List Value)
  | dict (id : Identity) (entries : List (Value × Value))
  /-- An object with its attributes in order, what else its class offers by exact name, and the names at which
  looking fails. -/
  | object (id : Identity) (cls : ClassInfo) (fields : List (String × Value)) (offers : List (String × Value))
      (failing : List (String × Fault))
  /-- A source that yields its items once. -/
  | source (id : Nat) (items : List Value)
  /-- Anything else, known by its type only. -/
  | other (type : String)
  deriving Inhabited

namespace Value

@[match_pattern] abbrev null : Value := .atom .null
@[match_pattern] abbrev bool (b : Bool) : Value := .atom (.bool b)
@[match_pattern] abbrev int (n : Int) : Value := .atom (.int n)
@[match_pattern] abbrev float (x : Binary64) : Value := .atom (.float x)
@[match_pattern] abbrev decimal (d : Decimal) : Value := .atom (.decimal d)
@[match_pattern] abbrev text (s : String) : Value := .atom (.text s)
@[match_pattern] abbrev bytes (bs : List UInt8) : Value := .atom (.bytes bs)
@[match_pattern] abbrev byteArray (bs : List UInt8) : Value := .atom (.byteArray bs)
@[match_pattern] abbrev date (d : Date) : Value := .atom (.date d)
@[match_pattern] abbrev dateTime (t : DateTime) : Value := .atom (.dateTime t)
@[match_pattern] abbrev span (micros : Int) : Value := .atom (.span micros)
@[match_pattern] abbrev zone (x : Offset) : Value := .atom (.zone x)

def isNull : Value → Bool
  | .atom .null => true
  | _ => false

/-- The identity of a container. -/
def identity : Value → Identity
  | .atom _ | .member .. | .other _ => none
  | .tuple id .. | .list id _ | .set id _ | .dict id _ | .object id .. => id
  | .source id _ => some id

/-- The atom a value is or, for a member of an enumeration, also is. -/
def atom? : Value → Option Atom
  | .atom a => some a
  | .member e _ a => if e.mixin = .none then none else some a
  | _ => none

end Value

/-! ### Enumerations -/

namespace EnumClass

/-- The first name declared with a value. -/
def canonicalName? (e : EnumClass) (a : Atom) : Option String :=
  (e.declared.find? fun p => p.2 = a).map (·.1)

/-- The member declared under exactly this name. -/
def member? (e : EnumClass) (name : String) : Option Value := do
  let a ← e.declared.lookup name
  let canonical ← e.canonicalName? a
  some (.member e canonical a)

/-- Canonical names and values in order, without aliases. -/
def canonical (e : EnumClass) : List (String × Atom) :=
  e.declared.filter fun p => e.canonicalName? p.2 = some p.1

def members (e : EnumClass) : List Value := e.canonical.map fun p => .member e p.1 p.2

end EnumClass

/-! ### Names of types -/

namespace Atom

def typeName : Atom → String
  | .null => "NoneType"
  | .bool _ => "bool"
  | .int _ => "int"
  | .float _ => "float"
  | .decimal _ => "Decimal"
  | .text _ => "str"
  | .bytes _ => "bytes"
  | .byteArray _ => "bytearray"
  | .date _ => "date"
  | .dateTime _ => "datetime"
  | .span _ => "timedelta"
  | .zone _ => "timezone"

def typeRef : Atom → TypeRef
  | .null => .null
  | .bool _ => .bool
  | .int _ => .int
  | .float _ => .float
  | .decimal _ => .decimal
  | .text _ => .text
  | .bytes _ => .bytes
  | .byteArray _ => .other "bytearray"
  | .date _ => .date
  | .dateTime _ => .dateTime
  | .span _ => .other "timedelta"
  | .zone _ => .other "timezone"

end Atom

namespace TypeRef

def name : TypeRef → String
  | null => "NoneType"
  | bool => "bool"
  | int => "int"
  | float => "float"
  | text => "str"
  | bytes => "bytes"
  | decimal => "Decimal"
  | date => "date"
  | dateTime => "datetime"
  | list => "list"
  | tuple => "tuple"
  | set => "set"
  | dict => "dict"
  | any => "Any"
  | enumeration e => e.name
  | host name => name
  | other name => name

end TypeRef

namespace Value

/-- The short name of a value's type. -/
def typeName : Value → String
  | .atom a => a.typeName
  | .member e _ _ => e.name
  | .tuple _ none _ => "tuple"
  | .tuple _ (some c) _ => c.name
  | .list .. => "list"
  | .set .. => "set"
  | .dict .. => "dict"
  | .object _ c _ _ _ => c.name
  | .source .. => "generator"
  | .other type => type

/-- The name of a value's type in reports of type errors. -/
def fullTypeName : Value → String
  | .decimal _ => "decimal.Decimal"
  | .date _ => "datetime.date"
  | .dateTime _ => "datetime.datetime"
  | .span _ => "datetime.timedelta"
  | .zone _ => "datetime.timezone"
  | v => v.typeName

/-- The type of a value. -/
def typeRef : Value → TypeRef
  | .atom a => a.typeRef
  | .member e _ _ => .enumeration e
  | .tuple _ none _ => .tuple
  | .tuple _ (some c) _ => .host c.name
  | .list .. => .list
  | .set .. => .set
  | .dict .. => .dict
  | .object _ c _ _ _ => .host c.name
  | .source .. => .other "generator"
  | .other type => .other type

end Value

/-! ### JSON as values -/

namespace Json

mutual

/-- The value that a document stands for; its containers are fresh. -/
def toValue : Json → Value
  | .null => .null
  | .bool b => .bool b
  | .int n => .int n
  | .float x => .float x
  | .text s => .text s
  | .array items => .list none (toValues items)
  | .object members => .dict none (toEntries members)
termination_by structural j => j

def toValues : List Json → List Value
  | [] => []
  | j :: js => toValue j :: toValues js
termination_by structural js => js

def toEntries : List (String × Json) → List (Value × Value)
  | [] => []
  | (k, j) :: ms => (.text k, toValue j) :: toEntries ms
termination_by structural ms => ms

end

end Json
end FlowRules
