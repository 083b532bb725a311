import FlowRules.Calendar.Iso
import FlowRules.Json.Reader
import FlowRules.Json.Writer
import FlowRules.Store.Basic

/-!
# Values in exchange

A host in another process sends values and handlers, and gets answers, as JSON.  What JSON has no form for is an object
with a single member whose name is a tag: `$float`, `$decimal`, `$date`, `$datetime`, `$bytes`, `$tuple`, `$set`,
`$iter`, `$dict`, `$enum` and `$obj`.  Every container that is read gets an identity of its own.
-/

namespace FlowRules

/-! ### Classes of a host -/

/-- A class of a host: how its objects behave, the attributes of a new one, and what it computes from them. -/
structure HostClass where
  info : ClassInfo
  defaults : List (String × Value) := []
  /-- What else an object offers, and where looking fails, given its attributes. -/
  derived : List (String × Value) → List (String × Value) × List (String × Fault) := fun _ => ([], [])
  /-- The names that cannot be assigned. -/
  fixed : List String := []

namespace HostClass

/-- The object of a class with these attributes. -/
def make (c : HostClass) (id : Identity) (fields : List (String × Value)) : Value :=
  let (offers, failing) := c.derived fields
  .object id c.info fields offers failing

end HostClass

/-- The classes that a host brings. -/
structure Host where
  enums : List EnumClass := []
  tuples : List TupleClass := []
  classes : List HostClass := []

namespace Exchange

/-- Reading values: the next free identity, and what is wrong with a document that holds none. -/
abbrev Intake := StateT Nat (Except String)

def fresh : Intake Identity := modifyGet fun n => (some n, n + 1)

private def need {α : Type} (what : String) : Option α → Intake α
  | some a => pure a
  | none => throw ("no " ++ what)

/-! ### Texts -/

/-- How often a text is repeated. -/
private def count : Json → Nat
  | .int n => n.toNat
  | _ => 0

mutual

/-- A text, also one written as a repeated text or as several texts in a row. -/
def text? : Json → Option String
  | .text s => some s
  | .object [("$repeat", .array [part, times])] =>
    (text? part).map fun s => String.join (List.replicate (count times) s)
  | .object [("$concat", .array parts)] => texts? parts
  | _ => none
termination_by structural j => j

def texts? : List Json → Option String
  | [] => some ""
  | j :: js =>
    match text? j, texts? js with
    | some s, some t => some (s ++ t)
    | _, _ => none
termination_by structural js => js

end

/-! ### Reading -/

private def hexBytes : List Char → List UInt8
  | a :: b :: rest => UInt8.ofNat ((Numeral.hexValue? a).getD 0 * 16 + (Numeral.hexValue? b).getD 0) :: hexBytes rest
  | _ => []

/-- A value that is an atom. -/
def readAtom (tag : String) (j : Json) : Intake Value := do
  let s ← need "text" (text? j)
  match tag with
  | "$float" => do
    let x ← need "float" (Binary64.read? s)
    return .float x
  | "$decimal" => do
    let d ← need "decimal" (Decimal.read? s)
    return .decimal d
  | "$date" => do
    let d ← need "date" (Iso.date s).toOption
    return .date d
  | "$datetime" => do
    let t ← need "date and time" (Iso.dateTime s).toOption
    return .dateTime t
  | "$bytes" => return .bytes (hexBytes s.toList)
  | _ => throw ("no value " ++ tag)

/-- An object of a class of the host with some of its attributes set. -/
def readObject (host : Host) (cls : String) (fields : List (String × Value)) : Intake Value := do
  let id ← fresh
  match host.tuples.find? (·.name == cls) with
  | some t => return .tuple id (some t) (t.fields.map fun f => (fields.lookup f).getD .null)
  | none => do
    let c ← need "class" (host.classes.find? (·.info.name == cls))
    return c.make id (fields.foldl (fun all f => setEntry f.1 f.2 all) c.defaults)

def readMember (host : Host) (cls name : String) : Intake Value := do
  let e ← need "enumeration" (host.enums.find? (·.name == cls))
  need "member" (e.member? name)

mutual

/-- The value of a document. -/
def read (host : Host) : Json → Intake Value
  | .null => return .null
  | .bool b => return .bool b
  | .int n => return .int n
  | .float x => return .float x
  | .text s => return .text s
  | .array items => do
    let id ← fresh
    let vs ← readList host items
    return .list id vs
  | .object [("$tuple", .array items)] => do
    let id ← fresh
    let vs ← readList host items
    return .tuple id none vs
  | .object [("$set", .array items)] => do
    let id ← fresh
    let vs ← readList host items
    return .set id vs
  | .object [("$iter", .array items)] => do
    let id ← fresh
    let vs ← readList host items
    return .source (id.getD 0) vs
  | .object [("$dict", .array pairs)] => do
    let id ← fresh
    let es ← readPairs host pairs
    return .dict id es
  | .object [("$enum", .array [.text cls, .text name])] => readMember host cls name
  | .object [("$obj", .array [.text cls, .object fields])] => do
    let fs ← readMembers host fields
    readObject host cls fs
  | .object [("$repeat", j)] => do
    let s ← need "text" (text? (.object [("$repeat", j)]))
    return .text s
  | .object [("$concat", j)] => do
    let s ← need "text" (text? (.object [("$concat", j)]))
    return .text s
  | .object [(key, j)] => do
    if key ∈ ["$float", "$decimal", "$date", "$datetime", "$bytes"] then readAtom key j
    else
      let id ← fresh
      let v ← read host j
      return .dict id [(.text key, v)]
  | .object members => do
    let id ← fresh
    let fs ← readMembers host members
    return .dict id (fs.map fun f => (.text f.1, f.2))
termination_by structural j => j

def readList (host : Host) : List Json → Intake (List Value)
  | [] => return []
  | j :: js => do
    let v ← read host j
    let vs ← readList host js
    return v :: vs
termination_by structural js => js

def readPairs (host : Host) : List Json → Intake (List (Value × Value))
  | [] => return []
  | .array [k, v] :: js => do
    let key ← read host k
    let value ← read host v
    let es ← readPairs host js
    return (key, value) :: es
  | _ :: _ => throw "no pair"
termination_by structural js => js

def readMembers (host : Host) : List (String × Json) → Intake (List (String × Value))
  | [] => return []
  | (k, j) :: ms => do
    let v ← read host j
    let fs ← readMembers host ms
    return (k, v) :: fs
termination_by structural ms => ms

end

/-! ### Writing -/

private def tagged (tag : String) (j : Json) : Json := .object [(tag, j)]

private def texts (ss : List String) : Json := .array (ss.map .text)

def writeAtom : Atom → Json
  | .null => .null
  | .bool b => .bool b
  | .int n => .int n
  | .float x => tagged "$float" (.text x.toText)
  | .decimal d => tagged "$decimal" (.text d.toText)
  | .text s => .text s
  | .bytes bs => tagged "$bytes" (.text (String.ofList (bs.flatMap fun b => Text.hexDigits 2 b.toNat)))
  | .byteArray bs => tagged "$other" (.text (Atom.byteArray bs).typeName)
  | .date d => tagged "$date" (.text d.toText)
  | .dateTime t => tagged "$datetime" (.text t.toIsoText)
  | .span n => tagged "$other" (.text (Atom.span n).typeName)
  | .zone x => tagged "$other" (.text (Atom.zone x).typeName)

/-- The text that the items of a set are ordered by. -/
private def orderKey (j : Json) : String := (Json.write j).toOption.getD ""

/-- Whether a dictionary can be written as a plain object. -/
def isPlain (entries : List (Value × Value)) : Bool :=
  entries.all fun e =>
    match e.1 with
    | .text s => !Text.startsWith s "$"
    | _ => false

mutual

/-- The document of a value. -/
def write : Value → Json
  | .atom a => writeAtom a
  | .member e name _ => tagged "$enum" (texts [e.name, name])
  | .tuple _ none items => tagged "$tuple" (.array (writeList items))
  | .tuple _ (some c) items => tagged "$obj" (.array [.text c.name, .object (c.fields.zip (writeList items))])
  | .list _ items => .array (writeList items)
  | .set _ items =>
    tagged "$set" (.array ((writeList items).mergeSort fun a b => decide (orderKey a ≤ orderKey b)))
  | .dict _ entries =>
    let written := writeEntries entries
    if isPlain entries then
      .object (written.filterMap fun e =>
        match e.1 with
        | .text s => some (s, e.2)
        | _ => none)
    else tagged "$dict" (.array (written.map fun e => .array [e.1, e.2]))
  | .object _ c fields _ _ =>
    let written := writeFields fields
    let listed := if c.shape = .plain then written else written.filter fun f => c.declared.any (·.1 == f.1)
    tagged "$obj" (.array [.text c.name, .object listed])
  | .source .. => tagged "$iter" (.bool true)
  | .other type => tagged "$other" (.text type)
termination_by structural v => v

def writeList : List Value → List Json
  | [] => []
  | v :: vs => write v :: writeList vs
termination_by structural vs => vs

def writeEntries : List (Value × Value) → List (Json × Json)
  | [] => []
  | (k, v) :: es => (write k, write v) :: writeEntries es
termination_by structural es => es

def writeFields : List (String × Value) → List (String × Json)
  | [] => []
  | (k, v) :: fs => (k, write v) :: writeFields fs
termination_by structural fs => fs

end

end Exchange
end FlowRules
