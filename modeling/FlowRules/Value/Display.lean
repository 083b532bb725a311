import FlowRules.Value.Basic

/-!
# Values in writing

A value has three written forms.  Its *display* is how it shows inside a container, with texts quoted.  Its *plain
text* differs from it for texts, decimals, dates and members of enumerations.  Its *text form* is what the text and
list operators look at: empty for null, `true` or `false`, and the bare name of a member.  Each fails only where
an integer is too long to be written.
-/

namespace FlowRules

def writeInt (n : Int) : Except Fault String :=
  match Numeral.write n with
  | .ok s => .ok s
  | .error f => .error (.value (.numeral f))

namespace Atom

def display : Atom → Except Fault String
  | .null => .ok "None"
  | .bool b => .ok (if b then "True" else "False")
  | .int n => writeInt n
  | .float x => .ok x.toText
  | .decimal d => .ok ("Decimal('" ++ d.toText ++ "')")
  | .text s => .ok (Text.quoted s)
  | .bytes bs => .ok (Text.quotedBytes bs)
  | .byteArray bs => .ok (Text.quotedByteArray bs)
  | .date d => .ok d.toDisplay
  | .dateTime t => .ok t.toDisplay
  | .span n => .ok (Offset.spanDisplay n)
  | .zone x => .ok x.toDisplay

def plainText : Atom → Except Fault String
  | .decimal d => .ok d.toText
  | .text s => .ok s
  | .date d => .ok d.toText
  | .dateTime t => .ok t.toText
  | .span n => .ok (Offset.spanText n)
  | .zone x => .ok x.toText
  | a => a.display

def textForm : Atom → Except Fault String
  | .null => .ok ""
  | .bool b => .ok (if b then "true" else "false")
  | a => a.plainText

end Atom

private def commaList (parts : List String) : String := ", ".intercalate parts

namespace Value

/-- The fields that an object shows: those that its class declares, in their order. -/
def shownFields (written : List (String × Except Fault String)) : List (String × Annotation) → Except Fault (List String)
  | [] => .ok []
  | f :: fs =>
    match written.lookup f.1 with
    | none => shownFields written fs
    | some shown => do
      let s ← shown
      let ss ← shownFields written fs
      .ok ((f.1 ++ "=" ++ s) :: ss)

mutual

def display : Value → Except Fault String
  | .atom a => a.display
  | .member e name a => do
    let shown ← a.display
    .ok ("<" ++ e.name ++ "." ++ name ++ ": " ++ shown ++ ">")
  | .tuple _ none items => do
    let parts ← displayList items
    .ok ("(" ++ commaList parts ++ (if parts.length = 1 then ",)" else ")"))
  | .tuple _ (some c) items => do
    let parts ← displayList items
    .ok (c.name ++ "(" ++ commaList ((c.fields.zip parts).map fun p => p.1 ++ "=" ++ p.2) ++ ")")
  | .list _ items => do
    let parts ← displayList items
    .ok ("[" ++ commaList parts ++ "]")
  | .set _ items => do
    let parts ← displayList items
    .ok (if parts.isEmpty then "set()" else "\x7b" ++ commaList parts ++ "\x7d")
  | .dict _ entries => do
    let parts ← displayEntries entries
    .ok ("\x7b" ++ commaList parts ++ "\x7d")
  | .object _ c fields _ _ =>
    match c.shape with
    | .plain => .ok ("<" ++ c.name ++ " object>")
    | _ => do
      let parts ← shownFields (displayFields fields) c.declared
      .ok (c.name ++ "(" ++ commaList parts ++ ")")
  | .source .. => .ok "<generator object>"
  | .other type => .ok ("<" ++ type ++ ">")
termination_by structural v => v

def displayList : List Value → Except Fault (List String)
  | [] => .ok []
  | v :: vs => do
    let s ← display v
    let ss ← displayList vs
    .ok (s :: ss)
termination_by structural vs => vs

def displayEntries : List (Value × Value) → Except Fault (List String)
  | [] => .ok []
  | (k, v) :: es => do
    let ks ← display k
    let vs ← display v
    let ss ← displayEntries es
    .ok ((ks ++ ": " ++ vs) :: ss)
termination_by structural es => es

def displayFields : List (String × Value) → List (String × Except Fault String)
  | [] => []
  | (k, v) :: fs => (k, display v) :: displayFields fs
termination_by structural fs => fs

end

def plainText : Value → Except Fault String
  | .atom a => a.plainText
  | .member e name a => if e.writtenAsValue then a.plainText else .ok (e.name ++ "." ++ name)
  | .object id c fields offers failing =>
    match c.shape with
    | .model => do
      let parts ← shownFields (displayFields fields) c.declared
      .ok (" ".intercalate parts)
    | _ => display (.object id c fields offers failing)
  | v => display v

def textForm : Value → Except Fault String
  | .atom a => a.textForm
  | .member _ name _ => .ok name
  | v => v.plainText

end Value
end FlowRules
