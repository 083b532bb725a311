import FlowRules.Calendar.Iso
import FlowRules.Text.LetterCase
import FlowRules.Value.Compare
import FlowRules.Value.Display

/-!
# Reading targets

The target of a check is a text.  It is read as a value of the type that the checked value is declared with: a
number by its decimal text, a member of an enumeration by its name or value without regard to letter case, a truth
value by one of six words, dates by their ISO forms.  Any other type makes a value from the text as it likes.
-/

namespace FlowRules

/-- How the classes of the host make an object from one text. -/
abbrev Constructors := String → String → Except Fault Value

/-- The exact decimal that a value's text denotes; truth values are no numbers. -/
def toDecimal (v : Value) : Except Fault Decimal :=
  match v with
  | .decimal d => .ok d
  | .bool b => .error (.value (.booleanNumber b))
  | _ => do
    let s ← v.plainText
    match Decimal.read? (Text.trim s) with
    | some d => .ok d
    | none => do
      let shown ← v.display
      .error (.value (.notNumber shown))

/-- The decimal that a target denotes. -/
def targetDecimal (target : Option String) : Except Fault Decimal :=
  match target with
  | some s => toDecimal (.text s)
  | none => toDecimal .null

namespace Decimal

/-- The integer part of a decimal. -/
def toInt : Decimal → Except Fault Int
  | .nan .. => .error (.value .notANumberToInteger)
  | .infinite _ => .error (.raised "OverflowError" "cannot convert Infinity to integer")
  | .finite s c e =>
    let n : Int := if 0 ≤ e then c * 10 ^ e.toNat else if digitCount c < (-e).toNat then 0 else c / 10 ^ (-e).toNat
    .ok (if s then -n else n)

end Decimal

namespace EnumClass

/-- The first of some members whose value has this text but for letter case.  The values are written one by one, and
none after the one that is taken. -/
def valued? (word : String) : List (String × Atom) → Except Fault (Option (String × Atom))
  | [] => .ok none
  | p :: rest => do
    let form ← p.2.textForm
    if Text.lower form == Text.lower word then return some p
    valued? word rest

/-- The member that a text names: by an exact name, else by a name or else a value but for letter case. -/
def read (e : EnumClass) (s : String) : Except Fault Value :=
  let name := Text.trim s
  match e.member? name with
  | some m => .ok m
  | none =>
    match e.canonical.find? fun p => Text.lower p.1 == Text.lower name with
    | some p => .ok (.member e p.1 p.2)
    | none => do
      match ← valued? name e.canonical with
      | some p => .ok (.member e p.1 p.2)
      | none => .error (.value (.notMember s e.name))

end EnumClass

def trueWords : List String := ["true", "1", "yes"]

def falseWords : List String := ["false", "0", "no"]

/-- The truth value that a text names. -/
def readBool (s : String) : Except Fault Bool :=
  let word := Text.lower (Text.trim s)
  if trueWords.contains word then .ok true
  else if falseWords.contains word then .ok false
  else .error (.value (.notBoolean s))

private def charTexts (s : String) : List Value := s.toList.map fun c => .text (String.singleton c)

private def ofCalendar {α : Type} : Except CalendarFault α → Except Fault α
  | .ok a => .ok a
  | .error f => .error (.value (.calendar f))

/-- Read a text as a value of a type. -/
def coerceText (make : Constructors) (s : String) (t : TypeRef) : Except Fault Value :=
  match t with
  | .text => .ok (.text s)
  | .enumeration e => e.read s
  | .bool => (readBool s).map Value.bool
  | .decimal => (toDecimal (.text s)).map Value.decimal
  | .int => do
    let d ← toDecimal (.text s)
    let n ← d.toInt
    .ok (.int n)
  | .float =>
    match Binary64.read? s with
    | some x => .ok (.float x)
    | none => .error (.value (.notFloat s))
  | .dateTime => (ofCalendar (Iso.dateTime (Text.trim s))).map Value.dateTime
  | .date => (ofCalendar (Iso.date (Text.trim s))).map Value.date
  | .list => .ok (.list none (charTexts s))
  | .tuple => .ok (.tuple none none (charTexts s))
  | .set => .ok (.set none (s.toList.eraseDups.map fun c => .text (String.singleton c)))
  | .dict =>
    if s = "" then .ok (.dict none [])
    else .error (.value (.stated "dictionary update sequence element #0 has length 1; 2 is required"))
  | .bytes | .other "bytearray" => .error (.type (.stated "string argument without an encoding"))
  | .null => .error (.type (.stated "NoneType takes no arguments"))
  | .any => .error (.type (.stated "Any cannot be instantiated"))
  | .host name => make name s
  | .other "timedelta" => .error (.type (.stated "unsupported type for timedelta days component: str"))
  | .other "timezone" => .error (.type (.stated "timezone() argument 1 must be datetime.timedelta, not str"))
  | .other name => .error (.type (.stated ("cannot create '" ++ name ++ "' instances")))

/-- Read a target as a value of a type; without a target or a type the target stays what it is. -/
def coerce (make : Constructors) (target : Option String) (t : Option TypeRef) : Except Fault Value :=
  match target, t with
  | none, _ => .ok .null
  | some s, none => .ok (.text s)
  | some s, some t => coerceText make s t

end FlowRules
