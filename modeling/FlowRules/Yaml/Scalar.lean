import FlowRules.Pattern.Search
import FlowRules.Value.Basic
import FlowRules.Yaml.Basic

/-!
# The values of scalars

A plain scalar without a tag gets one from its text: the first pattern that fits decides, and what no pattern fits
is a text.  Integers may be binary, octal, hexadecimal or in base sixty, and points in time are read by field.
-/

namespace FlowRules.Yaml

/-- The full name of a tag of the common schema. -/
def tagNamed (name : String) : String := "tag:yaml.org,2002:" ++ name

namespace Scalar

/-! ### Tags from texts -/

/-- The tags that plain scalars can have: the characters they begin with, and their patterns. -/
def patterns : List (String × String × String) :=
  [("bool", "yYnNtTfFoO", "^(?:yes|Yes|YES|no|No|NO|true|True|TRUE|false|False|FALSE|on|On|ON|off|Off|OFF)$"),
    ("float", "-+0123456789.",
      "^(?:[-+]?(?:[0-9][0-9_]*)\\.[0-9_]*(?:[eE][-+][0-9]+)?|\\.[0-9][0-9_]*(?:[eE][-+][0-9]+)?|" ++
        "[-+]?[0-9][0-9_]*(?::[0-5]?[0-9])+\\.[0-9_]*|[-+]?\\.(?:inf|Inf|INF)|\\.(?:nan|NaN|NAN))$"),
    ("int", "-+0123456789",
      "^(?:[-+]?0b[0-1_]+|[-+]?0[0-7_]+|[-+]?(?:0|[1-9][0-9_]*)|[-+]?0x[0-9a-fA-F_]+|" ++
        "[-+]?[1-9][0-9_]*(?::[0-5]?[0-9])+)$"),
    ("merge", "<", "^(?:<<)$"),
    ("null", "~nN", "^(?:~|null|Null|NULL|)$"),
    ("timestamp", "0123456789",
      "^(?:[0-9][0-9][0-9][0-9]-[0-9][0-9]-[0-9][0-9]|[0-9][0-9][0-9][0-9]-[0-9][0-9]?-[0-9][0-9]?" ++
        "(?:[Tt]|[ \\t]+)[0-9][0-9]?:[0-9][0-9]:[0-9][0-9](?:\\.[0-9]*)?" ++
        "(?:[ \\t]*(?:Z|[-+][0-9][0-9]?(?::[0-9][0-9])?))?)$"),
    ("value", "=", "^(?:=)$"),
    ("yaml", "!&*", "^(?:!|&|\\*)$")]

private def fits (pattern text : String) : Bool :=
  match Pattern.search pattern text with
  | .ok found => found
  | .error _ => false

/-- The tag of a plain scalar; an empty one is null. -/
def resolve (text : String) : String :=
  match text.toList with
  | [] => tagNamed "null"
  | c :: _ =>
    match patterns.find? fun p => p.2.1.toList.contains c && fits p.2.2 text with
    | some p => tagNamed p.1
    | none => tagNamed "str"

/-! ### Integers -/

private def noIndex : Fault := .raised "IndexError" "string index out of range"

private def withoutUnderscores (s : String) : List Char := s.toList.filter (· ≠ '_')

private def inBase (base : Nat) (cs : List Char) : Except Fault Int :=
  match Numeral.readIn base (String.ofList cs) with
  | .ok n => .ok n
  | .error f => .error (.value (.numeral f))

/-- The sign of a numeral, and what follows it. -/
private def splitSign : List Char → Bool × List Char
  | '-' :: cs => (true, cs)
  | '+' :: cs => (false, cs)
  | cs => (false, cs)

private def unsigned (cs : List Char) : Except Fault Int :=
  match cs with
  | ['0'] => .ok 0
  | '0' :: 'b' :: rest => inBase 2 rest
  | '0' :: 'x' :: rest => inBase 16 rest
  | [] => .error noIndex
  | '0' :: _ => inBase 8 cs
  | _ =>
    if cs.contains ':' then do
      let parts ← (Text.splitChars ':' cs).mapM (inBase 10)
      .ok (parts.foldl (fun n d => n * 60 + d) 0)
    else inBase 10 cs

def toInt (s : String) : Except Fault Int := do
  let cs := withoutUnderscores s
  if cs.isEmpty then .error noIndex
  else
    let (negative, body) := splitSign cs
    let n ← unsigned body
    .ok (if negative then -n else n)

/-! ### Floating-point numbers -/

private def readFloat (cs : List Char) : Except Fault Binary64 :=
  match Binary64.read? (String.ofList cs) with
  | some x => .ok x
  | none => .error (.value (.notFloat (String.ofList cs)))

/-- The sum of parts in base sixty, the last part first.  The power of sixty has to be a floating-point number. -/
private def inSixties (sum : Binary64) (base : Nat) : List Binary64 → Except Fault Binary64
  | [] => .ok sum
  | x :: xs =>
    match Binary64.ofInt? base with
    | some b => inSixties (sum.add (x.mul b)) (base * 60) xs
    | none => .error (.raised "OverflowError" "int too large to convert to float")

def toFloat (s : String) : Except Fault Binary64 := do
  let cs := Text.lowerChars (withoutUnderscores s)
  if cs.isEmpty then .error noIndex
  else
    let (negative, body) := splitSign cs
    let x ←
      if body = ".inf".toList then .ok (Binary64.infinity false)
      else if body = ".nan".toList then .ok Binary64.nan
      else if body.contains ':' then do
        let parts ← (Text.splitChars ':' body).mapM readFloat
        inSixties (Binary64.zero false) 1 parts.reverse
      else readFloat body
    .ok (if negative && !x.isNaN then x.negate else x)

/-! ### Points in time -/

/-- A number of at least and at most so many digits. -/
private def digits? (least most : Nat) (cs : List Char) : Option (Nat × List Char) :=
  let ds := (cs.take most).takeWhile isDigit
  if ds.length < least then none else some (Decimal.plainValue ds, cs.drop ds.length)

private def char? (c : Char) : List Char → Option (List Char)
  | d :: cs => if c = d then some cs else none
  | [] => none

/-- The digits behind the point of the seconds, in microseconds. -/
private def micros (cs : List Char) : Nat × List Char :=
  match cs with
  | '.' :: rest =>
    let ds := rest.takeWhile isDigit
    (Decimal.plainValue ((ds ++ List.replicate 6 '0').take 6), rest.drop ds.length)
  | _ => (0, cs)

/-- The offset at the end of a point in time in minutes; there may be none. -/
private def offset? (cs : List Char) : Option (Option Int) :=
  match cs with
  | [] => some none
  | _ =>
    match cs.dropWhile isBlank with
    | ['Z'] => some (some 0)
    | sign :: rest =>
      if sign ≠ '+' ∧ sign ≠ '-' then none
      else do
        let (hours, rest) ← digits? 1 2 rest
        let minutes ←
          match rest with
          | [] => some 0
          | ':' :: rest => do
            let (n, rest) ← digits? 2 2 rest
            if rest.isEmpty then some n else none
          | _ => none
        let n : Int := hours * 60 + minutes
        some (some (if sign = '-' then -n else n))
    | [] => none

private def date? (cs : List Char) : Option ((Nat × Nat × Nat) × List Char) := do
  let (y, cs) ← digits? 4 4 cs
  let cs ← char? '-' cs
  let (m, cs) ← digits? 1 2 cs
  let cs ← char? '-' cs
  let (d, cs) ← digits? 1 2 cs
  some ((y, m, d), cs)

/-- The blanks or the letter between date and time. -/
private def afterDate? (cs : List Char) : Option (List Char) :=
  match cs with
  | 'T' :: rest | 't' :: rest => some rest
  | c :: _ => if isBlank c then some (cs.dropWhile isBlank) else none
  | [] => none

private def clock? (cs : List Char) : Option ((Nat × Nat × Nat) × List Char) := do
  let (h, cs) ← digits? 1 2 cs
  let cs ← char? ':' cs
  let (m, cs) ← digits? 2 2 cs
  let cs ← char? ':' cs
  let (s, cs) ← digits? 2 2 cs
  some ((h, m, s), cs)

private def calendar {α : Type} : Except CalendarFault α → Except Fault α
  | .ok a => .ok a
  | .error f => .error (.value (.calendar f))

private def noTimestamp : Fault := .raised "AttributeError" "'NoneType' object has no attribute 'groupdict'"

/-- A date, or a point in time if a clock follows it.  A line feed may stand behind it. -/
def toTimestamp (s : String) : Except Fault Value :=
  match date? (Text.beforeFinalNewline s.toList) with
  | none => .error noTimestamp
  | some ((y, m, d), []) => (calendar (Date.ofFields y m d)).map .date
  | some ((y, m, d), cs) =>
    match (do
        let cs ← afterDate? cs
        let (clock, cs) ← clock? cs
        let (us, cs) := micros cs
        let offset ← offset? cs
        some (clock, us, offset) : Option ((Nat × Nat × Nat) × Nat × Option Int)) with
    | none => .error noTimestamp
    | some ((hh, mm, ss), us, minutes) => do
      let offset ← calendar (minutes.mapM fun n => Offset.ofMicros (n * 60000000))
      (calendar (DateTime.ofFields y m d hh mm ss us offset)).map .dateTime

/-! ### Truth values -/

def toBool (s : String) : Except Fault Bool :=
  match Text.lower s with
  | "yes" | "true" | "on" => .ok true
  | "no" | "false" | "off" => .ok false
  | other => .error (.raised "KeyError" (Text.quoted other))

end Scalar
end FlowRules.Yaml
