import FlowRules.Json.Basic

/-!
# Reading JSON

The reader follows the grammar of JSON, takes `NaN`, `Infinity` and `-Infinity` for numbers as well, and lets the
last of several members of one name win.  A malformed document is reported with the first position at which it
cannot go on.
-/

namespace FlowRules.Json

/-- What is left of a document, and where in the document it starts. -/
structure Cursor where
  rest : List Char
  index : Nat

namespace Cursor

def drop (c : Cursor) (n : Nat) : Cursor := ⟨c.rest.drop n, c.index + n⟩

def isBlank (c : Char) : Bool := c = ' ' || c = '\t' || c = '\n' || c = '\r'

def skipBlanks (c : Cursor) : Cursor :=
  c.drop (c.rest.takeWhile isBlank).length

end Cursor

/-- A problem at a position of the document. -/
abbrev Failure := JsonProblem × Nat

/-- Why reading stops short. -/
inductive Stop where
  | at_ (problem : JsonProblem) (index : Nat)
  | tooDeep
  | numeral (fault : NumeralFault)

abbrev Reads (α : Type) := Except Stop (α × Cursor)

/-! ### Texts -/

/-- The code unit written by four hexadecimal digits. -/
def codeUnit? (cs : List Char) : Option Nat :=
  match cs with
  | [a, b, c, d] => do
    let values ← [a, b, c, d].mapM Numeral.hexValue?
    some (values.foldl (fun n v => n * 16 + v) 0)
  | _ => none

def isHighSurrogate (n : Nat) : Bool := 0xd800 ≤ n && n < 0xdc00

def isLowSurrogate (n : Nat) : Bool := 0xdc00 ≤ n && n < 0xe000

/-- The character that a code unit stands for; half of a surrogate pair stands for the replacement character. -/
def unitChar (n : Nat) : Char := if 0xd800 ≤ n ∧ n < 0xe000 then '\ufffd' else Char.ofNat n

/-- The character that two halves of a surrogate pair stand for. -/
def pairChar (high low : Nat) : Char := Char.ofNat (0x10000 + (high - 0xd800) * 0x400 + (low - 0xdc00))

def escapedChar? (c : Char) : Option Char :=
  match c with
  | '"' => some '"'
  | '\\' => some '\\'
  | '/' => some '/'
  | 'b' => some '\x08'
  | 'f' => some '\x0c'
  | 'n' => some '\n'
  | 'r' => some '\r'
  | 't' => some '\t'
  | _ => none

/-- The character written by the code unit behind `\u` and, for a surrogate pair, by the one after it.  `c` stands at
the `u`. -/
def codePoint (c : Cursor) : Reads Char :=
  let here := (c.drop 1).rest
  if here.length ≤ 4 then .error (.at_ .badCodePoint c.index)
  else
    match codeUnit? (here.take 4) with
    | none => .error (.at_ .badCodePoint c.index)
    | some n =>
      let next := c.drop 5
      if isHighSurrogate n && decide (6 < next.rest.length) && next.rest.take 2 == ['\\', 'u'] then
        match codeUnit? ((next.rest.drop 2).take 4) with
        | none => .error (.at_ .badCodePoint (next.index + 1))
        | some m =>
          if isLowSurrogate m then
            .ok (pairChar n m, next.drop 6)
          else .ok (unitChar n, next)
      else .ok (unitChar n, next)

/-- The characters up to the closing quote, in reverse before `read`.  `start` is where the text begins. -/
def textFrom (start : Nat) (read : List Char) : Nat → Cursor → Reads String
  | 0, _ => .error (.at_ .unterminatedText start)
  | fuel + 1, c =>
    match c.rest with
    | [] => .error (.at_ .unterminatedText start)
    | '"' :: _ => .ok (String.ofList read.reverse, c.drop 1)
    | '\\' :: e :: _ =>
      if e = 'u' then
        match codePoint (c.drop 1) with
        | .error stop => .error stop
        | .ok (ch, next) => textFrom start (ch :: read) fuel next
      else
        match escapedChar? e with
        | none => .error (.at_ .badEscape c.index)
        | some ch => textFrom start (ch :: read) fuel (c.drop 2)
    | ['\\'] => .error (.at_ .unterminatedText start)
    | ch :: _ =>
      if ch.toNat < 0x20 then .error (.at_ .controlCharacter c.index)
      else textFrom start (ch :: read) fuel (c.drop 1)

/-- The text whose opening quote stands in front. -/
def readText (c : Cursor) : Reads String := textFrom c.index [] c.rest.length (c.drop 1)

/-! ### Numbers -/

def isDigit (c : Char) : Bool := '0' ≤ c && c ≤ '9'

/-- The digits of a number in front: its integer part, fraction and exponent part as written. -/
def numberParts? (cs : List Char) : Option (List Char × List Char × List Char) :=
  let (sign, body) := match cs with
    | '-' :: r => (['-'], r)
    | r => ([], r)
  let whole := match body with
    | '0' :: _ => ['0']
    | r => r.takeWhile isDigit
  if whole.isEmpty then none
  else
    let r := body.drop whole.length
    let fraction := match r with
      | '.' :: ds => if (ds.takeWhile isDigit).isEmpty then [] else '.' :: ds.takeWhile isDigit
      | _ => []
    let r := r.drop fraction.length
    let exponent := match r with
      | e :: s :: ds =>
        if e = 'e' ∨ e = 'E' then
          if s = '+' ∨ s = '-' then
            (if (ds.takeWhile isDigit).isEmpty then [] else e :: s :: ds.takeWhile isDigit)
          else (if isDigit s then e :: (s :: ds).takeWhile isDigit else [])
        else []
      | _ => []
    some (sign ++ whole, fraction, exponent)

/-- The number in front. -/
def readNumber (c : Cursor) : Reads Json :=
  match numberParts? c.rest with
  | none => .error (.at_ .value c.index)
  | some (whole, fraction, exponent) =>
    let next := c.drop (whole.length + fraction.length + exponent.length)
    if fraction.isEmpty && exponent.isEmpty then
      match Numeral.read (String.ofList whole) with
      | .ok n => .ok (.int n, next)
      | .error fault => .error (.numeral fault)
    else
      let (negative, body) := Decimal.splitSign (whole ++ fraction ++ exponent)
      match Decimal.readFinite? body with
      | some (m, e) => .ok (.float (Binary64.ofDecimal negative m e), next)
      | none => .error (.at_ .value c.index)

/-! ### Values -/

/-- The words of the grammar and their values. -/
def words : List (List Char × Json) :=
  [("null".toList, .null), ("true".toList, .bool true), ("false".toList, .bool false),
    ("NaN".toList, .float Binary64.nan), ("Infinity".toList, .float (Binary64.infinity false)),
    ("-Infinity".toList, .float (Binary64.infinity true))]

def readWord? (c : Cursor) : Option (Json × Cursor) :=
  (words.find? fun w => w.1.isPrefixOf c.rest).map fun w => (w.2, c.drop w.1.length)

/-- The elements of an array after its bracket, and the closing bracket. -/
def elements (item : Cursor → Reads Json) (read : List Json) : Nat → Cursor → Reads Json
  | 0, c => .error (.at_ .value c.index)
  | fuel + 1, c =>
    match item c with
    | .error stop => .error stop
    | .ok (v, next) =>
      let next := next.skipBlanks
      match next.rest with
      | ']' :: _ => .ok (.array (v :: read).reverse, next.drop 1)
      | ',' :: _ => elements item (v :: read) fuel (next.drop 1).skipBlanks
      | _ => .error (.at_ .comma next.index)

/-- The members of an object after its brace, and the closing brace. -/
def members (item : Cursor → Reads Json) (read : List (String × Json)) : Nat → Cursor → Reads Json
  | 0, c => .error (.at_ .propertyName c.index)
  | fuel + 1, c =>
    match c.rest with
    | '"' :: _ =>
      match readText c with
      | .error stop => .error stop
      | .ok (key, next) =>
        let next := next.skipBlanks
        match next.rest with
        | ':' :: _ =>
          match item (next.drop 1).skipBlanks with
          | .error stop => .error stop
          | .ok (v, next) =>
            let read := setMember key v read
            let next := next.skipBlanks
            match next.rest with
            | '\x7d' :: _ => .ok (.object read, next.drop 1)
            | ',' :: _ => members item read fuel (next.drop 1).skipBlanks
            | _ => .error (.at_ .comma next.index)
        | _ => .error (.at_ .colon next.index)
    | _ => .error (.at_ .propertyName c.index)

/-- The value in front, with at most `depth` arrays and objects inside each other. -/
def readValue : Nat → Cursor → Reads Json
  | depth, c =>
    match c.rest with
    | '"' :: _ => (readText c).map fun (s, next) => (.text s, next)
    | '[' :: _ =>
      match depth with
      | 0 => .error .tooDeep
      | depth + 1 =>
        let next := (c.drop 1).skipBlanks
        match next.rest with
        | ']' :: _ => .ok (.array [], next.drop 1)
        | _ => elements (readValue depth) [] (next.rest.length + 1) next
    | '\x7b' :: _ =>
      match depth with
      | 0 => .error .tooDeep
      | depth + 1 =>
        let next := (c.drop 1).skipBlanks
        match next.rest with
        | '\x7d' :: _ => .ok (.object [], next.drop 1)
        | _ => members (readValue depth) [] (next.rest.length + 1) next
    | _ =>
      match readWord? c with
      | some r => .ok r
      | none => readNumber c

/-! ### Documents -/

/-- How deep arrays and objects may nest. -/
def maxDepth : Nat := 960

/-- The fault at a position, told by line and column as well. -/
def faultAt (doc : List Char) (problem : JsonProblem) (index : Nat) : JsonFault :=
  let before := doc.take index
  .malformed problem (before.count '\n' + 1) ((before.reverse.takeWhile (· ≠ '\n')).length + 1) index

/-- Read a document: one value with nothing but white space around it. -/
def read (s : String) : Except JsonFault Json :=
  let doc := s.toList
  match doc with
  | '\ufeff' :: _ => .error (faultAt doc .byteOrderMark 0)
  | _ =>
    match readValue maxDepth (Cursor.skipBlanks ⟨doc, 0⟩) with
    | .error (.at_ problem index) => .error (faultAt doc problem index)
    | .error .tooDeep => .error .tooDeep
    | .error (.numeral fault) => .error (.numeral fault)
    | .ok (v, next) =>
      let next := next.skipBlanks
      if next.rest.isEmpty then .ok v else .error (faultAt doc .extraData next.index)

end FlowRules.Json
