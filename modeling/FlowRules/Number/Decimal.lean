import FlowRules.Text.Basic

/-!
# Exact decimals

A decimal is a signed coefficient with a power of ten, an infinity, or no number at all.  Trailing zeros count:
`1.5` and `1.50` are equal but written differently.  Comparison is exact; only the change of sign rounds, to 28
significant digits.
-/

namespace FlowRules

inductive Decimal where
  | finite (negative : Bool) (coefficient : Nat) (exponent : Int)
  | infinite (negative : Bool)
  /-- A result that is no number; a signaling one may not even be compared. -/
  | nan (negative signaling : Bool) (payload : Nat)
  deriving DecidableEq, Repr, Inhabited

/-- Why an operation on decimals has no result. -/
inductive DecimalFault where
  | invalidOperation
  | overflow
  deriving DecidableEq, Repr

namespace Decimal

def ofInt (n : Int) : Decimal := .finite (n < 0) n.natAbs 0

def zero : Decimal := .finite false 0 0

def isNaN : Decimal → Bool
  | .nan .. => true
  | _ => false

def isSignaling : Decimal → Bool
  | .nan _ s _ => s
  | _ => false

def isZero : Decimal → Bool
  | .finite _ c _ => c == 0
  | _ => false

/-! ### Order -/

/-- The number of decimal digits of a coefficient. -/
def digitCount (n : Nat) : Nat := (Text.natDigits n).length

/-- The order of `c · 10 ^ e` and `d · 10 ^ f`.  Magnitudes that differ in the place of their first digit are told
apart by it, so that no power of ten larger than the coefficients is formed. -/
def compareMagnitude (c : Nat) (e : Int) (d : Nat) (f : Int) : Ordering :=
  if c = 0 then (if d = 0 then .eq else .lt)
  else if d = 0 then .gt
  else
    match compare (digitCount c + e) (digitCount d + f) with
    | .lt => .lt
    | .gt => .gt
    | .eq =>
      if f ≤ e then compare (c * 10 ^ (e - f).toNat) d else compare c (d * 10 ^ (f - e).toNat)

/-- The order of two decimals; there is none when one of them is not a number. -/
def compare? : Decimal → Decimal → Option Ordering
  | .nan .., _ => none
  | _, .nan .. => none
  | .infinite s, .infinite t => some (if s = t then .eq else if s then .lt else .gt)
  | .infinite s, .finite .. => some (if s then .lt else .gt)
  | .finite .., .infinite t => some (if t then .gt else .lt)
  | .finite s c e, .finite t d f =>
    some <|
      if c = 0 ∧ d = 0 then .eq
      else
        match decide (s = true ∧ c ≠ 0), decide (t = true ∧ d ≠ 0) with
        | false, false => compareMagnitude c e d f
        | true, true => compareMagnitude d f c e
        | true, false => .lt
        | false, true => .gt

/-- Equality.  Something that is no number differs from everything, and a signaling one may not be compared. -/
def equals (x y : Decimal) : Except DecimalFault Bool :=
  if x.isSignaling || y.isSignaling then .error .invalidOperation
  else .ok (compare? x y == some .eq)

/-- The order, where asking for it is an error if one side is not a number. -/
def order (x y : Decimal) : Except DecimalFault Ordering :=
  match compare? x y with
  | some o => .ok o
  | none => .error .invalidOperation

/-! ### Change of sign -/

/-- Significant digits of a computed result. -/
def precision : Nat := 28

/-- The greatest and the least place of the first digit of a computed result. -/
def maxPlace : Int := 999999
def minPlace : Int := -999999

/-- The place of the last digit of the smallest results. -/
def leastExponent : Int := -1000026

/-- `c / 10 ^ k` to the nearest natural number, a half to the even neighbour. -/
def divRound (c k : Nat) : Nat :=
  if digitCount c < k then 0
  else
    let unit := 10 ^ k
    let q := c / unit
    let r := c % unit
    if unit < 2 * r ∨ (unit = 2 * r ∧ q % 2 = 1) then q + 1 else q

/-- Round to the precision and range of computed results. -/
def rounded (negative : Bool) (c : Nat) (e : Int) : Except DecimalFault Decimal :=
  if c = 0 then .ok (.finite negative 0 (max leastExponent (min maxPlace e)))
  else
    let digits := digitCount c
    let place := e + digits - 1
    let spare := digits - precision
    let drop := if place < minPlace then max spare (leastExponent - e).toNat else spare
    let q := divRound c drop
    let (q, drop) := if q = 10 ^ precision then (q / 10, drop + 1) else (q, drop)
    let e := e + drop
    if maxPlace < e + digitCount q - 1 then .error .overflow else .ok (.finite negative q e)

/-- The decimal with the opposite sign, rounded; zero loses its sign. -/
def negate : Decimal → Except DecimalFault Decimal
  | .nan _ true _ => .error .invalidOperation
  | .nan s false p => .ok (.nan s false (p % 10 ^ precision))
  | .infinite s => .ok (.infinite (!s))
  | .finite s c e => rounded (if c = 0 then false else !s) c e

/-! ### Text -/

private def signChars (negative : Bool) : List Char := if negative then ['-'] else []

private def exponentChars (n : Int) : List Char :=
  'E' :: (if n < 0 then '-' else '+') :: Text.natDigits n.natAbs

/-- A coefficient and exponent in writing: without an exponent part when the exponent is not positive and at most
five zeros follow the point, else with one digit before the point. -/
def finiteChars (c : Nat) (e : Int) : List Char :=
  let digits := Text.natDigits c
  let left := e + digits.length
  if e ≤ 0 ∧ -6 < left then
    if left ≤ 0 then '0' :: '.' :: (List.replicate (-left).toNat '0' ++ digits)
    else if e = 0 then digits
    else digits.take left.toNat ++ '.' :: digits.drop left.toNat
  else
    (match digits with
      | [] => []
      | [d] => [d]
      | d :: ds => d :: '.' :: ds) ++ exponentChars (left - 1)

def toChars : Decimal → List Char
  | .finite s c e => signChars s ++ finiteChars c e
  | .infinite s => signChars s ++ "Infinity".toList
  | .nan s signaling p =>
    signChars s ++ (if signaling then "sNaN" else "NaN").toList ++ (if p = 0 then [] else Text.natDigits p)

/-- The text of a decimal; it reads back as the same decimal. -/
def toText (d : Decimal) : String := String.ofList d.toChars

/-! ### Reading -/

/-- Digits of every script become basic digits; other characters outside the basic alphabet spoil the numeral. -/
def plainDigit (c : Char) : Char :=
  if c.toNat < 128 then c
  else
    match Text.digitValue? c with
    | some d => Text.decimalDigit d
    | none => if Text.isBlank c then ' ' else '?'

/-- White space that may stand around a numeral.  The four separators of groups and records may not. -/
def isPadding (c : Char) : Bool := Text.isBlank c && !('\x1c' ≤ c && c ≤ '\x1f')

/-- A numeral without the white space around it. -/
def unpadded (cs : List Char) : List Char :=
  ((cs.dropWhile isPadding).reverse.dropWhile isPadding).reverse

def isPlainDigit (c : Char) : Bool := '0' ≤ c && c ≤ '9'

/-- The value of a list of basic digits. -/
def plainValue (cs : List Char) : Nat := cs.foldl (fun n c => 10 * n + (c.toNat - 48)) 0

/-- The sign in front of a numeral, and the rest. -/
def splitSign : List Char → Bool × List Char
  | '-' :: cs => (true, cs)
  | '+' :: cs => (false, cs)
  | cs => (false, cs)

/-- The exponent part of a numeral: nothing, or `e` with an optional sign and digits. -/
def readExponent? : List Char → Option Int
  | [] => some 0
  | c :: cs =>
    if c = 'e' ∨ c = 'E' then
      let (negative, ds) := splitSign cs
      if ds.isEmpty || !ds.all isPlainDigit then none
      else some (if negative then -(plainValue ds : Int) else plainValue ds)
    else none

/-- Coefficient and exponent of an unsigned numeral such as `12`, `1.50`, `.5` or `1e3`. -/
def readFinite? (cs : List Char) : Option (Nat × Int) :=
  let whole := cs.takeWhile isPlainDigit
  let rest := cs.dropWhile isPlainDigit
  let (fraction, rest) :=
    match rest with
    | '.' :: more => (more.takeWhile isPlainDigit, more.dropWhile isPlainDigit)
    | _ => ([], rest)
  if whole.isEmpty && fraction.isEmpty then none
  else
    match readExponent? rest with
    | none => none
    | some e => some (plainValue (whole ++ fraction), e - fraction.length)

/-- Whether a numeral is within the range of decimals at all. -/
def inRange (c : Nat) (e : Int) : Bool :=
  decide (-1999999999999999997 ≤ e) && decide (e + (digitCount c - 1 : Nat) ≤ 999999999999999999)

/-- Only an exponent part takes a numeral out of the range; no text has that many digits. -/
def hasExponent (cs : List Char) : Bool := cs.any fun c => c == 'e' || c == 'E'

/-- The words for what is not finite. -/
def readSpecial? (negative : Bool) (cs : List Char) : Option Decimal :=
  let word := cs.map Text.lowerAscii
  if word = "inf".toList ∨ word = "infinity".toList then some (.infinite negative)
  else
    let (signaling, rest) := if word.head? = some 's' then (true, word.drop 1) else (false, word)
    if rest.take 3 = "nan".toList ∧ (rest.drop 3).all isPlainDigit then
      some (.nan negative signaling (plainValue (rest.drop 3)))
    else none

/-- Read a decimal.  White space around it and underscores anywhere are ignored. -/
def readChars? (cs : List Char) : Option Decimal :=
  let plain := ((Text.trimChars cs).filter (· ≠ '_')).map plainDigit
  let (negative, body) := splitSign plain
  match readFinite? body with
  | some (c, e) => if hasExponent body && !inRange c e then none else some (.finite negative c e)
  | none => readSpecial? negative body

def read? (s : String) : Option Decimal := readChars? s.toList

end Decimal
end FlowRules
