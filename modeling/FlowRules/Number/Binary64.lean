import FlowRules.Number.Decimal

/-!
# Binary floating-point numbers

A number of the 64-bit binary format is given by its sign, biased exponent and fraction, so that every number of
the format has exactly one form.  Its value is `m · 2 ^ q` for the natural number and exponent of `parts`; every
operation rounds the exact result to the nearest number, a tie to the even one.
-/

namespace FlowRules

structure Binary64 where
  negative : Bool
  exponent : Fin 2048
  fraction : Fin (2 ^ 52)
  deriving DecidableEq, Repr, Inhabited

namespace Binary64

def isNaN (x : Binary64) : Bool := x.exponent == 2047 && x.fraction != 0

def isInfinite (x : Binary64) : Bool := x.exponent == 2047 && x.fraction == 0

def isFinite (x : Binary64) : Bool := x.exponent != 2047

def isZero (x : Binary64) : Bool := x.exponent == 0 && x.fraction == 0

def nan : Binary64 := ⟨false, 2047, Fin.ofNat _ (2 ^ 51)⟩

def infinity (negative : Bool) : Binary64 := ⟨negative, 2047, 0⟩

def zero (negative : Bool) : Binary64 := ⟨negative, 0, 0⟩

/-- A finite number is `m · 2 ^ q` up to its sign. -/
def parts (x : Binary64) : Nat × Int :=
  if x.exponent.val = 0 then (x.fraction.val, -1074)
  else (2 ^ 52 + x.fraction.val, (x.exponent.val : Int) - 1075)

def negate (x : Binary64) : Binary64 := { x with negative := !x.negative }

/-! ### Rounding -/

/-- `num / den` to the nearest natural number, a half to the even neighbour. -/
def divRound (num den : Nat) : Nat :=
  let q := num / den
  let r := num % den
  if den < 2 * r ∨ (den = 2 * r ∧ q % 2 = 1) then q + 1 else q

/-- `num / den · 2 ^ (-q)` rounded. -/
def scaled (num den : Nat) (q : Int) : Nat :=
  if 0 ≤ q then divRound num (den * 2 ^ q.toNat) else divRound (num * 2 ^ (-q).toNat) den

/-- The number `m · 2 ^ q`, where `m` has at most 53 binary digits and the full 53 unless `q` is least. -/
def ofParts (negative : Bool) (m : Nat) (q : Int) : Binary64 :=
  if 971 < q then infinity negative
  else if m < 2 ^ 52 then ⟨negative, 0, Fin.ofNat _ m⟩
  else ⟨negative, Fin.ofNat _ (q + 1075).toNat, Fin.ofNat _ (m - 2 ^ 52)⟩

/-- The exponent at which `num / den` has 53 binary digits, or the least exponent. -/
def scaleFor (num den : Nat) : Int :=
  let guess : Int := (num.log2 : Int) - den.log2 - 52
  let below := if 0 ≤ guess then num < den * 2 ^ (guess.toNat + 52) else num * 2 ^ (-guess).toNat < den * 2 ^ 52
  max (-1074) (if below then guess - 1 else guess)

/-- The number nearest to `num / den`. -/
def ofRatio (negative : Bool) (num den : Nat) : Binary64 :=
  if num = 0 then zero negative
  else
    let q := scaleFor num den
    let m := scaled num den q
    if m = 2 ^ 53 then ofParts negative (2 ^ 52) (q + 1) else ofParts negative m q

/-- The number nearest to `c · 10 ^ e`. -/
def ofDecimal (negative : Bool) (c : Nat) (e : Int) : Binary64 :=
  let place := e + Decimal.digitCount c
  if c = 0 ∨ place < -330 then zero negative
  else if 310 < place then infinity negative
  else if 0 ≤ e then ofRatio negative (c * 10 ^ e.toNat) 1
  else ofRatio negative c (10 ^ (-e).toNat)

/-- The number nearest to an integer; too large an integer has none. -/
def ofInt? (n : Int) : Option Binary64 :=
  let x := ofRatio (n < 0) n.natAbs 1
  if x.isFinite then some (if n = 0 then zero false else x) else none

/-! ### Exact value -/

/-- The exact decimal value of a number. -/
def exactDecimal (x : Binary64) : Decimal :=
  if x.isNaN then .nan x.negative false 0
  else if x.isInfinite then .infinite x.negative
  else
    let (m, q) := x.parts
    if 0 ≤ q then .finite x.negative (m * 2 ^ q.toNat) 0
    else .finite x.negative (m * 5 ^ (-q).toNat) q

/-- The exact value as a signed multiple of `2 ^ (-1074)`. -/
def units (x : Binary64) : Int :=
  let (m, q) := x.parts
  let n : Int := m * 2 ^ (q + 1074).toNat
  if x.negative then -n else n

/-- The integer that a number is, if it is one. -/
def toInt? (x : Binary64) : Option Int :=
  if x.isFinite ∧ x.units % 2 ^ 1074 = 0 then some (x.units / 2 ^ 1074) else none

/-- The order of two numbers; there is none when one of them is not a number. -/
def compare? (x y : Binary64) : Option Ordering :=
  if x.isNaN || y.isNaN then none
  else some (compare x.units y.units)

/-- The order of a number and an integer. -/
def compareInt? (x : Binary64) (n : Int) : Option Ordering :=
  if x.isNaN then none
  else if x.isInfinite then some (if x.negative then .lt else .gt)
  else some (compare x.units (n * 2 ^ 1074))

def add (x y : Binary64) : Binary64 :=
  if x.isNaN || y.isNaN then nan
  else if x.isInfinite then (if y.isInfinite && x.negative != y.negative then nan else x)
  else if y.isInfinite then y
  else
    let sum := x.units + y.units
    if sum = 0 then zero (x.negative && y.negative)
    else ofRatio (sum < 0) sum.natAbs (2 ^ 1074)

def mul (x y : Binary64) : Binary64 :=
  let negative := x.negative != y.negative
  if x.isNaN || y.isNaN then nan
  else if x.isInfinite || y.isInfinite then (if x.isZero || y.isZero then nan else infinity negative)
  else ofRatio negative (x.units.natAbs * y.units.natAbs) (2 ^ 2148)

/-! ### Shortest text -/

/-- The place of the first digit of `m · 2 ^ q`, where `m` is not zero. -/
def firstPlace (m : Nat) (q : Int) : Int :=
  if 0 ≤ q then (Decimal.digitCount (m * 2 ^ q.toNat) : Int) - 1
  else (Decimal.digitCount (m * 5 ^ (-q).toNat) : Int) + q - 1

/-- `m · 2 ^ q` in units of `10 ^ p`, as a fraction. -/
def inUnits (m : Nat) (q p : Int) : Nat × Nat :=
  (m * 2 ^ q.toNat * 10 ^ (-p).toNat, 2 ^ (-q).toNat * 10 ^ p.toNat)

/-- The neighbour of a number on the grid of multiples of `10 ^ p` that reads back as it: of two such neighbours
the nearer, of two equally near the even one. -/
def nearestOnGrid? (x : Binary64) (p : Int) : Option Nat :=
  let (m, q) := x.parts
  let (num, den) := inUnits m q p
  let lo := num / den
  let hi := lo + 1
  let back := fun (c : Nat) => decide (ofDecimal x.negative c p = x)
  match back lo, back hi with
  | true, true => some (divRound num den)
  | true, false => some lo
  | false, true => some hi
  | false, false => none

/-- The first grid, from coarse to fine, with a neighbour that reads back. -/
def searchGrids (x : Binary64) (p : Int) : Nat → Nat × Int
  | 0 => (0, 0)
  | fuel + 1 =>
    match nearestOnGrid? x p with
    | some c => (c, p)
    | none => searchGrids x (p - 1) fuel

/-- Drop the zeros at the end of a coefficient. -/
def dropZeros (c : Nat) (e : Int) : Nat → Nat × Int
  | 0 => (c, e)
  | fuel + 1 => if c % 10 = 0 ∧ c ≠ 0 then dropZeros (c / 10) (e + 1) fuel else (c, e)

/-- The fewest digits that read back as a finite number other than zero: coefficient and exponent. -/
def shortest (x : Binary64) : Nat × Int :=
  let (m, q) := x.parts
  let (c, p) := searchGrids x (firstPlace m q) 17
  dropZeros c p 17

/-- The exponent part of digits in writing. -/
def exponentChars (n : Int) : List Char :=
  let digits := Text.natDigits n.natAbs
  'e' :: (if n < 0 then '-' else '+') :: (if digits.length < 2 then '0' :: digits else digits)

/-- Digits in writing: positional while the first digit stands between the fourth place after the point and the
sixteenth before it, with at least one digit after the point; else with an exponent of two digits or more. -/
def digitsText (c : Nat) (e : Int) : List Char :=
  let digits := Text.natDigits c
  let left := e + digits.length
  if -4 < left ∧ left ≤ 16 then
    if left ≤ 0 then '0' :: '.' :: (List.replicate (-left).toNat '0' ++ digits)
    else if digits.length ≤ left.toNat then digits ++ List.replicate (left.toNat - digits.length) '0' ++ ['.', '0']
    else digits.take left.toNat ++ '.' :: digits.drop left.toNat
  else
    (match digits with
      | [] => []
      | [d] => [d]
      | d :: ds => d :: '.' :: ds) ++ exponentChars (left - 1)

def toChars (x : Binary64) : List Char :=
  if x.isNaN then "nan".toList
  else
    (if x.negative then ['-'] else []) ++
      (if x.isInfinite then "inf".toList
      else if x.isZero then "0.0".toList
      else let (c, e) := x.shortest; digitsText c e)

/-- The shortest text that reads back as the number. -/
def toText (x : Binary64) : String := String.ofList x.toChars

/-! ### Reading -/

/-- Drop the underscores that stand between two digits; any other underscore stays and spoils the numeral. -/
def dropSeparators : Bool → List Char → List Char
  | afterDigit, '_' :: c :: cs =>
    if afterDigit && Decimal.isPlainDigit c then c :: dropSeparators true cs else '_' :: dropSeparators false (c :: cs)
  | _, c :: cs => c :: dropSeparators (Decimal.isPlainDigit c) cs
  | _, [] => []
termination_by _ cs => cs.length

/-- Read a number.  White space around it and single underscores between digits are ignored. -/
def read? (s : String) : Option Binary64 :=
  let plain := dropSeparators false ((Decimal.unpadded s.toList).map Decimal.plainDigit)
  let (negative, body) := Decimal.splitSign plain
  match Decimal.readFinite? body with
  | some (c, e) => some (ofDecimal negative c e)
  | none =>
    match Decimal.readSpecial? negative body with
    | some (.infinite s) => some (infinity s)
    | some (.nan s false 0) => if body.length = 3 then some { nan with negative := s } else none
    | _ => none

end Binary64
end FlowRules
