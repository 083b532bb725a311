import FlowRules.Number.Binary64
import FlowRules.Text.Quoted

/-!
# Integers in writing

Integers of any size are computed with, but only those of at most 4300 digits are read or written.  In a base that
is a power of two there is no such limit.
-/

namespace FlowRules

/-- Why a text is not read as an integer, or an integer not written. -/
inductive NumeralFault where
  | malformed (base : Nat) (text : String)
  | tooLongToRead (digits : Nat)
  | tooLongToWrite
  deriving DecidableEq, Repr

namespace Numeral

def maxDigits : Nat := 4300

/-- The decimal text of an integer. -/
def write (n : Int) : Except NumeralFault String :=
  if maxDigits < Decimal.digitCount n.natAbs then .error .tooLongToWrite
  else .ok (String.ofList ((if n < 0 then ['-'] else []) ++ Text.natDigits n.natAbs))

/-! ### Digits -/

def hexValue? (c : Char) : Option Nat :=
  if '0' ≤ c ∧ c ≤ '9' then some (c.toNat - 48)
  else if 'a' ≤ c ∧ c ≤ 'f' then some (c.toNat - 87)
  else if 'A' ≤ c ∧ c ≤ 'F' then some (c.toNat - 55)
  else none

def isHexDigit (c : Char) : Bool := (hexValue? c).isSome

/-- The value of a digit in a base of at most sixteen. -/
def digitValue? (base : Nat) (c : Char) : Option Nat := (hexValue? c).filter (· < base)

/-- The value of a list of digits. -/
def valueIn (base : Nat) (digits : List Char) : Nat :=
  digits.foldl (fun n c => base * n + (hexValue? c).getD 0) 0

/-- Digits joined by single underscores, without the underscores. -/
def ungroup : List Char → Option (List Char)
  | [] | '_' :: _ => none
  | [c] => some [c]
  | c :: '_' :: cs => (ungroup cs).map (c :: ·)
  | c :: cs => (ungroup cs).map (c :: ·)
termination_by cs => cs.length

/-! ### Reading -/

/-- The letter that marks a base behind a leading zero. -/
def mark? : Nat → Option (Char × Char)
  | 2 => some ('b', 'B')
  | 8 => some ('o', 'O')
  | 16 => some ('x', 'X')
  | _ => none

/-- The digits without the mark of the base and an underscore behind it; both may be missing. -/
def dropMark (base : Nat) (cs : List Char) : List Char :=
  match cs, mark? base with
  | '0' :: c :: rest, some (small, capital) =>
    if c = small ∨ c = capital then
      match rest with
      | '_' :: digits => digits
      | _ => rest
    else cs
  | _, _ => cs

/-- Read an integer in a base of at most sixteen.  White space around it and single underscores between digits are
ignored, and the digits may be of any script.  The digits in front of the first other character are counted before
that character is complained of. -/
def readIn (base : Nat) (s : String) : Except NumeralFault Int :=
  let plain := (Decimal.unpadded s.toList).map Decimal.plainDigit
  let (negative, signless) := Decimal.splitSign plain
  let body := dropMark base signless
  let run := body.takeWhile fun c => c = '_' || (digitValue? base c).isSome
  match ungroup run with
  | none => .error (.malformed base s)
  | some digits =>
    if (mark? base).isNone ∧ maxDigits < digits.length then .error (.tooLongToRead digits.length)
    else if run.length < body.length then .error (.malformed base s)
    else
      let n : Int := valueIn base digits
      .ok (if negative then -n else n)

/-- Read an integer in base ten. -/
def read (s : String) : Except NumeralFault Int := readIn 10 s

end Numeral

namespace NumeralFault

/-- How much of a quoted text is shown. -/
def shownLength : Nat := 200

def message : NumeralFault → String
  | malformed base text =>
    "invalid literal for int() with base " ++ toString base ++ ": " ++
      String.ofList ((Text.quoted text).toList.take shownLength)
  | tooLongToRead digits =>
    "Exceeds the limit (4300 digits) for integer string conversion: value has " ++ toString digits ++
      " digits; use sys.set_int_max_str_digits() to increase the limit"
  | tooLongToWrite =>
    "Exceeds the limit (4300 digits) for integer string conversion; use sys.set_int_max_str_digits() to " ++
      "increase the limit"

end NumeralFault
end FlowRules
