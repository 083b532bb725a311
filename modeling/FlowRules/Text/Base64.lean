import FlowRules.Text.Quoted

/-!
# Bytes in base sixty-four

Four digits stand for three bytes.  Characters that are no digits are skipped.  The padding that completes a group of
four ends the text, whatever follows; padding in any other place is skipped as well.  Characters outside the basic
alphabet are not even skipped.
-/

namespace FlowRules.Text

/-- Why a text is no sequence of bytes in base sixty-four. -/
inductive Base64Fault where
  /-- The characters from `start` up to before `stop` are not of the basic alphabet. -/
  | foreign (first : Char) (start stop : Nat)
  /-- The last group has a single digit. -/
  | oneTooMany (digits : Nat)
  /-- The last group has too little padding. -/
  | padding
  deriving DecidableEq, Repr

namespace Base64Fault

def message : Base64Fault → String
  | foreign first start stop =>
    let place :=
      if stop = start + 1 then
        "character '" ++ String.ofList (escaped first) ++ "' in position " ++ toString start
      else "characters in position " ++ toString start ++ "-" ++ toString (stop - 1)
    "'ascii' codec can't encode " ++ place ++ ": ordinal not in range(128)"
  | oneTooMany digits =>
    "Invalid base64-encoded string: number of data characters (" ++ toString digits ++
      ") cannot be 1 more than a multiple of 4"
  | padding => "Incorrect padding"

end Base64Fault

namespace Base64

def digit? (c : Char) : Option Nat :=
  let n := c.toNat
  if 'A' ≤ c ∧ c ≤ 'Z' then some (n - 65)
  else if 'a' ≤ c ∧ c ≤ 'z' then some (n - 71)
  else if '0' ≤ c ∧ c ≤ '9' then some (n + 4)
  else if c = '+' then some 62
  else if c = '/' then some 63
  else none

/-- How far the current group of four has been read. -/
structure Group where
  /-- The number of its digits so far. -/
  digits : Nat := 0
  /-- The bits of its last digit that are in no byte yet. -/
  left : Nat := 0
  /-- The padding behind its last digit. -/
  pads : Nat := 0
  deriving DecidableEq, Repr

/-- The group with another digit, and the byte that the digit completes. -/
def Group.add (g : Group) (d : Nat) : Group × Option UInt8 :=
  match g.digits with
  | 0 => ({ digits := 1, left := d }, none)
  | 1 => ({ digits := 2, left := d % 16 }, some (UInt8.ofNat (g.left * 4 + d / 16)))
  | 2 => ({ digits := 3, left := d % 4 }, some (UInt8.ofNat (g.left * 16 + d / 4)))
  | _ => ({}, some (UInt8.ofNat (g.left * 64 + d)))

/-- The bytes of a text; those in front of it are given with the last one first. -/
def bytesFrom (g : Group) (before : List UInt8) : List Char → Except Base64Fault (List UInt8)
  | [] =>
    match g.digits with
    | 0 => .ok before.reverse
    | 1 => .error (.oneTooMany (before.length / 3 * 4 + 1))
    | _ => .error .padding
  | c :: cs =>
    match digit? c with
    | some d =>
      match g.add d with
      | (g, some b) => bytesFrom g (b :: before) cs
      | (g, none) => bytesFrom g before cs
    | none =>
      if c = '=' ∧ 2 ≤ g.digits then
        if 4 ≤ g.digits + g.pads + 1 then .ok before.reverse
        else bytesFrom { g with pads := g.pads + 1 } before cs
      else bytesFrom g before cs

private def isForeign (c : Char) : Bool := 0x80 ≤ c.toNat

/-- The first characters outside the basic alphabet. -/
def foreign? (cs : List Char) : Option Base64Fault :=
  let basic := cs.takeWhile fun c => !isForeign c
  let rest := cs.drop basic.length
  rest.head?.map fun c => .foreign c basic.length (basic.length + (rest.takeWhile isForeign).length)

end Base64

/-- The bytes that a text in base sixty-four stands for. -/
def ofBase64 (s : String) : Except Base64Fault (List UInt8) :=
  match Base64.foreign? s.toList with
  | some f => .error f
  | none => Base64.bytesFrom {} [] s.toList

end FlowRules.Text
