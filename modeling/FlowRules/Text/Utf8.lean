import FlowRules.Text.Basic

/-!
# Bytes as text

Bytes in the variable-width encoding of Unicode.  Where they are no such text, the report names the first bytes that
cannot be read and why.
-/

namespace FlowRules.Text

inductive Utf8Problem where
  | startByte
  | continuationByte
  | truncated
  deriving DecidableEq, Repr

/-- The bytes at `start` and up to before `stop` cannot be read. -/
structure Utf8Fault where
  problem : Utf8Problem
  first : UInt8
  start : Nat
  stop : Nat
  deriving DecidableEq, Repr

namespace Utf8Fault

def reason : Utf8Problem → String
  | .startByte => "invalid start byte"
  | .continuationByte => "invalid continuation byte"
  | .truncated => "unexpected end of data"

def message (f : Utf8Fault) : String :=
  let place :=
    if f.stop = f.start + 1 then
      "byte 0x" ++ String.ofList (hexDigits 2 f.first.toNat) ++ " in position " ++ toString f.start
    else "bytes in position " ++ toString f.start ++ "-" ++ toString (f.stop - 1)
  "'utf-8' codec can't decode " ++ place ++ ": " ++ reason f.problem

end Utf8Fault

/-- The range of the byte that may follow a first byte, and how many bytes follow it. -/
def utf8Shape? (b : UInt8) : Option (Nat × Nat × Nat) :=
  let n := b.toNat
  if 0xc2 ≤ n ∧ n ≤ 0xdf then some (0x80, 0xbf, 1)
  else if n = 0xe0 then some (0xa0, 0xbf, 2)
  else if n = 0xed then some (0x80, 0x9f, 2)
  else if 0xe1 ≤ n ∧ n ≤ 0xef then some (0x80, 0xbf, 2)
  else if n = 0xf0 then some (0x90, 0xbf, 3)
  else if 0xf1 ≤ n ∧ n ≤ 0xf3 then some (0x80, 0xbf, 3)
  else if n = 0xf4 then some (0x80, 0x8f, 3)
  else none

/-- The payload of a first byte that `following` bytes follow. -/
def utf8Head (b : UInt8) (following : Nat) : Nat := b.toNat % 2 ^ (6 - following)

/-- Decode from position `at` on.  While inside a character, `open` holds its first byte, its position, its value so
far, the range of its next byte and how many bytes are still to come. -/
def utf8Chars (place : Nat) (pending : Option (UInt8 × Nat × Nat × Nat × Nat × Nat)) :
    List UInt8 → Except Utf8Fault (List Char)
  | [] =>
    match pending with
    | none => .ok []
    | some (first, start, _) => .error ⟨.truncated, first, start, place⟩
  | b :: bs =>
    match pending with
    | some (first, start, value, low, high, following) =>
      if low ≤ b.toNat ∧ b.toNat ≤ high then
        let value := value * 64 + b.toNat % 64
        if following = 1 then do
          let rest ← utf8Chars (place + 1) none bs
          .ok (Char.ofNat value :: rest)
        else utf8Chars (place + 1) (some (first, start, value, 0x80, 0xbf, following - 1)) bs
      else .error ⟨.continuationByte, first, start, place⟩
    | none =>
      if b.toNat < 0x80 then do
        let rest ← utf8Chars (place + 1) none bs
        .ok (Char.ofNat b.toNat :: rest)
      else
        match utf8Shape? b with
        | none => .error ⟨.startByte, b, place, place + 1⟩
        | some (low, high, following) =>
          utf8Chars (place + 1) (some (b, place, utf8Head b following, low, high, following)) bs

def ofUtf8 (bytes : List UInt8) : Except Utf8Fault String := (utf8Chars 0 none bytes).map String.ofList

/-- Every line ends in a single line feed. -/
def unifyNewlines : List Char → List Char
  | [] => []
  | '\r' :: '\n' :: cs => '\n' :: unifyNewlines cs
  | '\r' :: cs => '\n' :: unifyNewlines cs
  | c :: cs => c :: unifyNewlines cs

end FlowRules.Text
