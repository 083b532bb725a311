import FlowRules.Json.Basic

/-!
# Writing JSON

Texts are written with the basic alphabet only, items are divided by a comma and a blank, and a colon and a blank
stand behind a member's name.
-/

namespace FlowRules.Json

/-- The escape of a code unit. -/
def codeUnit (n : Nat) : List Char := '\\' :: 'u' :: Text.hexDigits 4 n

/-- How one character is written inside a text. -/
def writtenChar (c : Char) : List Char :=
  match c with
  | '"' => ['\\', '"']
  | '\\' => ['\\', '\\']
  | '\n' => ['\\', 'n']
  | '\r' => ['\\', 'r']
  | '\t' => ['\\', 't']
  | '\x0c' => ['\\', 'f']
  | '\x08' => ['\\', 'b']
  | _ =>
    let n := c.toNat
    if 0x20 ≤ n ∧ n < 0x7f then [c]
    else if n < 0x10000 then codeUnit n
    else codeUnit (0xd800 + (n - 0x10000) / 0x400) ++ codeUnit (0xdc00 + (n - 0x10000) % 0x400)

def writeText (s : String) : List Char := '"' :: s.toList.flatMap writtenChar ++ ['"']

def writeFloat (x : Binary64) : List Char :=
  if x.isNaN then "NaN".toList
  else if x.isInfinite then (if x.negative then "-Infinity".toList else "Infinity".toList)
  else x.toChars

mutual

/-- The text of a document. -/
def writeChars : Json → Except NumeralFault (List Char)
  | .null => .ok "null".toList
  | .bool b => .ok (if b then "true".toList else "false".toList)
  | .int n => (Numeral.write n).map String.toList
  | .float x => .ok (writeFloat x)
  | .text s => .ok (writeText s)
  | .array items => do
    let body ← writeItems items
    .ok ('[' :: body ++ [']'])
  | .object members => do
    let body ← writeMembers members
    .ok ('\x7b' :: body ++ ['\x7d'])
termination_by structural j => j

def writeItems : List Json → Except NumeralFault (List Char)
  | [] => .ok []
  | v :: rest => do
    let head ← writeChars v
    let tail ← writeItems rest
    .ok (head ++ (if rest.isEmpty then [] else ", ".toList ++ tail))
termination_by structural js => js

def writeMembers : List (String × Json) → Except NumeralFault (List Char)
  | [] => .ok []
  | (k, v) :: rest => do
    let head ← writeChars v
    let tail ← writeMembers rest
    .ok (writeText k ++ ": ".toList ++ head ++ (if rest.isEmpty then [] else ", ".toList ++ tail))
termination_by structural ms => ms

end

def write (v : Json) : Except NumeralFault String := (writeChars v).map String.ofList

end FlowRules.Json
