import FlowRules.Text.Basic

/-!
# Quoted texts

A quoted text stands between single quotes, or between double quotes when it holds a single quote and no double
quote.  A backslash, the enclosing quote, line feed, carriage return and tab get a backslash; every other
character that is not printable is written by its code point.
-/

namespace FlowRules.Text

/-- The quote that encloses a text with these characters. -/
def quoteFor (cs : List Char) : Char := if cs.contains '\'' && !cs.contains '"' then '"' else '\''

/-- A character by its code point. -/
def escaped (c : Char) : List Char :=
  let n := c.toNat
  if n < 0x100 then '\\' :: 'x' :: hexDigits 2 n
  else if n < 0x10000 then '\\' :: 'u' :: hexDigits 4 n
  else '\\' :: 'U' :: hexDigits 8 n

/-- How one character is written between two `quote`s. -/
def quotedChar (quote c : Char) : List Char :=
  if c = quote ∨ c = '\\' then ['\\', c]
  else if c = '\n' then ['\\', 'n']
  else if c = '\r' then ['\\', 'r']
  else if c = '\t' then ['\\', 't']
  else if isPrintable c then [c]
  else escaped c

def quotedChars (cs : List Char) : List Char :=
  let quote := quoteFor cs
  quote :: cs.flatMap (quotedChar quote) ++ [quote]

def quoted (s : String) : String := String.ofList (quotedChars s.toList)

/-- An absent text is quoted as `None`. -/
def quotedOption : Option String → String
  | none => "None"
  | some s => quoted s

/-- An absent text is shown as `None`. -/
def shownOption : Option String → String
  | none => "None"
  | some s => s

private def quotedByte (quote : Char) (b : UInt8) : List Char :=
  let c := Char.ofNat b.toNat
  if c = quote ∨ c = '\\' then ['\\', c]
  else if c = '\n' then ['\\', 'n']
  else if c = '\r' then ['\\', 'r']
  else if c = '\t' then ['\\', 't']
  else if 32 ≤ b.toNat ∧ b.toNat < 127 then [c]
  else '\\' :: 'x' :: hexDigits 2 b.toNat

/-- Bytes are quoted like a text of the basic alphabet, with a `b` in front. -/
def quotedBytes (bytes : List UInt8) : String :=
  let quote := quoteFor (bytes.map fun b => Char.ofNat b.toNat)
  String.ofList ('b' :: quote :: bytes.flatMap (quotedByte quote) ++ [quote])

/-- Bytes that can be changed: single quotes are escaped between double ones too. -/
def quotedByteArray (bytes : List UInt8) : String :=
  let quote := quoteFor (bytes.map fun b => Char.ofNat b.toNat)
  "bytearray(" ++ String.ofList ('b' :: quote :: bytes.flatMap (quotedByte '\'') ++ [quote]) ++ ")"

end FlowRules.Text
