import FlowRules.Fault

/-!
# Tokens of conditions

A condition is cut into numbers, quoted texts, names, keywords and operators; white space divides them and is not
kept.  Every token knows where it begins, and a last token marks the end.  At each place the first of the kinds
that fits is taken, as long as it goes.
-/

namespace FlowRules

inductive TokenKind where
  | number
  | text
  | name
  | keyword
  | operator
  | finish
  deriving DecidableEq, Repr, Inhabited

/-- A token with its characters, a keyword in small letters, and the place of its first character. -/
structure Token where
  kind : TokenKind
  value : String
  position : Nat
  deriving DecidableEq, Repr, Inhabited

namespace Token

def keywords : List String := ["and", "or", "not", "in", "true", "false", "null", "none"]

/-! ### Lengths of lexemes -/

def blankLength (cs : List Char) : Nat := (cs.takeWhile Text.isBlank).length

/-- The length of a number: digits, and behind a point more digits. -/
def numberLength (cs : List Char) : Nat :=
  let whole := (cs.takeWhile Text.isDecimalDigit).length
  if whole = 0 then 0
  else
    match cs.drop whole with
    | '.' :: rest =>
      let fraction := (rest.takeWhile Text.isDecimalDigit).length
      if fraction = 0 then whole else whole + 1 + fraction
    | _ => whole

/-- The length of a quoted text's remainder up to its closing quote; a backslash takes the next character with it,
which may not be a line feed. -/
def quotedLength? (quote : Char) : List Char → Option Nat
  | [] => none
  | [c] => if c = quote then some 1 else none
  | c :: d :: cs =>
    if c = quote then some 1
    else if c = '\\' then
      if d = '\n' then none else (quotedLength? quote cs).map (· + 2)
    else (quotedLength? quote (d :: cs)).map (· + 1)

/-- The length of a quoted text. -/
def textLength (cs : List Char) : Nat :=
  match cs with
  | c :: rest => if c = '"' ∨ c = '\'' then ((quotedLength? c rest).map (· + 1)).getD 0 else 0
  | [] => 0

def nameLength (cs : List Char) : Nat :=
  match cs with
  | c :: rest => if Text.isNameStart c then 1 + (rest.takeWhile Text.isNameChar).length else 0
  | [] => 0

/-- The length of an operator. -/
def operatorLength (cs : List Char) : Nat :=
  match cs with
  | '=' :: '=' :: _ | '!' :: '=' :: _ | '<' :: '=' :: _ | '>' :: '=' :: _ | '&' :: '&' :: _ | '|' :: '|' :: _ => 2
  | c :: _ => if ['<', '>', '!', '(', ')', '[', ']', '.', ',', '-'].contains c then 1 else 0
  | [] => 0

/-- The lexeme in front: its kind, or none for white space, and its length. -/
def lexeme? (cs : List Char) : Option (Option TokenKind × Nat) :=
  if 0 < blankLength cs then some (none, blankLength cs)
  else if 0 < numberLength cs then some (some .number, numberLength cs)
  else if 0 < textLength cs then some (some .text, textLength cs)
  else if 0 < nameLength cs then some (some .name, nameLength cs)
  else if 0 < operatorLength cs then some (some .operator, operatorLength cs)
  else none

/-- A lexeme in small letters. -/
def small (lexeme : List Char) : String := String.ofList (lexeme.map Text.lowerAscii)

/-- The token that a lexeme makes. -/
def ofLexeme (kind : TokenKind) (lexeme : List Char) (position : Nat) : Token :=
  if kind = .name ∧ small lexeme ∈ keywords then ⟨.keyword, small lexeme, position⟩
  else ⟨kind, String.ofList lexeme, position⟩

/-- The tokens of a text from a position on, where the first `skip` characters belong to the lexeme before. -/
def scan (position : Nat) : Nat → List Char → Except (Char × Nat) (List Token)
  | _, [] => .ok [⟨.finish, "", position⟩]
  | skip + 1, _ :: cs => scan (position + 1) skip cs
  | 0, c :: cs =>
    match lexeme? (c :: cs) with
    | none => .error (c, position)
    | some (none, n) => scan (position + 1) (n - 1) cs
    | some (some kind, n) => do
      let rest ← scan (position + 1) (n - 1) cs
      .ok (ofLexeme kind ((c :: cs).take n) position :: rest)

/-- The tokens of a condition; it fails at the first character that begins none. -/
def ofText (s : String) : Except Fault (List Token) :=
  match scan 0 0 s.toList with
  | .ok ts => .ok ts
  | .error (c, p) => .error (.conditionSyntax s (.unexpectedCharacter c) (some p))

end Token
end FlowRules
