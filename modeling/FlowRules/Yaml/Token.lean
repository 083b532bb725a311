import FlowRules.Yaml.Basic

/-!
# Tokens of YAML

The tokens of a text and the state in which they are cut from it.  The state knows the open indentations and the
places where a simple key may have begun: whether a text was a key is seen only at the colon behind it.
-/

namespace FlowRules.Yaml

inductive Directive where
  | version (major minor : Nat)
  | handle (name stands : String)
  | other
  deriving DecidableEq, Repr

inductive Lexeme where
  | directive (d : Directive)
  | documentStart
  | documentEnd
  | streamEnd
  | blockSequenceStart
  | blockMappingStart
  | blockEnd
  | flowSequenceStart
  | flowSequenceEnd
  | flowMappingStart
  | flowMappingEnd
  | key
  | value
  | blockEntry
  | flowEntry
  | reference (name : String)
  | anchor (name : String)
  | tag (handle : Option String) (suffix : String)
  | scalar (text : String) (plain : Bool)
  deriving DecidableEq, Repr, Inhabited

/-- How a token is named in messages. -/
def Lexeme.name : Lexeme → String
  | directive _ => "<directive>"
  | documentStart => "<document start>"
  | documentEnd => "<document end>"
  | streamEnd => "<stream end>"
  | blockSequenceStart => "<block sequence start>"
  | blockMappingStart => "<block mapping start>"
  | blockEnd => "<block end>"
  | flowSequenceStart => "["
  | flowSequenceEnd => "]"
  | flowMappingStart => "\x7b"
  | flowMappingEnd => "\x7d"
  | key => "?"
  | value => ":"
  | blockEntry => "-"
  | flowEntry => ","
  | reference _ => "<alias>"
  | anchor _ => "<anchor>"
  | tag .. => "<tag>"
  | scalar .. => "<scalar>"

structure Token where
  lexeme : Lexeme
  start : Mark
  stop : Mark
  deriving DecidableEq, Repr, Inhabited

/-- A place where a simple key may have begun. -/
structure KeyStart where
  /-- The number of the token that the key begins with. -/
  number : Nat
  /-- Nothing but a key can stand here. -/
  required : Bool
  mark : Mark
  deriving Repr

structure Lexer where
  rest : List Char
  mark : Mark := ⟨0, 0, 0⟩
  tokens : Array Token := #[]
  /-- How many flow collections are open. -/
  level : Int := 0
  indent : Int := -1
  /-- The indentations around the current one, the innermost first. -/
  indents : List Int := []
  keyAllowed : Bool := true
  /-- At most one start of a key for each level of flow collections, in the order in which they were found. -/
  keys : List (Int × KeyStart) := []

abbrev Lex := StateT Lexer (Except Trouble)

namespace Lex

/-! ### Looking ahead and moving on -/

def peek : Lex Char := return (← get).rest.headD finish

def peekAt (n : Nat) : Lex Char := return ((← get).rest.drop n).headD finish

def here : Lex Mark := return (← get).mark

/-- The place behind a character, before `next`. -/
def behind (m : Mark) (c next : Char) : Mark :=
  if (isBreak c && c ≠ '\r') || (c = '\r' && next ≠ '\n') then ⟨m.index + 1, m.line + 1, 0⟩
  else if c = '\ufeff' then { m with index := m.index + 1 }
  else { m with index := m.index + 1, column := m.column + 1 }

/-- The place behind `n` characters, and what stands there. -/
def advanced : Nat → Mark → List Char → Mark × List Char
  | 0, m, cs => (m, cs)
  | _, m, [] => (m, [])
  | n + 1, m, c :: cs => advanced n (behind m c (cs.headD finish)) cs

def forward (n : Nat) : Lex Unit :=
  modify fun s =>
    let (m, cs) := advanced n s.mark s.rest
    { s with mark := m, rest := cs }

/-- Take `n` characters. -/
def take (n : Nat) : Lex (List Char) := do
  let cs := (← get).rest.take n
  forward n
  return cs

/-- Take characters as long as they satisfy a test. -/
def takeWhile (p : Char → Bool) : Lex (List Char) := do
  let cs := (← get).rest.takeWhile p
  forward cs.length
  return cs

def skipSpaces : Lex Unit := do
  let _ ← takeWhile (· = ' ')

def skipComment : Lex Unit := do
  if (← peek) = '#' then
    let _ ← takeWhile fun c => !isBreakOrEnd c

/-- Take the end of a line.  Its text is a line feed, except for the two separators, which stand for themselves. -/
def lineBreak : Lex (List Char) := do
  match (← get).rest with
  | '\r' :: '\n' :: _ => forward 2; return ['\n']
  | c :: _ =>
    if c = '\r' || c = '\n' || c = '\x85' then forward 1; return ['\n']
    else if c = '\u2028' || c = '\u2029' then forward 1; return [c]
    else return []
  | [] => return []

/-- Whether a separator of documents stands here. -/
def atSeparator : Lex Bool := do
  match (← get).rest with
  | '-' :: '-' :: '-' :: cs | '.' :: '.' :: '.' :: cs => return isBlankOrEnd (cs.headD finish)
  | _ => return false

/-! ### Faults -/

def failAt {α : Type} (setting : Option Setting) (problem : String) (place : Mark) : Lex α :=
  throw (.marked .scanner setting problem place)

def fail {α : Type} (setting : Option Setting) (problem : String) : Lex α := do
  failAt setting problem (← here)

/-- How a character is shown in messages. -/
def shown (c : Char) : String := Text.quoted (String.singleton c)

/-- Fail because of the character that stands here. -/
def failFound {α : Type} (what : String) (start : Mark) (problem : String) (found : Char) : Lex α :=
  fail (some ⟨what, some start⟩) (problem ++ ", but found " ++ shown found)

/-! ### Tokens and indentations -/

def emit (lexeme : Lexeme) (start stop : Mark) : Lex Unit :=
  modify fun s => { s with tokens := s.tokens.push ⟨lexeme, start, stop⟩ }

/-- Put a token that has no extent in front of the token with a number. -/
def insert (number : Nat) (lexeme : Lexeme) (m : Mark) : Lex Unit :=
  modify fun s =>
    { s with tokens := (s.tokens.toList.take number ++ ⟨lexeme, m, m⟩ :: s.tokens.toList.drop number).toArray }

/-- Close the block collections that are indented deeper than a column. -/
def unwindFrom (column : Int) (m : Mark) : List Int → Int → Array Token → Int × List Int × Array Token
  | [], indent, tokens => (indent, [], tokens)
  | outer :: more, indent, tokens =>
    if column < indent then unwindFrom column m more outer (tokens.push ⟨.blockEnd, m, m⟩)
    else (indent, outer :: more, tokens)

def unwind (column : Int) : Lex Unit :=
  modify fun s =>
    if s.level ≠ 0 then s
    else
      let (indent, indents, tokens) := unwindFrom column s.mark s.indents s.indent s.tokens
      { s with indent := indent, indents := indents, tokens := tokens }

/-- Open an indentation, unless the current one is as deep. -/
def indentTo (column : Int) : Lex Bool := do
  let s ← get
  if s.indent < column then
    set { s with indents := s.indent :: s.indents, indent := column }
    return true
  else return false

/-! ### Simple keys -/

private def lostKey {α : Type} (k : KeyStart) : Lex α :=
  fail (some ⟨"while scanning a simple key", some k.mark⟩) "could not find expected ':'"

/-- How many characters a simple key may have. -/
def maxKeyLength : Nat := 1024

private def isStale (m : Mark) (k : KeyStart) : Bool := k.mark.line ≠ m.line || k.mark.index + maxKeyLength < m.index

/-- Give up the starts of keys that lie too far back. -/
def dropStaleKeys : Lex Unit := do
  let s ← get
  match s.keys.find? fun e => isStale s.mark e.2 && e.2.required with
  | some e => lostKey e.2
  | none => set { s with keys := s.keys.filter fun e => !isStale s.mark e.2 }

/-- Give up the start of a key at the current level. -/
def dropKey : Lex Unit := do
  let s ← get
  match s.keys.lookup s.level with
  | none => return ()
  | some k =>
    if k.required then lostKey k
    else set { s with keys := s.keys.filter fun e => e.1 ≠ s.level }

/-- A key may begin with the next token. -/
def mayStartKey : Lex Unit := do
  if (← get).keyAllowed then
    dropKey
    modify fun s =>
      { s with keys := s.keys ++ [(s.level, ⟨s.tokens.size, s.level = 0 && s.indent = s.mark.column, s.mark⟩)] }

def allowKey (b : Bool) : Lex Unit := modify fun s => { s with keyAllowed := b }

end Lex
end FlowRules.Yaml
