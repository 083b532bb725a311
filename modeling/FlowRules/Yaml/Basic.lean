import FlowRules.Fault

/-!
# Places and faults in YAML

A mark is a place in a text.  A fault says what was being read, what is wrong, and where; its message shows the part
of the line around each place.
-/

namespace FlowRules.Yaml

structure Mark where
  index : Nat
  line : Nat
  column : Nat
  deriving DecidableEq, Repr, Inhabited

/-- The parts of reading, each of which can find something wrong. -/
inductive Stage where
  | scanner
  | parser
  | composer
  | constructor
  deriving DecidableEq, Repr

def Stage.kind : Stage → String
  | .scanner => "ScannerError"
  | .parser => "ParserError"
  | .composer => "ComposerError"
  | .constructor => "ConstructorError"

/-- What was being read, and where that began. -/
structure Setting where
  text : String
  start : Option Mark := none
  deriving DecidableEq, Repr

/-- Where a text comes from.  Of a text that is read from a file no lines are shown. -/
inductive Origin where
  | given
  | file (path : String)
  deriving DecidableEq, Repr

def Origin.name : Origin → String
  | given => "<unicode string>"
  | file path => path

inductive Trouble where
  | marked (stage : Stage) (setting : Option Setting) (problem : String) (place : Mark)
  /-- A character that no text may hold. -/
  | unprintable (c : Char) (index : Nat)
  /-- A scalar has no value of the type it is said to have. -/
  | unsuitable (f : Fault)
  deriving DecidableEq, Repr

/-! ### Characters -/

/-- The character that stands for the end of the text. -/
def finish : Char := '\x00'

def isBreak (c : Char) : Bool := c = '\r' || c = '\n' || c = '\x85' || c = '\u2028' || c = '\u2029'

def isBreakOrEnd (c : Char) : Bool := c = finish || isBreak c

def isSpaceOrEnd (c : Char) : Bool := c = ' ' || isBreakOrEnd c

def isBlank (c : Char) : Bool := c = ' ' || c = '\t'

def isBlankOrEnd (c : Char) : Bool := c = '\t' || isSpaceOrEnd c

/-- The characters that a text may hold. -/
def isAllowed (c : Char) : Bool :=
  let n := c.toNat
  n = 9 || n = 10 || n = 13 || (0x20 ≤ n && n ≤ 0x7e) || n = 0x85 || (0xa0 ≤ n && n ≤ 0xd7ff) ||
    (0xe000 ≤ n && n ≤ 0xfffd) || 0x10000 ≤ n

def isDigit (c : Char) : Bool := '0' ≤ c && c ≤ '9'

/-- The characters of names. -/
def isNameChar (c : Char) : Bool :=
  isDigit c || ('A' ≤ c && c ≤ 'Z') || ('a' ≤ c && c ≤ 'z') || c = '-' || c = '_'

/-! ### Messages -/

/-- How many characters are shown before and behind a place in a long line. -/
def snippetWidth : Nat := 32

/-- A line with more characters than this on one side of a place is cut there. -/
def snippetLimit : Nat := 36

private def gap : String := " ... "

private def blanks (n : Nat) : String := String.ofList (List.replicate n ' ')

namespace Mark

/-- The part of the line around a place, and a pointer to the place below it. -/
def snippet (source : List Char) (m : Mark) : String :=
  let before := (source.take m.index).reverse.takeWhile fun c => !isBreakOrEnd c
  let after := (source.drop m.index).takeWhile fun c => !isBreakOrEnd c
  let (start, shownBefore) :=
    if snippetLimit < before.length then (gap, before.take snippetWidth) else ("", before)
  let (stop, shownAfter) :=
    if snippetLimit < after.length then (gap, after.take snippetWidth) else ("", after)
  blanks 4 ++ start ++ String.ofList (shownBefore.reverse ++ shownAfter) ++ stop ++ "\n" ++
    blanks (4 + shownBefore.length + start.length) ++ "^"

def text (origin : Origin) (source : List Char) (m : Mark) : String :=
  "  in \"" ++ origin.name ++ "\", line " ++ toString (m.line + 1) ++ ", column " ++ toString (m.column + 1) ++
    match origin with
    | .given => ":\n" ++ m.snippet source
    | .file _ => ""

end Mark

namespace Trouble

/-- The lines of a message about a place in a text. -/
def lines (origin : Origin) (source : List Char) (setting : Option Setting) (problem : String) (place : Mark) : List String :=
  (match setting with
    | none => []
    | some s =>
      s.text ::
        match s.start with
        | none => []
        | some m => if m.line = place.line ∧ m.column = place.column then [] else [m.text origin source]) ++
    [problem, place.text origin source]

/-- The fault that is reported for a text. -/
def toFault (origin : Origin) (source : List Char) : Trouble → Fault
  | marked stage setting problem place =>
    .raised stage.kind ("\n".intercalate (lines origin source setting problem place))
  | unprintable c index =>
    .raised "ReaderError"
      ("unacceptable character #x" ++ String.ofList (Text.hexDigits 4 c.toNat) ++
        ": special characters are not allowed\n  in \"" ++ origin.name ++ "\", position " ++ toString index)
  | unsuitable f => f

end Trouble
end FlowRules.Yaml
