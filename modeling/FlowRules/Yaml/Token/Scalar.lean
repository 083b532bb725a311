import FlowRules.Json.Reader
import FlowRules.Yaml.Token

/-!
# Scalars in a text

Plain, quoted and block scalars.  Lines of a plain or quoted scalar are folded: a single end of line is a blank, and
of several all but the first stay.  A block scalar keeps its lines, or folds those that are not indented further,
and its header says what becomes of the ends of lines at its end.
-/

namespace FlowRules.Yaml.Lex

/-! ### Block scalars -/

/-- What becomes of the ends of lines at the end of a block scalar. -/
inductive Chomping where
  | strip
  | clip
  | keep
  deriving DecidableEq, Repr

private def blockScalar : String := "while scanning a block scalar"

private def chomping? (c : Char) : Option Chomping :=
  if c = '+' then some .keep else if c = '-' then some .strip else none

/-- The number that says how deep a block scalar is indented. -/
private def increment (start : Mark) : Lex (Option Nat) := do
  let c ← peek
  if isDigit c then
    if c = '0' then
      fail (some ⟨blockScalar, some start⟩) "expected indentation indicator in the range 1-9, but found 0"
    else
      forward 1
      return some (c.toNat - 48)
  else return none

/-- The header of a block scalar: its two marks in either order. -/
private def blockHeader (start : Mark) : Lex (Chomping × Option Nat) := do
  let (chomping, depth) ←
    match chomping? (← peek) with
    | some chomping => do
      forward 1
      let depth ← increment start
      pure (chomping, depth)
    | none => do
      let depth ← increment start
      let c ← peek
      match depth, chomping? c with
      | some _, some chomping => do
        forward 1
        pure (chomping, depth)
      | _, _ => pure (Chomping.clip, depth)
  let c ← peek
  if !isSpaceOrEnd c then
    failFound blockScalar start "expected chomping or indentation indicators" c
  else return (chomping, depth)

/-- The rest of a line that may hold only a comment. -/
def ignoredLine (what : String) (start : Mark) : Lex Unit := do
  skipSpaces
  skipComment
  let c ← peek
  if !isBreakOrEnd c then failFound what start "expected a comment or a line break" c
  else
    let _ ← lineBreak

/-- Ends of lines before the first line of a block scalar, and the deepest column reached by blanks. -/
private def leadingBreaks (breaks : List Char) (deepest : Nat) : Nat → Lex (List Char × Nat)
  | 0 => return (breaks, deepest)
  | fuel + 1 => do
    let c ← peek
    if c = ' ' then
      forward 1
      let column := (← here).column
      leadingBreaks breaks (max deepest column) fuel
    else if isBreak c then
      let b ← lineBreak
      leadingBreaks (breaks ++ b) deepest fuel
    else return (breaks, deepest)

/-- Skip blanks up to a column. -/
private def indentUpTo (column : Nat) : Lex Unit := do
  let m ← here
  let blanks := ((← get).rest.takeWhile (· = ' ')).length
  forward (min blanks (column - m.column))

/-- Ends of lines and indentations between the lines of a block scalar. -/
private def innerBreaks (column : Nat) (breaks : List Char) : Nat → Lex (List Char)
  | 0 => return breaks
  | fuel + 1 => do
    indentUpTo column
    if isBreak (← peek) then
      let b ← lineBreak
      innerBreaks column (breaks ++ b) fuel
    else return breaks

/-- The lines of a block scalar; returns the text, the last end of line, and the ends of lines after it. -/
private def blockLines (folded : Bool) (column : Nat) (text breaks : List Char) :
    Nat → Lex (List Char × List Char × List Char)
  | 0 => return (text, [], breaks)
  | fuel + 1 => do
    let c ← peek
    if (← here).column = column ∧ c ≠ finish then
      let line ← takeWhile fun c => !isBreakOrEnd c
      let text := text ++ breaks ++ line
      let ending ← lineBreak
      let breaks ← innerBreaks column [] fuel
      let next ← peek
      if (← here).column = column ∧ next ≠ finish then
        let joint :=
          if folded && ending == ['\n'] && !isBlank c && !isBlank next then (if breaks.isEmpty then [' '] else [])
          else ending
        blockLines folded column (text ++ joint) breaks fuel
      else return (text, ending, breaks)
    else return (text, [], breaks)

/-- A block scalar, of which the first character stands here. -/
def scanBlock (folded : Bool) : Lex Unit := do
  let start ← here
  forward 1
  let (chomping, depth) ← blockHeader start
  ignoredLine blockScalar start
  let s ← get
  let fuel := s.rest.length + 1
  let least := (max 1 (s.indent + 1)).toNat
  let (column, breaks) ←
    match depth with
    | none => do
      let (breaks, deepest) ← leadingBreaks [] 0 fuel
      pure (max least deepest, breaks)
    | some n => do
      let column := least + n - 1
      let breaks ← innerBreaks column [] fuel
      pure (column, breaks)
  let (text, ending, after) ← blockLines folded column [] breaks fuel
  let text := if chomping = .strip then text else text ++ ending
  let text := if chomping = .keep then text ++ after else text
  emit (.scalar (String.ofList text) false) start (← here)

/-! ### Quoted scalars -/

private def escapes : List (Char × Char) :=
  [('0', '\x00'), ('a', '\x07'), ('b', '\x08'), ('t', '\t'), ('\t', '\t'), ('n', '\n'), ('v', '\x0b'), ('f', '\x0c'),
    ('r', '\r'), ('e', '\x1b'), (' ', ' '), ('"', '"'), ('\\', '\\'), ('/', '/'), ('N', '\x85'), ('_', '\u00a0'),
    ('L', '\u2028'), ('P', '\u2029')]

private def codeLength? (c : Char) : Option Nat :=
  if c = 'x' then some 2 else if c = 'u' then some 4 else if c = 'U' then some 8 else none

private def doubleQuoted : String := "while scanning a double-quoted scalar"

/-- The second half of a surrogate pair, if its escape stands in front. -/
private def lowHalf? (cs : List Char) : Option Nat :=
  match cs with
  | '\\' :: 'u' :: rest => (Json.codeUnit? (rest.take 4)).filter Json.isLowSurrogate
  | _ => none

/-- A character given by its number, or by the two halves of a surrogate pair. -/
private def codeChar (start : Mark) (length : Nat) : Lex Char := do
  let digits := (← get).rest.take length
  match digits.find? fun c => (Numeral.hexValue? c).isNone with
  | some c =>
    failFound doubleQuoted start ("expected escape sequence of " ++ toString length ++ " hexadecimal numbers") c
  | none =>
    if digits.length < length then
      failFound doubleQuoted start ("expected escape sequence of " ++ toString length ++ " hexadecimal numbers") finish
    else
      let n := digits.foldl (fun n c => n * 16 + (Numeral.hexValue? c).getD 0) 0
      if 0x80000000 ≤ n then throw (.unsuitable (.raised "OverflowError" "Python int too large to convert to C int"))
      else if 0x110000 ≤ n then throw (.unsuitable (.value (.stated "chr() arg not in range(0x110000)")))
      else
        forward length
        match lowHalf? (← get).rest with
        | some m =>
          if Json.isHighSurrogate n then
            forward 6
            return Json.pairChar n m
          else return Json.unitChar n
        | none => return Json.unitChar n

/-- Ends of lines inside a quoted scalar, and the blanks around them. -/
private def quotedBreaks (start : Mark) (breaks : List Char) : Nat → Lex (List Char)
  | 0 => return breaks
  | fuel + 1 => do
    if ← atSeparator then fail (some ⟨"while scanning a quoted scalar", some start⟩) "found unexpected document separator"
    else
      let _ ← takeWhile isBlank
      if isBreak (← peek) then
        let b ← lineBreak
        quotedBreaks start (breaks ++ b) fuel
      else return breaks

/-- Blanks inside a quoted scalar, which stay unless the line ends. -/
private def quotedSpaces (start : Mark) : Lex (List Char) := do
  let blanks ← takeWhile isBlank
  let c ← peek
  if c = finish then fail (some ⟨"while scanning a quoted scalar", some start⟩) "found unexpected end of stream"
  else if isBreak c then
    let first ← lineBreak
    let breaks ← quotedBreaks start [] ((← get).rest.length + 1)
    return (if first ≠ ['\n'] then first else if breaks.isEmpty then [' '] else []) ++ breaks
  else return blanks

private def isQuotedPlain (c : Char) : Bool := !(c = '\'' || c = '"' || c = '\\' || isBlankOrEnd c)

/-- What an escape in a double-quoted scalar stands for. -/
private def escape (start : Mark) : Lex (List Char) := do
  let c ← peek
  match escapes.lookup c, codeLength? c with
  | some d, _ => do
    forward 1
    return [d]
  | none, some length => do
    forward 1
    let d ← codeChar start length
    return [d]
  | none, none =>
    if isBreak c then
      let _ ← lineBreak
      quotedBreaks start [] ((← get).rest.length + 1)
    else fail (some ⟨doubleQuoted, some start⟩) ("found unknown escape character " ++ shown c)

/-- The inside of a quoted scalar up to its closing quote. -/
private def quotedText (double : Bool) (start : Mark) (text : List Char) : Nat → Lex (List Char)
  | 0 => return text
  | fuel + 1 => do
    let plain ← takeWhile isQuotedPlain
    let text := text ++ plain
    let c ← peek
    if !double && c = '\'' then
      if (← peekAt 1) = '\'' then
        forward 2
        quotedText double start (text ++ ['\'']) fuel
      else return text
    else if (double && c = '\'') || (!double && (c = '"' || c = '\\')) then
      forward 1
      quotedText double start (text ++ [c]) fuel
    else if double && c = '"' then return text
    else if double && c = '\\' then
      forward 1
      let more ← escape start
      quotedText double start (text ++ more) fuel
    else
      let more ← quotedSpaces start
      quotedText double start (text ++ more) fuel

/-- A quoted scalar, whose opening quote stands here. -/
def scanQuoted (double : Bool) : Lex Unit := do
  let start ← here
  forward 1
  let text ← quotedText double start [] ((← get).rest.length + 1)
  forward 1
  emit (.scalar (String.ofList text) false) start (← here)

/-! ### Plain scalars -/

/-- The longest beginning of a line that belongs to a plain scalar. -/
private def plainRun (inFlow : Bool) : List Char → List Char
  | [] => []
  | c :: cs =>
    let next := cs.headD finish
    if isBlankOrEnd c then []
    else if c = ':' && (isBlankOrEnd next || (inFlow && [',', '[', ']', '{', '}'].contains next)) then []
    else if inFlow && [',', '?', '[', ']', '{', '}'].contains c then []
    else c :: plainRun inFlow cs

/-- Further ends of lines and blanks behind a line of a plain scalar; nothing if a separator of documents follows. -/
private def plainBreaks (breaks : List Char) : Nat → Lex (Option (List Char))
  | 0 => return some breaks
  | fuel + 1 => do
    let c ← peek
    if c = ' ' then
      forward 1
      plainBreaks breaks fuel
    else if isBreak c then
      let b ← lineBreak
      if ← atSeparator then return none else plainBreaks (breaks ++ b) fuel
    else return some breaks

/-- What stands for the blanks and ends of lines behind a run of a plain scalar; nothing if it ends there. -/
private def plainSpaces : Lex (List Char) := do
  let blanks ← takeWhile (· = ' ')
  if isBreak (← peek) then
    let first ← lineBreak
    allowKey true
    if ← atSeparator then return []
    else
      match ← plainBreaks [] ((← get).rest.length + 1) with
      | none => return []
      | some breaks => return (if first ≠ ['\n'] then first else if breaks.isEmpty then [' '] else []) ++ breaks
  else return blanks

/-- The runs of a plain scalar; returns its text and the place behind it. -/
private def plainText (text spaces : List Char) (stop : Mark) : Nat → Lex (List Char × Mark)
  | 0 => return (text, stop)
  | fuel + 1 => do
    let s ← get
    let inFlow := s.level ≠ 0
    let run := if s.rest.headD finish = '#' then [] else plainRun inFlow s.rest
    if run.isEmpty then return (text, stop)
    else
      allowKey false
      forward run.length
      let stop ← here
      let text := text ++ spaces ++ run
      let more ← plainSpaces
      let s ← get
      if more.isEmpty || s.rest.headD finish = '#' || (!inFlow && (s.mark.column : Int) < s.indent + 1) then
        return (text, stop)
      else plainText text more stop fuel

/-- A plain scalar, which begins here. -/
def scanPlain : Lex Unit := do
  let start ← here
  let (text, stop) ← plainText [] [] start ((← get).rest.length + 1)
  emit (.scalar (String.ofList text) true) start stop

end FlowRules.Yaml.Lex
