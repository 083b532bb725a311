import FlowRules.Number.Numeral
import FlowRules.Pattern.Basic
import FlowRules.Text.CharName.Lookup
import FlowRules.Text.Identifier

/-!
# Reading patterns

The characters of a pattern are read one by one, a backslash together with the character behind it.  The first
argument of the parsing functions bounds how often they call each other; `parse` gives more than the length of a
pattern can need.
-/

namespace FlowRules.Pattern

/-- The options of a pattern that can be switched by a group. -/
structure Options where
  ignoreCase : Bool := false
  lines : Bool := false
  dotAll : Bool := false
  verbose : Bool := false
  basic : Bool := false
  full : Bool := false
  template : Bool := false
  deriving DecidableEq, Repr, Inhabited

namespace Options

def letters : List Char := ['i', 'L', 'm', 's', 'x', 'a', 't', 'u']

def ofLetter (c : Char) : Options :=
  match c with
  | 'i' => { ignoreCase := true }
  | 'm' => { lines := true }
  | 's' => { dotAll := true }
  | 'x' => { verbose := true }
  | 'a' => { basic := true }
  | 't' => { template := true }
  | 'u' => { full := true }
  | _ => {}

def union (a b : Options) : Options :=
  ⟨a.ignoreCase || b.ignoreCase, a.lines || b.lines, a.dotAll || b.dotAll, a.verbose || b.verbose,
    a.basic || b.basic, a.full || b.full, a.template || b.template⟩

def without (a b : Options) : Options :=
  ⟨a.ignoreCase && !b.ignoreCase, a.lines && !b.lines, a.dotAll && !b.dotAll, a.verbose && !b.verbose,
    a.basic && !b.basic, a.full && !b.full, a.template && !b.template⟩

def meets (a b : Options) : Bool :=
  (a.ignoreCase && b.ignoreCase) || (a.lines && b.lines) || (a.dotAll && b.dotAll) || (a.verbose && b.verbose) ||
    (a.basic && b.basic) || (a.full && b.full) || (a.template && b.template)

/-- The options inside a group that adds some and drops some. -/
def within (outer add drop : Options) : Options :=
  let outer := if add.basic || add.full then { outer with basic := false, full := false } else outer
  (outer.union add).without drop

def fold (o : Options) : Fold := if o.ignoreCase then (if o.basic then .basic else .full) else .exact

end Options

/-- A character of the pattern, or a backslash and the character behind it, with its position. -/
structure Piece where
  chars : List Char
  position : Nat

def pieces (position : Nat) : List Char → List Piece
  | '\\' :: c :: cs => ⟨['\\', c], position⟩ :: pieces (position + 2) cs
  | ['\\'] => []
  | c :: cs => ⟨[c], position⟩ :: pieces (position + 1) cs
  | [] => []

/-- Whether a pattern ends in the middle of an escape. -/
def endsOpen : List Char → Bool
  | '\\' :: _ :: cs => endsOpen cs
  | ['\\'] => true
  | _ :: cs => endsOpen cs
  | [] => false

/-- What is left of the pattern and what has been seen of it. -/
structure Reading where
  rest : List Piece
  pattern : List Char
  endsOpen : Bool
  options : Options := {}
  /-- The widths of the groups, the whole pattern being the first; an open group has none yet. -/
  groups : List (Option Width) := [none]
  names : List (String × Nat) := []
  /-- The number of groups at the start of the outermost look behind. -/
  behind : Option Nat := none
  /-- Groups that conditions refer to, with the positions. -/
  asked : List (Nat × Nat) := []

abbrev Reader := StateT Reading (Except PatternFault)

namespace Reader

/-- The position of the next piece. -/
def place : Reader Nat := do
  let s ← get
  return match s.rest with
    | p :: _ => p.position
    | [] => s.pattern.length

/-- Stop with a problem `back` characters before the next piece. -/
def fail {α : Type} (text : String) (back : Nat) : Reader α := do
  let p ← place
  let s ← get
  throw ⟨text, some (p - back), s.pattern⟩

def next : Reader (Option (List Char)) := do
  return (← get).rest.head?.map (·.chars)

/-- Go on to the next piece; an escape without its character stops the reading. -/
def advance : Reader Unit := do
  let s ← get
  let rest := s.rest.drop 1
  if rest.isEmpty && s.endsOpen then
    throw ⟨"bad escape (end of pattern)", some (s.pattern.length - 1), s.pattern⟩
  set { s with rest := rest }

/-- Take the next piece. -/
def take : Reader (Option (List Char)) := do
  let p ← next
  advance
  return p

/-- Pass over the next piece if it is this character. -/
def accept (c : Char) : Reader Bool := do
  if (← next) == some [c] then
    advance
    return true
  else return false

/-- Up to `n` characters of a class. -/
def takeWhile (ok : Char → Bool) : Nat → Reader (List Char)
  | 0 => return []
  | n + 1 => do
    match ← next with
    | some [c] =>
      if ok c then
        advance
        let cs ← takeWhile ok n
        return c :: cs
      else return []
    | _ => return []

/-- The characters up to a terminator, which is passed over. -/
def takeUntil (terminator : Char) (what : String) (read : List Char) : Nat → Reader (List Char)
  | 0 => fail ("missing " ++ what) 0
  | fuel + 1 => do
    match ← next with
    | none =>
      if read.isEmpty then fail ("missing " ++ what) 0
      else fail ("missing " ++ String.singleton terminator ++ ", unterminated name") read.length
    | some piece =>
      advance
      if piece = [terminator] then
        if read.isEmpty then fail ("missing " ++ what) 1 else return read
      else takeUntil terminator what (read ++ piece) fuel

def fuelFor : Reader Nat := do return (← get).rest.length + 1

end Reader

open Reader

/-! ### Escapes -/

def isOctal (c : Char) : Bool := '0' ≤ c && c ≤ '7'
def isDigit (c : Char) : Bool := '0' ≤ c && c ≤ '9'
def isLetter (c : Char) : Bool := ('a' ≤ c && c ≤ 'z') || ('A' ≤ c && c ≤ 'Z')

def hexValue (cs : List Char) : Nat :=
  cs.foldl (fun n c => 16 * n + (if isDigit c then c.toNat - 48 else if 'a' ≤ c then c.toNat - 87 else c.toNat - 55)) 0

def octalValue (cs : List Char) : Nat := cs.foldl (fun n c => 8 * n + (c.toNat - 48)) 0

def decimalValue (cs : List Char) : Nat := cs.foldl (fun n c => 10 * n + (c.toNat - 48)) 0

def controlEscape? (c : Char) : Option Nat :=
  match c with
  | 'a' => some 7
  | 'b' => some 8
  | 'f' => some 12
  | 'n' => some 10
  | 'r' => some 13
  | 't' => some 9
  | 'v' => some 11
  | '\\' => some 92
  | _ => none

def categoryEscape? (basic : Bool) (c : Char) : Option SetItem :=
  match c with
  | 'd' => some (.category .digit false basic)
  | 'D' => some (.category .digit true basic)
  | 's' => some (.category .space false basic)
  | 'S' => some (.category .space true basic)
  | 'w' => some (.category .word false basic)
  | 'W' => some (.category .word true basic)
  | _ => none

private def badEscape {α : Type} (escape : List Char) : Reader α :=
  fail ("bad escape " ++ String.ofList escape) escape.length

/-- A code point written by a fixed number of hexadecimal digits. -/
def hexEscape (c : Char) (width : Nat) : Reader Nat := do
  let ds ← Reader.takeWhile Numeral.isHexDigit width
  let escape := '\\' :: c :: ds
  if ds.length ≠ width then fail ("incomplete escape " ++ String.ofList escape) escape.length
  else if 0x10ffff < hexValue ds then badEscape escape
  else return hexValue ds

/-- A character given by its name. -/
def namedEscape : Reader Nat := do
  if !(← accept '\x7b') then fail "missing \x7b" 0
  else
    let name ← takeUntil '\x7d' "character name" [] (← fuelFor)
    match Text.charNamed? (String.ofList name) with
    | some n => return n
    | none => fail ("undefined character name " ++ Text.quoted (String.ofList name)) (name.length + 4)

/-- A code point written by an escape that means the same inside and outside of sets. -/
def codeEscape? (c : Char) : Reader (Option Nat) := do
  match c with
  | 'x' => return some (← hexEscape c 2)
  | 'u' => return some (← hexEscape c 4)
  | 'U' => return some (← hexEscape c 8)
  | 'N' => return some (← namedEscape)
  | _ => return none

/-- An escape inside a set. -/
def setEscape (basic : Bool) (c : Char) : Reader SetItem := do
  match controlEscape? c with
  | some n => return .char n
  | none =>
    match categoryEscape? basic c with
    | some item => return item
    | none =>
      match ← codeEscape? c with
      | some n => return .char n
      | none =>
        if isOctal c then
          let more ← Reader.takeWhile isOctal 2
          let n := octalValue (c :: more)
          let escape := '\\' :: c :: more
          if 0o377 < n then
            fail ("octal escape value " ++ String.ofList escape ++ " outside of range 0-0o377") escape.length
          else return .char n
        else if isDigit c || isLetter c then badEscape ['\\', c]
        else return .char c.toNat

/-- Whether a group has been closed. -/
def isClosed (g : Nat) : Reader Bool := do
  return match (← get).groups[g]? with
    | some (some _) => true
    | _ => false

/-- Inside a look behind only groups closed before it may be referred to. -/
def checkBehind (g : Nat) : Reader Unit := do
  match (← get).behind with
  | none => return ()
  | some limit =>
    if !(← isClosed g) then fail "cannot refer to an open group" 0
    if limit ≤ g then fail "cannot refer to group defined in the same lookbehind subpattern" 0

def referenceTo (g : Nat) (o : Options) : Reader Node := do
  match (← get).groups[g]? with
  | some (some w) => return .reference g w.1 w.2 o.fold
  | _ => return .reference g 0 (some 0) o.fold

def anchorEscape? (o : Options) (c : Char) : Option Anchor :=
  match c with
  | 'A' => some .start
  | 'b' => some (.wordEdge o.basic)
  | 'B' => some (.noWordEdge o.basic)
  | 'Z' => some .finish
  | _ => none

/-- An escape by digits: a code point, or a reference to a group. -/
def digitEscape (o : Options) (c : Char) : Reader Node := do
  if c = '0' then
    let more ← Reader.takeWhile isOctal 2
    return .char (octalValue (c :: more)) false o.fold
  else
    let second ← Reader.takeWhile isDigit 1
    let third ← if !second.isEmpty && isOctal c && second.all isOctal then Reader.takeWhile isOctal 1 else pure []
    let digits := c :: (second ++ third)
    let escape := '\\' :: digits
    if !third.isEmpty then
      if 0o377 < octalValue digits then
        fail ("octal escape value " ++ String.ofList escape ++ " outside of range 0-0o377") escape.length
      else return .char (octalValue digits) false o.fold
    else
      let g := decimalValue digits
      if g < (← get).groups.length then
        if !(← isClosed g) then fail "cannot refer to an open group" escape.length
        checkBehind g
        referenceTo g o
      else fail ("invalid group reference " ++ toString g) (escape.length - 1)

/-- An escape outside of sets. -/
def escapeNode (o : Options) (c : Char) : Reader Node := do
  match anchorEscape? o c with
  | some a => return .anchor a
  | none =>
    match categoryEscape? o.basic c with
    | some item => return .set false [item] o.fold
    | none =>
      match controlEscape? c with
      | some n => return .char n false o.fold
      | none =>
        match ← codeEscape? c with
        | some n => return .char n false o.fold
        | none =>
          if isDigit c then digitEscape o c
          else if isLetter c then badEscape ['\\', c]
          else return .char c.toNat false o.fold

/-! ### Sets -/

private def unterminatedSet {α : Type} (here : Nat) : Reader α := do
  fail "unterminated character set" ((← place) - here)

private def setItem (o : Options) (piece : List Char) : Reader SetItem :=
  match piece with
  | ['\\', c] => setEscape o.basic c
  | c :: _ => return .char c.toNat
  | [] => return .char 0

/-- The items of a set up to its closing bracket. -/
def setItems (o : Options) (here : Nat) (read : List SetItem) : Nat → Reader (List SetItem)
  | 0 => unterminatedSet here
  | fuel + 1 => do
    match ← take with
    | none => unterminatedSet here
    | some piece =>
      if piece = [']'] && !read.isEmpty then return read
      else
        let item ← setItem o piece
        if ← accept '-' then
          match ← take with
          | none => unterminatedSet here
          | some other =>
            if other = [']'] then return read ++ [item, .char '-'.toNat]
            else
              let upper ← setItem o other
              let bad : Reader (List SetItem) :=
                fail ("bad character range " ++ String.ofList piece ++ "-" ++ String.ofList other)
                  (piece.length + 1 + other.length)
              match item, upper with
              | .char lo, .char hi => if hi < lo then bad else setItems o here (read ++ [.range lo hi]) fuel
              | _, _ => bad
        else setItems o here (read ++ [item]) fuel

/-- A set whose opening bracket has been read; a set of one character is that character. -/
def setNode (o : Options) : Reader Node := do
  let here := (← place) - 1
  let negated ← accept '^'
  let items ← setItems o here [] (← fuelFor)
  return match items.eraseDups with
    | [.char n] => .char n negated o.fold
    | items => .set negated items o.fold

/-! ### Repetitions -/

/-- The bounds of a repetition in braces; without them the brace is a plain character. -/
def bounds? : Reader (Option (Nat × Option Nat)) := do
  let saved ← get
  if (← next) == some ['\x7d'] then return none
  else
    let lo ← Reader.takeWhile isDigit (← fuelFor)
    let hi ← if ← accept ',' then Reader.takeWhile isDigit (← fuelFor) else pure lo
    if ← accept '\x7d' then
      let least := decimalValue lo
      let most := if hi.isEmpty then none else some (decimalValue hi)
      let tooLarge := (!lo.isEmpty && decide (4294967295 ≤ least)) ||
        (match most with
          | some m => decide (4294967295 ≤ m)
          | none => false)
      if tooLarge then throw ⟨"the repetition number is too large", none, saved.pattern⟩
      else
        match most with
        | some m =>
          if m < least then
            let start := match saved.rest with
              | p :: _ => p.position
              | [] => saved.pattern.length
            fail "min repeat greater than max repeat" ((← place) - start)
          else return some (least, some m)
        | none => return some (least, none)
    else
      set saved
      return none

/-- The mark behind a quantifier. -/
def readGreed : Reader Greed := do
  if ← accept '?' then return .fewest
  if ← accept '+' then return .possessive
  return .most

/-- What is repeated: of a plain group its nodes. -/
def repeatedBody : Node → List Node
  | .group .plain body => body
  | node => [node]

/-- Repeat the last node read; `here` is the position behind the quantifier's first character. -/
def repeatLast (read : List Node) (here : Nat) (bounds : Nat × Option Nat) : Reader (List Node) := do
  let back := (← place) - here + 1
  match read.getLast? with
  | none => fail "nothing to repeat" back
  | some (.anchor _) => fail "nothing to repeat" back
  | some (.repeated ..) => fail "multiple repeat" back
  | some node =>
    let greed ← readGreed
    return read.dropLast ++ [.repeated greed bounds.1 bounds.2 (repeatedBody node)]

/-! ### Groups -/

private def checkName (name : List Char) : Reader Unit := do
  if !Text.isIdentifier name then
    fail ("bad character in group name " ++ Text.quoted (String.ofList name)) (name.length + 1)

/-- Open a new group. -/
def openGroup (name : Option (List Char)) : Reader Nat := do
  let s ← get
  let g := s.groups.length
  match name with
  | none =>
    set { s with groups := s.groups ++ [none] }
    return g
  | some n =>
    match s.names.lookup (String.ofList n) with
    | some old =>
      fail ("redefinition of group name " ++ Text.quoted (String.ofList n) ++ " as group " ++ toString g ++
        "; was group " ++ toString old) (n.length + 1)
    | none =>
      set { s with groups := s.groups ++ [none], names := s.names ++ [(String.ofList n, g)] }
      return g

def closeGroup (g : Nat) (body : List Node) : Reader Unit :=
  modify fun s => { s with groups := s.groups.set g (some (seqWidth body)) }

/-- What the options at the start of a group say. -/
inductive Switch where
  /-- For the whole pattern. -/
  | whole
  | group (add drop : Options)

private def pieceIsLetter (piece : List Char) : Bool :=
  match piece with
  | [c] => Text.isLetter c
  | _ => false

private def optionLetter? (piece : List Char) : Option Char :=
  match piece with
  | [c] => if Options.letters.contains c then some c else none
  | _ => none

/-- The letters of options to add, from the first on, and the piece behind them. -/
def addedOptions (first : Char) (add : Options) : Nat → Reader (Options × List Char)
  | 0 => fail "missing -, : or )" 0
  | fuel + 1 => do
    if first = 'L' then fail "bad inline flags: cannot use 'L' flag with a str pattern" 0
    let add := add.union (Options.ofLetter first)
    if add.basic && add.full then fail "bad inline flags: flags 'a', 'u' and 'L' are incompatible" 0
    match ← take with
    | none => fail "missing -, : or )" 0
    | some piece =>
      if piece = [')'] || piece = ['-'] || piece = [':'] then return (add, piece)
      else
        match optionLetter? piece with
        | some c => addedOptions c add fuel
        | none => fail (if pieceIsLetter piece then "unknown flag" else "missing -, : or )") piece.length

/-- The letters of options to drop, from the first on, up to the colon. -/
def droppedOptions (first : Char) (drop : Options) : Nat → Reader Options
  | 0 => fail "missing :" 0
  | fuel + 1 => do
    if first = 'a' || first = 'u' || first = 'L' then
      fail "bad inline flags: cannot turn off flags 'a', 'u' and 'L'" 0
    let drop := drop.union (Options.ofLetter first)
    match ← take with
    | none => fail "missing :" 0
    | some piece =>
      if piece = [':'] then return drop
      else
        match optionLetter? piece with
        | some c => droppedOptions c drop fuel
        | none => fail (if pieceIsLetter piece then "unknown flag" else "missing :") piece.length

/-- The options behind a question mark, of which the first piece has been read. -/
def readSwitch (piece : List Char) : Reader Switch := do
  let (add, stop) ← match optionLetter? piece with
    | some c => addedOptions c {} (← fuelFor)
    | none => pure ({}, piece)
  if stop = [')'] then
    modify fun s => { s with options := s.options.union add }
    return .whole
  if add.template then fail "bad inline flags: cannot turn on global flag" 1
  let drop ←
    if stop = ['-'] then
      match ← take with
      | none => fail "missing flag" 0
      | some piece =>
        match optionLetter? piece with
        | some c => droppedOptions c {} (← fuelFor)
        | none => fail (if pieceIsLetter piece then "unknown flag" else "missing flag") piece.length
    else pure {}
  if drop.template then fail "bad inline flags: cannot turn off global flag" 1
  if add.meets drop then fail "bad inline flags: flag turned on and off" 1
  return .group add drop

/-- The group that a condition asks about. -/
def conditionGroup : Reader Nat := do
  let name ← takeUntil ')' "group name" [] (← fuelFor)
  if Text.isIdentifier name then
    match (← get).names.lookup (String.ofList name) with
    | some g => return g
    | none => fail ("unknown group name " ++ Text.quoted (String.ofList name)) (name.length + 1)
  else
    match Numeral.read (String.ofList name) with
    | .ok n =>
      if n < 0 then fail ("bad character in group name " ++ Text.quoted (String.ofList name)) (name.length + 1)
      else if n = 0 then fail "bad group number" (name.length + 1)
      else if 1073741823 ≤ n then fail ("invalid group reference " ++ toString n) (name.length + 1)
      else
        let g := n.toNat
        let at_ := (← place) - name.length - 1
        modify fun s =>
          { s with asked := if (s.asked.lookup g).isSome then s.asked else s.asked ++ [(g, at_)] }
        return g
    | .error _ =>
      fail ("bad character in group name " ++ Text.quoted (String.ofList name)) (name.length + 1)

/-- Pass over a comment. -/
def skipComment (start : Nat) : Nat → Reader Unit
  | 0 => fail "missing ), unterminated comment" 0
  | fuel + 1 => do
    match ← next with
    | none => fail "missing ), unterminated comment" ((← place) - start)
    | some piece =>
      advance
      if piece = [')'] then return () else skipComment start fuel

/-- Pass over the rest of a line. -/
def skipLine : Nat → Reader Unit
  | 0 => return ()
  | fuel + 1 => do
    match ← take with
    | none => return ()
    | some piece => if piece = ['\n'] then return () else skipLine fuel

private def closeParen (start : Nat) : Reader Unit := do
  if !(← accept ')') then fail "missing ), unterminated subpattern" ((← place) - start)

private def isPatternBlank (c : Char) : Bool :=
  c = ' ' || c = '\t' || c = '\n' || c = '\r' || c = '\x0b' || c = '\x0c'

/-- A reference to a group by its name, behind `(?P=`. -/
def namedReference (o : Options) : Reader Node := do
  let name ← takeUntil ')' "group name" [] (← fuelFor)
  checkName name
  match (← get).names.lookup (String.ofList name) with
  | none => fail ("unknown group name " ++ Text.quoted (String.ofList name)) (name.length + 1)
  | some g =>
    if !(← isClosed g) then fail "cannot refer to an open group" (name.length + 1)
    checkBehind g
    referenceTo g o

/-! ### Sequences and alternatives -/

/-- Put the nodes of plain groups in their places. -/
def dissolve (nodes : List Node) : List Node :=
  nodes.flatMap fun n =>
    match n with
    | .group .plain body => body
    | n => [n]

/-- Whether two nodes without parts are equal. -/
def sameLeaf : Node → Node → Bool
  | .char m n f, .char m' n' f' => m = m' && n = n' && f = f'
  | .any l, .any l' => l = l'
  | .set n is f, .set n' is' f' => n = n' && is = is' && f = f'
  | .anchor a, .anchor a' => a = a'
  | .reference g _ _ f, .reference g' _ _ f' => g = g' && f = f'
  | _, _ => false

/-- The leaves with which all alternatives start, and what is left of the first and of the others. -/
def splitLead : List Node → List (List Node) → List Node × List Node × List (List Node)
  | [], others => ([], [], others)
  | n :: ns, others =>
    if others.all fun a => (a.head?.map (sameLeaf n)).getD false then
      match splitLead ns (others.map (·.drop 1)) with
      | (lead, first, others) => (n :: lead, first, others)
    else ([], n :: ns, others)

/-- Alternatives of one character each as the items of a set. -/
def setOfAlternatives? : List (List Node) → Option (List SetItem)
  | [] => some []
  | [.char n false _] :: rest => (setOfAlternatives? rest).map fun items => .char n :: items
  | [.set false own _] :: rest => (setOfAlternatives? rest).map fun items => own ++ items
  | _ => none

/-- Several alternatives: what they start with in common comes before them, and single characters become a set. -/
def joinAlternatives (fold : Fold) (first : List Node) (others : List (List Node)) : List Node :=
  match splitLead first others with
  | (lead, first, others) =>
    lead ++ match setOfAlternatives? (first :: others) with
      | some items => [.set false items.eraseDups fold]
      | none => [.branch (first :: others)]

/-! ### Expressions -/

/-- How deep groups may stand in each other; alternatives count as a level of their own. -/
def maxDepth : Nat := 975

/-- Some levels further down. -/
def deeper (depth levels : Nat) : Reader Nat := do
  let s ← get
  if maxDepth < depth + levels then throw ⟨"maximum recursion depth exceeded", none, s.pattern⟩
  else return depth + levels

mutual

/-- Alternatives up to a closing bracket or the end. -/
def alternatives (depth : Nat) (o : Options) : Nat → Reader (List Node)
  | 0 => fail "pattern too deep" 0
  | fuel + 1 => do
    let first ← sequence depth (depth = 0) o [] fuel
    let rest ← moreAlternatives depth o fuel
    let seen ← get
    let o := if depth = 0 then seen.options else o
    return if rest.isEmpty then first else joinAlternatives o.fold first rest
termination_by structural n => n

def moreAlternatives (depth : Nat) (o : Options) : Nat → Reader (List (List Node))
  | 0 => fail "pattern too deep" 0
  | fuel + 1 => do
    if ← accept '|' then
      let seen ← get
      let o := if depth = 0 then seen.options else o
      let a ← sequence depth false o [] fuel
      let rest ← moreAlternatives depth o fuel
      return a :: rest
    else return []
termination_by structural n => n

/-- A sequence of nodes, behind those already read. -/
def sequence (depth : Nat) (first : Bool) (o : Options) (read : List Node) : Nat → Reader (List Node)
  | 0 => fail "pattern too deep" 0
  | fuel + 1 => do
    match ← next with
    | none => return dissolve read
    | some piece =>
      if piece = ['|'] || piece = [')'] then return dissolve read
      else
        advance
        match piece with
        | ['\\', c] => do
          let node ← escapeNode o c
          sequence depth first o (read ++ [node]) fuel
        | [c] =>
          if o.verbose && isPatternBlank c then sequence depth first o read fuel
          else if o.verbose && c = '#' then do
            skipLine (← fuelFor)
            sequence depth first o read fuel
          else if c = '[' then do
            let node ← setNode o
            sequence depth first o (read ++ [node]) fuel
          else if c = '*' || c = '+' || c = '?' then do
            let here ← place
            let read ← repeatLast read here
              (if c = '*' then (0, none) else if c = '+' then (1, none) else (0, some 1))
            sequence depth first o read fuel
          else if c = '\x7b' then do
            let here ← place
            match ← bounds? with
            | none => sequence depth first o (read ++ [.char c.toNat false o.fold]) fuel
            | some b =>
              let read ← repeatLast read here b
              sequence depth first o read fuel
          else if c = '.' then sequence depth first o (read ++ [.any o.dotAll]) fuel
          else if c = '^' then
            sequence depth first o (read ++ [.anchor (if o.lines then .lineStart else .start)]) fuel
          else if c = '$' then
            sequence depth first o (read ++ [.anchor (if o.lines then .lineFinish else .finishOrLastLine)]) fuel
          else if c = '(' then do
            let start := (← place) - 1
            match ← group depth first start o read fuel with
            | (o, nodes) => sequence depth first o (read ++ nodes) fuel
          else sequence depth first o (read ++ [.char c.toNat false o.fold]) fuel
        | _ => sequence depth first o read fuel
termination_by structural n => n

/-- What follows an opening bracket: the options from here on, and at most one node. -/
def group (depth : Nat) (first : Bool) (start : Nat) (o : Options) (read : List Node) : Nat → Reader (Options × List Node)
  | 0 => fail "pattern too deep" 0
  | fuel + 1 => do
    if !(← accept '?') then
      let node ← capture depth none start o fuel
      return (o, [node])
    else
      match ← take with
      | none => fail "unexpected end of pattern" 0
      | some piece =>
        match piece with
        | ['P'] =>
          if ← accept '<' then do
            let name ← takeUntil '>' "group name" [] (← fuelFor)
            checkName name
            let node ← capture depth (some name) start o fuel
            return (o, [node])
          else if ← accept '=' then do
            let node ← namedReference o
            return (o, [node])
          else
            match ← take with
            | none => fail "unexpected end of pattern" 0
            | some other => fail ("unknown extension ?P" ++ String.ofList other) (other.length + 2)
        | [':'] => do
          let depth ← deeper depth 2
          let body ← alternatives depth o fuel
          closeParen start
          return (o, [.group .plain body])
        | ['#'] => do
          skipComment start (← fuelFor)
          return (o, [])
        | ['='] => do
          let depth ← deeper depth 2
          let body ← alternatives depth o fuel
          closeParen start
          return (o, [.look false false body])
        | ['!'] => do
          let depth ← deeper depth 2
          let body ← alternatives depth o fuel
          closeParen start
          return (o, [.look false true body])
        | ['<'] => do
          match ← take with
          | none => fail "unexpected end of pattern" 0
          | some other =>
            if other = ['='] || other = ['!'] then
              let seen ← get
              let outer := seen.behind
              if outer.isNone then modify fun s => { s with behind := some s.groups.length }
              let depth ← deeper depth 2
              let body ← alternatives depth o fuel
              if outer.isNone then modify fun s => { s with behind := none }
              closeParen start
              return (o, [.look true (other = ['!']) body])
            else fail ("unknown extension ?<" ++ String.ofList other) (other.length + 2)
        | ['('] => do
          let g ← conditionGroup
          checkBehind g
          let depth ← deeper depth 1
          let present ← sequence depth false o [] fuel
          let absent ←
            if ← accept '|' then do
              let absent ← sequence depth false o [] fuel
              if (← next) == some ['|'] then fail "conditional backref with more than two branches" 0
              pure absent
            else pure []
          closeParen start
          return (o, [.conditional g present absent])
        | ['>'] => do
          let depth ← deeper depth 2
          let body ← alternatives depth o fuel
          closeParen start
          return (o, [.atomic body])
        | _ =>
          if (optionLetter? piece).isSome || piece = ['-'] then do
            match ← readSwitch piece with
            | .whole =>
              if !first || !read.isEmpty then
                fail "global flags not at the start of the expression" ((← place) - start)
              let seen ← get
              return (seen.options, [])
            | .group add drop => do
              let depth ← deeper depth 2
              let body ← alternatives depth (o.within add drop) fuel
              closeParen start
              return (o, [.group .switched body])
          else fail ("unknown extension ?" ++ String.ofList piece) (piece.length + 1)
termination_by structural n => n

/-- A group that can be referred to. -/
def capture (depth : Nat) (name : Option (List Char)) (start : Nat) (o : Options) : Nat → Reader Node
  | 0 => fail "pattern too deep" 0
  | fuel + 1 => do
    let g ← openGroup name
    let depth ← deeper depth 2
    let body ← alternatives depth o fuel
    closeParen start
    closeGroup g body
    return .group (.numbered g) body
termination_by structural n => n

end

private def parseAll (fuel : Nat) : Reader (List Node) := do
  let nodes ← alternatives 0 {} fuel
  let s ← get
  if s.options.basic && s.options.full then throw ⟨"ASCII and UNICODE flags are incompatible", none, s.pattern⟩
  if !s.rest.isEmpty then fail "unbalanced parenthesis" 0
  match s.asked.find? fun p => s.groups.length ≤ p.1 with
  | some (g, p) => throw ⟨"invalid group reference " ++ toString g, some p, s.pattern⟩
  | none => return nodes

/-- The nodes of a pattern and the options for the whole of it. -/
def parse (pattern : String) : Except PatternFault (List Node × Options) :=
  let cs := pattern.toList
  let ps := pieces 0 cs
  if ps.isEmpty && endsOpen cs then .error ⟨"bad escape (end of pattern)", some (cs.length - 1), cs⟩
  else
    ((parseAll (4 * cs.length + 8)).run { rest := ps, pattern := cs, endsOpen := endsOpen cs }).map
      fun r => (r.1, r.2.options)

end FlowRules.Pattern
