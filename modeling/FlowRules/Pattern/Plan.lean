import FlowRules.Pattern.Parser

/-!
# Plans of a search

A plan is what a search follows: the nodes of a pattern with all that can be said before the text is known.  Every
test of a character says what it compares, groups are marks around their nodes, repetitions of one character are
told apart from others, and each choice says whether it stands inside a repetition.
-/

namespace FlowRules.Pattern

/-! ### Single characters -/

def isBasicSpace (n : Nat) : Bool := n = 32 || (9 ≤ n && n ≤ 13)
def isBasicDigit (n : Nat) : Bool := 48 ≤ n && n ≤ 57
def isBasicWord (n : Nat) : Bool :=
  isBasicDigit n || (65 ≤ n && n ≤ 90) || (97 ≤ n && n ≤ 122) || n = 95

def isWord (basic : Bool) (c : Char) : Bool := if basic then isBasicWord c.toNat else Text.isWordChar c

def inCategory (basic : Bool) (c : Char) : Category → Bool
  | .digit => if basic then isBasicDigit c.toNat else Text.isDecimalDigit c
  | .space => if basic then isBasicSpace c.toNat else Text.isBlank c
  | .word => isWord basic c

/-- What one character of the text has to be. -/
inductive CharTest where
  | any (lineFeed : Bool)
  | same (n : Nat) (negated : Bool)
  /-- Its form without case is `form`. -/
  | form (form : Nat) (negated : Bool) (fold : Fold)
  | set (items : List SetItem) (negated : Bool) (fold : Fold)
  deriving DecidableEq, Repr

/-- The largest code point of the first plane. -/
def firstPlaneEnd : Nat := 65535

namespace SetItem

/-- Whether case matters to an item. -/
def isCased (fold : Fold) : SetItem → Bool
  | .char n => firstPlaneEnd < n || fold.isCased n
  | .range lo hi => firstPlaneEnd < hi || fold.meetsCased lo hi
  | .category .. => false

/-- Whether an item has a character as it is. -/
def has (c : Char) : SetItem → Bool
  | .char n => n = c.toNat
  | .range lo hi => lo ≤ c.toNat && c.toNat ≤ hi
  | .category cat negated basic => inCategory basic c cat != negated

/-- Whether an item has the form `l` of a character.  In the first plane an item has the forms of its characters and
their kin; beyond it an item has its own characters, and a range also what has a capital in it. -/
def hasForm (fold : Fold) (l : Nat) : SetItem → Bool
  | .char n => if firstPlaneEnd < n then n = l else fold.small n = l || (fold.kin (fold.small n)).contains l
  | .range lo hi =>
    ((l :: fold.kin l).any fun k => (fold.withForm k).any fun n => lo ≤ n && n ≤ hi && n ≤ firstPlaneEnd) ||
      (firstPlaneEnd < hi && ((lo ≤ l && l ≤ hi) || (lo ≤ capitalLetter l && capitalLetter l ≤ hi)))
  | .category cat negated basic => inCategory basic (Char.ofNat l) cat != negated

end SetItem

namespace CharTest

/-- The test of a character that stands for itself, or for all others. -/
def ofChar (n : Nat) (negated : Bool) (fold : Fold) : CharTest :=
  if !fold.isCased n then .same n negated
  else if (fold.kin (fold.small n)).isEmpty then .form (fold.small n) negated fold
  else .set [.char n] negated fold

/-- The test of a set; case counts if it matters to no item. -/
def ofSet (items : List SetItem) (negated : Bool) (fold : Fold) : CharTest :=
  .set items negated (if fold ≠ .exact ∧ items.any (·.isCased fold) then fold else .exact)

def holds (t : CharTest) (c : Char) : Bool :=
  match t with
  | .any lineFeed => lineFeed || c ≠ '\n'
  | .same n negated => (n == c.toNat) != negated
  | .form l negated fold => (l == fold.small c.toNat) != negated
  | .set items negated .exact => items.any (·.has c) != negated
  | .set items negated fold => items.any (·.hasForm fold (fold.small c.toNat)) != negated

/-- Whether a repetition of the test notes each position on its way. -/
def leavesTrail : CharTest → Bool
  | .set _ _ fold => fold ≠ .exact
  | _ => false

/-- Whether a choice asks the test before it tries what starts with it. -/
def isLookedAt : CharTest → Bool
  | .same _ negated => !negated
  | .set _ _ fold => fold = .exact
  | _ => false

end CharTest

/-! ### Steps -/

inductive Step where
  | single (t : CharTest)
  | place (a : Anchor)
  | mark (i : Nat)
  | branch (inLoop : Bool) (alternatives : List (List Step))
  /-- One character many times; `next` is the character that has to follow, if one is known. -/
  | run (greed : Greed) (inLoop : Bool) (min : Nat) (max : Option Nat) (t : CharTest) (next : Option Nat)
  /-- A repetition that can be shortened or lengthened again. -/
  | loop (fewest : Bool) (inLoop : Bool) (min : Nat) (max : Option Nat) (body : List Step)
  /-- A repetition that is never given back. -/
  | passes (min : Nat) (max : Option Nat) (body : List Step)
  | atomic (body : List Step)
  | look (back : Nat) (body : List Step)
  | lookNot (inLoop : Bool) (back : Nat) (body : List Step)
  | reference (group : Nat) (fold : Fold)
  | conditional (group : Nat) (present absent : List Step)
  deriving Repr, Inhabited

/-- The character that steps start with, if they can start with no other; of no steps it is the one that follows. -/
def leadChar (after : Option Nat) : List Step → Option Nat
  | [] => after
  | .single (.same n false) :: _ => some n
  | _ => none

mutual

/-- The test of a node that is one character wide. -/
def Node.single? : Node → Option CharTest
  | .char n negated fold => some (.ofChar n negated fold)
  | .any lineFeed => some (.any lineFeed)
  | .set negated items fold => some (.ofSet items negated fold)
  | .group .switched body => seqSingle? body
  | .group .plain body => seqSingle? body
  | _ => none
termination_by structural n => n

def seqSingle? : List Node → Option CharTest
  | [n] => n.single?
  | _ => none
termination_by structural ns => ns

end

mutual

/-- The steps of a node; `after` is the character that has to follow them, if one is known. -/
def Node.steps (inLoop : Bool) (after : Option Nat) : Node → List Step
  | .char n negated fold => [.single (.ofChar n negated fold)]
  | .any lineFeed => [.single (.any lineFeed)]
  | .set negated items fold => [.single (.ofSet items negated fold)]
  | .anchor a => [.place a]
  | .branch alternatives => [.branch inLoop (branchSteps inLoop alternatives)]
  | .group (.numbered g) body => .mark (2 * g - 2) :: (seqSteps inLoop none body ++ [.mark (2 * g - 1)])
  | .group _ body => seqSteps inLoop after body
  | .repeated greed min max body =>
    match seqSingle? body with
    | some t => [.run greed inLoop min max t after]
    | none =>
      match greed with
      | .possessive => [.passes min max (seqSteps inLoop none body)]
      | _ => [.loop (greed = .fewest) inLoop min max (seqSteps true none body)]
  | .atomic body => [.atomic (seqSteps inLoop none body)]
  | .look behind negated body =>
    let back := if behind then (seqWidth body).1 else 0
    if negated then [.lookNot inLoop back (seqSteps inLoop none body)]
    else [.look back (seqSteps inLoop none body)]
  | .reference g _ _ fold => [.reference g fold]
  | .conditional g present absent =>
    [.conditional g (seqSteps inLoop (if absent.isEmpty then after else none) present) (seqSteps inLoop after absent)]
termination_by structural n => n

def seqSteps (inLoop : Bool) (after : Option Nat) : List Node → List Step
  | [] => []
  | n :: ns =>
    let rest := seqSteps inLoop after ns
    n.steps inLoop (leadChar after rest) ++ rest
termination_by structural ns => ns

def branchSteps (inLoop : Bool) : List (List Node) → List (List Step)
  | [] => []
  | a :: rest => seqSteps inLoop none a :: branchSteps inLoop rest
termination_by structural as => as

end

/-! ### What can not be planned -/

/-- The operation that repeats, as a message names it. -/
def Greed.operation : Greed → String
  | .most => "MAX_REPEAT"
  | .fewest => "MIN_REPEAT"
  | .possessive => "POSSESSIVE_REPEAT"

mutual

/-- The first reason why a node can not be planned: in a template nothing is repeated, and what is looked at behind a
position has one width. -/
def Node.planFault? (template : Bool) : Node → Option String
  | .branch alternatives => branchPlanFault? template alternatives
  | .group _ body => seqPlanFault? template body
  | .repeated greed _ _ body =>
    if template then some ("internal: unsupported template operator " ++ greed.operation)
    else seqPlanFault? template body
  | .atomic body => seqPlanFault? template body
  | .look behind _ body =>
    if behind && decide (4294967295 < (seqWidth body).1) then some "looks too much behind"
    else if behind && (seqWidth body).2 ≠ some (seqWidth body).1 then
      some "look-behind requires fixed-width pattern"
    else seqPlanFault? template body
  | .conditional _ present absent => (seqPlanFault? template present).or (seqPlanFault? template absent)
  | _ => none
termination_by structural n => n

def seqPlanFault? (template : Bool) : List Node → Option String
  | [] => none
  | n :: ns => (n.planFault? template).or (seqPlanFault? template ns)
termination_by structural ns => ns

def branchPlanFault? (template : Bool) : List (List Node) → Option String
  | [] => none
  | a :: rest => (seqPlanFault? template a).or (branchPlanFault? template rest)
termination_by structural as => as

end

/-- The steps of a pattern and the least number of characters it matches. -/
structure Plan where
  least : Nat
  steps : List Step
  deriving Repr

/-- The plan for a pattern. -/
def plan (pattern : String) : Except PatternFault Plan := do
  let (nodes, options) ← parse pattern
  match seqPlanFault? options.template nodes with
  | some text => throw ⟨text, none, pattern.toList⟩
  | none => return ⟨(seqWidth nodes).1, seqSteps false none nodes⟩

end FlowRules.Pattern
