import FlowRules.Pattern.Plan

/-!
# Searching for patterns

Steps are followed from a position on and hand every way to do so to what follows, in the order of preference.  A
repetition never goes on with a pass that has matched nothing, so the number of its passes is bounded by the length
of the text.

What is tried in vain leaves its traces: the position noted last, from which a repetition that is never given back
goes on, and inside such a repetition the marks of groups.  Only inside other repetitions a choice takes the marks
back that it has moved.
-/

namespace FlowRules.Pattern

/-! ### Places -/

def Anchor.holds (s : Array Char) (p : Nat) : Anchor → Bool
  | .start => p = 0
  | .lineStart => p = 0 || s[p - 1]? == some '\n'
  | .finish => p = s.size
  | .finishOrLastLine => p = s.size || (p + 1 = s.size && s[p]? == some '\n')
  | .lineFinish => p = s.size || s[p]? == some '\n'
  | .wordEdge basic => s.size ≠ 0 && edge basic
  | .noWordEdge basic => s.size ≠ 0 && !edge basic
where
  edge (basic : Bool) : Bool :=
    let before := 0 < p && ((s[p - 1]?).map (isWord basic)).getD false
    let after := ((s[p]?).map (isWord basic)).getD false
    before != after

/-! ### Tracks -/

/-- The position noted last, and the marks that are set: two for each group, where it began and where it ended. -/
structure Track where
  reach : Nat
  marks : List (Option Nat)
  deriving DecidableEq, Repr

namespace Track

def note (t : Track) (p : Nat) : Track := { t with reach := p }

/-- Set a mark; marks before it that have not been set are empty. -/
def mark (t : Track) (i p : Nat) : Track :=
  if i < t.marks.length then { t with marks := t.marks.set i (some p) }
  else { t with marks := t.marks ++ List.replicate (i - t.marks.length) none ++ [some p] }

/-- Give up what has been set since `before`; inside a repetition also what has been moved. -/
def giveUp (t : Track) (inLoop : Bool) (before : Track) : Track :=
  { t with marks := if inLoop then before.marks else t.marks.take before.marks.length }

/-- Where a group began and ended. -/
def span? (t : Track) (g : Nat) : Option (Nat × Nat) :=
  match t.marks[2 * g - 2]?, t.marks[2 * g - 1]? with
  | some (some b), some (some e) => if b ≤ e then some (b, e) else none
  | _, _ => none

end Track

/-- Whether a group ends before it begins. -/
def crossed : List (Option Nat) → Bool
  | some b :: some e :: rest => decide (e < b) || crossed rest
  | _ :: _ :: rest => crossed rest
  | _ => false

/-- Whether a try has succeeded, and the track it leaves. -/
abbrev Outcome := Bool × Track

/-- What is to be matched behind steps. -/
abbrev Goal := Nat → Track → Outcome

/-- Steps as the ways to follow them from a position on. -/
abbrev Matcher := Nat → Track → Goal → Outcome

/-- Nothing is left to match. -/
def finish : Goal := fun p t => (true, t.note p)

/-! ### Repetitions of one character -/

def testAt (s : Array Char) (test : CharTest) (p : Nat) : Bool := ((s[p]?).map test.holds).getD false

/-- Where the characters that pass a test end, after `limit` of them at the latest. -/
def runEnd (s : Array Char) (test : CharTest) : Nat → Nat → Nat
  | 0, p => p
  | limit + 1, p => if testAt s test p then runEnd s test limit (p + 1) else p

/-- Try the goal at the positions from `low + n` down to `low` at which it may start. -/
def tryDown (mayStart : Nat → Bool) (inLoop : Bool) (before : Track) (goal : Goal) (low : Nat) :
    Nat → Track → Outcome
  | 0, t =>
    if mayStart low then
      match goal low (t.note low) with
      | (true, t) => (true, t)
      | (false, t) => (false, t.giveUp inLoop before)
    else (false, t)
  | n + 1, t =>
    if mayStart (low + n + 1) then
      match goal (low + n + 1) (t.note (low + n + 1)) with
      | (true, t) => (true, t)
      | (false, t) => tryDown mayStart inLoop before goal low n (t.giveUp inLoop before)
    else tryDown mayStart inLoop before goal low n t

/-- Try the goal at `p` and behind up to `n` further characters that pass the test. -/
def tryUp (s : Array Char) (test : CharTest) (inLoop : Bool) (before : Track) (goal : Goal) :
    Nat → Nat → Track → Outcome
  | n, p, t =>
    match goal p (t.note p) with
    | (true, t) => (true, t)
    | (false, t) =>
      let t := (t.giveUp inLoop before).note p
      if testAt s test p then
        let t := if test.leavesTrail then t.note (p + 1) else t
        match n with
        | 0 => (false, t)
        | n + 1 => tryUp s test inLoop before goal n (p + 1) t
      else (false, t)

/-- Up to `max` characters that pass a test, but at least `min`. -/
def runMatcher (s : Array Char) (greed : Greed) (inLoop : Bool) (min : Nat) (max : Option Nat) (test : CharTest)
    (next : Option Nat) : Matcher := fun p t goal =>
  let room := s.size - p
  if room < min then (false, t)
  else
    let most := (max.map (Nat.min room)).getD room
    let stop := runEnd s test (if greed = .fewest then min else most) p
    let t := t.note (if test.leavesTrail then stop else p)
    if stop < p + min then (false, t)
    else
      match greed with
      | .most =>
        let mayStart := fun q =>
          match next with
          | some n => (s[q]?).map Char.toNat == some n
          | none => true
        tryDown mayStart inLoop t goal (p + min) (stop - (p + min)) t
      | .fewest => tryUp s test inLoop t goal ((max.map (· - min)).getD room) stop t
      | .possessive => goal stop t

/-! ### Other repetitions -/

/-- Whether another pass is allowed after `count`. -/
def mayRepeat (max : Option Nat) (count : Nat) : Bool :=
  match max with
  | some m => decide (count < m)
  | none => true

/-- As many passes as possible first.  `last` is where the last optional pass began. -/
def repeatMost (body : Matcher) (min : Nat) (max : Option Nat) (goal : Goal) :
    Nat → Nat → Option Nat → Nat → Track → Outcome
  | 0, _, _, _, t => (false, t)
  | fuel + 1, count, last, p, t =>
    let t := t.note p
    if count < min then
      match body p t fun q t => repeatMost body min max goal fuel (count + 1) last q t with
      | (true, t) => (true, t)
      | (false, t) => (false, t.note p)
    else
      let pass :=
        if mayRepeat max count ∧ last ≠ some p then
          match body p t fun q t => repeatMost body min max goal fuel (count + 1) (some p) q t with
          | (true, t) => (true, t)
          | (false, u) => (false, (u.giveUp true t).note p)
        else (false, t)
      match pass with
      | (true, t) => (true, t)
      | (false, t) =>
        match goal p t with
        | (true, t) => (true, t)
        | (false, t) => (false, t.note p)

/-- As few passes as possible first. -/
def repeatFewest (body : Matcher) (inLoop : Bool) (min : Nat) (max : Option Nat) (goal : Goal) :
    Nat → Nat → Option Nat → Nat → Track → Outcome
  | 0, _, _, _, t => (false, t)
  | fuel + 1, count, last, p, t =>
    let t := t.note p
    if count < min then
      match body p t fun q t => repeatFewest body inLoop min max goal fuel (count + 1) last q t with
      | (true, t) => (true, t)
      | (false, t) => (false, t.note p)
    else
      match goal p t with
      | (true, t) => (true, t)
      | (false, u) =>
        let t := (u.giveUp inLoop t).note p
        if mayRepeat max count ∧ last ≠ some p then
          match body p t fun q t => repeatFewest body inLoop min max goal fuel (count + 1) (some p) q t with
          | (true, t) => (true, t)
          | (false, t) => (false, t.note p)
        else (false, t)

/-- As many passes as possible, each taken as it matches first, from the position noted last on; `start` is where the
first began.  The pass that fails moves that position, too. -/
def repeatPasses (body : Matcher) (min : Nat) (max : Option Nat) (start : Nat) :
    Nat → Nat → Option Nat → Track → Outcome
  | 0, _, _, t => (true, t)
  | fuel + 1, count, last, t =>
    if count < min then
      match body t.reach t finish with
      | (true, t) => repeatPasses body min max start fuel (count + 1) last t
      | (false, t) => (false, t.note start)
    else if mayRepeat max count ∧ last ≠ some t.reach then
      match body t.reach t finish with
      | (true, u) => repeatPasses body min max start fuel (count + 1) (some t.reach) u
      | (false, u) => (true, u.giveUp true t)
    else (true, t)

/-! ### Steps -/

/-- Whether what a group matched stands at a position, and where it ends there. -/
def referenceEnd? (s : Array Char) (fold : Fold) (p from_ : Nat) : Nat → Option Nat
  | 0 => some p
  | n + 1 =>
    match s[p]?, s[from_]? with
    | some c, some d =>
      if fold.small c.toNat = fold.small d.toNat then referenceEnd? s fold (p + 1) (from_ + 1) n else none
    | _, _ => none

/-- Whether the character at a position allows steps, as far as their first step is looked at. -/
def mayEnter (s : Array Char) (p : Nat) : List Step → Bool
  | .single test :: _ => !test.isLookedAt || testAt s test p
  | _ => true

mutual

def Step.matcher (s : Array Char) : Step → Matcher
  | .single test => fun p t goal => if testAt s test p then goal (p + 1) t else (false, t)
  | .place a => fun p t goal => if a.holds s p then goal p t else (false, t)
  | .mark i => fun p t goal => goal p (t.mark i p)
  | .branch inLoop alternatives => fun p t goal => runBranch s inLoop t alternatives p t goal
  | .run greed inLoop min max test next => runMatcher s greed inLoop min max test next
  | .loop fewest inLoop min max body => fun p t goal =>
    let fuel := min + s.size + 3
    if fewest then repeatFewest (runSeq s body) inLoop min max goal fuel 0 none p t
    else repeatMost (runSeq s body) min max goal fuel 0 none p t
  | .passes min max body => fun p t goal =>
    match repeatPasses (runSeq s body) min max p (min + s.size + 3) 0 none (t.note p) with
    | (true, t) => goal t.reach t
    | (false, t) => (false, t)
  | .atomic body => fun p t goal =>
    match runSeq s body p (t.note p) finish with
    | (true, t) => goal t.reach t
    | (false, t) => (false, t.note p)
  | .look back body => fun p t goal =>
    if p < back then (false, t)
    else
      match runSeq s body (p - back) (t.note (p - back)) finish with
      | (true, t) => goal p t
      | (false, t) => (false, t)
  | .lookNot inLoop back body => fun p t goal =>
    if p < back then goal p t
    else
      match runSeq s body (p - back) (t.note (p - back)) finish with
      | (true, u) => (false, u)
      | (false, u) => goal p (u.giveUp inLoop t)
  | .reference g fold => fun p t goal =>
    match t.span? g with
    | some (b, e) =>
      match referenceEnd? s fold p b (e - b) with
      | some q => goal q t
      | none => (false, t)
    | none => (false, t)
  | .conditional g present absent => fun p t goal =>
    if (t.span? g).isSome then runSeq s present p t goal else runSeq s absent p t goal
termination_by structural step => step

def runSeq (s : Array Char) : List Step → Matcher
  | [] => fun p t goal => goal p t
  | step :: steps => fun p t goal => step.matcher s p t fun p t => runSeq s steps p t goal
termination_by structural steps => steps

/-- The alternatives one after the other; `before` is the track at the start of the first. -/
def runBranch (s : Array Char) (inLoop : Bool) (before : Track) : List (List Step) → Matcher
  | [] => fun _ t _ => (false, t)
  | a :: rest => fun p t goal =>
    if mayEnter s p a then
      match runSeq s a p (t.note p) goal with
      | (true, t) => (true, t)
      | (false, t) => runBranch s inLoop before rest p (t.giveUp inLoop before) goal
    else runBranch s inLoop before rest p t goal
termination_by structural as => as

end

/-! ### Searching -/

namespace Plan

/-- The track of the first match that starts at one of the positions. -/
def matchAmong (plan : Plan) (s : Array Char) : List Nat → Option Track
  | [] => none
  | p :: ps =>
    match runSeq s plan.steps p ⟨p, []⟩ finish with
    | (true, t) => some t
    | (false, _) => matchAmong plan s ps

/-- The track of the first match in a text. -/
def find? (plan : Plan) (s : Array Char) : Option Track :=
  if s.size < plan.least then none else plan.matchAmong s (List.range (s.size + 1))

end Plan

/-- Whether a pattern occurs in a text. -/
def search (pattern text : String) : Except PatternFault Bool := do
  let plan ← plan pattern
  match plan.find? text.toList.toArray with
  | none => return false
  | some t =>
    if crossed t.marks then
      throw ⟨"The span of capturing group is wrong, please report a bug for the re module.", none, pattern.toList⟩
    else return true

end FlowRules.Pattern
