import FlowRules.Pattern.Fold

/-!
# Text patterns

A pattern is a sequence of nodes: characters and sets of characters, places in the text, alternatives, groups,
repetitions, looks ahead and behind, and references to what a group has matched.  Whether case counts and what a
point or an anchor means is settled in each node.
-/

namespace FlowRules.Pattern

/-- A class of characters, in the basic alphabet or in all. -/
inductive Category where
  | digit
  | space
  | word
  deriving DecidableEq, Repr

inductive SetItem where
  | char (n : Nat)
  | range (lo hi : Nat)
  | category (c : Category) (negated basic : Bool)
  deriving DecidableEq, Repr

/-- A place in a text. -/
inductive Anchor where
  | start
  | lineStart
  | finish
  /-- The end, or a line feed that ends the text. -/
  | finishOrLastLine
  | lineFinish
  | wordEdge (basic : Bool)
  | noWordEdge (basic : Bool)
  deriving DecidableEq, Repr

/-- How a repetition tries its counts: most first, fewest first, or only the most. -/
inductive Greed where
  | most
  | fewest
  | possessive
  deriving DecidableEq, Repr

/-- What a group does besides holding its nodes together. -/
inductive GroupKind where
  /-- It keeps what it has matched under a number, from one on. -/
  | numbered (index : Nat)
  /-- It changes options. -/
  | switched
  | plain
  deriving DecidableEq, Repr

inductive Node where
  | char (n : Nat) (negated : Bool) (fold : Fold)
  | any (lineFeed : Bool)
  | set (negated : Bool) (items : List SetItem) (fold : Fold)
  | anchor (a : Anchor)
  | branch (alternatives : List (List Node))
  | group (kind : GroupKind) (body : List Node)
  | repeated (greed : Greed) (min : Nat) (max : Option Nat) (body : List Node)
  | atomic (body : List Node)
  | look (behind negated : Bool) (body : List Node)
  /-- What a group has matched; the widths are those of the group. -/
  | reference (group : Nat) (least : Nat) (most : Option Nat) (fold : Fold)
  | conditional (group : Nat) (present absent : List Node)
  deriving Repr, Inhabited

/-! ### Widths -/

/-- The least and the greatest number of characters; `none` stands for no bound. -/
abbrev Width := Nat × Option Nat

namespace Width

def add (a b : Width) : Width :=
  (a.1 + b.1, match a.2, b.2 with
    | some m, some n => some (m + n)
    | _, _ => none)

def join (a b : Width) : Width :=
  (min a.1 b.1, match a.2, b.2 with
    | some m, some n => some (max m n)
    | _, _ => none)

def times (a : Width) (lo : Nat) (hi : Option Nat) : Width :=
  (a.1 * lo, match a.2, hi with
    | some m, some n => some (m * n)
    | some 0, none => some 0
    | none, some 0 => some 0
    | _, _ => none)

end Width

mutual

def Node.width : Node → Width
  | .char .. => (1, some 1)
  | .any _ => (1, some 1)
  | .set .. => (1, some 1)
  | .anchor _ => (0, some 0)
  | .branch alternatives => branchWidth alternatives
  | .group _ body => seqWidth body
  | .repeated _ lo hi body => (seqWidth body).times lo hi
  | .atomic body => seqWidth body
  | .look .. => (0, some 0)
  | .reference _ least most _ => (least, most)
  | .conditional _ present absent => (seqWidth present).join (seqWidth absent)
termination_by structural n => n

def seqWidth : List Node → Width
  | [] => (0, some 0)
  | n :: ns => (Node.width n).add (seqWidth ns)
termination_by structural ns => ns

def branchWidth : List (List Node) → Width
  | [] => (0, some 0)
  | [a] => seqWidth a
  | a :: b :: rest => (seqWidth a).join (branchWidth (b :: rest))
termination_by structural as => as

end

/-- Why a text is no pattern, with the place where this shows. -/
structure PatternFault where
  text : String
  place : Option Nat
  pattern : List Char
  deriving Repr

namespace PatternFault

def message (f : PatternFault) : String :=
  match f.place with
  | none => f.text
  | some p =>
    f.text ++ " at position " ++ toString p ++
      (if f.pattern.contains '\n' then
        let before := f.pattern.take p
        " (line " ++ toString (before.count '\n' + 1) ++ ", column " ++
          toString ((before.reverse.takeWhile (· ≠ '\n')).length + 1) ++ ")"
      else "")

end PatternFault
end FlowRules.Pattern
