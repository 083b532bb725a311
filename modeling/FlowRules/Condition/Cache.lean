import FlowRules.Condition.Eval
import FlowRules.Condition.Parser

/-!
# Conditions and their cache

A condition is a text with the expression it stands for.  It holds when the value of the expression is true; what
goes wrong on the way is reported with the text of the condition.  Conditions are parsed once per text: the cache
keeps them in the order of their first use and counts hits and misses.
-/

namespace FlowRules

/-- A parsed condition.  The serial number tells it from other conditions parsed from the same text. -/
structure Condition where
  text : String
  tree : Expr
  serial : Nat
  deriving Repr

namespace Condition

def display (c : Condition) : String := "CompiledCondition(" ++ Text.quoted c.text ++ ")"

/-- The fault of a condition whose evaluation failed. -/
def wrap (text : String) (f : Fault) : Fault :=
  match f with
  | .conditionEvaluation .. => f
  | f => .conditionEvaluation text (f.kind ++ ": " ++ f.message)

/-- Whether the condition holds. -/
def holds (c : Condition) (env : Environment) : Eval Bool := do
  let v ← tryCatchThe Fault (c.tree.eval env) fun f => throw (wrap c.text f)
  return v.truth

end Condition

/-- The conditions parsed so far, by their texts, and how often one was found or not found among them. -/
structure ConditionCache where
  entries : List (String × Condition) := []
  hits : Nat := 0
  misses : Nat := 0
  /-- How many conditions have been parsed, also before a reset. -/
  parsed : Nat := 0

namespace ConditionCache

def size (c : ConditionCache) : Nat := c.entries.length

def isCached (c : ConditionCache) (text : String) : Bool := (c.entries.lookup text).isSome

/-- Forget all conditions and counts. -/
def reset (c : ConditionCache) : ConditionCache := { parsed := c.parsed }

/-- The condition for a text, and whether it had to be parsed. -/
def compile (c : ConditionCache) (text : String) : Except Fault (Condition × Bool) × ConditionCache :=
  match c.entries.lookup text with
  | some found => (.ok (found, false), { c with hits := c.hits + 1 })
  | none =>
    match Expr.ofText text with
    | .error f => (.error f, { c with misses := c.misses + 1 })
    | .ok tree =>
      let made : Condition := ⟨text, tree, c.parsed⟩
      (.ok (made, true),
        { c with entries := c.entries ++ [(text, made)], misses := c.misses + 1, parsed := c.parsed + 1 })

/-- Whether a step's condition is there at all: a blank one always holds. -/
def isBlankCondition (text : Option String) : Bool :=
  match text with
  | none => true
  | some s => Text.isBlankText s

/-- What evaluating a condition leaves behind: its outcome, whether it had to be parsed, the cache and the counts of
items taken. -/
structure Evaluated where
  outcome : Except Fault Bool
  parsed : Bool
  cache : ConditionCache
  cursors : Cursors

/-- Whether the condition with a text holds. -/
def evaluate (c : ConditionCache) (env : Environment) (text : Option String) (cursors : Cursors) : Evaluated :=
  if isBlankCondition text then ⟨.ok true, false, c, cursors⟩
  else
    match c.compile (text.getD "") with
    | (.error f, c) => ⟨.error f, false, c, cursors⟩
    | (.ok (condition, parsed), c) =>
      let (outcome, cursors) := (condition.holds env).run cursors
      ⟨outcome, parsed, c, cursors⟩

end ConditionCache
end FlowRules
