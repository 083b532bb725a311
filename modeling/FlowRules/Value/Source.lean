import FlowRules.Value.Compare

/-!
# Sources that yield their items once

How many items of each source have been taken is kept apart from the values.  An evaluation runs with these
counts: it may take items, and it keeps the counts it has reached also when it fails.
-/

namespace FlowRules

/-- The number of items taken from each source that has been started. -/
abbrev Cursors := List (Nat × Nat)

namespace Cursors

def taken (cs : Cursors) (id : Nat) : Nat := (cs.lookup id).getD 0

/-- Record that `n` more items of a source have been taken. -/
def advance (cs : Cursors) (id n : Nat) : Cursors := (id, cs.taken id + n) :: cs.filter (·.1 != id)

end Cursors

/-- A computation that may take items from sources and may fail. -/
abbrev Eval := ExceptT Fault (StateM Cursors)

namespace Eval

def ofExcept {α : Type} : Except Fault α → Eval α
  | .ok a => pure a
  | .error f => throw f

/-- The items a source still holds. -/
def remaining (id : Nat) (items : List Value) : Eval (List Value) := do
  let cs ← getThe Cursors
  return items.drop (cs.taken id)

def take (id n : Nat) : Eval Unit := modifyThe Cursors fun cs => cs.advance id n

/-- All items of a collection; a source is emptied. -/
def allItems? (v : Value) : Eval (Option (List Value)) :=
  match v with
  | .source id items => do
    let rest ← remaining id items
    take id rest.length
    return some rest
  | _ => return v.items?

/-- How many items it takes to find one that satisfies a test, and whether there is one. -/
def search (test : Value → Except Fault Bool) : List Value → Nat → Except Fault Bool × Nat
  | [], n => (.ok false, n)
  | v :: vs, n =>
    match test v with
    | .error f => (.error f, n + 1)
    | .ok true => (.ok true, n + 1)
    | .ok false => search test vs (n + 1)

/-- Whether one of the items satisfies a test; a source is taken from only as far as needed. -/
def anyOf (test : Value → Except Fault Bool) (v : Value) (items : List Value) : Eval Bool :=
  match v with
  | .source id items => do
    let rest ← remaining id items
    let (found, n) := search test rest 0
    take id n
    ofExcept found
  | _ => ofExcept (search test items 0).1

end Eval
end FlowRules
