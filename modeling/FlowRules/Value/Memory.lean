import FlowRules.Value.Basic

/-!
# Changes to containers

A container that changes is seen to have changed wherever it is held.  A memory keeps the latest contents of the
containers that have changed, by their identities, and a value is brought up to date against it.
-/

namespace FlowRules

/-- The latest contents of the containers that have changed. -/
abbrev Memory := List (Nat × Value)

/-- The latest content of a container with this identity. -/
def Memory.latest? (m : Memory) (id : Identity) : Option Value := id.bind fun i => List.lookup i m

namespace Value

mutual

/-- A value with the latest contents of the containers in it. -/
def refresh (m : Memory) : Value → Value
  | .atom a => .atom a
  | .member e name a => .member e name a
  | .tuple id label items =>
    match m.latest? id with
    | some v => v
    | none => .tuple id label (refreshList m items)
  | .list id items =>
    match m.latest? id with
    | some v => v
    | none => .list id (refreshList m items)
  | .set id items =>
    match m.latest? id with
    | some v => v
    | none => .set id (refreshList m items)
  | .dict id entries =>
    match m.latest? id with
    | some v => v
    | none => .dict id (refreshEntries m entries)
  | .object id cls fields offers failing =>
    match m.latest? id with
    | some v => v
    | none => .object id cls (refreshFields m fields) offers failing
  | .source id items => .source id (refreshList m items)
  | .other type => .other type
termination_by structural v => v

def refreshList (m : Memory) : List Value → List Value
  | [] => []
  | v :: vs => refresh m v :: refreshList m vs
termination_by structural vs => vs

def refreshEntries (m : Memory) : List (Value × Value) → List (Value × Value)
  | [] => []
  | (k, v) :: es => (refresh m k, refresh m v) :: refreshEntries m es
termination_by structural es => es

def refreshFields (m : Memory) : List (String × Value) → List (String × Value)
  | [] => []
  | (k, v) :: fs => (k, refresh m v) :: refreshFields m fs
termination_by structural fs => fs

end

end Value

/-- Record the new content of the container it has the identity of. -/
def Memory.write (m : Memory) (id : Nat) (v : Value) : Memory :=
  (id, v) :: (m.filter (·.1 != id)).map fun entry => (entry.1, entry.2.refresh [(id, v)])

end FlowRules
