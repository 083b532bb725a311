import FlowRules.Json.Writer
import FlowRules.Value.Basic

/-!
# Where definitions come from

A repository finds definitions by name.  One kind keeps them in memory; a definition that is given as a value is
kept as the JSON text of that value.
-/

namespace FlowRules

structure Repository where
  /-- The definition under a name, if there is one. -/
  find : String → Except Fault (Option String)
  /-- What is logged where nothing is found. -/
  missingNote : String → Option String := fun _ => none
  /-- The names that are known, in order. -/
  names : List String := []
  /-- No less than the total length of the definitions. -/
  size : Nat := 0

/-- Every lookup fails. -/
def Repository.failing (f : Fault) : Repository := { find := fun _ => .error f }

namespace Value

/-- The member name that a key of a dictionary becomes. -/
def memberName (key : Value) : Except Fault String :=
  match key.atom? with
  | some (.text s) => .ok s
  | some (.float x) => .ok (String.ofList (Json.writeFloat x))
  | some (.bool b) => .ok (if b then "true" else "false")
  | some .null => .ok "null"
  | some (.int n) =>
    match Numeral.write n with
    | .ok s => .ok s
    | .error f => .error (.value (.numeral f))
  | _ => .error (.type (.stated ("keys must be str, int, float, bool or None, not " ++ key.typeName)))

mutual

/-- The JSON document of a value. -/
def toJson : Value → Except Fault Json
  | .tuple _ _ items => (toJsonList items).map .array
  | .list _ items => (toJsonList items).map .array
  | .dict _ entries => (toJsonMembers entries).map .object
  | v =>
    match v.atom? with
    | some .null => .ok .null
    | some (.bool b) => .ok (.bool b)
    | some (.int n) => .ok (.int n)
    | some (.float x) => .ok (.float x)
    | some (.text s) => .ok (.text s)
    | _ => .error (.type (.stated ("Object of type " ++ v.typeName ++ " is not JSON serializable")))
termination_by structural v => v

def toJsonList : List Value → Except Fault (List Json)
  | [] => .ok []
  | v :: vs => do
    let j ← toJson v
    let js ← toJsonList vs
    .ok (j :: js)
termination_by structural vs => vs

def toJsonMembers : List (Value × Value) → Except Fault (List (String × Json))
  | [] => .ok []
  | (k, v) :: es => do
    let name ← memberName k
    let j ← toJson v
    let ms ← toJsonMembers es
    .ok ((name, j) :: ms)
termination_by structural es => es

end

end Value

/-- Put a value under a key: an existing key keeps its place. -/
def setEntry {α : Type} (key : String) (v : α) : List (String × α) → List (String × α)
  | [] => [(key, v)]
  | (k, w) :: rest => if k = key then (k, v) :: rest else (k, w) :: setEntry key v rest

/-- Definitions in memory, by their names. -/
abbrev MemoryStore := List (String × String)

namespace MemoryStore

/-- The text that is kept for a definition. -/
def definitionText (definition : Value) : Except Fault String :=
  match definition with
  | .text s => .ok s
  | v =>
    match v.atom? with
    | some (.text s) => .ok s
    | _ => do
      let j ← v.toJson
      match Json.write j with
      | .ok s => .ok s
      | .error f => .error (.value (.numeral f))

def add (store : MemoryStore) (name : String) (definition : Value) : Except Fault MemoryStore := do
  let text ← definitionText definition
  .ok (setEntry name text store)

def names (store : MemoryStore) : List String := (store.map (·.1)).mergeSort fun a b => decide (a ≤ b)

def repository (store : MemoryStore) : Repository :=
  { find := fun name => .ok (store.lookup name), names := store.names, size := (store.map (·.2.length)).sum }

end MemoryStore
end FlowRules
