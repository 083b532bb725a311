import FlowRules.Text.Base64
import FlowRules.Value.Compare
import FlowRules.Yaml.Node

/-!
# The values of nodes

A node is given a value by its tag.  Mappings take in the pairs of those they merge, and their own pairs come after.
Of several faults in one document the one of the least deep node is reported, and among nodes of one depth that of
the first.  What contains itself can not be told as a value.
-/

namespace FlowRules.Yaml

namespace Node

def fail {α : Type} (setting : Option Setting) (problem : String) (place : Mark) : Except Trouble α :=
  .error (.marked .constructor setting problem place)

private def unsuitable {α : Type} : Except Fault α → Except Trouble α
  | .ok a => .ok a
  | .error f => .error (.unsuitable f)

/-! ### Scalars -/

/-- The text of a node that has to be a scalar; a mapping with the key `=` stands for the value under it.  The marks
are those of the mappings around the node that stand for it, none of which it may be. -/
def scalarText (around : List Mark) : Nat → Node → Except Trouble String
  | _, scalar _ text _ => .ok text
  | fuel + 1, mapping t pairs m =>
    match pairs.find? fun p => p.1.tag = tagNamed "value" with
    | some p => scalarText (m :: around) fuel p.2
    | none => fail none ("expected a scalar node, but found " ++ (mapping t pairs m).name) m
  | _, enclosing m =>
    if m ∈ around then .error Compose.tooDeep
    else fail none ("expected a scalar node, but found " ++ (enclosing m).name) m
  | _, n => fail none ("expected a scalar node, but found " ++ n.name) n.mark

/-- The tags of scalars. -/
def scalarTags : List String := ["null", "bool", "int", "float", "binary", "timestamp", "str"].map tagNamed

/-- The tags of collections. -/
def collectionTags : List String := ["seq", "map", "set", "omap", "pairs"].map tagNamed

private def bytes (m : Mark) (s : String) : Except Trouble Value :=
  match Text.ofBase64 s with
  | .ok bs => .ok (.bytes bs)
  | .error f =>
    let action :=
      match f with
      | .foreign .. => "convert base64 data into ascii: "
      | _ => "decode base64 data: "
    fail none ("failed to " ++ action ++ f.message) m

/-- A point in time is read from the node itself, so that a mapping can not stand for one. -/
private def timestamp (n : Node) (text : String) : Except Trouble Value :=
  match n with
  | scalar .. => unsuitable (Scalar.toTimestamp text)
  | _ => unsuitable (.error (.type (.stated "expected string or bytes-like object, got 'list'")))

/-- The value of a text with a tag, which a node has or stands for. -/
def scalarValue (n : Node) (text : String) : Except Trouble Value :=
  let tag := n.tag
  if tag = tagNamed "null" then .ok .null
  else if tag = tagNamed "bool" then unsuitable ((Scalar.toBool text).map .bool)
  else if tag = tagNamed "int" then unsuitable ((Scalar.toInt text).map .int)
  else if tag = tagNamed "float" then unsuitable ((Scalar.toFloat text).map .float)
  else if tag = tagNamed "timestamp" then timestamp n text
  else if tag = tagNamed "binary" then bytes n.mark text
  else .ok (.text text)

/-- The value of a node, unless it is a collection or stands for one; a node without a known tag has none. -/
def atom? (fuel : Nat) (n : Node) : Except Trouble (Option Value) :=
  match n with
  | enclosing _ => .ok none
  | _ =>
    if scalarTags.contains n.tag then do
      let text ← scalarText [] fuel n
      let v ← scalarValue n text
      .ok (some v)
    else if collectionTags.contains n.tag then .ok none
    else fail none ("could not determine a constructor for the tag " ++ Text.quoted n.tag) n.mark

/-! ### Merging -/

private def constructing (m : Mark) : Option Setting := some ⟨"while constructing a mapping", some m⟩

mutual

/-- The pairs of a mapping, those it merges first. -/
def flattened (m : Mark) (pairs : List (Node × Node)) : Nat → Except Trouble (List (Node × Node))
  | 0 => .ok pairs
  | fuel + 1 => do
    let merged ← pairs.mapM fun p => if p.1.tag = tagNamed "merge" then mergedPairs m p.2 fuel else .ok []
    let own := (pairs.filter fun p => p.1.tag ≠ tagNamed "merge").map fun p =>
      if p.1.tag = tagNamed "value" then (p.1.withTag (tagNamed "str"), p.2) else p
    .ok (merged.flatten ++ own)
termination_by structural fuel => fuel

/-- The pairs that a node brings into a mapping that merges it. -/
def mergedPairs (m : Mark) (n : Node) : Nat → Except Trouble (List (Node × Node))
  | 0 => .ok []
  | fuel + 1 =>
    match n with
    | mapping _ pairs k => flattened k pairs fuel
    | enclosing k => if k = m then .ok [] else .error Compose.tooDeep
    | sequence _ items _ => do
      let parts ← items.mapM fun item =>
        match item with
        | mapping _ pairs k => flattened k pairs fuel
        | other =>
          fail (constructing m) ("expected a mapping for merging, but found " ++ other.name) other.mark
      .ok parts.reverse.flatten
    | other =>
      fail (constructing m) ("expected a mapping or list of mappings for merging, but found " ++ other.name) other.mark
termination_by structural fuel => fuel

end

/-! ### The first fault -/

/-- A node inside a collection, which may be a key. -/
structure Part where
  node : Node
  key : Option Mark := none

/-- The parts of a collection in the order in which they are read; a fault ends them. -/
def parts (fuel : Nat) (n : Node) : List (Except Trouble Part) :=
  let single := fun (what : String) (items : List Node) => items.flatMap fun item =>
    match item with
    | mapping _ [(k, v)] _ => [.ok ⟨k, none⟩, .ok ⟨v, none⟩]
    | mapping _ pairs m =>
      [fail (some ⟨what, some n.mark⟩)
        ("expected a single mapping item, but found " ++ toString pairs.length ++ " items") m]
    | other => [fail (some ⟨what, some n.mark⟩) ("expected a mapping of length 1, but found " ++ other.name) other.mark]
  if n.tag = tagNamed "seq" then
    match n with
    | sequence _ items _ => items.map fun i => .ok ⟨i, none⟩
    | _ => [fail none ("expected a sequence node, but found " ++ n.name) n.mark]
  else if n.tag = tagNamed "map" ∨ n.tag = tagNamed "set" then
    match n with
    | mapping _ pairs m =>
      match flattened m pairs fuel with
      | .ok pairs => pairs.flatMap fun p => [.ok ⟨p.1, some m⟩, .ok ⟨p.2, none⟩]
      | .error t => [.error t]
    | _ => [fail none ("expected a mapping node, but found " ++ n.name) n.mark]
  else if n.tag = tagNamed "omap" ∨ n.tag = tagNamed "pairs" then
    let what := if n.tag = tagNamed "omap" then "while constructing an ordered map" else "while constructing pairs"
    match n with
    | sequence _ items _ => single what items
    | _ => [fail (some ⟨what, some n.mark⟩) ("expected a sequence, but found " ++ n.name) n.mark]
  else []

/-- The collections of one level below some nodes, unless one of the parts has a fault. -/
def nextLevel (fuel : Nat) (nodes : List Node) : Except Trouble (List Node) := do
  let found ← nodes.mapM fun n => do
    let inner ← (n.parts fuel).mapM fun part => do
      let p ← part
      match ← p.node.atom? fuel, p.key with
      | some _, _ => .ok none
      | none, some m =>
        fail (some ⟨"while constructing a mapping", some m⟩) "found unhashable key" p.node.mark
      | none, none => .ok (some p.node)
    .ok (inner.filterMap id)
  .ok found.flatten

/-- Check level by level that all nodes have values. -/
def checkLevels (depth : Nat) : Nat → List Node → Except Trouble Unit
  | _, [] => .ok ()
  | 0, _ => .ok ()
  | fuel + 1, nodes => do
    let next ← nextLevel depth nodes
    checkLevels depth fuel next

/-- Whether a node that has a value contains itself. -/
def isEndless : Nat → Node → Bool
  | 0, _ => false
  | fuel + 1, n =>
    match n with
    | enclosing _ => true
    | _ => (n.parts fuel).any fun part =>
      match part with
      | .ok p => isEndless fuel p.node
      | .error _ => false

/-! ### Building -/

private def isNaN : Value → Bool
  | .float x => x.isNaN
  | _ => false

/-- Put a value under a key.  A key that is no number differs from itself, yet there is only one such key. -/
def putKey (entries : List (Value × Value)) (p : Value × Value) : List (Value × Value) :=
  if isNaN p.1 && entries.any fun e => isNaN e.1 then
    entries.map fun e => if isNaN e.1 then (e.1, p.2) else e
  else Value.putEntry p.1 p.2 entries

/-- The value of a node that has one. -/
def build : Nat → Node → Value
  | 0, _ => .null
  | fuel + 1, n =>
    match n.atom? fuel with
    | .ok (some v) => v
    | _ =>
      let nodes := (n.parts fuel).filterMap fun part =>
        match part with
        | .ok p => some (build fuel p.node)
        | .error _ => none
      if n.tag = tagNamed "seq" then .list none nodes
      else
        let pairs := paired nodes
        if n.tag = tagNamed "map" then .dict none (pairs.foldl putKey [])
        else if n.tag = tagNamed "set" then .set none ((pairs.foldl putKey []).map (·.1))
        else .list none (pairs.map fun p => .tuple none none [p.1, p.2])
where
  /-- Keys and values in turn. -/
  paired : List Value → List (Value × Value)
    | k :: v :: rest => (k, v) :: paired rest
    | _ => []

end Node

/-- More than the depth of any tree of nodes. -/
def depthLimit : Nat := Compose.maxDepth + 2

/-- The value of a text, which must hold at most one document; nothing has the value null. -/
def value (source : List Char) : Except Trouble Value := do
  match ← Node.ofText source with
  | none => .ok .null
  | some n =>
    match ← n.atom? depthLimit with
    | some v => .ok v
    | none => do
      Node.checkLevels depthLimit depthLimit [n]
      if n.isEndless depthLimit then .error Compose.tooDeep else .ok (n.build depthLimit)

def readFrom (origin : Origin) (text : String) : Except Fault Value :=
  match value text.toList with
  | .ok v => .ok v
  | .error t => .error (t.toFault origin text.toList)

def read (text : String) : Except Fault Value := readFrom .given text

end FlowRules.Yaml
