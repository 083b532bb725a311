import FlowRules.Yaml.Scalar
import FlowRules.Yaml.Token.Lexer

/-!
# Nodes of YAML

The tokens of a text make one document, a tree of nodes with tags.  An alias stands for the node with its anchor; an
alias of a node that encloses it has no tree.
-/

namespace FlowRules.Yaml

inductive Node where
  | scalar (tag text : String) (mark : Mark)
  | sequence (tag : String) (items : List Node) (mark : Mark)
  | mapping (tag : String) (pairs : List (Node × Node)) (mark : Mark)
  /-- An alias of a node around it. -/
  | enclosing (mark : Mark)
  deriving Inhabited

namespace Node

def mark : Node → Mark
  | scalar _ _ m | sequence _ _ m | mapping _ _ m | enclosing m => m

def tag : Node → String
  | scalar t _ _ | sequence t _ _ | mapping t _ _ => t
  | enclosing _ => ""

/-- The node with another tag. -/
def withTag (t : String) : Node → Node
  | scalar _ text m => scalar t text m
  | sequence _ items m => sequence t items m
  | mapping _ pairs m => mapping t pairs m
  | enclosing m => enclosing m

/-- How a node is named in messages. -/
def name : Node → String
  | scalar .. => "scalar"
  | sequence .. => "sequence"
  | mapping .. => "mapping"
  | enclosing _ => "alias"

end Node

/-! ### Reading tokens -/

structure Composer where
  tokens : List Token
  /-- What is wrong behind the last token. -/
  trouble : Option Trouble
  /-- What the handles of tags stand for. -/
  handles : List (String × String) := []
  anchors : List (String × Node) := []

abbrev Compose := StateT Composer (Except Trouble)

namespace Compose

/-- The handles that stand for something in every document. -/
def commonHandles : List (String × String) := [("!", "!"), ("!!", "tag:yaml.org,2002:")]

/-- How deep collections may nest. -/
def maxDepth : Nat := 320

def tooDeep : Trouble := .unsuitable (.raised "RecursionError" "maximum recursion depth exceeded")

def fail {α : Type} (stage : Stage) (setting : Option Setting) (problem : String) (place : Mark) : Compose α :=
  throw (.marked stage setting problem place)

def peek : Compose Token := do
  let s ← get
  match s.tokens, s.trouble with
  | t :: _, _ => return t
  | [], some trouble => throw trouble
  | [], none => throw tooDeep

def skip : Compose Unit := modify fun s => { s with tokens := s.tokens.drop 1 }

/-- Take the next token. -/
def next : Compose Token := do
  let t ← peek
  skip
  return t

def empty (m : Mark) : Node := .scalar (Scalar.resolve "") "" m

/-- What a node can have in front of it. -/
structure Properties where
  anchor : Option String := none
  tag : Option String := none
  start : Option Mark := none

/-- The full tag of a handle and a suffix. -/
private def fullTag (start place : Mark) (handle : Option String) (suffix : String) : Compose String := do
  match handle with
  | none => return suffix
  | some h =>
    match (← get).handles.lookup h with
    | some stands => return stands ++ suffix
    | none =>
      fail .parser (some ⟨"while parsing a node", some start⟩) ("found undefined tag handle " ++ Text.quoted h) place

/-- The anchor and the tag of a node, in either order. -/
private def properties : Compose Properties := do
  let first ← peek
  match first.lexeme with
  | .anchor a => do
    skip
    let second ← peek
    match second.lexeme with
    | .tag h s => do
      skip
      let t ← fullTag first.start second.start h s
      return ⟨some a, some t, some first.start⟩
    | _ => return ⟨some a, none, some first.start⟩
  | .tag h s => do
    skip
    let second ← peek
    match second.lexeme with
    | .anchor a => do
      skip
      let t ← fullTag first.start first.start h s
      return ⟨some a, some t, some first.start⟩
    | _ =>
      let t ← fullTag first.start first.start h s
      return ⟨none, some t, some first.start⟩
  | _ => return {}

/-- An anchor can be set only once in a document. -/
private def claimAnchor (p : Properties) (start : Mark) : Compose Unit := do
  match p.anchor with
  | none => return ()
  | some a =>
    match (← get).anchors.lookup a with
    | none => return ()
    | some n =>
      fail .composer (some ⟨"found duplicate anchor " ++ Text.quoted a ++ "; first occurrence", some n.mark⟩)
        "second occurrence" start

private def setAnchor (p : Properties) (n : Node) : Compose Unit := do
  match p.anchor with
  | none => return ()
  | some a => modify fun s => { s with anchors := (a, n) :: s.anchors }

/-- The tag of a collection. -/
private def collectionTag (p : Properties) (usual : String) : String :=
  match p.tag with
  | none | some "!" => tagNamed usual
  | some t => t

/-- The tag of a scalar. -/
private def scalarTag (p : Properties) (text : String) (plain : Bool) : String :=
  match p.tag with
  | none => if plain then Scalar.resolve text else tagNamed "str"
  | some "!" => Scalar.resolve text
  | some t => t

/-- A collection, of which the anchor stands for an enclosing node as long as its content is read. -/
private def collection {α : Type} (p : Properties) (start : Mark) (content : Compose α) (make : α → Node) :
    Compose Node := do
  claimAnchor p start
  setAnchor p (.enclosing start)
  let a ← content
  let n := make a
  setAnchor p n
  return n

/-- What kind of node may stand here. -/
inductive Place where
  | block
  /-- A block node, or a sequence that is not indented. -/
  | blockOrEntries
  | flow
  deriving DecidableEq

mutual

/-- A node.  The first number bounds how deep collections nest, the second how long they are. -/
def node (place : Place) : Nat → Nat → Compose Node
  | 0, _ | _, 0 => throw tooDeep
  | depth + 1, fuel + 1 => do
    let first ← peek
    match first.lexeme with
    | .reference a => do
      skip
      match (← get).anchors.lookup a with
      | some n => return n
      | none => fail .composer none ("found undefined alias " ++ Text.quoted a) first.start
    | _ => do
      let p ← properties
      let t ← peek
      let start := p.start.getD t.start
      let sequence := fun items => Node.sequence (collectionTag p "seq") items start
      let mapping := fun pairs => Node.mapping (collectionTag p "map") pairs start
      match t.lexeme, place with
      | .blockEntry, .blockOrEntries => collection p start (looseEntries [] depth fuel) sequence
      | .scalar text plain, _ => do
        skip
        claimAnchor p start
        let n := Node.scalar (scalarTag p text plain) text start
        setAnchor p n
        return n
      | .flowSequenceStart, _ =>
        collection p start (do skip; flowItems t.start true [] depth fuel) sequence
      | .flowMappingStart, _ =>
        collection p start (do skip; flowPairs t.start true [] depth fuel) mapping
      | .blockSequenceStart, .block | .blockSequenceStart, .blockOrEntries =>
        collection p start (do skip; blockItems t.start [] depth fuel) sequence
      | .blockMappingStart, .block | .blockMappingStart, .blockOrEntries =>
        collection p start (do skip; blockPairs t.start [] depth fuel) mapping
      | _, _ =>
        if p.anchor.isSome || p.tag.isSome then do
          claimAnchor p start
          let n := Node.scalar (scalarTag p "" true) "" start
          setAnchor p n
          return n
        else
          fail .parser (some ⟨"while parsing a " ++ (if place = .flow then "flow" else "block") ++ " node", some start⟩)
            ("expected the node content, but found " ++ Text.quoted t.lexeme.name) t.start
termination_by structural _ fuel => fuel

/-- The node behind an indicator, unless one of the ends follows at once. -/
def nodeUnless (ends : List Lexeme) (place : Place) (indicator : Token) : Nat → Nat → Compose Node
  | _, 0 => throw tooDeep
  | depth, fuel + 1 => do
    if ends.contains (← peek).lexeme then return empty indicator.stop
    else node place depth fuel
termination_by structural _ fuel => fuel

/-- The items of a block sequence. -/
def blockItems (start : Mark) (items : List Node) : Nat → Nat → Compose (List Node)
  | _, 0 => throw tooDeep
  | depth, fuel + 1 => do
    let t ← next
    match t.lexeme with
    | .blockEntry => do
      let n ← nodeUnless [.blockEntry, .blockEnd] .block t depth fuel
      blockItems start (items ++ [n]) depth fuel
    | .blockEnd => return items
    | other =>
      fail .parser (some ⟨"while parsing a block collection", some start⟩)
        ("expected <block end>, but found " ++ Text.quoted other.name) t.start
termination_by structural _ fuel => fuel

/-- The items of a sequence that is not indented. -/
def looseEntries (items : List Node) : Nat → Nat → Compose (List Node)
  | _, 0 => throw tooDeep
  | depth, fuel + 1 => do
    let t ← peek
    if t.lexeme = .blockEntry then do
      skip
      let n ← nodeUnless [.blockEntry, .key, .value, .blockEnd] .block t depth fuel
      looseEntries (items ++ [n]) depth fuel
    else return items
termination_by structural _ fuel => fuel

/-- The value of a pair in a block mapping. -/
def blockValue : Nat → Nat → Compose Node
  | _, 0 => throw tooDeep
  | depth, fuel + 1 => do
    let t ← peek
    if t.lexeme = .value then do
      skip
      nodeUnless [.key, .value, .blockEnd] .blockOrEntries t depth fuel
    else return empty t.start
termination_by structural _ fuel => fuel

/-- The pairs of a block mapping. -/
def blockPairs (start : Mark) (pairs : List (Node × Node)) : Nat → Nat → Compose (List (Node × Node))
  | _, 0 => throw tooDeep
  | depth, fuel + 1 => do
    let t ← next
    match t.lexeme with
    | .key => do
      let k ← nodeUnless [.key, .value, .blockEnd] .blockOrEntries t depth fuel
      let v ← blockValue depth fuel
      blockPairs start (pairs ++ [(k, v)]) depth fuel
    | .blockEnd => return pairs
    | other =>
      fail .parser (some ⟨"while parsing a block mapping", some start⟩)
        ("expected <block end>, but found " ++ Text.quoted other.name) t.start
termination_by structural _ fuel => fuel

/-- The value of a pair in a flow collection that ends with some token. -/
def flowValue (ends : List Lexeme) : Nat → Nat → Compose Node
  | _, 0 => throw tooDeep
  | depth, fuel + 1 => do
    let t ← peek
    if t.lexeme = .value then do
      skip
      nodeUnless ends .flow t depth fuel
    else return empty t.start
termination_by structural _ fuel => fuel

/-- The items of a flow sequence; a key makes a mapping with a single pair. -/
def flowItems (start : Mark) (first : Bool) (items : List Node) : Nat → Nat → Compose (List Node)
  | _, 0 => throw tooDeep
  | depth, fuel + 1 => do
    let t ← peek
    if t.lexeme = .flowSequenceEnd then do
      skip
      return items
    else do
      if !first then
        if t.lexeme = .flowEntry then skip
        else
          fail .parser (some ⟨"while parsing a flow sequence", some start⟩)
            ("expected ',' or ']', but got " ++ Text.quoted t.lexeme.name) t.start
      let t ← peek
      if t.lexeme = .key then do
        skip
        let k ← nodeUnless [.value, .flowEntry, .flowSequenceEnd] .flow t depth fuel
        let v ← flowValue [.flowEntry, .flowSequenceEnd] depth fuel
        flowItems start false (items ++ [.mapping (tagNamed "map") [(k, v)] t.start]) depth fuel
      else if t.lexeme = .flowSequenceEnd then do
        skip
        return items
      else do
        let n ← node .flow depth fuel
        flowItems start false (items ++ [n]) depth fuel
termination_by structural _ fuel => fuel

/-- The pairs of a flow mapping; a node without a colon behind it is a key without a value. -/
def flowPairs (start : Mark) (first : Bool) (pairs : List (Node × Node)) : Nat → Nat → Compose (List (Node × Node))
  | _, 0 => throw tooDeep
  | depth, fuel + 1 => do
    let t ← peek
    if t.lexeme = .flowMappingEnd then do
      skip
      return pairs
    else do
      if !first then
        if t.lexeme = .flowEntry then skip
        else
          fail .parser (some ⟨"while parsing a flow mapping", some start⟩)
            ("expected ',' or '\x7d', but got " ++ Text.quoted t.lexeme.name) t.start
      let t ← peek
      if t.lexeme = .key then do
        skip
        let k ← nodeUnless [.value, .flowEntry, .flowMappingEnd] .flow t depth fuel
        let v ← flowValue [.flowEntry, .flowMappingEnd] depth fuel
        flowPairs start false (pairs ++ [(k, v)]) depth fuel
      else if t.lexeme = .flowMappingEnd then do
        skip
        return pairs
      else do
        let k ← node .flow depth fuel
        let v := empty (← peek).start
        flowPairs start false (pairs ++ [(k, v)]) depth fuel
termination_by structural _ fuel => fuel

end

/-! ### Documents -/

/-- The directives in front of a document. -/
private def directives (version : Bool) (handles : List (String × String)) :
    Nat → Compose (List (String × String))
  | 0 => throw tooDeep
  | fuel + 1 => do
    let t ← peek
    match t.lexeme with
    | .directive (.version major _) => do
      skip
      if version then fail .parser none "found duplicate YAML directive" t.start
      else if major ≠ 1 then
        fail .parser none "found incompatible YAML document (version 1.* is required)" t.start
      else directives true handles fuel
    | .directive (.handle h stands) => do
      skip
      if (handles.lookup h).isSome then fail .parser none ("duplicate tag handle " ++ Text.quoted h) t.start
      else directives version ((h, stands) :: handles) fuel
    | .directive .other => do
      skip
      directives version handles fuel
    | _ => return handles

private def skipDocumentEnds : Nat → Compose Unit
  | 0 => return ()
  | fuel + 1 => do
    if (← peek).lexeme = .documentEnd then
      skip
      skipDocumentEnds fuel

/-- The beginning of a document that has one; nothing if the text ends. -/
private def documentStart (fuel : Nat) : Compose (Option Mark) := do
  skipDocumentEnds fuel
  let t ← peek
  if t.lexeme = .streamEnd then return none
  else do
    let handles ← directives false [] fuel
    let d ← peek
    if d.lexeme ≠ .documentStart then
      fail .parser none ("expected '<document start>', but found " ++ Text.quoted d.lexeme.name) d.start
    else do
      skip
      modify fun s => { s with handles := handles ++ commonHandles.filter fun h => (handles.lookup h.1).isNone }
      return some t.start

/-- The node of a document that has begun. -/
private def documentContent (fuel : Nat) : Compose Node := do
  let t ← peek
  match t.lexeme with
  | .directive _ | .documentStart | .documentEnd | .streamEnd => return empty t.start
  | _ => node .block maxDepth fuel

/-- The only document of a text, if there is one. -/
def single (fuel : Nat) : Compose (Option Node) := do
  let t ← peek
  let first ←
    match t.lexeme with
    | .directive _ | .documentStart | .streamEnd => do
      match ← documentStart fuel with
      | none => pure none
      | some _ => do
        let n ← documentContent fuel
        pure (some n)
    | _ => do
      modify fun s => { s with handles := commonHandles }
      let n ← node .block maxDepth fuel
      pure (some n)
  match first with
  | none => return none
  | some n => do
    if (← peek).lexeme = .documentEnd then skip
    match ← documentStart fuel with
    | none => return some n
    | some m =>
      fail .composer (some ⟨"expected a single document in the stream", some n.mark⟩) "but found another document" m

end Compose

/-- The node of a text. -/
def Node.ofText (source : List Char) : Except Trouble (Option Node) :=
  match source.zipIdx.find? fun p => !isAllowed p.1 with
  | some (c, i) => .error (.unprintable c i)
  | none =>
    let (ts, trouble) := tokens source
    ((Compose.single (4 * ts.length + 8)).run { tokens := ts, trouble := trouble }).map (·.1)

end FlowRules.Yaml
