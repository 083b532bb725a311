import FlowRules.Json.Reader
import FlowRules.Workflow.Schema

/-!
# Definitions of workflows

A definition is the JSON text of a workflow; the text `null` defines none.  Workflows that have been read are kept
by their texts, up to a fixed number; the one that has not been used for longest leaves first, and a definition that
cannot be read is not kept.
-/

namespace FlowRules

namespace Definition

/-- How the workflow of an invalid definition is called in the report. -/
def reportedName (members : List (String × Json)) : Except Fault String :=
  let named := ["workflowName", "workflow_name"].filterMap fun key =>
    (members.lookup key).bind fun j => if j.toValue.truth then some j else none
  match named with
  | [] => .ok "<unnamed>"
  | j :: _ => j.toValue.plainText

/-- The name of the type of a JSON value in reports. -/
def typeName (j : Json) : String := j.toValue.typeName

/-- The workflow that a text defines, where a library reads data models. -/
def readBy (lib : Schema.Library) (text : String) : Except Fault (Option Workflow) :=
  if Text.isBlankText text then .error (.workflowDefinition .empty)
  else
    match Json.read text with
    | .error (.malformed problem line column index) =>
      .error (.workflowDefinition (.notJson (.malformed problem line column index)))
    | .error .tooDeep => .error (.workflowDefinition .tooDeep)
    | .error (.numeral f) => .error (.value (.numeral f))
    | .ok .null => .ok none
    | .ok (.object members) =>
      match lib.workflow members with
      | .ok w => .ok (some w)
      | .error problems => do
        let name ← reportedName members
        .error (.workflowDefinition (.invalid name problems))
    | .ok j => .error (.workflowDefinition (.notAnObject (typeName j)))

/-- The workflow that a text defines. -/
def read (text : String) : Except Fault (Option Workflow) := readBy Schema.standard text

end Definition

/-- A workflow that has been read and kept.  The serial number tells it from others read from the same text. -/
structure Definition where
  workflow : Option Workflow
  serial : Nat
  deriving Repr

/-- The definitions that are kept, the last used first, and how often one was found or not found among them. -/
structure DefinitionCache where
  entries : List (String × Definition) := []
  hits : Nat := 0
  misses : Nat := 0

namespace DefinitionCache

def capacity : Nat := 256

def size (c : DefinitionCache) : Nat := c.entries.length

/-- The workflow that a text defines, and whether it was kept from before. -/
def read (c : DefinitionCache) (text : String) : Except Fault Definition × DefinitionCache :=
  match c.entries.lookup text with
  | some found =>
    (.ok found, { c with entries := (text, found) :: c.entries.filter (·.1 != text), hits := c.hits + 1 })
  | none =>
    match Definition.read text with
    | .error f => (.error f, { c with misses := c.misses + 1 })
    | .ok w =>
      let made : Definition := ⟨w, c.misses⟩
      (.ok made, { c with entries := ((text, made) :: c.entries).take capacity, misses := c.misses + 1 })

end DefinitionCache
end FlowRules
