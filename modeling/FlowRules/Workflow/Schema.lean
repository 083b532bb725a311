import FlowRules.Text.LetterCase
import FlowRules.Value.Compare
import FlowRules.Value.Display
import FlowRules.Workflow.Basic

/-!
# Workflows from JSON

Workflows and steps are declared as data models: which fields they have, under which names, with which defaults, and
how values are converted before they are read.  A library for data models (`Schema.Library`) does the rest: it reads
fields and lists by these declarations, and reports what is wrong and where.  A step whose fields can all be read has to
have the fields that its kind needs.
-/

namespace FlowRules

/-- A value that was read, or a stand-in for it with the problems found in reading it. -/
structure Reading (α : Type) where
  value : α
  problems : List SchemaProblem := []

namespace Schema

/-- Problems of a part, placed in the whole. -/
def under (place : List String) (problems : List SchemaProblem) : List SchemaProblem :=
  problems.map fun p => { p with place := place ++ p.place }

/-- Read what is a single value; what is wrong with it is wrong with the value as a whole. -/
def single {α : Type} (standIn : α) (read : Json → Except String α) (j : Json) : Reading α :=
  match read j with
  | .ok a => ⟨a, []⟩
  | .error text => ⟨standIn, [⟨[], text⟩]⟩

/-! ### The library -/

/-- What a library for data models does with the declarations of a model. -/
structure Library where
  /-- Read a text. -/
  text : Json → Except String String
  /-- Read a value that may be null. -/
  optional : {α : Type} → (Json → Except String α) → Json → Except String (Option α)
  /-- Read one of several choices, of which these are the names, by what it is for a text. -/
  choice : {α : Type} → (names : List String) → (String → Option α) → Json → Except String α
  /-- What is reported where the conversion of a value fails. -/
  valueError : String → String
  /-- Read the field of an object under one of its names; if it is missing it has a default. -/
  field : {α : Type} → (members : List (String × Json)) → (names : List String) → (missing : α) →
    (Json → Reading α) → Reading α
  /-- Read a list whose items are all read in the same way. -/
  items : {α : Type} → (Json → Reading α) → Json → Reading (List α)
  /-- Read an object as a model with a name, from its members. -/
  model : {α : Type} → (name : String) → (standIn : α) → (List (String × Json) → Reading α) → Json → Reading α
  /-- Check what was read. -/
  checked : {α : Type} → (α → Option String) → Reading α → Reading α
  /-- Report the problems of several fields together. -/
  together : List (List SchemaProblem) → List SchemaProblem

/-! ### What the library reports -/

def wantsText : String := "Input should be a valid string"
def wantsList : String := "Input should be a valid tuple"
def wantsModel (name : String) : String := "Input should be a valid dictionary or instance of " ++ name

/-- Alternatives in words. -/
def alternatives : List String → String
  | [] => ""
  | [a] => a
  | [a, b] => a ++ " or " ++ b
  | a :: rest => a ++ ", " ++ alternatives rest

def wantsChoice (names : List String) : String :=
  "Input should be " ++ alternatives (names.map fun name => "'" ++ name ++ "'")

def valueError (text : String) : String := "Value error, " ++ text

/-! ### How the library reads -/

def readText : Json → Except String String
  | .text s => .ok s
  | _ => .error wantsText

def readOptional {α : Type} (read : Json → Except String α) : Json → Except String (Option α)
  | .null => .ok none
  | j => (read j).map some

def readChoice {α : Type} (names : List String) (find : String → Option α) : Json → Except String α
  | .text s =>
    match find s with
    | some c => .ok c
    | none => .error (wantsChoice names)
  | _ => .error (wantsChoice names)

/-- The first of several names that an object has, with its value. -/
def firstMember? (members : List (String × Json)) : List String → Option (String × Json)
  | [] => none
  | key :: keys =>
    match members.lookup key with
    | some j => some (key, j)
    | none => firstMember? members keys

/-- A field is read under the first of its names that is there. -/
def readField {α : Type} (members : List (String × Json)) (names : List String) (missing : α)
    (read : Json → Reading α) : Reading α :=
  match firstMember? members names with
  | none => ⟨missing, []⟩
  | some (key, j) => ⟨(read j).value, under [key] (read j).problems⟩

/-- The items of a list, in order; the place of each is its number, from `n` on. -/
def readItemsFrom {α : Type} (item : Json → Reading α) (n : Nat) : List Json → Reading (List α)
  | [] => ⟨[], []⟩
  | j :: js =>
    let first := item j
    let rest := readItemsFrom item (n + 1) js
    ⟨first.value :: rest.value, under [toString n] first.problems ++ rest.problems⟩

def readItems {α : Type} (item : Json → Reading α) : Json → Reading (List α)
  | .array js => readItemsFrom item 0 js
  | _ => ⟨[], [⟨[], wantsList⟩]⟩

def readModel {α : Type} (name : String) (standIn : α) (read : List (String × Json) → Reading α) : Json → Reading α
  | .object members => read members
  | _ => ⟨standIn, [⟨[], wantsModel name⟩]⟩

/-- What was read is checked only where there are no problems yet. -/
def checkReading {α : Type} (check : α → Option String) (read : Reading α) : Reading α :=
  match read.problems, check read.value with
  | [], some text => ⟨read.value, [⟨[], valueError text⟩]⟩
  | _, _ => read

/-- The library that is used. -/
def standard : Library where
  text := readText
  optional := readOptional
  choice := readChoice
  valueError := valueError
  field := readField
  items := readItems
  model := readModel
  checked := checkReading
  together := List.flatten

/-! ### Conversions before values are read -/

/-- Null is the empty text. -/
def blankIfNull : Json → Json
  | .null => .text ""
  | j => j

/-- Null is the empty list. -/
def emptyIfNull : Json → Json
  | .null => .array []
  | j => j

/-- Null and blank texts are a default. -/
def defaultIfBlank (fallback : String) : Json → Json
  | .null => .text fallback
  | .text s => if Text.isBlankText s then .text fallback else .text s
  | j => j

/-- The text of a value that a field is compared with: numbers, truth values and lists of values may be written
unquoted. -/
def stringified : Json → Except Fault Json
  | .bool b => .ok (.text (if b then "true" else "false"))
  | .int n => ((Json.int n).toValue.plainText).map .text
  | .float x => ((Json.float x).toValue.plainText).map .text
  | .array items => do
    let texts ← items.mapM fun j => j.toValue.plainText
    .ok (.text (",".intercalate texts))
  | j => .ok j

/-- The first of several choices whose name is a text but for letter case and surrounding blanks. -/
def choice? {α : Type} (name : α → String) (choices : List α) (s : String) : Option α :=
  choices.find? fun c => Text.lower (name c) == Text.lower (Text.trim s)

/-! ### What the kind of a step needs -/

/-- The text of a field that a kind needs is there and not blank. -/
def isGiven : Option String → Bool
  | none => false
  | some s => !Text.isBlankText s

/-- What a step lacks for its kind. -/
def missing? (s : Step) : Option String :=
  let label := (nonEmpty? s.name).getD s.kind.name
  if s.kind.runsWorkflow && !isGiven s.subFlowRef then
    some (s.kind.name ++ " step '" ++ label ++ "' requires 'subFlowRef'")
  else if s.kind = .forEach && !isGiven s.collectionProperty then
    some ("Foreach step '" ++ label ++ "' requires 'collectionProperty'")
  else if s.isDeclarative && !isGiven s.targetProperty then
    some ("Simple validation '" ++ label ++ "' requires 'targetProperty'")
  else if s.isDeclarative && !isGiven s.operator then
    some ("Simple validation '" ++ label ++ "' requires 'operator'")
  else none

/-! ### Steps and workflows -/

namespace Library

variable (lib : Library)

def kind (j : Json) : Except String StepKind :=
  lib.choice (StepKind.all.map StepKind.name) (choice? StepKind.name StepKind.all)
    (defaultIfBlank StepKind.rule.name j)

def mode (j : Json) : Except String StepMode :=
  lib.choice (StepMode.all.map StepMode.name) (choice? StepMode.name StepMode.all)
    (defaultIfBlank StepMode.complex.name j)

/-- The value that a field is compared with. -/
def targetValue (j : Json) : Except String (Option String) :=
  match stringified j with
  | .ok j => lib.optional lib.text j
  | .error f => .error (lib.valueError f.message)

/-- The step that the members of an object describe, apart from what its kind needs. -/
def stepFields (members : List (String × Json)) : Reading Step :=
  let text := fun names => lib.field members names none (single none (lib.optional lib.text))
  let name := text ["name"]
  let kind := lib.field members ["kind", "type"] .rule (single .rule lib.kind)
  let mode := lib.field members ["mode"] .complex (single .complex lib.mode)
  let implementationKey := text ["implementationKey", "implementationType", "implementation_key"]
  let subFlowRef := text ["subFlowRef", "sub_flow_ref"]
  let targetProperty := text ["targetProperty", "target_property"]
  let operator := text ["operator"]
  let targetValue := lib.field members ["targetValue", "target_value"] none (single none lib.targetValue)
  let errorMessage := text ["errorMessage", "error_message"]
  let condition := text ["condition"]
  let collectionProperty := text ["collectionProperty", "collection_property"]
  { value :=
      { name := name.value, kind := kind.value, mode := mode.value, implementationKey := implementationKey.value,
        subFlowRef := subFlowRef.value, targetProperty := targetProperty.value, operator := operator.value,
        targetValue := targetValue.value, errorMessage := errorMessage.value, condition := condition.value,
        collectionProperty := collectionProperty.value }
    problems :=
      lib.together [name.problems, kind.problems, mode.problems, implementationKey.problems, subFlowRef.problems,
        targetProperty.problems, operator.problems, targetValue.problems, errorMessage.problems, condition.problems,
        collectionProperty.problems] }

/-- The step that the members of an object describe. -/
def stepOf (members : List (String × Json)) : Reading Step := lib.checked missing? (lib.stepFields members)

/-- The step that a value describes. -/
def step : Json → Reading Step := lib.model "RuleDefinition" {} lib.stepOf

/-- The name of a workflow. -/
def nameOf (members : List (String × Json)) : Reading String :=
  lib.field members ["workflowName", "workflow_name"] "" (single "" fun j => lib.text (blankIfNull j))

/-- The steps of a workflow. -/
def stepsOf (members : List (String × Json)) : Reading (List Step) :=
  lib.field members ["rules"] [] fun j => lib.items lib.step (emptyIfNull j)

/-- The workflow that the members of an object describe, or what is wrong with them. -/
def workflow (members : List (String × Json)) : Except (List SchemaProblem) Workflow :=
  let name := lib.nameOf members
  let steps := lib.stepsOf members
  match lib.together [name.problems, steps.problems] with
  | [] => .ok ⟨name.value, steps.value⟩
  | problems => .error problems

end Library

/-- The step that the members of an object describe, as the library that is used reads it. -/
def step (members : List (String × Json)) : Reading Step := standard.stepOf members

end Schema

/-- The workflow that the members of an object describe, or what is wrong with them. -/
def Workflow.ofMembers (members : List (String × Json)) : Except (List SchemaProblem) Workflow :=
  Schema.standard.workflow members

end FlowRules
