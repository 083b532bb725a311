import FlowRules.Condition.Cache
import FlowRules.Console.Report
import FlowRules.Exchange.Values
import FlowRules.Fault.Guidance
import FlowRules.Handler.Script
import FlowRules.Log.Note
import FlowRules.Workflow.Basic

/-!
# Documents of the library's own things

The JSON documents of tokens, expressions, workflows, results, log rows, guidance, settings
and reports.
-/

namespace FlowRules

namespace Json

def ofOption {α : Type} (f : α → Json) : Option α → Json
  | none => .null
  | some a => f a

def ofText? : Option String → Json := ofOption .text

def ofNat (n : Nat) : Json := .int n

def ofTexts (ss : List String) : Json := .array (ss.map .text)

end Json

/-! ### Conditions -/

def TokenKind.label : TokenKind → String
  | .number => "number"
  | .text => "string"
  | .name => "name"
  | .keyword => "keyword"
  | .operator => "op"
  | .finish => "end"

def Token.document (t : Token) : Json := .array [.text t.kind.label, .text t.value, .ofNat t.position]

def Relation.name : Relation → String
  | .equal => "=="
  | .different => "!="
  | .ordered c => c.text
  | .within => "in"
  | .outside => "notin"

def Connective.name : Connective → String
  | .and => "and"
  | .or => "or"

namespace Expr

mutual

/-- An expression as its kind and its parts. -/
def document : Expr → Json
  | .literal a => .array [.text "lit", Exchange.writeAtom a]
  | .root r => .ofTexts ["name", r.name]
  | .attribute t n => .array [.text "attr", document t, .text n]
  | .index t k => .array [.text "index", document t, document k]
  | .call f args => .array [.text "call", .text f.name, .array (documents args)]
  | .negate e => .array [.text "neg", document e]
  | .not e => .array [.text "not", document e]
  | .connective c es => .array [.text c.name, .array (documents es)]
  | .compare r a b => .array [.text "cmp", .text r.name, document a, document b]
termination_by structural e => e

def documents : List Expr → List Json
  | [] => []
  | e :: es => document e :: documents es
termination_by structural es => es

end

end Expr

def ConditionCache.document (c : ConditionCache) : Json :=
  .object [("hits", .ofNat c.hits), ("misses", .ofNat c.misses), ("size", .ofNat c.size)]

/-! ### Workflows and results -/

def Step.document (s : Step) : Json :=
  .object
    [("name", .ofText? s.name), ("kind", .text s.kind.name), ("mode", .text s.mode.name),
      ("implementation_key", .ofText? s.implementationKey), ("sub_flow_ref", .ofText? s.subFlowRef),
      ("target_property", .ofText? s.targetProperty), ("operator", .ofText? s.operator),
      ("target_value", .ofText? s.targetValue), ("error_message", .ofText? s.errorMessage),
      ("condition", .ofText? s.condition), ("collection_property", .ofText? s.collectionProperty),
      ("display_name", .text s.displayName), ("has_condition", .bool s.hasCondition)]

def Workflow.document (w : Workflow) : Json :=
  .object
    [("workflow_name", .text w.name), ("rules", .array (w.steps.map Step.document)),
      ("conditions", .array (w.conditions.map fun (s, c) => .ofTexts [s.displayName, c])),
      ("references", .ofTexts w.references)]

/-- The document of named values. -/
def Exchange.writeNamed (values : List (String × Value)) : Json :=
  Exchange.write (.dict none (values.map fun e => (.text e.1, e.2)))

def RunResult.document (r : RunResult) : Json :=
  .object
    [("is_success", .bool r.succeeded), ("errors", .ofTexts r.errors), ("final_flow_object", Exchange.write r.flow),
      ("output_values", Exchange.writeNamed r.output)]

/-! ### Log rows and guidance -/

namespace LogRow

/-- A row without its context. -/
def brief (r : LogRow) : Json := .ofTexts [r.logger, r.level.name, r.message]

/-- A row with its context. -/
def document (r : LogRow) : Json :=
  .array
    [.text r.logger, .text r.level.name, .text r.message, .ofText? r.context.executionId,
      .ofText? r.context.workflow, .ofText? r.context.step, .bool r.traced]

end LogRow

def LogContext.members (c : LogContext) : List (String × Json) :=
  [("execution_id", .ofText? c.executionId), ("workflow", .ofText? c.workflow), ("step", .ofText? c.step)]

/-- The note that is called by a name and has these arguments. -/
def LogNote.read? (name : String) (texts : List String) (count : Option Nat) : Option LogNote :=
  match name, texts with
  | "step_started", [s, kind] => some (.stepStarted s kind)
  | "step_skipped", [s, condition] => some (.stepSkipped s condition)
  | "step_failed", [s, message] => some (.stepFailed s message)
  | "loop_started", s :: _ => some (.loopStarted s count)
  | "loop_ended", [s] => some (.loopEnded s)
  | "subflow_entered", [s] => some (.subFlowEntered s)
  | "subflow_exited", [s] => some (.subFlowExited s)
  | level, [s] => (LogLevel.all.find? fun l => Text.lower l.name == level).map fun l => .said l s
  | _, _ => none

def Guidance.members (g : Guidance) : List (String × Json) :=
  [("title", .text g.title), ("explanation", .text g.explanation), ("actions", .ofTexts g.actions),
    ("documentation", .ofText? g.documentation), ("show_technical", .bool g.technical)]

/-! ### Settings -/

def LogSettings.members (s : LogSettings) : List (String × Json) :=
  [("level", .text s.level), ("use_file", .bool s.usesFile), ("use_json", .bool s.usesRecords),
    ("log_dir", .text s.directory)]

def Settings.document (s : Settings) : Json :=
  .object
    [("workflows_dir", .text s.workflowsDirectory), ("cache_definitions", .bool s.keepsDefinitions),
      ("plugins", .ofTexts s.plugins), ("log", .object s.log.members), ("extra", Exchange.writeNamed s.extra)]

/-! ### Reports -/

/-- The lines of a text without the blanks around them; blank lines are left out. -/
def Page.shownLines (s : String) : List String := ((Text.split '\n' s).map Text.trim).filter (· ≠ "")

/-- An item of a page as its lines; a row of a table is the array of its cells. -/
def PageItem.documents : PageItem → List Json
  | text s => (Page.shownLines s).map .text
  | table t =>
    ((t.title.map Page.shownLines).getD []).map .text ++
      (t.columns :: t.lineRows).map fun row => .ofTexts (row.map Text.trim)

namespace Report

/-- The first line of a text. -/
private def firstLine (s : String) : String := (Text.split '\n' s).headD ""

/-- The exit status, what is printed, what is said about an error, and the lines of the log. -/
def members (r : Report) (app : String) : List (String × Json) :=
  let records := r.screen.log.any LogSettings.usesRecords
  let lines := if records then [] else r.loggedRows.map fun row => firstLine ((row.line 0).timeless ⟨app, false⟩)
  let errors := r.ending.complaint?.toList.map firstLine
  [("exit_code", .ofNat r.status), ("output", .array (r.screen.printed.flatMap PageItem.documents)),
    ("errors", .ofTexts errors), ("log", .ofTexts lines)]

end Report

end FlowRules
