import FlowRules.Json.Reader
import FlowRules.Value.Display

/-!
# Faults that the host raises

A fault is raised with a kind and arguments.  Most kinds show a single argument as its plain text and several as a
tuple; some kinds have texts of their own.
-/

namespace FlowRules.Fault

/-- The kinds of system faults, by their numbers. -/
def systemKinds : List (Int × String) :=
  [(1, "PermissionError"), (2, "FileNotFoundError"), (3, "ProcessLookupError"), (4, "InterruptedError"),
    (10, "ChildProcessError"), (11, "BlockingIOError"), (13, "PermissionError"), (17, "FileExistsError"),
    (20, "NotADirectoryError"), (21, "IsADirectoryError"), (32, "BrokenPipeError"), (103, "ConnectionAbortedError"),
    (104, "ConnectionResetError"), (108, "BrokenPipeError"), (110, "TimeoutError"), (111, "ConnectionRefusedError"),
    (114, "BlockingIOError"), (115, "BlockingIOError")]

/-- The kind that a system fault has by its number. -/
def systemKind (kind : String) (number : Value) : String :=
  match kind, number with
  | "OSError", .int n => ((systemKinds.lookup n)).getD kind
  | "IOError", .int n => ((systemKinds.lookup n)).getD "OSError"
  | "IOError", _ => "OSError"
  | _, _ => kind

/-- The text of arguments without a rule of their own. -/
def argumentsText : List Value → Except Fault String
  | [] => .ok ""
  | [v] => v.plainText
  | vs => (Value.tuple none none vs).display

/-- The text of a system fault. -/
def systemText : List Value → Except Fault String
  | [number, text] => do
    let n ← number.plainText
    let t ← text.plainText
    .ok ("[Errno " ++ n ++ "] " ++ t)
  | [number, text, file] => do
    let n ← number.plainText
    let t ← text.plainText
    let f ← file.display
    .ok ("[Errno " ++ n ++ "] " ++ t ++ ": " ++ f)
  | args => argumentsText args

def raisedText (kind : String) (args : List Value) : Except Fault String :=
  if kind = "KeyError" then
    match args with
    | [v] => v.display
    | _ => argumentsText args
  else if (raised kind "").isA "OSError" then systemText args
  else argumentsText args

/-- The text an argument has in the messages of the engine's own faults. -/
private def optionalText (v : Option Value) : Except Fault (Option String) :=
  match v with
  | none | some (.atom .null) => .ok none
  | some v => v.plainText.map some

private def position? : Option Value → Option Nat
  | some (.int n) => some n.toNat
  | _ => none

/-- The fault that is raised with a kind and arguments. -/
def ofArguments : String → List Value → Except Fault Fault
  | "ConditionSyntaxError", condition :: reason :: more => do
    let c ← condition.plainText
    let r ← reason.plainText
    .ok (.conditionSyntax c (.stated r) (position? more.head?))
  | "ConditionEvaluationError", [condition, reason] => do
    let c ← condition.plainText
    let r ← reason.plainText
    .ok (.conditionEvaluation c r)
  | "UnsupportedOperatorError", [operator] => do
    let o ← optionalText (some operator)
    .ok (.unsupportedOperator o)
  | "MissingImplementationError", role :: key :: more => do
    let r ← role.plainText
    let k ← optionalText (some key)
    let s ← optionalText more.head?
    .ok (.missingImplementation r k s)
  | "WorkflowNotFoundError", name :: more => do
    let n ← optionalText (some name)
    let r ← optionalText more.head?
    .ok (.workflowNotFound n (r.getD "Workflow"))
  | "RuleExecutionError", key :: kind :: args => do
    let k ← key.plainText
    let inner ← kind.plainText
    let cause ← ofArguments inner args
    .ok (.ruleExecution k cause)
  | "WorkflowDefinitionError", args => do
    let text ← argumentsText args
    .ok (.workflowDefinition (.stated text))
  | "ConfigurationError", args => do
    let text ← argumentsText args
    .ok (.configuration text)
  | "JSONDecodeError", [v] => do
    let text ← v.plainText
    match Json.read text with
    | .error f => .ok (.value (.json f))
    | .ok _ => .ok (.raised "JSONDecodeError" text)
  | kind, args => do
    let actual := if args.length = 1 then kind else systemKind kind (args.head?.getD .null)
    let text ← raisedText kind args
    .ok (.raised actual text)

end FlowRules.Fault
