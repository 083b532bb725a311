import FlowRules.Calendar.Basic
import FlowRules.Json.Basic

/-!
# Faults

Everything that can go wrong, as causes.  The wording is in `Fault.message`, the name under which a fault is
reported in `Fault.kind`, and the families of kinds that are told apart in `Fault.isA`.
-/

namespace FlowRules

/-! ### Conditions -/

/-- What the parser of conditions would have taken. -/
inductive Expectation where
  | token (text : String)
  | value
  | fieldName
  | noMore
  deriving DecidableEq, Repr

inductive SyntaxProblem where
  | unexpectedCharacter (c : Char)
  | unknownName (name : String)
  | unknownFunction (name : String)
  /-- What was found instead, unless the text ended. -/
  | unexpected (wanted : Expectation) (found : Option String)
  | stated (text : String)
  deriving DecidableEq, Repr

namespace SyntaxProblem

private def wanted : Expectation → String
  | .token text => "expected " ++ Text.quoted text
  | .value => "expected a value"
  | .fieldName => "expected field name after '.'"
  | .noMore => "unexpected trailing input"

def message : SyntaxProblem → String
  | unexpectedCharacter c => "unexpected character " ++ Text.quoted (String.singleton c)
  | unknownName name =>
    "unknown name " ++ Text.quoted name ++ " (expected one of flow, state, execution_id)"
  | unknownFunction name => "unknown function " ++ Text.quoted name
  | unexpected w none => wanted w ++ ", found end of input"
  | unexpected w (some t) => wanted w ++ ", found " ++ Text.quoted t
  | stated text => text

end SyntaxProblem

/-! ### Values of the wrong type -/

inductive TypeProblem where
  | notOrdered (operator left right : String)
  | notComparable (left right : String)
  | mixedOffsets
  | notNegatable (type : String)
  | noLength (type : String)
  | notIterable (type : String)
  | unhashable (type : String)
  | unhashableSignal
  | missingArgument (function parameter : String)
  | extraArguments (function : String) (taken given : Nat)
  | stated (text : String)
  deriving DecidableEq, Repr

namespace TypeProblem

def message : TypeProblem → String
  | notOrdered op l r => "'" ++ op ++ "' not supported between instances of '" ++ l ++ "' and '" ++ r ++ "'"
  | notComparable l r => "can't compare " ++ l ++ " to " ++ r
  | mixedOffsets => "can't compare offset-naive and offset-aware datetimes"
  | notNegatable t => "bad operand type for unary -: '" ++ t ++ "'"
  | noLength t => "object of type '" ++ t ++ "' has no len()"
  | notIterable t => "'" ++ t ++ "' object is not iterable"
  | unhashable t => "unhashable type: '" ++ t ++ "'"
  | unhashableSignal => "Cannot hash a signaling NaN value"
  | missingArgument f p => f ++ "() missing 1 required positional argument: '" ++ p ++ "'"
  | extraArguments f taken given =>
    f ++ "() takes " ++ toString taken ++ " positional argument" ++ (if taken = 1 then "" else "s") ++ " but " ++
      toString given ++ (if given = 1 then " was given" else " were given")
  | stated text => text

end TypeProblem

/-! ### Unsuitable values -/

inductive ValueProblem where
  | notNumber (shown : String)
  | booleanNumber (b : Bool)
  | notMember (text enumeration : String)
  | notBoolean (text : String)
  | notFloat (text : String)
  | notANumberToInteger
  | badBounds (target : Option String)
  | numeral (fault : NumeralFault)
  | calendar (fault : CalendarFault)
  | json (fault : JsonFault)
  | noWorkflowName
  | badWorkflowName (name : String)
  | unsafeWorkflowName (name : String)
  | longWorkflowName
  | noKey (label : String)
  | badKey (label key : String)
  | longKey (label : String)
  | noFlowObject
  | stated (text : String)
  deriving DecidableEq, Repr

namespace ValueProblem

def message : ValueProblem → String
  | notNumber shown => shown ++ " is not a number"
  | booleanNumber b => "Boolean " ++ (if b then "True" else "False") ++ " is not a number"
  | notMember text e => "'" ++ text ++ "' is not a member of " ++ e
  | notBoolean text => "'" ++ text ++ "' is not a boolean"
  | notFloat text => "could not convert string to float: " ++ Text.quoted text
  | notANumberToInteger => "cannot convert NaN to integer"
  | badBounds target => "between needs 'low,high', got " ++ Text.quotedOption target
  | numeral fault => fault.message
  | calendar fault => fault.message
  | json fault => fault.message
  | noWorkflowName => "Workflow name cannot be empty"
  | badWorkflowName name => "Invalid workflow name: " ++ name
  | unsafeWorkflowName name => "Workflow name contains invalid sequence: " ++ name
  | longWorkflowName => "Workflow name too long"
  | noKey label => label ++ " cannot be empty"
  | badKey label key => "Invalid " ++ label ++ ": " ++ key
  | longKey label => label ++ " too long"
  | noFlowObject => "flow_object cannot be None"
  | stated text => text

end ValueProblem

/-! ### Definitions of workflows -/

/-- A place in a document and what is wrong there. -/
structure SchemaProblem where
  place : List String
  text : String
  deriving DecidableEq, Repr

def SchemaProblem.message (p : SchemaProblem) : String :=
  (if p.place.isEmpty then "workflow" else ".".intercalate p.place) ++ ": " ++ p.text

inductive DefinitionProblem where
  | empty
  | notJson (fault : JsonFault)
  | tooDeep
  | notAnObject (type : String)
  | invalid (name : String) (problems : List SchemaProblem)
  | nestingLimit (reference : Option String)
  | stated (text : String)
  deriving DecidableEq, Repr

/-- How deep sub-flows and loops may nest. -/
def maxNesting : Nat := 32

namespace DefinitionProblem

def message : DefinitionProblem → String
  | empty => "Workflow definition is empty"
  | notJson fault => "Workflow definition is not valid JSON: " ++ fault.message
  | tooDeep => "Workflow definition is nested too deeply to parse"
  | notAnObject type => "Workflow definition must be a JSON object, got " ++ type
  | invalid name problems =>
    "Invalid workflow '" ++ name ++ "': " ++ "; ".intercalate (problems.map SchemaProblem.message)
  | nestingLimit reference =>
    "Sub-flow nesting exceeds " ++ toString maxNesting ++ " levels at '" ++ Text.shownOption reference ++ "'"
  | stated text => text

end DefinitionProblem

/-! ### All faults -/

inductive Fault where
  /-- The text of a condition cannot be parsed. -/
  | conditionSyntax (condition : String) (problem : SyntaxProblem) (position : Option Nat)
  /-- A condition failed while it was evaluated. -/
  | conditionEvaluation (condition reason : String)
  | unsupportedOperator (operator : Option String)
  /-- Nothing is registered under a key. -/
  | missingImplementation (role : String) (key step : Option String)
  | workflowDefinition (problem : DefinitionProblem)
  | workflowNotFound (name : Option String) (role : String)
  | configuration (text : String)
  /-- A rule that was run by its key failed. -/
  | ruleExecution (key : String) (cause : Fault)
  | type (problem : TypeProblem)
  | value (problem : ValueProblem)
  | decimal (fault : DecimalFault)
  /-- A field is looked up that is not there. -/
  | noField (type path : String)
  /-- Any other fault, of a named kind, that the host raised. -/
  | raised (kind text : String)
  deriving DecidableEq, Repr, Inhabited

namespace Fault

/-- The name under which a fault is reported. -/
def kind : Fault → String
  | conditionSyntax .. => "ConditionSyntaxError"
  | conditionEvaluation .. => "ConditionEvaluationError"
  | unsupportedOperator .. => "UnsupportedOperatorError"
  | missingImplementation .. => "MissingImplementationError"
  | workflowDefinition .. => "WorkflowDefinitionError"
  | workflowNotFound .. => "WorkflowNotFoundError"
  | configuration .. => "ConfigurationError"
  | ruleExecution .. => "RuleExecutionError"
  | type .. => "TypeError"
  | value (.json (.malformed ..)) => "JSONDecodeError"
  | value (.json .tooDeep) => "RecursionError"
  | value .. => "ValueError"
  | decimal .invalidOperation => "InvalidOperation"
  | decimal .overflow => "Overflow"
  | noField .. => "AttributeError"
  | raised name _ => name

/-- The text of a fault.  There is always one: a host that raises something whose text cannot be made is taken to raise
the fault of making it. -/
def message : Fault → String
  | conditionSyntax condition problem position =>
    "Invalid Condition Syntax: " ++ Text.quoted condition ++ " (" ++ problem.message ++
      (match position with
        | none => ""
        | some p => " at position " ++ toString p) ++ ")"
  | conditionEvaluation condition reason =>
    "Condition " ++ Text.quoted condition ++ " could not be evaluated: " ++ reason
  | unsupportedOperator operator => "Operator '" ++ Text.shownOption operator ++ "' is not supported"
  | missingImplementation role key step =>
    "No " ++ role ++ " registered for implementation key '" ++ Text.shownOption key ++ "'" ++
      (match step with
        | none => ""
        | some s => if s = "" then "" else " (step '" ++ s ++ "')")
  | workflowDefinition problem => problem.message
  | workflowNotFound name role => role ++ " '" ++ Text.shownOption name ++ "' not found."
  | configuration text => text
  | ruleExecution key cause => "Error executing rule '" ++ key ++ "': " ++ cause.message
  | type problem => problem.message
  | value problem => problem.message
  | decimal .invalidOperation => "[<class 'decimal.InvalidOperation'>]"
  | decimal .overflow => "[<class 'decimal.Overflow'>]"
  | noField owner path => "'" ++ owner ++ "' has no field '" ++ path ++ "'"
  | raised _ text => text

/-! ### Families -/

/-- The next wider kind of each kind that has one besides the widest. -/
def parents : List (String × String) :=
  [("ConditionSyntaxError", "ConfigurationError"), ("ConditionEvaluationError", "ConfigurationError"),
    ("UnsupportedOperatorError", "ConfigurationError"), ("MissingImplementationError", "ConfigurationError"),
    ("WorkflowDefinitionError", "ConfigurationError"), ("WorkflowNotFoundError", "ConfigurationError"),
    ("ConfigurationError", "RulePipelineError"), ("RuleExecutionError", "RulePipelineError"),
    ("JSONDecodeError", "ValueError"), ("UnicodeError", "ValueError"), ("UnicodeDecodeError", "UnicodeError"),
    ("UnicodeEncodeError", "UnicodeError"), ("UnicodeTranslateError", "UnicodeError"),
    ("KeyError", "LookupError"), ("IndexError", "LookupError"), ("InvalidOperation", "DecimalException"),
    ("Overflow", "DecimalException"), ("DecimalException", "ArithmeticError"),
    ("ZeroDivisionError", "ArithmeticError"), ("OverflowError", "ArithmeticError"),
    ("FloatingPointError", "ArithmeticError"), ("RecursionError", "RuntimeError"),
    ("NotImplementedError", "RuntimeError"), ("ModuleNotFoundError", "ImportError"),
    ("UnboundLocalError", "NameError"), ("BlockingIOError", "OSError"), ("ChildProcessError", "OSError"),
    ("ConnectionError", "OSError"), ("BrokenPipeError", "ConnectionError"),
    ("ConnectionAbortedError", "ConnectionError"), ("ConnectionRefusedError", "ConnectionError"),
    ("ConnectionResetError", "ConnectionError"), ("FileExistsError", "OSError"), ("FileNotFoundError", "OSError"),
    ("InterruptedError", "OSError"), ("IsADirectoryError", "OSError"), ("NotADirectoryError", "OSError"),
    ("PermissionError", "OSError"), ("ProcessLookupError", "OSError"), ("TimeoutError", "OSError"),
    ("IndentationError", "SyntaxError"), ("TabError", "IndentationError"), ("BytesWarning", "Warning"),
    ("DeprecationWarning", "Warning"), ("EncodingWarning", "Warning"), ("FutureWarning", "Warning"),
    ("ImportWarning", "Warning"), ("PendingDeprecationWarning", "Warning"), ("ResourceWarning", "Warning"),
    ("RuntimeWarning", "Warning"), ("SyntaxWarning", "Warning"), ("UnicodeWarning", "Warning"),
    ("UserWarning", "Warning")]

/-- The kind that a name stands for; some kinds have several names. -/
def familyNamed (name : String) : String := if name = "IOError" ∨ name = "EnvironmentError" then "OSError" else name

/-- Whether one kind is another or belongs to it, following at most `steps` links. -/
def belongsTo (family : String) : Nat → String → Bool
  | 0, kind => kind == family
  | steps + 1, kind =>
    kind == family ||
      match parents.lookup kind with
      | some parent => belongsTo family steps parent
      | none => false

/-- Whether a fault belongs to a family of kinds. -/
def isA (f : Fault) (family : String) : Bool :=
  family == "Exception" || family == "BaseException" || belongsTo (familyNamed family) 4 f.kind

/-- A fault of the engine itself. -/
def isEngineFault (f : Fault) : Bool := f.isA "RulePipelineError"

end Fault
end FlowRules
