import FlowRules.Check.Engine
import FlowRules.Log.Basic
import FlowRules.Value.Field
import FlowRules.Workflow.Basic

/-!
# Declarative validations

A declarative validation checks the field that a step names by the operator and the target it gives.  It fails when
there is no flow object or no such field.  The target is read as the declared type of the field, or else as the type
of its value.
-/

namespace FlowRules

/-- Why a validation failed without an answer of its operator. -/
inductive Remark where
  | noFlow (property : String)
  | noProperty (property type : String)
  | operatorFailed (note : String)
  deriving DecidableEq, Repr

namespace Remark

def level : Remark → LogLevel
  | noFlow _ => .warning
  | noProperty .. => .error
  | operatorFailed _ => .warning

def message : Remark → String
  | noFlow property => "No flow object to validate '" ++ property ++ "' against"
  | noProperty property type => "Property " ++ property ++ " missing on " ++ type
  | operatorFailed note => note

/-- The row of a remark; a remark on the operator has no context. -/
def row (logger : ScopedLogger) : Remark → LogRow
  | operatorFailed note => { logger := "workflow.operators", level := .warning, message := note }
  | r => logger.row r.level r.message false

end Remark

/-- Whether a validation holds, with a remark on the way it was decided. -/
structure Judgement where
  passed : Bool
  remark : Option Remark := none
  deriving DecidableEq, Repr

namespace Step

/-- The type that the target of a validation is read as. -/
def comparisonType (flow actual : Value) (property : String) : Except Fault (Option TypeRef) := do
  match ← flow.declaredType? property with
  | some t => return some t
  | none => return if actual.isNull then none else some actual.typeRef

/-- Decide a declarative validation on a flow object. -/
def judge (make : Constructors) (s : Step) (flow : Value) : Eval Judgement :=
  let property := s.targetProperty.getD ""
  if flow.isNull then return ⟨false, some (.noFlow property)⟩
  else do
    match ← Eval.ofExcept (flow.field? property) with
    | none => return ⟨false, some (.noProperty property flow.typeName)⟩
    | some actual =>
      let type ← Eval.ofExcept (comparisonType flow actual property)
      let checked ← check make actual s.operator s.targetValue type
      return ⟨checked.passed, checked.note.map .operatorFailed⟩

/-- How a declarative validation is shown. -/
def declaration (s : Step) : String :=
  "DeclarativeValidationRule(" ++ Text.quotedOption s.targetProperty ++ " " ++ Text.shownOption s.operator ++ " " ++
    Text.quotedOption s.targetValue ++ ")"

end Step
end FlowRules
