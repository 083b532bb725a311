import FlowRules.Value.Compare

/-!
# Condition expressions

The tree of a condition: literals, the three roots that a condition starts from, fields and items of values, calls
of four functions, changes of sign, connectives and comparisons.
-/

namespace FlowRules

/-- Where the values of a condition come from. -/
inductive Root where
  | flow
  | state
  | executionId
  deriving DecidableEq, Repr

namespace Root

def all : List Root := [flow, state, executionId]

def name : Root → String
  | flow => "flow"
  | state => "state"
  | executionId => "execution_id"

def ofName? (s : String) : Option Root := all.find? (·.name == s)

end Root

inductive Operation where
  | length
  | lower
  | upper
  | text
  deriving DecidableEq, Repr

namespace Operation

def all : List Operation := [length, lower, upper, text]

def name : Operation → String
  | length => "len"
  | lower => "lower"
  | upper => "upper"
  | text => "str"

/-- The name of an operation in reports of wrong argument counts. -/
def reportName : Operation → String
  | length => "_len"
  | lower => "_lower"
  | upper => "_upper"
  | text => "string_form"

def ofName? (s : String) : Option Operation := all.find? (·.name == s)

end Operation

inductive Connective where
  | and
  | or
  deriving DecidableEq, Repr

/-- What a comparison asks of two values. -/
inductive Relation where
  | equal
  | different
  | ordered (c : Comparison)
  /-- The left value is in the right one. -/
  | within
  | outside
  deriving DecidableEq, Repr

/-- A container is evaluated before what is looked for in it. -/
def Relation.containerFirst : Relation → Bool
  | .within => true
  | .outside => true
  | _ => false

inductive Expr where
  | literal (a : Atom)
  | root (r : Root)
  | attribute (target : Expr) (name : String)
  | index (target key : Expr)
  | call (f : Operation) (args : List Expr)
  | negate (operand : Expr)
  | not (operand : Expr)
  | connective (c : Connective) (parts : List Expr)
  | compare (r : Relation) (left right : Expr)
  deriving Repr, Inhabited

end FlowRules
