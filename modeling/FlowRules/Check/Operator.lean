import FlowRules.Text.LetterCase
import FlowRules.Text.Basic

/-!
# Check operators

A check compares a value with a target by one of fifteen operators.  The spelling of an operator is free: letter
case, white space and underscores do not count, and the comparisons may be written by their signs.
-/

namespace FlowRules

inductive Operator where
  | between
  | contains
  | endsWith
  | equals
  | greaterThan
  | greaterThanOrEqual
  | isNotNull
  | isNull
  | lessThan
  | lessThanOrEqual
  | listContains
  | listCount
  | notEquals
  | regex
  | startsWith
  deriving DecidableEq, Repr

namespace Operator

def all : List Operator :=
  [between, contains, endsWith, equals, greaterThan, greaterThanOrEqual, isNotNull, isNull, lessThan, lessThanOrEqual,
    listContains, listCount, notEquals, regex, startsWith]

/-- The keyword of an operator. -/
def key : Operator → String
  | between => "between"
  | contains => "contains"
  | endsWith => "endswith"
  | equals => "equals"
  | greaterThan => "greaterthan"
  | greaterThanOrEqual => "greaterthanorequal"
  | isNotNull => "isnotnull"
  | isNull => "isnull"
  | lessThan => "lessthan"
  | lessThanOrEqual => "lessthanorequal"
  | listContains => "listcontains"
  | listCount => "listcount"
  | notEquals => "notequals"
  | regex => "regex"
  | startsWith => "startswith"

/-- The keywords in alphabetical order. -/
def keys : List String := all.map key

def ofKey? (s : String) : Option Operator := all.find? (·.key == s)

/-- Other spellings of keywords. -/
def aliases : List (String × String) :=
  [("==", "equals"), ("!=", "notequals"), (">", "greaterthan"), (">=", "greaterthanorequal"), ("<", "lessthan"),
    ("<=", "lessthanorequal"), ("match", "regex")]

/-- A spelling without letter case, white space and underscores. -/
def squeeze (s : String) : String :=
  String.ofList (Text.lowerChars (s.toList.filter fun c => !Text.isBlank c && c != '_'))

/-- The keyword that a spelling stands for, or the spelling without what does not count. -/
def normalize (spelling : Option String) : String :=
  let s := Text.trim (spelling.getD "")
  match aliases.lookup s with
  | some k => k
  | none => let k := squeeze s; (aliases.lookup k).getD k

/-- The operator that a spelling stands for. -/
def ofSpelling? (spelling : Option String) : Option Operator := ofKey? (normalize spelling)

end Operator
end FlowRules
