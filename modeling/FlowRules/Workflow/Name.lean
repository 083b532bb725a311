import FlowRules.Fault

/-!
# Names of workflows and keys of handlers

A name of a workflow becomes a path, so it is kept to segments of plain characters joined by single slashes, and
nothing in it may lead upwards.  A key of a handler starts with a letter or an underscore.  Both may end in a line
feed, which the patterns they are held to do not see.
-/

namespace FlowRules

def isAsciiLetter (c : Char) : Bool := ('a' ≤ c && c ≤ 'z') || ('A' ≤ c && c ≤ 'Z')

def isAsciiDigit (c : Char) : Bool := '0' ≤ c && c ≤ '9'

namespace WorkflowName

def maxLength : Nat := 255

def isNameChar (c : Char) : Bool := isAsciiLetter c || isAsciiDigit c || c = '_' || c = '.' || c = '-'

/-- Segments of plain characters, none of them empty, joined by slashes. -/
def isPath (cs : List Char) : Bool :=
  (Text.splitChars '/' cs).all fun segment => !segment.isEmpty && segment.all isNameChar

/-- A sequence that could lead out of a directory. -/
def leadsOut (name : String) : Bool :=
  Text.contains name ".." || Text.startsWith name "/" || Text.contains name "\\"

/-- The name, if a workflow may have it. -/
def check (name : String) : Except Fault String :=
  if name = "" then .error (.value .noWorkflowName)
  else if !isPath (Text.beforeFinalNewline name.toList) then .error (.value (.badWorkflowName name))
  else if leadsOut name then .error (.value (.unsafeWorkflowName name))
  else if maxLength < name.length then .error (.value .longWorkflowName)
  else .ok name

end WorkflowName

namespace HandlerKey

def maxLength : Nat := 200

def isStart (c : Char) : Bool := isAsciiLetter c || c = '_'

def isRest (c : Char) : Bool := isAsciiLetter c || isAsciiDigit c || c = '_' || c = '.' || c = ':' || c = '-'

def isKey : List Char → Bool
  | [] => false
  | c :: cs => isStart c && cs.all isRest

/-- What a key is called in reports. -/
def defaultLabel : String := "implementation key"

/-- The key, if a handler may be registered under it. -/
def check (key label : String) : Except Fault String :=
  if Text.isBlankText key then .error (.value (.noKey label))
  else if !isKey (Text.beforeFinalNewline key.toList) then .error (.value (.badKey label key))
  else if maxLength < key.length then .error (.value (.longKey label))
  else .ok key

end HandlerKey
end FlowRules
