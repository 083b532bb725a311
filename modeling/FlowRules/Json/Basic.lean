import FlowRules.Number.Numeral

/-!
# JSON data

A document is a tree of nulls, booleans, numbers, texts, arrays and objects.  An object keeps its members in order;
integers and floating-point numbers are told apart, and the latter include the infinities and a not-a-number.
-/

namespace FlowRules

inductive Json where
  | null
  | bool (b : Bool)
  | int (n : Int)
  | float (x : Binary64)
  | text (s : String)
  | array (items : List Json)
  | object (members : List (String × Json))
  deriving Repr, Inhabited

/-- What a reader of JSON expected or found. -/
inductive JsonProblem where
  | value
  | propertyName
  | colon
  | comma
  | unterminatedText
  | controlCharacter
  | badEscape
  | badCodePoint
  | extraData
  | byteOrderMark
  deriving DecidableEq, Repr

inductive JsonFault where
  | malformed (problem : JsonProblem) (line column index : Nat)
  | tooDeep
  | numeral (fault : NumeralFault)
  deriving DecidableEq, Repr

namespace JsonProblem

def message : JsonProblem → String
  | value => "Expecting value"
  | propertyName => "Expecting property name enclosed in double quotes"
  | colon => "Expecting ':' delimiter"
  | comma => "Expecting ',' delimiter"
  | unterminatedText => "Unterminated string starting at"
  | controlCharacter => "Invalid control character at"
  | badEscape => "Invalid \\escape"
  | badCodePoint => "Invalid \\uXXXX escape"
  | extraData => "Extra data"
  | byteOrderMark => "Unexpected UTF-8 BOM (decode using utf-8-sig)"

end JsonProblem

namespace JsonFault

def message : JsonFault → String
  | malformed problem line column index =>
    problem.message ++ ": line " ++ toString line ++ " column " ++ toString column ++ " (char " ++
      toString index ++ ")"
  | tooDeep => "maximum recursion depth exceeded while decoding a JSON array from a unicode string"
  | numeral fault => fault.message

end JsonFault

namespace Json

/-- The members of an object with `key` set: an existing member keeps its place. -/
def setMember (key : String) (v : Json) : List (String × Json) → List (String × Json)
  | [] => [(key, v)]
  | (k, w) :: rest => if k = key then (k, v) :: rest else (k, w) :: setMember key v rest

end Json
end FlowRules
