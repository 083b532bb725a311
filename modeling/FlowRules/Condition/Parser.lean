import FlowRules.Condition.Token
import FlowRules.Condition.Expr

/-!
# Parsing conditions

The grammar, from the loosest binding to the tightest: `or` chains, `and` chains, `not`, one comparison, operands
with fields, items and a change of sign, and atoms.  A chain of one part is that part.  Each function takes the
tokens in front of it and gives what it has read and the tokens behind.  The first argument bounds the depth of
the calls; `Expr.ofTokens` gives more than a list of tokens can need.
-/

namespace FlowRules

/-- Why parsing stops: a problem at a position, or a number too long to be read. -/
inductive ParseStop where
  | problem (p : SyntaxProblem) (position : Nat)
  | numeral (fault : NumeralFault)

namespace Parser

/-- The token in front; behind the last there are only more ends. -/
def front (ts : List Token) : Token := ts.headD ⟨.finish, "", 0⟩

/-- Something else was wanted than the token in front. -/
def unexpected {α : Type} (wanted : Expectation) (ts : List Token) : Except ParseStop (α × List Token) :=
  let t := front ts
  .error (.problem (.unexpected wanted (if t.kind = .finish then none else some t.value)) t.position)

/-- Whether the token in front is this one. -/
def isAt (kind : TokenKind) (value : String) (ts : List Token) : Bool :=
  (front ts).kind == kind && (front ts).value == value

/-- Pass over the token in front, which has to be this one. -/
def expect (kind : TokenKind) (value : String) (ts : List Token) : Except ParseStop (Unit × List Token) :=
  if isAt kind value ts then .ok ((), ts.drop 1) else unexpected (.token value) ts

/-- The relation that a comparison operator stands for. -/
def relation? (t : Token) : Option Relation :=
  if t.kind = .operator then
    match t.value with
    | "==" => some .equal
    | "!=" => some .different
    | "<" => some (.ordered .lt)
    | "<=" => some (.ordered .le)
    | ">" => some (.ordered .gt)
    | ">=" => some (.ordered .ge)
    | _ => none
  else none

/-- A chain of one part is that part. -/
def chain (c : Connective) : List Expr → Expr
  | [e] => e
  | parts => .connective c parts

def isOr (ts : List Token) : Bool := isAt .keyword "or" ts || isAt .operator "||" ts

def isAnd (ts : List Token) : Bool := isAt .keyword "and" ts || isAt .operator "&&" ts

def isNot (ts : List Token) : Bool := isAt .keyword "not" ts || isAt .operator "!" ts

private def escapes : List (Char × Char) := [('n', '\n'), ('t', '\t'), ('r', '\r')]

/-- Resolve the escapes of a quoted text. -/
def unescape : List Char → List Char
  | '\\' :: c :: cs => ((escapes.lookup c).getD c) :: unescape cs
  | c :: cs => c :: unescape cs
  | [] => []

/-- The text between the quotes of a token. -/
def unquote (s : String) : String := String.ofList (unescape ((s.toList.drop 1).dropLast))

/-- The number that a token denotes; with a point it is a decimal. -/
def number (s : String) : Except ParseStop Atom :=
  match Text.cutAt? '.' s with
  | some (whole, fraction) =>
    .ok (.decimal (.finite false (Text.digitsValue (whole.toList ++ fraction.toList)) (-fraction.length)))
  | none =>
    match Numeral.read s with
    | .ok n => .ok (.int n)
    | .error f => .error (.numeral f)

mutual

/-- A chain of `or`. -/
def orExpr : Nat → List Token → Except ParseStop (Expr × List Token)
  | 0, ts => unexpected .value ts
  | n + 1, ts => do
    let (e, ts) ← andExpr n ts
    let (es, ts) ← orRest n ts
    .ok (chain .or (e :: es), ts)
termination_by structural n => n

def orRest : Nat → List Token → Except ParseStop (List Expr × List Token)
  | 0, ts => unexpected .value ts
  | n + 1, ts =>
    if isOr ts then do
      let (e, ts) ← andExpr n (ts.drop 1)
      let (es, ts) ← orRest n ts
      .ok (e :: es, ts)
    else .ok ([], ts)
termination_by structural n => n

/-- A chain of `and`. -/
def andExpr : Nat → List Token → Except ParseStop (Expr × List Token)
  | 0, ts => unexpected .value ts
  | n + 1, ts => do
    let (e, ts) ← notExpr n ts
    let (es, ts) ← andRest n ts
    .ok (chain .and (e :: es), ts)
termination_by structural n => n

def andRest : Nat → List Token → Except ParseStop (List Expr × List Token)
  | 0, ts => unexpected .value ts
  | n + 1, ts =>
    if isAnd ts then do
      let (e, ts) ← notExpr n (ts.drop 1)
      let (es, ts) ← andRest n ts
      .ok (e :: es, ts)
    else .ok ([], ts)
termination_by structural n => n

def notExpr : Nat → List Token → Except ParseStop (Expr × List Token)
  | 0, ts => unexpected .value ts
  | n + 1, ts =>
    if isNot ts then do
      let (e, ts) ← notExpr n (ts.drop 1)
      .ok (.not e, ts)
    else comparison n ts
termination_by structural n => n

/-- At most one comparison of two operands. -/
def comparison : Nat → List Token → Except ParseStop (Expr × List Token)
  | 0, ts => unexpected .value ts
  | n + 1, ts => do
    let (left, ts) ← operand n ts
    match relation? (front ts) with
    | some r =>
      let (right, ts) ← operand n (ts.drop 1)
      .ok (.compare r left right, ts)
    | none =>
      if isAt .keyword "in" ts then
        let (right, ts) ← operand n (ts.drop 1)
        .ok (.compare .within left right, ts)
      else if isAt .keyword "not" ts then
        let ((), ts) ← expect .keyword "in" (ts.drop 1)
        let (right, ts) ← operand n ts
        .ok (.compare .outside left right, ts)
      else .ok (left, ts)
termination_by structural n => n

def operand : Nat → List Token → Except ParseStop (Expr × List Token)
  | 0, ts => unexpected .value ts
  | n + 1, ts =>
    if isAt .operator "-" ts then do
      let (e, ts) ← operand n (ts.drop 1)
      .ok (.negate e, ts)
    else do
      let (e, ts) ← atom n ts
      suffixes n e ts
termination_by structural n => n

/-- The fields and items that follow an atom. -/
def suffixes : Nat → Expr → List Token → Except ParseStop (Expr × List Token)
  | 0, _, ts => unexpected .value ts
  | n + 1, e, ts =>
    if isAt .operator "." ts then
      let t := front (ts.drop 1)
      if t.kind = .name ∨ t.kind = .keyword then suffixes n (.attribute e t.value) (ts.drop 2)
      else unexpected .fieldName (ts.drop 1)
    else if isAt .operator "[" ts then do
      let (key, ts) ← orExpr n (ts.drop 1)
      let ((), ts) ← expect .operator "]" ts
      suffixes n (.index e key) ts
    else .ok (e, ts)
termination_by structural n => n

/-- A literal, a root, a call or an expression in brackets. -/
def atom : Nat → List Token → Except ParseStop (Expr × List Token)
  | 0, ts => unexpected .value ts
  | n + 1, ts =>
    let t := front ts
    match t.kind with
    | .number => do
      let a ← number t.value
      .ok (.literal a, ts.drop 1)
    | .text => .ok (.literal (.text (unquote t.value)), ts.drop 1)
    | .keyword =>
      match t.value with
      | "true" => .ok (.literal (.bool true), ts.drop 1)
      | "false" => .ok (.literal (.bool false), ts.drop 1)
      | "null" => .ok (.literal .null, ts.drop 1)
      | "none" => .ok (.literal .null, ts.drop 1)
      | _ => unexpected .value ts
    | .name =>
      if isAt .operator "(" (ts.drop 1) then
        match Operation.ofName? t.value with
        | none => .error (.problem (.unknownFunction t.value) t.position)
        | some f => do
          let (args, ts) ← arguments n (ts.drop 2)
          .ok (.call f args, ts)
      else
        match Root.ofName? t.value with
        | some r => .ok (.root r, ts.drop 1)
        | none => .error (.problem (.unknownName t.value) t.position)
    | .operator =>
      if t.value = "(" then do
        let (e, ts) ← orExpr n (ts.drop 1)
        let ((), ts) ← expect .operator ")" ts
        .ok (e, ts)
      else unexpected .value ts
    | .finish => unexpected .value ts
termination_by structural n => n

/-- The arguments of a call behind its opening bracket, and the closing bracket. -/
def arguments : Nat → List Token → Except ParseStop (List Expr × List Token)
  | 0, ts => unexpected .value ts
  | n + 1, ts =>
    if isAt .operator ")" ts then .ok ([], ts.drop 1)
    else do
      let (e, ts) ← orExpr n ts
      let (es, ts) ← moreArguments n ts
      .ok (e :: es, ts)
termination_by structural n => n

def moreArguments : Nat → List Token → Except ParseStop (List Expr × List Token)
  | 0, ts => unexpected .value ts
  | n + 1, ts =>
    if isAt .operator "," ts then do
      let (e, ts) ← orExpr n (ts.drop 1)
      let (es, ts) ← moreArguments n ts
      .ok (e :: es, ts)
    else do
      let ((), ts) ← expect .operator ")" ts
      .ok ([], ts)
termination_by structural n => n

end

end Parser

namespace Expr

/-- The expression that a list of tokens stands for. -/
def ofTokens (ts : List Token) : Except ParseStop Expr := do
  let (e, rest) ← Parser.orExpr (8 * ts.length + 8) ts
  if (Parser.front rest).kind = .finish then .ok e
  else
    match Parser.unexpected (α := Unit) .noMore rest with
    | .error stop => .error stop
    | .ok _ => .ok e

/-- The expression that a text stands for. -/
def ofText (s : String) : Except Fault Expr := do
  let ts ← Token.ofText s
  match ofTokens ts with
  | .ok e => .ok e
  | .error (.problem p position) => .error (.conditionSyntax s p (some position))
  | .error (.numeral f) => .error (.value (.numeral f))

end Expr
end FlowRules
