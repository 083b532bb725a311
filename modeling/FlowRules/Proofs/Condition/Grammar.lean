import FlowRules.Condition.Parser

/-!
# The grammar of conditions

    expression := conjunction (('or' | '||') conjunction)*
    conjunction := negation (('and' | '&&') negation)*
    negation := ('not' | '!') negation | comparison
    comparison := operand [relation operand]
    operand := '-' operand | member
    member := atom | member '.' name | member '[' expression ']'
    atom := literal | root | function '(' [expression (',' expression)*] ')' | '(' expression ')'

The grammar speaks of words, which are tokens without their places.
-/

namespace FlowRules

/-- A token without its place. -/
structure Word where
  kind : TokenKind
  value : String
  deriving DecidableEq, Repr

namespace Word

def operator (s : String) : Word := ⟨.operator, s⟩

def keyword (s : String) : Word := ⟨.keyword, s⟩

def name (s : String) : Word := ⟨.name, s⟩

end Word

def Token.word (t : Token) : Word := ⟨t.kind, t.value⟩

/-- The words that join the parts of a chain. -/
def Connective.joints : Connective → List Word
  | and => [.keyword "and", .operator "&&"]
  | or => [.keyword "or", .operator "||"]

/-- The words between the two sides of a comparison. -/
def Relation.words : Relation → List Word
  | equal => [.operator "=="]
  | different => [.operator "!="]
  | ordered .lt => [.operator "<"]
  | ordered .le => [.operator "<="]
  | ordered .gt => [.operator ">"]
  | ordered .ge => [.operator ">="]
  | within => [.keyword "in"]
  | outside => [.keyword "not", .keyword "in"]

namespace Grammar

/-- The levels of the grammar, from the loosest binding to the tightest. -/
inductive Level where
  | chain (c : Connective)
  | negation
  | comparison
  | operand
  | member
  | atom
  deriving DecidableEq, Repr

namespace Level

def expression : Level := chain .or

/-- The level of the parts of a chain. -/
def below : Connective → Level
  | .or => chain .and
  | .and => negation

end Level

/-- A further part of a chain or of a list of arguments, behind the word that joins it to the one before. -/
structure Part where
  joint : Word
  words : List Word
  tree : Expr

namespace Part

/-- All the words of the parts. -/
def flatten (parts : List Part) : List Word := parts.flatMap fun p => p.joint :: p.words

def trees (parts : List Part) : List Expr := parts.map tree

end Part

/-- The words that negate. -/
def negators : List Word := [.keyword "not", .operator "!"]

/-- The keywords that are literals. -/
def constants : List (String × Atom) :=
  [("true", .bool true), ("false", .bool false), ("null", .null), ("none", .null)]

/-- The phrases of each level, with their trees. -/
inductive Derives : Level → List Word → Expr → Prop
  | chain {c : Connective} {ws : List Word} {e : Expr} {parts : List Part} : Derives (.below c) ws e →
      (∀ p ∈ parts, p.joint ∈ c.joints) → (∀ p ∈ parts, Derives (.below c) p.words p.tree) →
      Derives (.chain c) (ws ++ Part.flatten parts) (Parser.chain c (e :: Part.trees parts))
  | not {w : Word} {ws : List Word} {e : Expr} : w ∈ negators → Derives .negation ws e →
      Derives .negation (w :: ws) (.not e)
  | comparison {ws : List Word} {e : Expr} : Derives .comparison ws e → Derives .negation ws e
  | compare {ls rs : List Word} {left right : Expr} (r : Relation) : Derives .operand ls left →
      Derives .operand rs right → Derives .comparison (ls ++ (r.words ++ rs)) (.compare r left right)
  | operand {ws : List Word} {e : Expr} : Derives .operand ws e → Derives .comparison ws e
  | negate {ws : List Word} {e : Expr} : Derives .operand ws e →
      Derives .operand (.operator "-" :: ws) (.negate e)
  | member {ws : List Word} {e : Expr} : Derives .member ws e → Derives .operand ws e
  | field {ws : List Word} {e : Expr} {kind : TokenKind} {name : String} : Derives .member ws e →
      kind = .name ∨ kind = .keyword → Derives .member (ws ++ [.operator ".", ⟨kind, name⟩]) (.attribute e name)
  | item {ws ks : List Word} {e key : Expr} : Derives .member ws e → Derives .expression ks key →
      Derives .member (ws ++ .operator "[" :: (ks ++ [.operator "]"])) (.index e key)
  | atom {ws : List Word} {e : Expr} : Derives .atom ws e → Derives .member ws e
  | number {s : String} {a : Atom} : Parser.number s = .ok a → Derives .atom [⟨.number, s⟩] (.literal a)
  | text (s : String) : Derives .atom [⟨.text, s⟩] (.literal (.text (Parser.unquote s)))
  | constant {s : String} {a : Atom} : (s, a) ∈ constants → Derives .atom [.keyword s] (.literal a)
  | root (r : Root) : Derives .atom [.name r.name] (.root r)
  | call (f : Operation) : Derives .atom [.name f.name, .operator "(", .operator ")"] (.call f [])
  | callWith (f : Operation) {ws : List Word} {e : Expr} {parts : List Part} : Derives .expression ws e →
      (∀ p ∈ parts, p.joint = .operator ",") → (∀ p ∈ parts, Derives .expression p.words p.tree) →
      Derives .atom (.name f.name :: .operator "(" :: (ws ++ (Part.flatten parts ++ [.operator ")"])))
        (.call f (e :: Part.trees parts))
  | brackets {ws : List Word} {e : Expr} : Derives .expression ws e →
      Derives .atom (.operator "(" :: (ws ++ [.operator ")"])) e

/-! ### Phrases of tighter levels as expressions -/

section

variable {c : Connective} {ws : List Word} {e : Expr}

/-- A chain of one part. -/
theorem Derives.alone (h : Derives (.below c) ws e) : Derives (.chain c) ws e := by
  have hchain := @Derives.chain c ws e [] h nofun nofun
  rw [Part.flatten, List.flatMap_nil, List.append_nil] at hchain
  exact hchain

theorem Derives.ofNegation (h : Derives .negation ws e) : Derives .expression ws e :=
  @alone .or _ _ (@alone .and _ _ h)

theorem Derives.ofComparison (h : Derives .comparison ws e) : Derives .expression ws e := .ofNegation (.comparison h)

theorem Derives.ofMember (h : Derives .member ws e) : Derives .expression ws e :=
  .ofComparison (.operand (.member h))

end

/-- A whole condition: an expression and the end. -/
def Sentence (ws : List Word) (e : Expr) : Prop :=
  ∃ body, ws = body ++ [⟨.finish, ""⟩] ∧ Derives .expression body e

end Grammar
end FlowRules
