import FlowRules.Proofs.Condition.Acceptance
import FlowRules.Proofs.Condition.Layout

/-!
# Printing conditions

An expression is printed with brackets around all its parts, texts between double quotes with backslashes in front of
quotes and backslashes, and single spaces between the words.  The word that is printed for a literal is lexical and
stands for the literal (`Word.ofAtom_spec`).
-/

namespace FlowRules

/-- The literals of conditions: no number is negative, and a decimal has places behind the point. -/
inductive Atom.IsLiteral : Atom → Prop
  | null : IsLiteral .null
  | bool (b : Bool) : IsLiteral (.bool b)
  | text (s : String) : IsLiteral (.text s)
  | int {n : Nat} : (Text.natDigits n).length ≤ Numeral.maxDigits → IsLiteral (.int n)
  | decimal (c : Nat) {e : Int} : e < 0 → IsLiteral (.decimal (.finite false c e))

/-! ### Printing -/

namespace Word

/-- A character between double quotes. -/
def quotedChar (c : Char) : List Char := if c = '"' ∨ c = '\\' then ['\\', c] else [c]

def quotedText (s : String) : Word := ⟨.text, String.ofList ('"' :: (s.toList.flatMap quotedChar ++ ['"']))⟩

def number (cs : List Char) : Word := ⟨.number, String.ofList cs⟩

/-- The digits of `c · 10 ^ (-places)`. -/
def decimal (c places : Nat) : Word :=
  number (Text.natDigits (c / 10 ^ places) ++ '.' :: Text.paddedDigits places c)

/-- The word of a literal; those that are no literals of conditions have none of their own. -/
def ofAtom : Atom → Word
  | .bool b => keyword (if b then "true" else "false")
  | .int n => number (Text.natDigits n.toNat)
  | .decimal (.finite _ c e) => decimal c (-e).toNat
  | .text s => quotedText s
  | _ => keyword "null"

/-- The word of a name behind a point. -/
def field (name : String) : Word :=
  if Token.small name.toList ∈ Token.keywords then keyword name else .name name

end Word

/-- The word that is printed between the parts of a chain. -/
def Connective.joint : Connective → Word
  | and => .keyword "and"
  | or => .keyword "or"

namespace Expr

def bracketed (ws : List Word) : List Word := .operator "(" :: (ws ++ [.operator ")"])

mutual

/-- The words of an expression, with brackets around its parts. -/
def words : Expr → List Word
  | .literal a => [.ofAtom a]
  | .root r => [.name r.name]
  | .attribute target name => bracketed (words target) ++ [.operator ".", .field name]
  | .index target key => bracketed (words target) ++ .operator "[" :: (words key ++ [.operator "]"])
  | .call f args => .name f.name :: .operator "(" :: (wordsJoined (.operator ",") args ++ [.operator ")"])
  | .negate e => .operator "-" :: bracketed (words e)
  | .not e => .keyword "not" :: bracketed (words e)
  | .connective c parts => wordsJoined c.joint parts
  | .compare r left right => bracketed (words left) ++ (r.words ++ bracketed (words right))

/-- The words of expressions with a word between each two. -/
def wordsJoined (joint : Word) : List Expr → List Word
  | [] => []
  | e :: es => bracketed (words e) ++ wordsBehind joint es

/-- The words of expressions with a word before each. -/
def wordsBehind (joint : Word) : List Expr → List Word
  | [] => []
  | e :: es => joint :: (bracketed (words e) ++ wordsBehind joint es)

end

/-- The text of an expression. -/
def print (e : Expr) : String := Word.spaced e.words

end Expr

/-! ### Literals -/

namespace Word

open Text Token

variable {cs : List Char}

theorem fits_number {rest : List Char} (h : IsNumber cs)
    (hrest : ∀ c ∈ rest.head?, isDecimalDigit c = false ∧ c ≠ '.') : (number cs).Fits rest := by
  have hvalue : (number cs).value.toList = cs := String.toList_ofList
  have hne : cs ≠ [] := by
    cases h with
    | whole h => exact h.1
    | fraction h _ => exact List.append_ne_nil_of_left_ne_nil h.1 _
  refine ⟨by rwa [hvalue], .number, fun p => ?_, ?_⟩
  · rw [hvalue]
    rfl
  · rw [hvalue]
    exact lexeme?_isNumber h hrest

theorem Laid.number {rest : List Char} {ws : List Word} (hcs : IsNumber cs)
    (hrest : ∀ c ∈ rest.head?, isDecimalDigit c = false ∧ c ≠ '.') (h : Laid rest ws) :
    Laid (cs ++ rest) (.number cs :: ws) := by
  have hword := word (fits_number hcs hrest) h
  rwa [Word.number, String.toList_ofList] at hword

theorem Laid.numeral {n : String} {rest : List Char} {ws : List Word} (hn : IsNumber n.toList) (hrest : Spaced rest)
    (h : Laid rest ws) : Laid (n.toList ++ rest) (⟨.number, n⟩ :: ws) := by
  have hlaid : Laid (n.toList ++ rest) (.number n.toList :: ws) := .number hn hrest.behindNumber h
  rwa [Word.number, String.ofList_toList] at hlaid

/-- A text whose tokens are the words of an expression stands for the expression. -/
theorem parsed_of_tokens {s : String} {ts : List Token} {ws : List Word} {e : Expr} (hts : Token.ofText s = .ok ts)
    (hwords : ts.map Token.word = ws ++ [⟨.finish, ""⟩]) (he : Grammar.Derives .expression ws e) :
    Expr.ofText s = .ok e :=
  (Grammar.ofText_iff hts).2 (Grammar.Sentence.ofTokens ⟨ws, hwords, he⟩)

/-- A text in which the words of an expression are laid out stands for the expression. -/
theorem Laid.parsed {s : String} {ws : List Word} {e : Expr} (h : Laid s.toList ws)
    (he : Grammar.Derives .expression ws e) : Expr.ofText s = .ok e := by
  obtain ⟨ts, hts, hwords⟩ := h.ofText
  exact parsed_of_tokens hts hwords he

theorem lexical_number (h : IsNumber cs) : (number cs).Lexical := by
  have hvalue : (number cs).value.toList = cs := String.toList_ofList
  refine ⟨(fits_number h spaced_nil.behindNumber).1, .number, fun p => ?_, fun rest hrest => ?_⟩
  · rw [hvalue]
    rfl
  · rw [hvalue]
    exact lexeme?_isNumber h hrest.behindNumber

theorem lexical_name {s : String} (h : IsName s.toList) (hsmall : small s.toList ∉ keywords) : (Word.name s).Lexical := by
  exact ⟨(fits_name h hsmall spaced_nil.behindName).1, .name, ofLexeme_name hsmall,
    fun rest hrest => lexeme?_isName h hrest.behindName⟩

theorem lexical_keyword {s : String} (h : IsName s.toList) (hs : s ∈ keywords) (hsmall : small s.toList = s) :
    (keyword s).Lexical := by
  refine ⟨h.ne_nil, .name, fun p => ?_, fun rest hrest => lexeme?_isName h hrest.behindName⟩
  show (ofLexeme .name s.toList p).word = _
  rw [ofLexeme, hsmall, if_pos ⟨rfl, hs⟩]
  rfl

theorem lexical_operator {s : String} (hs : s ∈ operators) : (operator s).Lexical := by
  refine ⟨?_, .operator, fun p => ?_, fun rest hrest => lexeme?_operator hs hrest⟩
  · show s.toList ≠ []
    revert s
    decide
  · show (ofLexeme .operator s.toList p).word = _
    have hkind : TokenKind.operator ≠ .name := by decide
    rw [ofLexeme, if_neg fun h => hkind h.1, String.ofList_toList]
    rfl

theorem keyword_spec {s : String} (hs : s ∈ keywords) : IsName s.toList ∧ small s.toList = s := by
  simp only [keywords, List.mem_cons, List.not_mem_nil, or_false] at hs
  rcases hs with rfl | rfl | rfl | rfl | rfl | rfl | rfl | rfl <;> exact ⟨isName_of_all rfl rfl, rfl⟩

theorem lexical_of_keyword {s : String} (hs : s ∈ keywords) : (keyword s).Lexical :=
  lexical_keyword (keyword_spec hs).1 hs (keyword_spec hs).2

theorem quotedLength?_quoted (cs rest : List Char) :
    quotedLength? '"' (cs.flatMap quotedChar ++ '"' :: rest) = some ((cs.flatMap quotedChar).length + 1) := by
  induction cs with
  | nil => cases rest <;> rfl
  | cons c cs ih =>
    rw [List.flatMap_cons, quotedChar]
    split
    · next hc =>
      -- the backslash takes the character with it
      have hpair : quotedLength? '"' ('\\' :: c :: (cs.flatMap quotedChar ++ '"' :: rest)) =
          (quotedLength? '"' (cs.flatMap quotedChar ++ '"' :: rest)).map (· + 2) := by
        rcases hc with rfl | rfl <;> rfl
      rw [List.append_assoc]
      show quotedLength? '"' ('\\' :: c :: (cs.flatMap quotedChar ++ '"' :: rest)) = _
      rw [hpair, ih]
      rfl
    · next hc =>
      obtain ⟨hquote, hslash⟩ := not_or.1 hc
      obtain ⟨d, ds, hds⟩ : ∃ d ds, cs.flatMap quotedChar ++ '"' :: rest = d :: ds :=
        List.exists_cons_of_ne_nil (List.append_ne_nil_of_right_ne_nil _ (List.cons_ne_nil _ _))
      rw [hds] at ih
      rw [List.append_assoc, hds, List.singleton_append, quotedLength?, if_neg hquote, if_neg hslash, ih]
      rfl

theorem unescape_quoted (cs : List Char) : Parser.unescape (cs.flatMap quotedChar) = cs := by
  induction cs with
  | nil => rfl
  | cons c cs ih =>
    rw [List.flatMap_cons, quotedChar]
    split
    · next hc =>
      rcases hc with rfl | rfl
      · exact congrArg _ ih
      · exact congrArg _ ih
    · next hc =>
      rw [List.singleton_append, Parser.unescape, ih]
      intro d ds hslash
      exact absurd (Or.inr hslash) hc

/-- The value of a quoted text is the text. -/
theorem unquote_quotedText (s : String) : Parser.unquote (quotedText s).value = s := by
  show Parser.unquote (String.ofList ('"' :: (s.toList.flatMap quotedChar ++ ['"']))) = s
  rw [Parser.unquote, String.toList_ofList, List.drop_succ_cons, List.drop_zero, List.dropLast_concat, unescape_quoted,
    String.ofList_toList]

theorem toList_quotedText (s : String) :
    (quotedText s).value.toList = '"' :: (s.toList.flatMap quotedChar ++ ['"']) := String.toList_ofList

/-- A quoted text ends with its own quote, whatever stands behind it. -/
theorem lexeme?_quotedText (s : String) (rest : List Char) :
    lexeme? ((quotedText s).value.toList ++ rest) = some (some .text, (quotedText s).value.toList.length) := by
  have htext : textLength ('"' :: (s.toList.flatMap quotedChar ++ '"' :: rest)) =
      (s.toList.flatMap quotedChar).length + 2 := by
    rw [textLength, if_pos (.inl rfl), quotedLength?_quoted]
    rfl
  rw [toList_quotedText, List.cons_append, List.append_assoc, List.singleton_append, lexeme?,
    blankLength_eq_zero (show isBlank '"' = false from rfl),
    numberLength_eq_zero (show isDecimalDigit '"' = false from rfl), htext]
  simp

theorem quotedText_token (s : String) :
    (quotedText s).value.toList ≠ [] ∧ ∀ p, (ofLexeme .text (quotedText s).value.toList p).word = quotedText s := by
  rw [toList_quotedText]
  exact ⟨List.cons_ne_nil _ _, fun p => rfl⟩

theorem fits_quotedText (s : String) (rest : List Char) : (quotedText s).Fits rest :=
  ⟨(quotedText_token s).1, .text, (quotedText_token s).2, lexeme?_quotedText s rest⟩

theorem lexical_quotedText (s : String) : (quotedText s).Lexical :=
  ⟨(quotedText_token s).1, .text, (quotedText_token s).2, fun rest _ => lexeme?_quotedText s rest⟩

/-! ### Numbers -/

theorem isDigits_natDigits (n : Nat) : IsDigits (natDigits n) :=
  ⟨Nat.toDigits_ne_nil, fun _ hc => isDecimalDigit_of_mem_natDigits hc⟩

theorem isDigits_paddedDigits {k : Nat} (hk : 0 < k) (n : Nat) : IsDigits (paddedDigits k n) := by
  refine ⟨fun hnil => ?_, fun _ hc => isDecimalDigit_of_mem_paddedDigits hc⟩
  have hlength := length_paddedDigits k n
  rw [hnil] at hlength
  exact Nat.ne_of_gt hk hlength.symm

theorem number_natDigits {n : Nat} (hn : (natDigits n).length ≤ Numeral.maxDigits) :
    Parser.number (number (natDigits n)).value = .ok (.int n) := by
  show Parser.number (String.ofList (natDigits n)) = _
  rw [Parser.number_whole (isDigits_natDigits n), if_neg (Nat.not_lt.2 hn), digitsValue_natDigits]

theorem number_decimal (c places : Nat) :
    Parser.number (decimal c places).value = .ok (.decimal (.finite false c (-places))) := by
  show Parser.number (String.ofList (natDigits (c / 10 ^ places) ++ '.' :: paddedDigits places c)) = _
  rw [Parser.number_fraction (isDigits_natDigits _), digitsValue_append, digitsValue_natDigits,
    digitsValue_paddedDigits, length_paddedDigits, Nat.div_add_mod']

/-- The word of a literal is lexical, and stands for the literal. -/
theorem ofAtom_spec {a : Atom} (ha : a.IsLiteral) :
    (ofAtom a).Lexical ∧ Grammar.Derives .atom [ofAtom a] (.literal a) := by
  cases ha with
  | null => exact ⟨lexical_of_keyword (by decide), .constant (by simp [Grammar.constants])⟩
  | bool b => cases b <;> exact ⟨lexical_of_keyword (by decide), .constant (by simp [Grammar.constants])⟩
  | text s =>
    have htext := Grammar.Derives.text (quotedText s).value
    rw [unquote_quotedText] at htext
    exact ⟨lexical_quotedText s, htext⟩
  | @int n hn =>
    exact ⟨lexical_number (.whole (isDigits_natDigits n)), .number (number_natDigits hn)⟩
  | @decimal c e he =>
    obtain ⟨k, rfl⟩ : ∃ k : Nat, e = -(k : Int) := ⟨(-e).toNat, by omega⟩
    have hk : 0 < k := by omega
    have hplaces : ofAtom (.decimal (.finite false c (-(k : Int)))) = decimal c k := by
      simp [ofAtom]
    rw [hplaces]
    exact ⟨lexical_number (.fraction (isDigits_natDigits _) (isDigits_paddedDigits hk c)), .number (number_decimal c k)⟩

end Word

end FlowRules
