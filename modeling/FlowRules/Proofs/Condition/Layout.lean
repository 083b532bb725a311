import FlowRules.Proofs.Condition.Grammar
import FlowRules.Proofs.Condition.Lexemes

/-!
# Words laid out in a text

A word fits before some characters when its own are just one lexeme with these behind them: no digit or point behind a
number, no letter, digit or underscore behind a name.  A text in which each word fits before what follows, with white
space between words or none, has the tokens of these words (`Word.Laid.ofText`).  Lexical words make just one token
whatever stands behind a space, so a text of them with single spaces between has their tokens (`Word.ofText_spaced`).
-/

namespace FlowRules

open Text Token

/-! ### Layouts -/

/-- The characters of a word, with these behind them, are one lexeme, of which the token of the word is made. -/
def Word.Fits (w : Word) (rest : List Char) : Prop :=
  w.value.toList ≠ [] ∧ ∃ kind, (∀ p, (ofLexeme kind w.value.toList p).word = w) ∧
    lexeme? (w.value.toList ++ rest) = some (some kind, w.value.toList.length)

/-- The characters of words, each of which fits before what follows, and white space. -/
inductive Word.Laid : List Char → List Word → Prop
  | nil : Laid [] []
  | blank {c : Char} {cs : List Char} {ws : List Word} : isBlank c = true → Laid cs ws → Laid (c :: cs) ws
  | word {w : Word} {cs : List Char} {ws : List Word} : w.Fits cs → Laid cs ws →
      Laid (w.value.toList ++ cs) (w :: ws)

variable {w : Word} {ws : List Word} {cs ds rest : List Char} {c : Char}

/-! ### Lexemes of each kind -/

theorem blankLength_eq_zero (hc : isBlank c = false) : blankLength (c :: cs) = 0 := by
  simp [blankLength, hc]

theorem numberLength_eq_zero (hc : isDecimalDigit c = false) : numberLength (c :: cs) = 0 := by
  simp [numberLength, hc]

theorem lexeme?_isNumber (h : IsNumber cs) (hrest : ∀ c ∈ rest.head?, isDecimalDigit c = false ∧ c ≠ '.') :
    lexeme? (cs ++ rest) = some (some .number, cs.length) := by
  have hdigit : ∀ c ∈ rest.head?, isDecimalDigit c = false := fun c hc => (hrest c hc).1
  have hpoint : ∀ es, rest = '.' :: es → ∀ c ∈ es.head?, isDecimalDigit c = false := by
    rintro es rfl
    exact absurd rfl (hrest '.' rfl).2
  have hlength : numberLength (cs ++ rest) = cs.length := by
    cases h with
    | whole h => exact numberLength_whole h hdigit hpoint
    | @fraction cs ds hcs hds =>
      rw [List.append_assoc, List.cons_append, numberLength_fraction hcs hds hdigit, List.length_append,
        List.length_cons]
      omega
  obtain ⟨c, ds, rfl, hc⟩ : ∃ c ds, cs = c :: ds ∧ isDecimalDigit c = true := by
    cases h with
    | whole h | fraction h _ =>
      obtain ⟨c, es, rfl⟩ := List.exists_cons_of_ne_nil h.1
      exact ⟨c, _, rfl, h.2 c List.mem_cons_self⟩
  rw [lexeme?, hlength, List.cons_append, blankLength_eq_zero (isBlank_of_digit hc)]
  rfl

private theorem nameStart_among :
    ∀ n < 128, isNameStart (Char.ofNat n) = true →
      isBlank (Char.ofNat n) = false ∧ isDecimalDigit (Char.ofNat n) = false ∧ Char.ofNat n ∉ ['"', '\''] := by
  decide +kernel

/-- What a name starts with starts nothing else. -/
theorem nameStart_spec (h : isNameStart c = true) :
    isBlank c = false ∧ isDecimalDigit c = false ∧ c ∉ ['"', '\''] := by
  have hle : c.toNat ≤ 122 := by
    simp only [isNameStart, Bool.or_eq_true, Bool.and_eq_true, decide_eq_true_eq, beq_iff_eq] at h
    rcases h with (⟨-, h⟩ | ⟨-, h⟩) | rfl
    · exact h
    · exact Nat.le_trans h (by decide)
    · decide
  have hc := nameStart_among c.toNat (by omega)
  rw [Char.ofNat_toNat] at hc
  exact hc h

theorem lexeme?_isName (h : IsName cs) (hrest : ∀ c ∈ rest.head?, isNameChar c = false) :
    lexeme? (cs ++ rest) = some (some .name, cs.length) := by
  obtain ⟨c, ds, rfl, hc, hds⟩ := h
  obtain ⟨hblank, hdigit, hquote⟩ := nameStart_spec hc
  have htext : textLength (c :: (ds ++ rest)) = 0 := if_neg (by simpa using hquote)
  have hname : nameLength (c :: (ds ++ rest)) = ds.length + 1 := by
    rw [nameLength, if_pos hc, takeWhile_append hds hrest, Nat.add_comm]
  rw [List.cons_append, lexeme?, blankLength_eq_zero hblank, numberLength_eq_zero hdigit, htext, hname]
  simp

/-- The operators of one character that begin no longer one. -/
def marks : List Char := ['(', ')', '[', ']', '.', ',', '-']

theorem lexeme?_mark (hc : c ∈ marks) (rest : List Char) : lexeme? (c :: rest) = some (some .operator, 1) := by
  simp only [marks, List.mem_cons, List.not_mem_nil, or_false] at hc
  rcases hc with rfl | rfl | rfl | rfl | rfl | rfl | rfl <;> rfl

/-! ### Words that fit -/

namespace Word

theorem ofLexeme_name {s : String} (hs : small s.toList ∉ keywords) (p : Nat) :
    (ofLexeme .name s.toList p).word = name s := by
  rw [ofLexeme, if_neg fun h => hs h.2, String.ofList_toList]
  rfl

theorem fits_name {s : String} (h : IsName s.toList) (hs : small s.toList ∉ keywords)
    (hrest : ∀ c ∈ rest.head?, isNameChar c = false) : (name s).Fits rest :=
  ⟨h.ne_nil, .name, ofLexeme_name hs, lexeme?_isName h hrest⟩

theorem fits_mark (hc : c ∈ marks) (rest : List Char) : (operator (String.singleton c)).Fits rest := by
  have hvalue : (operator (String.singleton c)).value.toList = [c] := String.toList_singleton c
  refine ⟨by rw [hvalue]; exact List.cons_ne_nil c [], .operator, fun p => ?_, ?_⟩
  · rw [hvalue]
    rfl
  · rw [hvalue]
    exact lexeme?_mark hc rest

theorem Laid.mark (hc : c ∈ marks) (h : Laid rest ws) : Laid (c :: rest) (operator (String.singleton c) :: ws) := by
  have hword := word (fits_mark hc rest) h
  rwa [show (operator (String.singleton c)).value.toList = [c] from String.toList_singleton c] at hword

theorem Laid.name {s : String} (hs : IsName s.toList) (hsmall : small s.toList ∉ keywords)
    (hrest : ∀ c ∈ rest.head?, isNameChar c = false) (h : Laid rest ws) : Laid (s.toList ++ rest) (.name s :: ws) :=
  word (fits_name hs hsmall hrest) h

end Word

/-! ### Scanning -/

/-- The characters of a lexeme are passed over. -/
theorem scan_skip (p : Nat) (cs rest : List Char) : scan p cs.length (cs ++ rest) = scan (p + cs.length) 0 rest := by
  induction cs generalizing p with
  | nil => rfl
  | cons c cs ih =>
    rw [List.length_cons, List.cons_append, scan, ih]
    congr 1
    omega

/-- A lexeme is scanned as its token, and what is behind it comes next. -/
theorem scan_lexeme {kind : TokenKind} (hne : cs ≠ [])
    (hlexeme : lexeme? (cs ++ rest) = some (some kind, cs.length)) (p : Nat) :
    scan p 0 (cs ++ rest) = (scan (p + cs.length) 0 rest).map (ofLexeme kind cs p :: ·) := by
  obtain ⟨c, cs, rfl⟩ := List.exists_cons_of_ne_nil hne
  rw [List.cons_append] at hlexeme ⊢
  rw [scan, hlexeme]
  dsimp only
  rw [List.length_cons, Nat.add_sub_cancel, scan_skip, ← List.cons_append, ← List.length_cons (a := c), List.take_left,
    Nat.add_assoc, Nat.add_comm 1]
  cases scan (p + (cs.length + 1)) 0 rest <;> rfl

/-- A word is scanned as its token. -/
theorem scan_word (hw : w.Fits rest) (p : Nat) :
    ∃ t, t.word = w ∧ scan p 0 (w.value.toList ++ rest) =
      (scan (p + w.value.toList.length) 0 rest).map (t :: ·) := by
  obtain ⟨hne, kind, htoken, hlexeme⟩ := hw
  exact ⟨_, htoken p, scan_lexeme hne hlexeme p⟩

theorem scan_blanks (p : Nat) (cs : List Char) : scan p (blankLength cs) cs = scan p 0 cs := by
  rcases cs with _ | ⟨c, cs⟩
  · rfl
  · by_cases hc : isBlank c = true
    · have hlength : blankLength (c :: cs) = blankLength cs + 1 := by simp [blankLength, hc]
      have hlexeme : lexeme? (c :: cs) = some (none, blankLength cs + 1) := by
        rw [lexeme?, hlength]
        exact if_pos (Nat.succ_pos _)
      rw [hlength, scan, scan, hlexeme]
      rfl
    · rw [blankLength_eq_zero (Bool.eq_false_iff.2 hc)]

/-- White space is passed over. -/
theorem scan_blank (hc : isBlank c = true) (p : Nat) (cs : List Char) : scan p 0 (c :: cs) = scan (p + 1) 0 cs := by
  have hlength : blankLength (c :: cs) = blankLength cs + 1 := by simp [blankLength, hc]
  rw [← scan_blanks p, hlength, scan, scan_blanks]

theorem Word.Laid.scan (h : Laid cs ws) (p : Nat) :
    ∃ ts, Token.scan p 0 cs = .ok ts ∧ ts.map Token.word = ws ++ [⟨.finish, ""⟩] := by
  induction h generalizing p with
  | nil => exact ⟨_, rfl, rfl⟩
  | blank hc _ ih =>
    obtain ⟨ts, hscan, hts⟩ := ih (p + 1)
    exact ⟨ts, (scan_blank hc p _).trans hscan, hts⟩
  | @word w cs ws hw _ ih =>
    obtain ⟨t, rfl, hscan⟩ := scan_word hw p
    obtain ⟨ts, hrest, hts⟩ := ih (p + t.word.value.toList.length)
    refine ⟨t :: ts, ?_, ?_⟩
    · rw [hscan, hrest]
      rfl
    · rw [List.map_cons, hts]
      rfl

/-- The tokens of words that are laid out are these words. -/
theorem Word.Laid.ofText {s : String} (h : Laid s.toList ws) :
    ∃ ts, Token.ofText s = .ok ts ∧ ts.map Token.word = ws ++ [⟨.finish, ""⟩] := by
  obtain ⟨ts, hscan, hts⟩ := h.scan 0
  refine ⟨ts, ?_, hts⟩
  rw [Token.ofText, hscan]

/-! ### Words with spaces between them -/

/-- Nothing stands behind, or a space. -/
def Spaced (rest : List Char) : Prop := ∀ c ∈ rest.head?, c = ' '

/-- The characters of a word are one lexeme, of which the token of the word is made. -/
def Word.Lexical (w : Word) : Prop :=
  w.value.toList ≠ [] ∧ ∃ kind, (∀ p, (ofLexeme kind w.value.toList p).word = w) ∧
    ∀ rest, Spaced rest → lexeme? (w.value.toList ++ rest) = some (some kind, w.value.toList.length)

theorem spaced_nil : Spaced [] := nofun

theorem spaced_cons (rest : List Char) : Spaced (' ' :: rest) := by
  intro c hc
  cases hc
  rfl

theorem Spaced.behindNumber (h : Spaced rest) : ∀ c ∈ rest.head?, isDecimalDigit c = false ∧ c ≠ '.' := by
  intro c hc
  rw [h c hc]
  decide

theorem Spaced.behindName (h : Spaced rest) : ∀ c ∈ rest.head?, isNameChar c = false := by
  intro c hc
  rw [h c hc]
  decide

/-- The operators of conditions. -/
def operators : List String :=
  ["==", "!=", "<=", ">=", "&&", "||", "<", ">", "!", "(", ")", "[", "]", ".", ",", "-"]

theorem lexeme?_operator {s : String} (hs : s ∈ operators) (hrest : Spaced rest) :
    lexeme? (s.toList ++ rest) = some (some .operator, s.toList.length) := by
  simp only [operators, List.mem_cons, List.not_mem_nil, or_false] at hs
  rcases rest with _ | ⟨c, rest⟩
  · rcases hs with rfl | rfl | rfl | rfl | rfl | rfl | rfl | rfl | rfl | rfl | rfl | rfl | rfl | rfl | rfl | rfl <;> rfl
  · obtain rfl := hrest c rfl
    rcases hs with rfl | rfl | rfl | rfl | rfl | rfl | rfl | rfl | rfl | rfl | rfl | rfl | rfl | rfl | rfl | rfl <;> rfl

/-- A lexical word fits before a space, and at the end. -/
theorem Word.Lexical.fits (hw : w.Lexical) (hrest : Spaced rest) : w.Fits rest := by
  obtain ⟨hne, kind, htoken, hlexeme⟩ := hw
  exact ⟨hne, kind, htoken, hlexeme rest hrest⟩

/-- Words with single spaces between them. -/
def Word.spaced (ws : List Word) : String := Text.join " " (ws.map Word.value)

theorem laid_intercalate (hws : ∀ w ∈ ws, w.Lexical) :
    Word.Laid ([' '].intercalate (ws.map fun w => w.value.toList)) ws := by
  induction ws with
  | nil => exact .nil
  | cons w ws ih =>
    obtain ⟨hw, hmore⟩ := List.forall_mem_cons.1 hws
    rcases ws with _ | ⟨v, ws⟩
    · have hlast := Word.Laid.word (hw.fits spaced_nil) .nil
      rw [List.append_nil] at hlast
      rwa [List.map_singleton, List.intercalate_singleton]
    · rw [List.map_cons, List.map_cons, List.intercalate_cons_cons, List.append_assoc]
      exact .word (hw.fits (spaced_cons _)) (.blank rfl (ih hmore))

/-- The tokens of lexical words with single spaces between them are these words. -/
theorem Word.ofText_spaced (hws : ∀ w ∈ ws, w.Lexical) :
    ∃ ts, Token.ofText (Word.spaced ws) = .ok ts ∧ ts.map Token.word = ws ++ [⟨.finish, ""⟩] := by
  refine Word.Laid.ofText ?_
  have hchars : (Word.spaced ws).toList = [' '].intercalate (ws.map fun w => w.value.toList) := by
    rw [Word.spaced, Text.join, String.toList_intercalate, List.map_map]
    rfl
  rw [hchars]
  exact laid_intercalate hws

end FlowRules
