import FlowRules.Proofs.Condition.Refusal
import FlowRules.Text.LetterCase

/-!
# Tokens cover their text

A text that has tokens is cut into the characters of these tokens and white space between them (`Token.Cut`).  So the
tokens stand one behind the other, each with the characters at its place for its value, a keyword with their small form,
and nothing but white space is outside them.  What is cut out is one lexeme also when only spaces are around it, so the
values of the tokens with spaces between them are cut into the same words again.  Main statement: `Token.lossless`.
-/

namespace FlowRules

open Text Token

/-! ### Quoted texts -/

/-- The characters of a quoted text: up to the first closing quote, and no further. -/
def Text.IsQuoted (cs : List Char) : Prop :=
  ∃ quote ds, cs = quote :: ds ∧ (quote = '"' ∨ quote = '\'') ∧ quotedLength? quote ds = some ds.length

namespace Token

variable {quote c : Char} {cs rest : List Char} {t : Token} {ts : List Token} {kind : TokenKind} {o : Option TokenKind}
  {n p k : Nat} {s : String}

theorem quotedLength?_cons_self (quote : Char) (cs : List Char) : quotedLength? quote (quote :: cs) = some 1 := by
  cases cs <;> exact if_pos rfl

/-- A quoted text ends inside the characters, and it ends there whatever else is behind it. -/
theorem quotedLength?_spec (h : quotedLength? quote cs = some n) :
    0 < n ∧ n ≤ cs.length ∧ ∀ rest, quotedLength? quote (cs.take n ++ rest) = some n := by
  induction cs using quotedLength?.induct quote generalizing n with
  | case1 => cases h
  | case2 =>
    rw [quotedLength?, if_pos rfl] at h
    cases h
    exact ⟨Nat.one_pos, Nat.le_refl 1, fun rest => quotedLength?_cons_self quote rest⟩
  | case3 c hc =>
    rw [quotedLength?, if_neg hc] at h
    cases h
  | case4 d cs =>
    rw [quotedLength?_cons_self] at h
    cases h
    exact ⟨Nat.one_pos, by simp, fun rest => quotedLength?_cons_self quote rest⟩
  | case5 cs hc =>
    rw [quotedLength?, if_neg hc, if_pos rfl, if_pos rfl] at h
    cases h
  | case6 d cs hc hd ih =>
    rw [quotedLength?, if_neg hc, if_pos rfl, if_neg hd] at h
    obtain ⟨m, hm, rfl⟩ := Option.map_eq_some_iff.1 h
    obtain ⟨-, hle, htake⟩ := ih hm
    refine ⟨Nat.succ_pos _, by simpa using hle, fun rest => ?_⟩
    show quotedLength? quote ('\\' :: d :: (cs.take m ++ rest)) = _
    rw [quotedLength?, if_neg hc, if_pos rfl, if_neg hd, htake]
    rfl
  | case7 c d cs hc hslash ih =>
    rw [quotedLength?, if_neg hc, if_neg hslash] at h
    obtain ⟨m, hm, rfl⟩ := Option.map_eq_some_iff.1 h
    obtain ⟨hpos, hle, htake⟩ := ih hm
    obtain ⟨m, rfl⟩ := Nat.exists_eq_add_one_of_ne_zero (Nat.ne_of_gt hpos)
    refine ⟨Nat.succ_pos _, by simpa using hle, fun rest => ?_⟩
    have hmore : quotedLength? quote (d :: (cs.take m ++ rest)) = some (m + 1) := htake rest
    show quotedLength? quote (c :: d :: (cs.take m ++ rest)) = _
    rw [quotedLength?, if_neg hc, if_neg hslash, hmore]
    rfl

theorem textLength_cons (hquote : quote = '"' ∨ quote = '\'') (cs : List Char) :
    textLength (quote :: cs) = ((quotedLength? quote cs).map (· + 1)).getD 0 := if_pos hquote

/-- Where there is a quoted text in front, it begins with its quote and ends with the next that closes it. -/
theorem exists_quoted (h : 0 < textLength cs) :
    ∃ quote ds n, cs = quote :: ds ∧ (quote = '"' ∨ quote = '\'') ∧ quotedLength? quote ds = some n ∧
      textLength cs = n + 1 := by
  rcases cs with _ | ⟨c, ds⟩
  · cases h
  · by_cases hquote : c = '"' ∨ c = '\''
    · rw [textLength_cons hquote] at h ⊢
      rcases hn : quotedLength? c ds with _ | n
      · rw [hn] at h
        cases h
      · exact ⟨c, ds, n, rfl, hquote, hn, rfl⟩
    · rw [textLength, if_neg hquote] at h
      cases h

theorem isQuoted_take (h : 0 < textLength cs) : IsQuoted (cs.take (textLength cs)) := by
  obtain ⟨quote, ds, n, rfl, hquote, hn, hlength⟩ := exists_quoted h
  obtain ⟨-, hle, htake⟩ := quotedLength?_spec hn
  rw [hlength, List.take_succ_cons]
  refine ⟨quote, ds.take n, rfl, hquote, ?_⟩
  have hclosed := htake []
  rw [List.append_nil] at hclosed
  rw [hclosed, List.length_take_of_le hle]

theorem lexeme?_isQuoted (h : IsQuoted cs) (rest : List Char) :
    lexeme? (cs ++ rest) = some (some .text, cs.length) := by
  obtain ⟨quote, ds, rfl, hquote, hds⟩ := h
  have hclosed := (quotedLength?_spec hds).2.2 rest
  rw [List.take_length] at hclosed
  have hlength : textLength (quote :: (ds ++ rest)) = ds.length + 1 := by
    rw [textLength_cons hquote, hclosed]
    rfl
  have hfirst : isBlank quote = false ∧ isDecimalDigit quote = false := by
    rcases hquote with rfl | rfl <;> decide
  rw [List.cons_append, lexeme?, blankLength_eq_zero hfirst.1, numberLength_eq_zero hfirst.2, hlength]
  simp

/-! ### Operators -/

theorem isOperator_take (h : 0 < operatorLength cs) : String.ofList (cs.take (operatorLength cs)) ∈ operators := by
  unfold operatorLength at h ⊢
  split at h
  case h_7 c _ _ =>
    split at h
    · next hc =>
      rw [if_pos hc]
      simp only [List.contains_iff_mem, List.mem_cons, List.not_mem_nil, or_false] at hc
      rcases hc with rfl | rfl | rfl | rfl | rfl | rfl | rfl | rfl | rfl | rfl <;> simp [operators]
    · cases h
  case h_8 => cases h
  all_goals simp [operators]

/-! ### How far a lexeme goes -/

theorem length_takeWhile_le (f : Char → Bool) (cs : List Char) : (cs.takeWhile f).length ≤ cs.length :=
  (List.takeWhile_prefix f).length_le

theorem numberLength_le (cs : List Char) : numberLength cs ≤ cs.length := by
  have hwhole := length_takeWhile_le isDecimalDigit cs
  simp only [numberLength]
  split
  · exact Nat.zero_le _
  · split
    · next rest hrest =>
      have hlength : rest.length + 1 = cs.length - (cs.takeWhile isDecimalDigit).length := by
        rw [← List.length_drop, hrest, List.length_cons]
      have hfraction := length_takeWhile_le isDecimalDigit rest
      split <;> omega
    · exact hwhole

theorem textLength_le (cs : List Char) : textLength cs ≤ cs.length := by
  rcases Nat.eq_zero_or_pos (textLength cs) with hzero | hpos
  · rw [hzero]
    exact Nat.zero_le _
  · obtain ⟨quote, ds, n, rfl, -, hn, hlength⟩ := exists_quoted hpos
    rw [hlength, List.length_cons]
    exact Nat.succ_le_succ (quotedLength?_spec hn).2.1

theorem nameLength_le (cs : List Char) : nameLength cs ≤ cs.length := by
  rcases cs with _ | ⟨c, cs⟩
  · exact Nat.le_refl 0
  · have hrest := length_takeWhile_le isNameChar cs
    rw [nameLength, List.length_cons]
    split <;> omega

theorem operatorLength_le (cs : List Char) : operatorLength cs ≤ cs.length := by
  unfold operatorLength
  split
  case h_7 => split <;> simp
  all_goals simp

/-- A lexeme goes no further than the characters in front. -/
theorem lengthOf_le (kind : TokenKind) (cs : List Char) : lengthOf kind cs ≤ cs.length := by
  cases kind with
  | number => exact numberLength_le cs
  | text => exact textLength_le cs
  | name => exact nameLength_le cs
  | operator => exact operatorLength_le cs
  | keyword | finish => exact Nat.zero_le _

/-! ### Words of tokens -/

theorem Lexed.text (h : t.Lexed) (hkind : t.kind = .text) : IsQuoted t.value.toList := by
  obtain ⟨cs, hpos, hvalue⟩ := h.value (hkind ▸ nofun)
  rw [hkind] at hpos hvalue
  rw [hvalue, String.toList_ofList]
  exact isQuoted_take hpos

theorem Lexed.operator (h : t.Lexed) (hkind : t.kind = .operator) : t.value ∈ operators := by
  obtain ⟨cs, hpos, hvalue⟩ := h.value (hkind ▸ nofun)
  rw [hkind] at hpos hvalue
  rw [hvalue]
  exact isOperator_take hpos

theorem lexical_quoted {s : String} (h : IsQuoted s.toList) : (⟨.text, s⟩ : Word).Lexical := by
  refine ⟨?_, .text, fun p => ?_, fun rest _ => lexeme?_isQuoted h rest⟩
  · obtain ⟨quote, ds, hs, -⟩ := h
    show s.toList ≠ []
    rw [hs]
    exact List.cons_ne_nil quote ds
  · have hkind : TokenKind.text ≠ .name := by decide
    rw [ofLexeme, if_neg fun h => hkind h.1, String.ofList_toList]
    rfl

/-- The word of a token is lexical: its characters make the one token also where spaces are around them. -/
theorem Lexed.lexical (h : t.Lexed) : t.word.Lexical := by
  rcases t with ⟨kind, value, p⟩
  cases kind with
  | number =>
    have hnumber := Word.lexical_number (h.number rfl)
    rwa [Word.number, String.ofList_toList] at hnumber
  | text => exact lexical_quoted (h.text rfl)
  | name => exact Word.lexical_name (h.name rfl).1 (h.name rfl).2
  | keyword => exact Word.lexical_of_keyword (h.keyword rfl)
  | operator => exact Word.lexical_operator (h.operator rfl)
  | finish => exact absurd rfl h.kind_ne_finish

/-! ### The cut of a text -/

/-- Characters from a position on are cut into white space and the lexemes of tokens, up to the end. -/
inductive Cut : Nat → List Char → List Token → Prop
  | finish (p : Nat) : Cut p [] [⟨.finish, "", p⟩]
  | blank {p : Nat} {c : Char} {cs : List Char} {ts : List Token} : isBlank c = true → Cut (p + 1) cs ts →
      Cut p (c :: cs) ts
  | token {p : Nat} {lexeme rest : List Char} {kind : TokenKind} {ts : List Token} : lexeme ≠ [] →
      lexeme? (lexeme ++ rest) = some (some kind, lexeme.length) → Cut (p + lexeme.length) rest ts →
      Cut p (lexeme ++ rest) (ofLexeme kind lexeme p :: ts)

/-- A scan cuts the characters into its tokens. -/
theorem scan_cut (h : scan p 0 cs = .ok ts) : Cut p cs ts := by
  -- on the number of characters, as a lexeme takes several at once
  induction hcount : cs.length using Nat.strongRecOn generalizing p cs ts with
  | _ m ih =>
    subst hcount
    rcases cs with _ | ⟨c, cs⟩
    · cases h
      exact .finish p
    by_cases hblank : isBlank c = true
    · rw [scan_blank hblank] at h
      exact .blank hblank (ih _ (Nat.lt_succ_self _) h rfl)
    · rw [scan] at h
      split at h
      · cases h
      · next n hlexeme =>
        -- only white space is passed over without a token
        rw [lexeme?, blankLength_eq_zero (Bool.eq_false_iff.2 hblank)] at hlexeme
        repeat' split at hlexeme
        all_goals cases hlexeme
        contradiction
      · next kind n hlexeme =>
        obtain ⟨hn, hpos⟩ := lexeme?_lengthOf hlexeme
        have hle : n ≤ cs.length + 1 := hn ▸ lengthOf_le kind (c :: cs)
        obtain ⟨k, rfl⟩ : ∃ k, n = k + 1 := ⟨n - 1, by omega⟩
        obtain ⟨ds, rest, rfl, rfl⟩ : ∃ ds rest, cs = ds ++ rest ∧ ds.length = k :=
          ⟨_, _, (List.take_append_drop k cs).symm, List.length_take_of_le (Nat.le_of_succ_le_succ hle)⟩
        rw [Nat.add_sub_cancel, scan_skip, List.take_succ_cons, List.take_left] at h
        rcases hrest : scan (p + 1 + ds.length) 0 rest with f | us
        · rw [hrest] at h
          cases h
        · rw [hrest] at h
          cases h
          have hplace : p + 1 + ds.length = p + (c :: ds).length := by
            rw [List.length_cons]
            omega
          have hless : rest.length < (c :: (ds ++ rest)).length := by
            rw [List.length_cons, List.length_append]
            omega
          have hcut : Cut (p + (c :: ds).length) rest us := hplace ▸ ih rest.length hless hrest rfl
          exact .token (List.cons_ne_nil c ds) hlexeme hcut

/-! ### Places and values -/

/-- What stands in a text at the place of a token. -/
def slice (s : String) (t : Token) : String := String.ofList ((s.toList.drop t.position).take t.value.length)

theorem length_ofLexeme (kind : TokenKind) (lexeme : List Char) (p : Nat) :
    (ofLexeme kind lexeme p).value.length = lexeme.length := by
  unfold ofLexeme
  split <;> simp [small]

theorem Cut.position_le (h : Cut p cs ts) : ∀ t ∈ ts, p ≤ t.position := by
  induction h with
  | finish p => exact List.forall_mem_singleton.2 (Nat.le_refl p)
  | blank _ _ ih => exact fun t ht => Nat.le_of_succ_le (ih t ht)
  | @token p lexeme rest kind ts _ _ _ ih =>
    refine List.forall_mem_cons.2 ⟨?_, fun t ht => Nat.le_of_add_right_le (ih t ht)⟩
    rw [position_ofLexeme]

/-- Each token begins behind the one before. -/
theorem Cut.pairwise (h : Cut p cs ts) : ts.Pairwise fun t u => t.position < u.position := by
  induction h with
  | finish p => exact List.pairwise_singleton _ _
  | blank _ _ ih => exact ih
  | @token p lexeme rest kind ts hlexeme _ hrest ih =>
    refine List.pairwise_cons.2 ⟨fun t ht => ?_, ih⟩
    have hpos : 0 < lexeme.length := List.length_pos_iff.2 hlexeme
    have hle := hrest.position_le t ht
    rw [position_ofLexeme]
    omega

theorem Cut.getLast? (h : Cut p cs ts) : ts.getLast? = some ⟨.finish, "", p + cs.length⟩ := by
  induction h with
  | finish p => rfl
  | @blank p c cs ts _ _ ih =>
    rw [ih, List.length_cons, Nat.add_assoc, Nat.add_comm 1]
  | @token p lexeme rest kind ts _ _ _ ih =>
    rw [List.getLast?_cons, ih, List.length_append, Nat.add_assoc]
    rfl

theorem nameChar_lt (h : isNameChar c = true) : c.toNat < 128 := by
  simp only [isNameChar, isNameStart, Bool.or_eq_true, Bool.and_eq_true, decide_eq_true_eq, beq_iff_eq] at h
  rcases h with ((⟨-, h⟩ | ⟨-, h⟩) | rfl) | ⟨-, h⟩
  · exact Nat.lt_of_le_of_lt h (by decide)
  · exact Nat.lt_of_le_of_lt h (by decide)
  · decide
  · exact Nat.lt_of_le_of_lt h (by decide)

theorem lowerFrom_ascii (h : ∀ c ∈ cs, c.toNat < 128) (before : List Char) :
    lowerFrom before cs = (small cs).toList := by
  induction cs generalizing before with
  | nil => rfl
  | cons c cs ih =>
    obtain ⟨hc, hcs⟩ := List.forall_mem_cons.1 h
    have hsigma : c ≠ 'Σ' := by
      rintro rfl
      revert hc
      decide
    have hsmall : (small (c :: cs)).toList = (small [c]).toList ++ (small cs).toList := by simp [small]
    have hlower : lowerChar c = (small [c]).toList := by
      rw [lowerChar, if_pos hc, small, List.map_singleton, String.toList_ofList]
      split
      · next hletter => exact congrArg (fun d => [d]) (if_pos hletter).symm
      · next hletter => exact congrArg (fun d => [d]) (if_neg hletter).symm
    rw [lowerFrom, if_neg hsigma, ih hcs, hsmall, hlower]

/-- The small form of a name has its letters one by one. -/
theorem lower_isName (h : IsName cs) : Text.lower (String.ofList cs) = small cs := by
  have hchars : ∀ d ∈ cs, d.toNat < 128 := fun d hd => nameChar_lt (h.chars d hd)
  rw [Text.lower, lowerChars, String.toList_ofList, lowerFrom_ascii hchars, String.ofList_toList]

/-- The value of a token is its lexeme, in small letters if it is a keyword. -/
theorem value_ofLexeme (h : lexeme? (cs ++ rest) = some (some kind, cs.length)) (p : Nat) :
    (ofLexeme kind cs p).value =
      if (ofLexeme kind cs p).kind = .keyword then Text.lower (String.ofList cs) else String.ofList cs := by
  obtain ⟨hlength, hpos⟩ := lexeme?_lengthOf h
  unfold ofLexeme
  split
  · next hname =>
    obtain ⟨rfl, -⟩ := hname
    have hname : IsName cs := by
      have htake := isName_take hpos
      rwa [show nameLength (cs ++ rest) = cs.length from hlength.symm, List.take_left] at htake
    rw [if_pos rfl, lower_isName hname]
  · rw [if_neg (lexeme?_kind h).1]

/-- At the place of each token stand the characters of its value. -/
theorem Cut.value (h : Cut p cs ts) : ∀ t ∈ ts,
    t.value = if t.kind = .keyword then Text.lower (String.ofList ((cs.drop (t.position - p)).take t.value.length))
      else String.ofList ((cs.drop (t.position - p)).take t.value.length) := by
  induction h with
  | finish p => exact List.forall_mem_singleton.2 rfl
  | @blank p c cs ts _ hrest ih =>
    intro t ht
    have hplace : t.position - p = t.position - (p + 1) + 1 := by
      have hle := hrest.position_le t ht
      omega
    rw [hplace, List.drop_succ_cons]
    exact ih t ht
  | @token p lexeme rest kind ts _ hlexeme hrest ih =>
    refine List.forall_mem_cons.2 ⟨?_, fun t ht => ?_⟩
    · rw [position_ofLexeme, Nat.sub_self, List.drop_zero, length_ofLexeme, List.take_left]
      exact value_ofLexeme hlexeme p
    · have hplace : t.position - p = lexeme.length + (t.position - (p + lexeme.length)) := by
        have hle := hrest.position_le t ht
        omega
      rw [hplace, List.drop_length_add_append]
      exact ih t ht

/-- What is in no token is white space. -/
theorem Cut.isBlank (h : Cut p cs ts) {i : Nat} {c : Char} (hc : cs[i]? = some c)
    (houtside : ∀ t ∈ ts, ¬(t.position ≤ p + i ∧ p + i < t.position + t.value.length)) : isBlank c = true := by
  induction h generalizing i with
  | finish => cases hc
  | @blank p d cs ts hblank _ ih =>
    rcases i with _ | i
    · cases hc
      exact hblank
    · refine ih hc fun t ht => ?_
      rw [Nat.add_right_comm]
      exact houtside t ht
  | @token p lexeme rest kind ts _ _ _ ih =>
    obtain ⟨hfirst, hmore⟩ := List.forall_mem_cons.1 houtside
    rw [position_ofLexeme, length_ofLexeme] at hfirst
    obtain ⟨k, rfl⟩ : ∃ k, i = lexeme.length + k := ⟨i - lexeme.length, by omega⟩
    rw [List.getElem?_append_right (Nat.le_add_right _ _), Nat.add_sub_cancel_left] at hc
    refine ih hc fun t ht => ?_
    rw [Nat.add_assoc]
    exact hmore t ht

/-! ### Spacing the tokens anew -/

/-- The values of tokens with single spaces between them. -/
def respaced (ts : List Token) : String := Text.join " " (ts.map Token.value)

/-- Lexical words are laid out with a space behind each. -/
theorem laid_spaces {ws : List Word} (hws : ∀ w ∈ ws, w.Lexical) :
    Word.Laid (ws.flatMap fun w => w.value.toList ++ [' ']) ws := by
  induction ws with
  | nil => exact .nil
  | cons w ws ih =>
    obtain ⟨hw, hmore⟩ := List.forall_mem_cons.1 hws
    rw [List.flatMap_cons, List.append_assoc, List.singleton_append]
    exact .word (hw.fits (spaced_cons _)) (.blank rfl (ih hmore))

/-- With the end, which has no characters, there is a space behind each of the other tokens. -/
theorem toList_respaced_finish (body : List Token) (q : Nat) :
    (respaced (body ++ [⟨.finish, "", q⟩])).toList =
      (body.map Token.word).flatMap fun w => w.value.toList ++ [' '] := by
  rw [respaced, Text.join, String.toList_intercalate]
  induction body with
  | nil => rfl
  | cons t body ih =>
    obtain ⟨u, us, hmore⟩ := List.exists_cons_of_ne_nil (List.append_ne_nil_of_right_ne_nil body
      (List.cons_ne_nil (⟨.finish, "", q⟩ : Token) []))
    rw [hmore, List.map_cons, List.map_cons] at ih
    rw [List.cons_append, hmore, List.map_cons, List.map_cons, List.map_cons, List.map_cons, List.intercalate_cons_cons,
      ih, List.map_cons, List.flatMap_cons]
    rfl

theorem scan_of_ofText (h : Token.ofText s = .ok ts) : scan 0 0 s.toList = .ok ts := by
  unfold Token.ofText at h
  split at h
  · next hscan =>
    cases h
    exact hscan
  · cases h

/-- The tokens of a text cover it, and spaced anew they are the same words: they stand one behind the other up to the
end, the value of each is what stands at its place, in small letters if it is a keyword, what is in none of them is
white space, and their values with single spaces between them, the end among them or not, have tokens with these kinds
and values. -/
theorem lossless {s : String} {ts : List Token} (h : Token.ofText s = .ok ts) :
    (ts.Pairwise fun t u => t.position < u.position) ∧ ts.getLast? = some ⟨.finish, "", s.length⟩ ∧
    (∀ t ∈ ts, t.value = if t.kind = .keyword then Text.lower (t.slice s) else t.slice s) ∧
    (∀ i c, s.toList[i]? = some c → (∀ t ∈ ts, ¬(t.position ≤ i ∧ i < t.position + t.value.length)) →
      Text.isBlank c = true) ∧
    (∃ us, Token.ofText (respaced ts) = .ok us ∧ us.map Token.word = ts.map Token.word) ∧
    ∃ us, Token.ofText (respaced ts.dropLast) = .ok us ∧ us.map Token.word = ts.map Token.word := by
  have hscan := scan_of_ofText h
  have hcut := scan_cut hscan
  obtain ⟨body, q, rfl, hbody⟩ := exists_lexemes hscan
  have hwords : ∀ w ∈ body.map Token.word, w.Lexical := List.forall_mem_map.2 fun t ht => (hbody t ht).lexical
  refine ⟨hcut.pairwise, ?_, hcut.value, ?_, ?_, ?_⟩
  · rw [hcut.getLast?, Nat.zero_add, String.length_toList]
  · intro i c hc houtside
    refine hcut.isBlank hc fun t ht => ?_
    rw [Nat.zero_add]
    exact houtside t ht
  · have hlaid : Word.Laid (respaced (body ++ [⟨.finish, "", q⟩])).toList (body.map Token.word) :=
      toList_respaced_finish body q ▸ laid_spaces hwords
    rw [List.map_append]
    exact hlaid.ofText
  · have hspaced : respaced body = Word.spaced (body.map Token.word) := by
      rw [respaced, Word.spaced, List.map_map]
      rfl
    rw [List.dropLast_concat, hspaced, List.map_append]
    exact Word.ofText_spaced hwords

/-- Without spaces, with keywords in capitals and a number before a point. -/
theorem lossless_capitals :
    ∃ ts, Token.ofText "1.5.x AND\tNot\"a\\\"b\"" = .ok ts ∧ respaced ts.dropLast = "1.5 . x and not \"a\\\"b\"" ∧
      ∃ us, Token.ofText "1.5 . x and not \"a\\\"b\"" = .ok us ∧ us.map Token.word = ts.map Token.word := by
  have htokens : Token.ofText "1.5.x AND\tNot\"a\\\"b\"" = .ok [⟨.number, "1.5", 0⟩, ⟨.operator, ".", 3⟩,
      ⟨.name, "x", 4⟩, ⟨.keyword, "and", 6⟩, ⟨.keyword, "not", 10⟩, ⟨.text, "\"a\\\"b\"", 13⟩, ⟨.finish, "", 19⟩] := rfl
  obtain ⟨-, -, -, -, -, hspaced⟩ := lossless htokens
  exact ⟨_, htokens, rfl, hspaced⟩

end Token

end FlowRules
