import FlowRules.Proofs.Condition.Printer

/-!
# Texts that are no conditions

Every text is parsed, refused at a place in it, or holds an integer with more digits than are read
(`Grammar.parsed_or_refused`).  Tokens stand in their text, so does the character that begins none, and a problem is
reported where the tokens begin that are left.
-/

namespace FlowRules

namespace Token

variable {ts : List Token}

/-- Tokens begin at a bound or before it, and so does the character that begins none. -/
def Within (n : Nat) : Except (Char × Nat) (List Token) → Prop
  | .ok ts => ∀ t ∈ ts, t.position ≤ n
  | .error (_, q) => q ≤ n

theorem position_ofLexeme (kind : TokenKind) (lexeme : List Char) (p : Nat) :
    (ofLexeme kind lexeme p).position = p := by
  unfold ofLexeme
  split <;> rfl

/-- A scan does not leave the text. -/
theorem scan_within (p k : Nat) (cs : List Char) : Within (p + cs.length) (scan p k cs) := by
  -- on the characters that are left, however many of them belong to the lexeme before
  induction cs generalizing p k with
  | nil =>
    have hfinish : Within p (.ok [⟨.finish, "", p⟩]) := List.forall_mem_singleton.2 (Nat.le_refl p)
    cases k <;> exact hfinish
  | cons c cs ih =>
    have hrest (k : Nat) : Within (p + (c :: cs).length) (scan (p + 1) k cs) := by
      have hlength : p + 1 + cs.length = p + (c :: cs).length := by
        rw [List.length_cons]
        omega
      exact hlength ▸ ih (p + 1) k
    cases k with
    | succ k => exact hrest k
    | zero =>
      rw [scan]
      split
      · exact Nat.le_add_right p _
      · exact hrest _
      · next kind n _ =>
        have hwithin := hrest (n - 1)
        rcases hscan : scan (p + 1) (n - 1) cs with e | us
        · rw [hscan] at hwithin
          exact hwithin
        · rw [hscan] at hwithin
          refine List.forall_mem_cons.2 ⟨?_, hwithin⟩
          rw [position_ofLexeme]
          exact Nat.le_add_right p _

theorem scan_text_within (s : String) : Within s.length (scan 0 0 s.toList) := by
  have hwithin := scan_within 0 0 s.toList
  rwa [Nat.zero_add, String.length_toList] at hwithin

theorem position_le {s : String} (h : ofText s = .ok ts) : ∀ t ∈ ts, t.position ≤ s.length := by
  have hwithin := scan_text_within s
  unfold ofText at h
  split at h
  · next hscan =>
    cases h
    rwa [hscan] at hwithin
  · cases h

/-- A text without tokens is refused at a character of it. -/
theorem ofText_error {s : String} {f : Fault} (h : ofText s = .error f) :
    ∃ problem position, f = .conditionSyntax s problem (some position) ∧ position ≤ s.length := by
  have hwithin := scan_text_within s
  unfold ofText at h
  split at h
  · cases h
  · next c q hscan =>
    cases h
    rw [hscan] at hwithin
    exact ⟨_, q, rfl, hwithin⟩

end Token

namespace Grammar

open FlowRules.Parser

variable {s : String} {ts : List Token} {t : Token}

/-- A problem is reported where the tokens begin that are left, behind words that are viable for expressions. -/
theorem ofTokens_problem {p : SyntaxProblem} {position : Nat} (h : Expr.ofTokens ts = .error (.problem p position)) :
    ∃ used rest, ts = used ++ rest ∧ position = (front rest).position ∧
      Viable (Derives .expression) (used.map Token.word) := by
  have hsound := (sound (8 * ts.length + 8)).level .expression ts
  unfold Expr.ofTokens at h
  change Reads _ _ (orExpr _ _) at hsound
  generalize orExpr (8 * ts.length + 8) ts = r at h hsound
  rcases r with (_ | _) | ⟨e, rest⟩
  · cases h
    exact hsound
  · cases h
  · obtain ⟨used, rfl, he⟩ := hsound
    simp only [bind, Except.bind] at h
    split at h
    · cases h
    · -- the tokens behind the expression are the ones that are left
      cases h
      exact ⟨used, rest, rfl, rfl, .phrase he⟩

theorem position_le_of_problem {p : SyntaxProblem} {position : Nat} (hs : Token.ofText s = .ok ts)
    (h : Expr.ofTokens ts = .error (.problem p position)) : position ≤ s.length := by
  obtain ⟨used, rest, rfl, rfl, -⟩ := ofTokens_problem h
  rcases rest with _ | ⟨t, rest⟩
  · exact Nat.zero_le _
  · exact Token.position_le hs t (List.mem_append_right used List.mem_cons_self)

/-- A text is parsed, or refused at a place in it, or one of its tokens is an integer with more digits than are
read. -/
theorem parsed_or_refused (s : String) :
    (∃ e, Expr.ofText s = .ok e) ∨
      (∃ problem position, Expr.ofText s = .error (.conditionSyntax s problem (some position)) ∧
        position ≤ s.length) ∨
      ∃ ts t, Token.ofText s = .ok ts ∧ t ∈ ts ∧ t.kind = .number ∧ '.' ∉ t.value.toList ∧
        Numeral.maxDigits < t.value.length ∧
        Expr.ofText s = .error (.value (.numeral (.tooLongToRead t.value.length))) := by
  rcases hs : Token.ofText s with f | ts
  · obtain ⟨problem, position, rfl, hle⟩ := Token.ofText_error hs
    refine .inr (.inl ⟨problem, position, ?_, hle⟩)
    rw [Expr.ofText, hs]
    rfl
  · obtain ⟨body, t, rfl, ht, hbody⟩ := exists_body hs
    rcases h : Expr.ofTokens (body ++ [t]) with (⟨problem, position⟩ | f) | e
    · exact .inr (.inl ⟨problem, position, ofText_problem hs h, position_le_of_problem hs h⟩)
    · obtain ⟨-, hnumeral⟩ := ofTokens_spec (fun u hu => (hbody u hu).kind_ne_finish) ht
      obtain ⟨u, hu, hkind, hnumber⟩ := hnumeral f h
      obtain ⟨hpoint, hlong, rfl⟩ := number_error (hbody u hu) hkind hnumber
      exact .inr (.inr ⟨_, u, rfl, List.mem_append_left _ hu, hkind, hpoint, hlong, ofText_numeral hs h⟩)
    · exact .inl ⟨e, (ofText_iff hs).2 h⟩

/-! ### Integers that are too long -/

/-- Tokens by their words. -/
theorem map_word_eq_cons {w : Word} {ws : List Word} :
    ts.map Token.word = w :: ws ↔ ∃ p us, ts = ⟨w.kind, w.value, p⟩ :: us ∧ us.map Token.word = ws := by
  constructor
  · intro h
    obtain ⟨⟨kind, value, p⟩, us, rfl, rfl, hus⟩ := List.map_eq_cons_iff.1 h
    exact ⟨p, us, rfl, hus⟩
  · rintro ⟨p, us, rfl, rfl⟩
    rfl

theorem ofText_unreadable {ws : List Word} {f : NumeralFault} (hs : Word.Laid s.toList ws)
    (hws : ∀ ts, ts.map Token.word = ws ++ [⟨.finish, ""⟩] → Expr.ofTokens ts = .error (.numeral f)) :
    Expr.ofText s = .error (.value (.numeral f)) := by
  obtain ⟨ts, hts, hwords⟩ := hs.ofText
  exact ofText_numeral hts (hws ts hwords)

/-- An integer alone that has more digits than are read is neither parsed nor refused. -/
theorem ofText_longInteger {cs : List Char} (hcs : Text.IsDigits cs) (hlong : Numeral.maxDigits < cs.length) :
    Expr.ofText (String.ofList cs) = .error (.value (.numeral (.tooLongToRead cs.length))) := by
  have hlaid : Word.Laid (String.ofList cs).toList [.number cs] := by
    have hnumber := @Word.Laid.number cs [] [] (.whole hcs) nofun .nil
    rw [List.append_nil] at hnumber
    rwa [String.toList_ofList]
  have hnumber := number_whole hcs
  rw [if_pos hlong] at hnumber
  refine ofText_unreadable hlaid fun ts hts => ?_
  obtain ⟨p, us, rfl, hus⟩ := map_word_eq_cons.1 hts
  obtain ⟨q, vs, rfl, hvs⟩ := map_word_eq_cons.1 hus
  obtain rfl := List.map_eq_nil_iff.1 hvs
  unfold Expr.ofTokens
  simp [orExpr, andExpr, notExpr, comparison, operand, atom, isNot, isAt, front, Word.number, hnumber, bind,
    Except.bind]

/-- A number of 4301 digits is neither parsed nor refused. -/
theorem longInteger_escapes :
    Expr.ofText (String.ofList (List.replicate 4301 '1')) = .error (.value (.numeral (.tooLongToRead 4301))) := by
  have hdigits : Text.IsDigits (List.replicate 4301 '1') := by
    refine ⟨List.ne_nil_of_length_pos (by rw [List.length_replicate]; decide), fun c hc => ?_⟩
    rw [List.eq_of_mem_replicate hc]
    decide
  have h := ofText_longInteger hdigits (by rw [List.length_replicate]; decide)
  rwa [List.length_replicate] at h

end Grammar
end FlowRules
