import FlowRules.Proofs.Condition.Completeness
import FlowRules.Proofs.Condition.Lexemes

/-!
# The parser accepts the grammar

A list of tokens that ends where the text ends is parsed exactly as the grammar derives it, and what is not in the
grammar is a syntax error, unless a number is too long to be read (`Grammar.accepts_exactly`).
-/

namespace FlowRules

namespace Grammar

open FlowRules.Parser

variable {l : Level} {ws : List Word} {e e' : Expr} {ts body : List Token} {t : Token}

/-! ### Uniqueness -/

/-- A list of words has at most one tree. -/
theorem Derives.unique (h : Derives .expression ws e) (h' : Derives .expression ws e') : e = e' := by
  have hts : (ws.map fun w => (⟨w.kind, w.value, 0⟩ : Token)).map Token.word = ws := by
    rw [List.map_map]
    exact List.map_id ws
  have hread := @Derives.read _ _ _ [] _ h hts rfl (Nat.le_refl _)
  rw [@Derives.read _ _ _ [] _ h' hts rfl (Nat.le_refl _)] at hread
  cases hread
  rfl

/-! ### Lists of tokens -/

theorem kind_ne_finish_words (r : Relation) : ∀ w ∈ r.words, w.kind ≠ .finish := by
  rcases r with _ | _ | (_ | _ | _ | _) | _ | _ <;> decide

theorem kind_ne_finish_flatten {parts : List Part} (hjoints : ∀ p ∈ parts, p.joint.kind ≠ .finish)
    (hparts : ∀ p ∈ parts, ∀ w ∈ p.words, w.kind ≠ .finish) : ∀ w ∈ Part.flatten parts, w.kind ≠ .finish := by
  intro w hw
  obtain ⟨p, hp, hw⟩ := List.mem_flatMap.1 hw
  rcases List.mem_cons.1 hw with rfl | hw
  · exact hjoints p hp
  · exact hparts p hp w hw

/-- The end is no part of a phrase. -/
theorem Derives.kind_ne_finish (h : Derives l ws e) : ∀ w ∈ ws, w.kind ≠ .finish := by
  induction h with
  | @chain c ws e parts _ hjoints _ ih ihparts =>
    have hjoint : ∀ w ∈ c.joints, w.kind ≠ .finish := by cases c <;> decide
    exact List.forall_mem_append.2 ⟨ih, kind_ne_finish_flatten (fun p hp => hjoint _ (hjoints p hp)) ihparts⟩
  | not hw _ ih =>
    have hnegator : ∀ w ∈ negators, w.kind ≠ .finish := by decide
    exact List.forall_mem_cons.2 ⟨hnegator _ hw, ih⟩
  | comparison _ ih | operand _ ih | member _ ih | atom _ ih => exact ih
  | compare r _ _ ihl ihr =>
    exact List.forall_mem_append.2 ⟨ihl, List.forall_mem_append.2 ⟨kind_ne_finish_words r, ihr⟩⟩
  | negate _ ih => exact List.forall_mem_cons.2 ⟨nofun, ih⟩
  | field _ hkind ih =>
    refine List.forall_mem_append.2 ⟨ih, List.forall_mem_cons.2 ⟨nofun, List.forall_mem_singleton.2 ?_⟩⟩
    rcases hkind with rfl | rfl <;> exact nofun
  | item _ _ ih ihkey =>
    exact List.forall_mem_append.2 ⟨ih, List.forall_mem_cons.2
      ⟨nofun, List.forall_mem_append.2 ⟨ihkey, List.forall_mem_singleton.2 nofun⟩⟩⟩
  | number | text | constant | root => exact List.forall_mem_singleton.2 nofun
  | call => exact List.forall_mem_cons.2 ⟨nofun, List.forall_mem_cons.2 ⟨nofun, List.forall_mem_singleton.2 nofun⟩⟩
  | @callWith f ws e parts _ hjoints _ ih ihparts =>
    have hjoint : ∀ p ∈ parts, p.joint.kind ≠ .finish := by
      intro p hp
      rw [hjoints p hp]
      exact nofun
    exact List.forall_mem_cons.2 ⟨nofun, List.forall_mem_cons.2 ⟨nofun, List.forall_mem_append.2
      ⟨ih, List.forall_mem_append.2 ⟨kind_ne_finish_flatten hjoint ihparts, List.forall_mem_singleton.2 nofun⟩⟩⟩⟩
  | brackets _ ih =>
    exact List.forall_mem_cons.2 ⟨nofun, List.forall_mem_append.2 ⟨ih, List.forall_mem_singleton.2 nofun⟩⟩

/-- What the grammar derives is parsed. -/
theorem Sentence.ofTokens (h : Sentence (ts.map Token.word) e) : Expr.ofTokens ts = .ok e := by
  obtain ⟨ws, hts, hws⟩ := h
  simp only [List.map_eq_append_iff, List.map_eq_cons_iff, List.map_eq_nil_iff] at hts
  obtain ⟨us, _, rfl, hus, t, _, rfl, ht, rfl⟩ := hts
  have hlength : us.length = ws.length := by rw [← hus, List.length_map]
  have hread := @Derives.read _ _ us [t] (8 * (us ++ [t]).length + 8) hws hus (by rw [front_cons, ht]; rfl)
    (by rw [List.length_append]; omega)
  rw [Expr.ofTokens, hread]
  have hkind : t.kind = .finish := congrArg Word.kind ht
  exact if_pos hkind

/-- What is read up to an end is all that stands before the last token, when no other is an end. -/
theorem eq_of_append_eq {used rest : List Token} (hbody : ∀ u ∈ body, u.kind ≠ .finish) (ht : t.kind = .finish)
    (hused : ∀ u ∈ used, u.kind ≠ .finish) (hrest : (front rest).kind = .finish) (h : body ++ [t] = used ++ rest) :
    used = body := by
  rcases List.append_eq_append_iff.1 h with ⟨more, rfl, hmore⟩ | ⟨more, rfl, hmore⟩
  · rcases more with _ | ⟨u, more⟩
    · exact List.append_nil body
    · -- the end would be among what is read
      obtain ⟨rfl, -⟩ := List.cons.inj hmore
      exact absurd ht (hused t (by simp))
  · rcases more with _ | ⟨u, more⟩
    · exact (List.append_nil used).symm
    · -- reading would stop at an end inside the body
      subst hmore
      exact absurd hrest (hbody u (by simp))

/-- What is parsed is derived by the grammar, and parsing fails with a problem or at a number that cannot be read. -/
theorem ofTokens_spec (hbody : ∀ u ∈ body, u.kind ≠ .finish) (ht : t.word = ⟨.finish, ""⟩) :
    (∀ e, Expr.ofTokens (body ++ [t]) = .ok e → Sentence ((body ++ [t]).map Token.word) e) ∧
      ∀ f, Expr.ofTokens (body ++ [t]) = .error (.numeral f) →
        ∃ u ∈ body, u.kind = .number ∧ Parser.number u.value = .error (.numeral f) := by
  have hkind : t.kind = .finish := congrArg Word.kind ht
  have hsound := (sound (8 * (body ++ [t]).length + 8)).level .expression (body ++ [t])
  unfold Expr.ofTokens
  change Reads _ _ (orExpr _ _) at hsound
  generalize orExpr (8 * (body ++ [t]).length + 8) (body ++ [t]) = r at hsound ⊢
  rcases r with (_ | f) | ⟨e, rest⟩
  · exact ⟨nofun, nofun⟩
  · refine ⟨nofun, fun f' hf => ?_⟩
    cases hf
    obtain ⟨u, hu, hnumber, hread⟩ := hsound
    rcases List.mem_append.1 hu with hu | hu
    · exact ⟨u, hu, hnumber, hread⟩
    · obtain rfl := List.mem_singleton.1 hu
      cases hnumber.symm.trans hkind
  · obtain ⟨used, hused, he⟩ := hsound
    simp only [bind, Except.bind]
    split
    · next hfront =>
      refine ⟨fun e' he' => ?_, nofun⟩
      cases he'
      have hwords : ∀ u ∈ used, u.kind ≠ .finish := fun u hu =>
        he.kind_ne_finish u.word (List.mem_map_of_mem hu)
      obtain rfl := eq_of_append_eq hbody hkind hwords hfront hused
      exact ⟨used.map Token.word, by rw [List.map_append, List.map_singleton, ht], he⟩
    · exact ⟨nofun, nofun⟩

/-! ### Texts -/

/-- No integer among the tokens has more digits than are read. -/
def ShortIntegers (ts : List Token) : Prop :=
  ∀ t ∈ ts, t.kind = .number → '.' ∉ t.value.toList → t.value.length ≤ Numeral.maxDigits

/-- Only an integer with too many digits is a number that cannot be read. -/
theorem number_error {f : NumeralFault} (ht : t.Lexed) (hkind : t.kind = .number)
    (h : Parser.number t.value = .error (.numeral f)) :
    '.' ∉ t.value.toList ∧ Numeral.maxDigits < t.value.length ∧ f = .tooLongToRead t.value.length := by
  have hnumber := ht.number hkind
  rw [← String.length_toList]
  rw [← String.ofList_toList (s := t.value)] at h
  generalize t.value.toList = cs at *
  cases hnumber with
  | whole hcs =>
    rw [number_whole hcs] at h
    split at h
    · next hlong =>
      cases h
      exact ⟨hcs.point_notMem, hlong, rfl⟩
    · cases h
  | fraction hcs hds =>
    rw [number_fraction hcs] at h
    cases h

theorem number_ne_error {f : NumeralFault} (ht : t.Lexed) (hkind : t.kind = .number)
    (hshort : '.' ∉ t.value.toList → t.value.length ≤ Numeral.maxDigits) :
    Parser.number t.value ≠ .error (.numeral f) := by
  intro h
  obtain ⟨hpoint, hlong, -⟩ := number_error ht hkind h
  exact Nat.not_lt.2 (hshort hpoint) hlong

theorem exists_body {s : String} (hs : Token.ofText s = .ok ts) :
    ∃ body t, ts = body ++ [t] ∧ t.word = ⟨.finish, ""⟩ ∧ ∀ u ∈ body, u.Lexed := by
  unfold Token.ofText at hs
  split at hs
  · next hscan =>
    cases hs
    obtain ⟨body, q, rfl, hbody⟩ := Token.exists_lexemes hscan
    exact ⟨body, _, rfl, rfl, hbody⟩
  · cases hs

/-- What is lexed as a number is written as one. -/
theorem isNumber_of_ofText {n : String} {t : Token} (hn : Token.ofText n = .ok [⟨.number, n, 0⟩, t]) :
    Text.IsNumber n.toList := by
  obtain ⟨body, u, hts, -, hbody⟩ := exists_body hn
  have hmem : (⟨.number, n, 0⟩ : Token) ∈ body := by
    rcases body with _ | ⟨v, body⟩
    · cases hts
    · obtain ⟨rfl, -⟩ := List.cons.inj hts
      exact List.mem_cons_self
  exact (hbody _ hmem).number rfl

section

variable {s : String} (hs : Token.ofText s = .ok ts)

include hs

theorem ofText_problem {p : SyntaxProblem} {position : Nat} (h : Expr.ofTokens ts = .error (.problem p position)) :
    Expr.ofText s = .error (.conditionSyntax s p (some position)) := by
  rw [Expr.ofText, hs]
  simp only [bind, Except.bind, h]

theorem ofText_numeral {f : NumeralFault} (h : Expr.ofTokens ts = .error (.numeral f)) :
    Expr.ofText s = .error (.value (.numeral f)) := by
  rw [Expr.ofText, hs]
  simp only [bind, Except.bind, h]

/-- A text is parsed when its tokens are. -/
theorem ofText_iff : Expr.ofText s = .ok e ↔ Expr.ofTokens ts = .ok e := by
  rcases h : Expr.ofTokens ts with (⟨p, position⟩ | f) | e'
  · rw [ofText_problem hs h]
    simp
  · rw [ofText_numeral hs h]
    simp
  · rw [Expr.ofText, hs]
    simp only [bind, Except.bind, h, Except.ok.injEq]

end

/-- The parser accepts exactly the grammar: a text is parsed as the tree that the grammar derives from its tokens, of
which there is at most one, and is a syntax error when there is none. -/
theorem accepts_exactly {s : String} {ts : List Token} (hs : Token.ofText s = .ok ts) (hshort : ShortIntegers ts) :
    (∀ e, Expr.ofText s = .ok e ↔ Sentence (ts.map Token.word) e) ∧
      (∀ ws e e', Derives .expression ws e → Derives .expression ws e' → e = e') ∧
      ((¬ ∃ e, Sentence (ts.map Token.word) e) →
        ∃ problem position, Expr.ofText s = .error (.conditionSyntax s problem (some position))) := by
  obtain ⟨body, t, rfl, ht, hbody⟩ := exists_body hs
  -- with short integers no number fails, so what is left is a tree or a problem
  obtain ⟨hok, herror⟩ := ofTokens_spec (fun u hu => (hbody u hu).kind_ne_finish) ht
  have hread : ∀ f, Expr.ofTokens (body ++ [t]) ≠ .error (.numeral f) := by
    intro f hf
    obtain ⟨u, hu, hkind, hnumber⟩ := herror f hf
    exact number_ne_error (hbody u hu) hkind (hshort u (List.mem_append_left _ hu) hkind) hnumber
  refine ⟨fun e => ⟨fun he => hok e ((ofText_iff hs).1 he), fun he => (ofText_iff hs).2 he.ofTokens⟩,
    fun _ _ _ => Derives.unique, fun hnone => ?_⟩
  rcases h : Expr.ofTokens (body ++ [t]) with (⟨problem, position⟩ | f) | e
  · exact ⟨problem, position, ofText_problem hs h⟩
  · exact absurd h (hread f)
  · exact absurd ⟨e, hok e h⟩ hnone

private def itemsText : String := "len(flow.items) >= 3"

private def itemsTokens : List Token :=
  [⟨.name, "len", 0⟩, ⟨.operator, "(", 3⟩, ⟨.name, "flow", 4⟩, ⟨.operator, ".", 8⟩, ⟨.name, "items", 9⟩,
    ⟨.operator, ")", 14⟩, ⟨.operator, ">=", 16⟩, ⟨.number, "3", 19⟩, ⟨.finish, "", 20⟩]

private def itemsTree : Expr :=
  .compare (.ordered .ge) (.call .length [.attribute (.root .flow) "items"]) (.literal (.int 3))

private theorem sentence_items : Sentence (itemsTokens.map Token.word) itemsTree := by
  have hitems : Derives .expression [.name "flow", .operator ".", .name "items"] (.attribute (.root .flow) "items") :=
    .ofMember (.field (.atom (.root .flow)) (.inl rfl))
  have hlength := @Derives.callWith .length _ _ [] hitems nofun nofun
  have hthree : Parser.number "3" = .ok (.int 3) := @number_whole ['3'] ⟨nofun, List.forall_mem_singleton.2 rfl⟩
  exact ⟨_, rfl, .ofComparison
    (.compare (.ordered .ge) (.member (.atom hlength)) (.member (.atom (.number hthree))))⟩

theorem accepts_exactly_items :
    Token.ofText itemsText = .ok itemsTokens ∧ ShortIntegers itemsTokens ∧ Expr.ofText itemsText = .ok itemsTree := by
  have htokens : Token.ofText itemsText = .ok itemsTokens := rfl
  have hshort : ShortIntegers itemsTokens := by
    unfold ShortIntegers
    decide
  exact ⟨htokens, hshort, ((accepts_exactly htokens hshort).1 itemsTree).2 sentence_items⟩

end Grammar
end FlowRules
