import FlowRules.Proofs.Condition.Coverage

/-!
# Problems behind viable prefixes

The parser reports a problem only behind words that can be completed to an expression (`Grammar.ofTokens_problem`).  The
words of tokens are lexical, and so are those that complete them, so with spaces between them they are a text, and it is
a condition.  Main statement: a syntax error stands at a token of the text, and some text that is a condition has the
tokens before it (`Grammar.problem_after_viable`).
-/

namespace FlowRules

namespace Grammar

open FlowRules.Parser

variable {s : String} {problem : SyntaxProblem} {position : Nat}

/-- Words are a viable prefix when some text that is a condition begins with them. -/
def ViablePrefix (ws : List Word) : Prop :=
  ∃ s ts more e, Token.ofText s = .ok ts ∧ ts.map Token.word = ws ++ more ∧ Expr.ofText s = .ok e

theorem lexical_filler {w : Word} (hw : w ∈ fillers) : w.Lexical := by
  simp only [fillers, List.mem_cons, List.not_mem_nil, or_false] at hw
  rcases hw with rfl | rfl | rfl | rfl
  · exact Word.lexical_of_keyword (by decide)
  · exact Word.lexical_of_keyword (by decide)
  · exact Word.lexical_operator (by decide)
  · exact Word.lexical_operator (by decide)

/-- Lexical words that can be completed are laid out with spaces, and the text is a condition. -/
theorem Viable.viablePrefix {ws : List Word} (h : Viable (Derives .expression) ws) (hws : ∀ w ∈ ws, w.Lexical) :
    ViablePrefix ws := by
  obtain ⟨more, e, hmore, he⟩ := h
  have hlexical : ∀ w ∈ ws ++ more, w.Lexical :=
    List.forall_mem_append.2 ⟨hws, fun w hw => lexical_filler (hmore w hw)⟩
  obtain ⟨us, hus, hwords⟩ := Word.ofText_spaced hlexical
  refine ⟨_, us, more ++ [⟨.finish, ""⟩], e, hus, by rw [hwords, List.append_assoc], (ofText_iff hus).2 ?_⟩
  exact Sentence.ofTokens ⟨_, hwords, he⟩

/-- Before the end there are lexemes, and behind them something is left. -/
theorem exists_left {used rest : List Token} (hs : Token.ofText s = .ok (used ++ rest))
    (hused : ∀ u ∈ used, u.kind ≠ .finish) : ∃ t after, rest = t :: after ∧ ∀ u ∈ used, u.Lexed := by
  obtain ⟨body, last, hbody, hlast, hlexed⟩ := exists_body hs
  rcases List.append_eq_append_iff.1 hbody with ⟨left, rfl, rfl⟩ | ⟨more, rfl, hmore⟩
  · obtain ⟨t, after, hrest⟩ := List.exists_cons_of_ne_nil
      (List.append_ne_nil_of_right_ne_nil left (List.cons_ne_nil last []))
    exact ⟨t, after, hrest, fun u hu => hlexed u (List.mem_append_left _ hu)⟩
  · rcases more with _ | ⟨v, more⟩
    · rw [List.append_nil]
      exact ⟨last, [], hmore.symm, hlexed⟩
    · obtain ⟨rfl, -⟩ := List.cons.inj hmore
      exact absurd (congrArg Word.kind hlast) (hused last (List.mem_append_right _ List.mem_cons_self))

/-- Tokens that stand one behind the other are parted by the place of one of them. -/
theorem filter_position {used after : List Token} {t : Token}
    (h : (used ++ t :: after).Pairwise fun u v => u.position < v.position) :
    (used ++ t :: after).filter (fun u => u.position < t.position) = used := by
  obtain ⟨-, hrest, hused⟩ := List.pairwise_append.1 h
  have hafter : ∀ u ∈ t :: after, t.position ≤ u.position := by
    refine List.forall_mem_cons.2 ⟨Nat.le_refl _, fun u hu => Nat.le_of_lt ?_⟩
    exact (List.pairwise_cons.1 hrest).1 u hu
  rw [List.filter_append, List.filter_eq_self.2, List.filter_eq_nil_iff.2, List.append_nil]
  · simpa using hafter
  · simpa using fun u hu => hused u hu t List.mem_cons_self

/-- A syntax error stands at a token of the text, and the tokens before it are a viable prefix. -/
theorem problem_after_viable {ts : List Token} (hs : Token.ofText s = .ok ts)
    (h : Expr.ofText s = .error (.conditionSyntax s problem (some position))) :
    (∃ t ∈ ts, t.position = position) ∧ ViablePrefix ((ts.filter fun t => t.position < position).map Token.word) := by
  have htokens : Expr.ofTokens ts = .error (.problem problem position) := by
    rcases hr : Expr.ofTokens ts with (⟨q, place⟩ | f) | e
    · rw [ofText_problem hs hr] at h
      cases h
      rfl
    · rw [ofText_numeral hs hr] at h
      cases h
    · rw [(ofText_iff hs).2 hr] at h
      cases h
  obtain ⟨used, rest, rfl, rfl, hviable⟩ := ofTokens_problem htokens
  -- the end is in no phrase, so it is not among the words that are viable
  have hused : ∀ u ∈ used, u.kind ≠ .finish := by
    obtain ⟨more, e, -, he⟩ := hviable
    exact fun u hu => he.kind_ne_finish u.word (List.mem_append_left _ (List.mem_map_of_mem hu))
  obtain ⟨t, after, rfl, hlexed⟩ := exists_left hs hused
  have hbefore : (used ++ t :: after).filter (fun u => u.position < t.position) = used :=
    filter_position (Token.scan_cut (Token.scan_of_ofText hs)).pairwise
  refine ⟨⟨t, List.mem_append_right _ List.mem_cons_self, rfl⟩, ?_⟩
  rw [front_cons, hbefore]
  exact hviable.viablePrefix (List.forall_mem_map.2 fun u hu => (hlexed u hu).lexical)

/-- Inside a bracket inside a call, where `not` is without its `in`. -/
theorem problem_after_not :
    Expr.ofText "len(flow.items[-flow.v not 2" =
        .error (.conditionSyntax "len(flow.items[-flow.v not 2" (.unexpected (.token "in") (some "2")) (some 27)) ∧
      ViablePrefix [.name "len", .operator "(", .name "flow", .operator ".", .name "items", .operator "[",
        .operator "-", .name "flow", .operator ".", .name "v", .keyword "not"] := by
  have htokens : Token.ofText "len(flow.items[-flow.v not 2" = .ok [⟨.name, "len", 0⟩, ⟨.operator, "(", 3⟩,
      ⟨.name, "flow", 4⟩, ⟨.operator, ".", 8⟩, ⟨.name, "items", 9⟩, ⟨.operator, "[", 14⟩, ⟨.operator, "-", 15⟩,
      ⟨.name, "flow", 16⟩, ⟨.operator, ".", 20⟩, ⟨.name, "v", 21⟩, ⟨.keyword, "not", 23⟩, ⟨.number, "2", 27⟩,
      ⟨.finish, "", 28⟩] := rfl
  have hproblem : Expr.ofText "len(flow.items[-flow.v not 2" =
      .error (.conditionSyntax "len(flow.items[-flow.v not 2" (.unexpected (.token "in") (some "2")) (some 27)) := by
    cbv
  exact ⟨hproblem, (problem_after_viable htokens hproblem).2⟩

end Grammar
end FlowRules
