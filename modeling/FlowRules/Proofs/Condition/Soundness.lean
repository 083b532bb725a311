import FlowRules.Proofs.Condition.Grammar

/-!
# What the parser reads is in the grammar

Words are viable when they can be completed to a phrase, and a few words do for this: a value, what has to stand behind
`not`, and closing brackets.  `Reads P ts r` says of the result `r` of a parsing function that it has read a phrase with
the property `P` from the front of `ts`, or stopped at one of its tokens, a problem only behind words that are viable
for such phrases.  The functions are joined by the rules of this notion, and by induction on the bound for the depth
every one reads a phrase of its level (`Grammar.sound`).
-/

namespace FlowRules

theorem Operation.name_of_ofName? {s : String} {f : Operation} (h : ofName? s = some f) : f.name = s := by
  simpa using List.find?_some h

theorem Root.name_of_ofName? {s : String} {r : Root} (h : ofName? s = some r) : r.name = s := by
  simpa using List.find?_some h

namespace Parser

variable {kind : TokenKind} {value : String} {t : Token} {ts : List Token}

@[simp] theorem front_cons : front (t :: ts) = t := rfl

@[simp] theorem isAt_cons : isAt kind value (t :: ts) = true ↔ t.word = ⟨kind, value⟩ := by
  simp [isAt, Token.word]

theorem isAt_nil (hkind : kind ≠ .finish) : isAt kind value [] = false := by
  simp [isAt, front, hkind.symm]

/-- A token in front other than the end is the first of the list. -/
theorem exists_of_isAt (hkind : kind ≠ .finish) (h : isAt kind value ts = true) :
    ∃ t us, ts = t :: us ∧ t.word = ⟨kind, value⟩ := by
  rcases ts with _ | ⟨t, us⟩
  · rw [isAt_nil hkind] at h
    cases h
  · exact ⟨t, us, rfl, isAt_cons.1 h⟩

/-- A relation of one word is read off its word. -/
theorem relation?_words {r : Relation} (h : relation? t = some r) : r.words = [t.word] := by
  obtain ⟨kind, value, position⟩ := t
  unfold relation? at h
  split at h
  · next hkind =>
    cases hkind
    dsimp only at h
    split at h <;> cases h <;> rfl
  · cases h

theorem number_ne_problem (s : String) (p : SyntaxProblem) (position : Nat) :
    number s ≠ .error (.problem p position) := by
  unfold number
  split
  · exact nofun
  · split <;> exact nofun

end Parser

namespace Grammar

open FlowRules.Parser

/-! ### Viable words -/

/-- The words that complete what has been begun. -/
def fillers : List Word := [.keyword "true", .keyword "in", .operator ")", .operator "]"]

section

variable {α β : Type} {P : List Word → α → Prop} {Q : List Word → β → Prop} {ws : List Word} {w : Word} {x : α}

/-- With some of the fillers behind them the words are a phrase with the property. -/
def Viable (P : List Word → α → Prop) (ws : List Word) : Prop :=
  ∃ more x, (∀ w ∈ more, w ∈ fillers) ∧ P (ws ++ more) x

theorem Viable.phrase (h : P ws x) : Viable P ws := ⟨[], x, List.forall_mem_nil _, (List.append_nil ws).symm ▸ h⟩

theorem Viable.filled (hw : w ∈ fillers) (h : Viable P (ws ++ [w])) : Viable P ws := by
  obtain ⟨more, x, hmore, hx⟩ := h
  rw [List.append_assoc] at hx
  exact ⟨w :: more, x, List.forall_mem_cons.2 ⟨hw, hmore⟩, hx⟩

/-- What can be completed to words that can be completed in turn. -/
theorem Viable.trans (h : Viable P ws) (hQ : ∀ vs x, P vs x → Viable Q vs) : Viable Q ws := by
  obtain ⟨more, x, hmore, hx⟩ := h
  obtain ⟨last, y, hlast, hy⟩ := hQ _ x hx
  rw [List.append_assoc] at hy
  exact ⟨more ++ last, y, List.forall_mem_append.2 ⟨hmore, hlast⟩, hy⟩

end

theorem derives_true (l : Level) : Derives l [.keyword "true"] (.literal (.bool true)) := by
  have hatom : Derives .atom [.keyword "true"] (.literal (.bool true)) := .constant (by simp [constants])
  have hoperand : Derives .operand [.keyword "true"] (.literal (.bool true)) := .member (.atom hatom)
  have hnegation : Derives .negation [.keyword "true"] (.literal (.bool true)) := .comparison (.operand hoperand)
  cases l with
  | chain c =>
    cases c with
    | and => exact @Derives.alone .and _ _ hnegation
    | or => exact .ofNegation hnegation
  | negation => exact hnegation
  | comparison => exact .operand hoperand
  | operand => exact hoperand
  | member => exact .atom hatom
  | atom => exact hatom

theorem viable_nil (l : Level) : Viable (Derives l) [] :=
  .filled (w := .keyword "true") (by decide) (.phrase (derives_true l))

/-! ### Reading -/

section

variable {α β : Type} {P : List Word → α → Prop} {Q : List Word → β → Prop} {t : Token} {ts : List Token}
  {r : Except ParseStop (α × List Token)}

/-- A parsing function reads a phrase from the front of its tokens, and stops at a number that cannot be read or at a
problem, which is where the tokens begin that are left, behind words that are viable. -/
def Reads (P : List Word → α → Prop) (ts : List Token) : Except ParseStop (α × List Token) → Prop
  | .ok (x, rest) => ∃ used, ts = used ++ rest ∧ P (used.map Token.word) x
  | .error (.numeral f) => ∃ t ∈ ts, t.kind = .number ∧ number t.value = .error (.numeral f)
  | .error (.problem _ position) =>
    ∃ used rest, ts = used ++ rest ∧ position = (front rest).position ∧ Viable P (used.map Token.word)

theorem Reads.pure {x : α} (h : P [] x) : Reads P ts (.ok (x, ts)) := ⟨[], rfl, h⟩

theorem Reads.problem (h : Viable P []) (p : SyntaxProblem) :
    Reads P ts (.error (.problem p (front ts).position)) := ⟨[], ts, rfl, rfl, h⟩

theorem Reads.unexpected (h : Viable P []) (wanted : Expectation) : Reads P ts (unexpected wanted ts) := .problem h _

/-- Passing over a token. -/
theorem Reads.cons (h : Reads (fun ws x => P (t.word :: ws) x) ts r) : Reads P (t :: ts) r := by
  rcases r with (_ | f) | ⟨x, rest⟩
  · obtain ⟨used, rest, rfl, hposition, hviable⟩ := h
    exact ⟨t :: used, rest, rfl, hposition, hviable⟩
  · obtain ⟨u, hu, hf⟩ := h
    exact ⟨u, List.mem_cons_of_mem t hu, hf⟩
  · obtain ⟨used, rfl, hx⟩ := h
    exact ⟨t :: used, rfl, hx⟩

theorem Reads.drop {kind : TokenKind} {value : String} (hat : isAt kind value ts = true) (hkind : kind ≠ .finish)
    (h : Reads (fun ws x => P (⟨kind, value⟩ :: ws) x) (ts.drop 1) r) : Reads P ts r := by
  obtain ⟨t, us, rfl, ht⟩ := exists_of_isAt hkind hat
  rw [← ht] at h
  exact h.cons

/-- One function after the other, where what the first reads can be completed to what both are to read. -/
theorem Reads.bind {k : α × List Token → Except ParseStop (β × List Token)} (h : Reads P ts r)
    (hQ : ∀ ws x, P ws x → Viable Q ws)
    (hk : ∀ ws x rest, P ws x → Reads (fun vs y => Q (ws ++ vs) y) rest (k (x, rest))) : Reads Q ts (r >>= k) := by
  rcases r with (_ | f) | ⟨x, rest⟩
  · obtain ⟨used, rest, rfl, hposition, hviable⟩ := h
    exact ⟨used, rest, rfl, hposition, hviable.trans hQ⟩
  · exact h
  · obtain ⟨used, rfl, hx⟩ := h
    show Reads Q (used ++ rest) (k (x, rest))
    have hrest := hk _ x rest hx
    generalize k (x, rest) = s at hrest ⊢
    rcases s with (_ | f) | ⟨y, left⟩
    · obtain ⟨more, left, rfl, hposition, last, y, hlast, hy⟩ := hrest
      refine ⟨used ++ more, left, (List.append_assoc ..).symm, hposition, last, y, hlast, ?_⟩
      rw [List.map_append, List.append_assoc]
      exact hy
    · obtain ⟨u, hu, hf⟩ := hrest
      exact ⟨u, List.mem_append_right used hu, hf⟩
    · obtain ⟨more, rfl, hy⟩ := hrest
      refine ⟨used ++ more, (List.append_assoc ..).symm, ?_⟩
      rw [List.map_append]
      exact hy

/-- A function whose result is only changed. -/
theorem Reads.map (f : α → β) (h : Reads P ts r) (hf : ∀ ws x, P ws x → Q ws (f x)) :
    Reads Q ts (r >>= fun p => .ok (f p.1, p.2)) :=
  h.bind (fun ws x hx => .phrase (hf ws x hx)) fun ws x _ hx =>
    Reads.pure ((List.append_nil ws).symm ▸ hf ws x hx)

theorem Reads.mono {P' : List Word → α → Prop} (h : Reads P ts r) (hP : ∀ ws x, P ws x → P' ws x) :
    Reads P' ts r := by
  rcases r with (_ | f) | ⟨x, rest⟩
  · obtain ⟨used, rest, rfl, hposition, hviable⟩ := h
    exact ⟨used, rest, rfl, hposition, hviable.trans fun ws x hx => .phrase (hP ws x hx)⟩
  · exact h
  · obtain ⟨used, rfl, hx⟩ := h
    exact ⟨used, rfl, hP _ x hx⟩

theorem Reads.expect {kind : TokenKind} {value : String} (hkind : kind ≠ .finish)
    (hfiller : (⟨kind, value⟩ : Word) ∈ fillers) :
    Reads (fun ws _ => ws = [⟨kind, value⟩]) ts (expect kind value ts) := by
  unfold Parser.expect
  split
  · next h =>
    obtain ⟨t, us, rfl, ht⟩ := exists_of_isAt hkind h
    exact ⟨[t], rfl, congrArg (fun w => [w]) ht⟩
  · exact Reads.unexpected (.filled hfiller (.phrase (x := ()) rfl)) _

/-- A word that is expected, and a function behind it. -/
theorem Reads.expectThen {kind : TokenKind} {value : String}
    {k : Unit × List Token → Except ParseStop (β × List Token)} (hkind : kind ≠ .finish)
    (hfiller : (⟨kind, value⟩ : Word) ∈ fillers) (hQ : Viable Q [⟨kind, value⟩])
    (hk : ∀ rest, Reads (fun vs y => Q (⟨kind, value⟩ :: vs) y) rest (k ((), rest))) :
    Reads Q ts (Parser.expect kind value ts >>= k) := by
  refine (Reads.expect hkind hfiller).bind ?_ ?_
  · rintro _ _ rfl
    exact hQ
  · rintro _ _ rest rfl
    exact hk rest

end

/-! ### Rows of parts -/

/-- The trees of phrases of one level, each behind one of the joints. -/
def Row (joints : List Word) (l : Level) (ws : List Word) (es : List Expr) : Prop :=
  ∃ parts, ws = Part.flatten parts ∧ es = Part.trees parts ∧ (∀ p ∈ parts, p.joint ∈ joints) ∧
    ∀ p ∈ parts, Derives l p.words p.tree

variable {joints : List Word} {l : Level}

theorem Row.nil : Row joints l [] [] := ⟨[], rfl, rfl, nofun, nofun⟩

theorem Row.cons {w : Word} {ws vs : List Word} {e : Expr} {es : List Expr} (hw : w ∈ joints) (he : Derives l ws e)
    (h : Row joints l vs es) : Row joints l (w :: (ws ++ vs)) (e :: es) := by
  obtain ⟨parts, rfl, rfl, hjoints, hparts⟩ := h
  exact ⟨⟨w, ws, e⟩ :: parts, rfl, rfl, List.forall_mem_cons.2 ⟨hw, hjoints⟩, List.forall_mem_cons.2 ⟨he, hparts⟩⟩

theorem Row.single {w : Word} {ws : List Word} {e : Expr} (hw : w ∈ joints) (he : Derives l ws e) :
    Row joints l (w :: ws) [e] := by
  have hrow := Row.cons hw he Row.nil
  rwa [List.append_nil] at hrow

/-! ### The parser by levels -/

/-- The function that reads the phrases of a level. -/
def reader : Level → Nat → List Token → Except ParseStop (Expr × List Token)
  | .chain .or => orExpr
  | .chain .and => andExpr
  | .negation => notExpr
  | .comparison => Parser.comparison
  | .operand => Parser.operand
  | .member => fun n ts => Parser.atom n ts >>= fun p => suffixes n p.1 p.2
  | .atom => Parser.atom

/-- The function that reads the further parts of a chain. -/
def restReader : Connective → Nat → List Token → Except ParseStop (List Expr × List Token)
  | .or => orRest
  | .and => andRest

/-- Whether the token in front joins the parts of a chain. -/
def joins : Connective → List Token → Bool
  | .or => isOr
  | .and => isAnd

@[simp] theorem joins_cons {c : Connective} {t : Token} {ts : List Token} :
    joins c (t :: ts) = true ↔ t.word ∈ c.joints := by
  cases c <;> simp [joins, isOr, isAnd, Connective.joints, Word.keyword, Word.operator]

theorem joins_nil (c : Connective) : joins c [] = false := by cases c <;> rfl

theorem reader_chain (c : Connective) (n : Nat) (ts : List Token) :
    reader (.chain c) (n + 1) ts = (do
      let (e, ts) ← reader (.below c) n ts
      let (es, ts) ← restReader c n ts
      .ok (chain c (e :: es), ts)) := by
  cases c <;> rfl

theorem restReader_succ (c : Connective) (n : Nat) (ts : List Token) :
    restReader c (n + 1) ts =
      if joins c ts then do
        let (e, ts) ← reader (.below c) n (ts.drop 1)
        let (es, ts) ← restReader c n ts
        .ok (e :: es, ts)
      else .ok ([], ts) := by
  cases c <;> rfl

/-! ### Each function, when those that it calls are sound -/

/-- With this bound for the depth every function of the parser reads a phrase of its level. -/
structure Sound (n : Nat) : Prop where
  level (l : Level) (ts : List Token) : Reads (Derives l) ts (reader l n ts)
  rest (c : Connective) (ts : List Token) : Reads (Row c.joints (.below c)) ts (restReader c n ts)
  suffixes {ws : List Word} {e : Expr} (h : Derives .member ws e) (ts : List Token) :
    Reads (fun vs => Derives .member (ws ++ vs)) ts (suffixes n e ts)
  arguments (f : Operation) (ts : List Token) :
    Reads (fun ws es => Derives .atom (.name f.name :: .operator "(" :: ws) (.call f es)) ts (arguments n ts)
  moreArguments (ts : List Token) :
    Reads (fun ws es => ∃ vs, ws = vs ++ [.operator ")"] ∧ Row [.operator ","] .expression vs es) ts
      (moreArguments n ts)

variable {n : Nat} (h : Sound n) (ts : List Token)

include h

theorem Sound.chain (c : Connective) : Reads (Derives (.chain c)) ts (reader (.chain c) (n + 1) ts) := by
  rw [reader_chain]
  refine (h.level _ ts).bind (fun ws e he => .phrase he.alone) fun ws e us he => ?_
  refine (h.rest c us).map (fun es => Parser.chain c (e :: es)) ?_
  rintro vs es ⟨parts, rfl, rfl, hjoints, hparts⟩
  exact .chain he hjoints hparts

theorem Sound.rest_succ (c : Connective) : Reads (Row c.joints (.below c)) ts (restReader c (n + 1) ts) := by
  rw [restReader_succ]
  split
  · next hjoins =>
    rcases ts with _ | ⟨t, us⟩
    · rw [joins_nil] at hjoins
      cases hjoins
    · have ht : t.word ∈ c.joints := joins_cons.1 hjoins
      refine Reads.cons ((h.level _ us).bind (fun ws e he => ?_) fun ws e vs he => ?_)
      · exact .phrase (Row.single ht he)
      · exact (h.rest c vs).map (e :: ·) fun ws' es hes => Row.cons ht he hes
  · exact Reads.pure Row.nil

theorem Sound.negation : Reads (Derives .negation) ts (notExpr (n + 1) ts) := by
  rw [notExpr]
  split
  · next hnot =>
    rcases ts with _ | ⟨t, us⟩
    · cases hnot
    · have ht : t.word ∈ negators := by simpa [isNot, negators, Word.keyword, Word.operator] using hnot
      exact Reads.cons ((h.level .negation us).map Expr.not fun ws e he => Derives.not ht he)
  · exact (h.level .comparison ts).mono fun ws e he => .comparison he

theorem Sound.comparison : Reads (Derives .comparison) ts (Parser.comparison (n + 1) ts) := by
  rw [Parser.comparison]
  refine (h.level .operand ts).bind (fun ws e he => .phrase (.operand he)) fun ws left us hleft => ?_
  dsimp only
  split
  · next r hr =>
    -- behind the last token there is no relation
    rcases us with _ | ⟨t, us⟩
    · cases hr
    · refine Reads.cons ((h.level .operand us).map (Expr.compare r left) fun vs right hright => ?_)
      have hcompare := Derives.compare r hleft hright
      rw [relation?_words hr] at hcompare
      exact hcompare
  · split
    · next hin =>
      exact Reads.drop hin (by decide)
        ((h.level .operand _).map (Expr.compare .within left) fun vs right hright => .compare .within hleft hright)
    · split
      · next hnot =>
        refine Reads.drop hnot (by decide) (Reads.expectThen (by decide) (by decide) ?_ fun us => ?_)
        · exact .filled (w := .keyword "true") (by decide) (.phrase (.compare .outside hleft (derives_true .operand)))
        · exact (h.level .operand us).map (Expr.compare .outside left) fun vs right hright =>
            .compare .outside hleft hright
      · refine Reads.pure ?_
        rw [List.append_nil]
        exact .operand hleft

theorem Sound.operand : Reads (Derives .operand) ts (Parser.operand (n + 1) ts) := by
  rw [Parser.operand]
  split
  · next hminus =>
    exact Reads.drop hminus (by decide) ((h.level .operand _).map Expr.negate fun ws e he => .negate he)
  · exact (h.level .member ts).mono fun ws e he => .member he

theorem Sound.suffixes_succ {ws : List Word} {e : Expr} (he : Derives .member ws e) :
    Reads (fun vs => Derives .member (ws ++ vs)) ts (Parser.suffixes (n + 1) e ts) := by
  rw [Parser.suffixes]
  split
  · next hdot =>
    obtain ⟨t, us, rfl, ht⟩ := exists_of_isAt (by decide) hdot
    -- behind a point any keyword is the name of a field
    have htrue : Derives .member (ws ++ [t.word, .keyword "true"]) (.attribute e "true") := ht ▸ .field he (.inr rfl)
    have hname : Viable (fun vs => Derives .member (ws ++ t.word :: vs)) [] :=
      .filled (w := .keyword "true") (by decide) (.phrase htrue)
    rcases us with _ | ⟨u, us⟩
    · exact Reads.cons (Reads.unexpected hname _)
    · dsimp only [List.drop_succ_cons, List.drop_zero, front_cons]
      split
      · next hkind =>
        have hfield : Derives .member (ws ++ [t.word, u.word]) (.attribute e u.value) := ht ▸ .field he hkind
        refine Reads.cons (Reads.cons ((h.suffixes hfield us).mono fun vs x hx => ?_))
        rw [List.append_assoc] at hx
        exact hx
      · exact Reads.cons (Reads.unexpected hname _)
  · split
    · next hopen =>
      refine Reads.drop hopen (by decide)
        ((h.level .expression _).bind (fun ks key hkey => ?_) fun ks key us hkey => ?_)
      · exact .filled (w := .operator "]") (by decide) (.phrase (.item he hkey))
      · refine Reads.expectThen (by decide) (by decide) (.phrase (.item he hkey)) fun us => ?_
        refine (h.suffixes (.item he hkey) us).mono fun vs x hx => ?_
        simpa [Word.operator] using hx
    · refine Reads.pure ?_
      rw [List.append_nil]
      exact he

theorem Sound.moreArguments_succ :
    Reads (fun ws es => ∃ vs, ws = vs ++ [.operator ")"] ∧ Row [.operator ","] .expression vs es) ts
      (Parser.moreArguments (n + 1) ts) := by
  rw [Parser.moreArguments]
  split
  · next hcomma =>
    refine Reads.drop hcomma (by decide) ((h.level .expression _).bind (fun ws e he => ?_) fun ws e us he => ?_)
    · exact .filled (w := .operator ")") (by decide) (.phrase ⟨_, rfl, Row.single (List.mem_singleton_self _) he⟩)
    · refine (h.moreArguments us).map (e :: ·) ?_
      rintro _ es ⟨vs, rfl, hes⟩
      exact ⟨.operator "," :: (ws ++ vs), by simp [Word.operator], hes.cons (List.mem_singleton_self _) he⟩
  · exact (Reads.expect (by decide) (by decide)).map (fun _ => []) fun ws _ hws => ⟨[], hws, Row.nil⟩

theorem Sound.arguments_succ (f : Operation) :
    Reads (fun ws es => Derives .atom (.name f.name :: .operator "(" :: ws) (.call f es)) ts
      (Parser.arguments (n + 1) ts) := by
  rw [Parser.arguments]
  split
  · next hclose => exact Reads.drop hclose (by decide) (Reads.pure (.call f))
  · refine (h.level .expression ts).bind (fun ws e he => ?_) fun ws e us he => ?_
    · have hcall := @Derives.callWith f _ _ [] he (List.forall_mem_nil _) (List.forall_mem_nil _)
      exact .filled (w := .operator ")") (by decide) (.phrase hcall)
    · refine (h.moreArguments us).map (e :: ·) ?_
      rintro _ es ⟨_, rfl, parts, rfl, rfl, hjoints, hparts⟩
      exact .callWith f he (fun p hp => List.mem_singleton.1 (hjoints p hp)) hparts

theorem Sound.atom_succ : Reads (Derives .atom) ts (Parser.atom (n + 1) ts) := by
  rcases ts with _ | ⟨⟨kind, value, position⟩, us⟩
  · exact Reads.unexpected (viable_nil .atom) _
  rw [Parser.atom]
  simp only [front_cons, List.drop_succ_cons, List.drop_zero]
  cases kind with
  | number =>
    rcases hnumber : Parser.number value with (⟨p, q⟩ | f) | a
    · exact absurd hnumber (number_ne_problem value p q)
    · exact ⟨_, List.mem_cons_self, rfl, hnumber⟩
    · exact Reads.cons (Reads.pure (.number hnumber))
  | text => exact Reads.cons (Reads.pure (.text value))
  | name =>
    dsimp only
    split
    · next hopen =>
      split
      · exact Reads.problem (viable_nil .atom) _
      · next f hf =>
        obtain rfl := Operation.name_of_ofName? hf
        exact Reads.cons (Reads.drop hopen (by decide) ((h.arguments f _).map (Expr.call f) fun ws es hes => hes))
    · split
      · next r hr =>
        obtain rfl := Root.name_of_ofName? hr
        exact Reads.cons (Reads.pure (.root r))
      · exact Reads.problem (viable_nil .atom) _
  | keyword =>
    dsimp only
    split
    all_goals first
      | exact Reads.unexpected (viable_nil .atom) _
      | exact Reads.cons (Reads.pure (.constant (by simp [constants])))
  | operator =>
    dsimp only
    split
    · next hvalue =>
      subst hvalue
      refine Reads.cons ((h.level .expression us).bind (fun ws e he => ?_) fun ws e vs he => ?_)
      · exact .filled (w := .operator ")") (by decide) (.phrase (.brackets he))
      · refine (Reads.expect (by decide) (by decide)).map (fun _ => e) fun close _ hclose => ?_
        subst hclose
        exact .brackets he
    · exact Reads.unexpected (viable_nil .atom) _
  | finish => exact Reads.unexpected (viable_nil .atom) _

omit h in
/-- With every bound for the depth the parser reads only what the grammar derives. -/
theorem sound (n : Nat) : Sound n := by
  -- on the bound, for all functions at once, as each calls others with a smaller one
  induction n with
  | zero =>
    refine ⟨fun l ts => ?_, fun c ts => ?_, fun {ws e} he ts => ?_, fun f ts => ?_, fun ts => ?_⟩
    · rcases l with (_ | _) | _ <;> exact Reads.unexpected (viable_nil _) _
    · cases c <;> exact Reads.unexpected (.phrase Row.nil) _
    · exact Reads.unexpected (.phrase (x := e) ((List.append_nil ws).symm ▸ he)) _
    · exact Reads.unexpected (.filled (w := .operator ")") (by decide) (.phrase (.call f))) _
    · exact Reads.unexpected (.filled (w := .operator ")") (by decide) (.phrase ⟨[], rfl, Row.nil⟩)) _
  | succ n h =>
    refine ⟨fun l ts => ?_, fun c ts => h.rest_succ ts c, fun he ts => h.suffixes_succ ts he,
      fun f ts => h.arguments_succ ts f, fun ts => h.moreArguments_succ ts⟩
    cases l with
    | chain c => exact h.chain ts c
    | negation => exact h.negation ts
    | comparison => exact h.comparison ts
    | operand => exact h.operand ts
    | member =>
      exact (h.atom_succ ts).bind (fun ws e he => .phrase (.atom he)) fun ws e us he => h.suffixes_succ us (.atom he)
    | atom => exact h.atom_succ ts

end Grammar
end FlowRules
