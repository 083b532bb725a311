import FlowRules.Proofs.Condition.Printer

/-!
# Printing and parsing

Well-formed expressions are those that a condition can stand for.  The words that are printed for one are lexical, and
the grammar derives them with the expression, so it is parsed again; the tokens of a text have no trees but well-formed
ones.  Both together: printing and parsing are inverse (`Expr.printing_parses`).
-/

namespace FlowRules

/-! ### Well-formed expressions -/

/-- What stands behind a point: a name, where a keyword is in small letters. -/
def IsFieldName (name : String) : Prop :=
  Text.IsName name.toList ∧ (Token.small name.toList ∈ Token.keywords → Token.small name.toList = name)

namespace Expr

inductive WellFormed : Expr → Prop
  | literal {a : Atom} : a.IsLiteral → WellFormed (.literal a)
  | root (r : Root) : WellFormed (.root r)
  | field {target : Expr} {name : String} : WellFormed target → IsFieldName name →
      WellFormed (.attribute target name)
  | item {target key : Expr} : WellFormed target → WellFormed key → WellFormed (.index target key)
  | call (f : Operation) {args : List Expr} : (∀ e ∈ args, WellFormed e) → WellFormed (.call f args)
  | negate {e : Expr} : WellFormed e → WellFormed (.negate e)
  | not {e : Expr} : WellFormed e → WellFormed (.not e)
  | connective (c : Connective) {parts : List Expr} : 2 ≤ parts.length → (∀ e ∈ parts, WellFormed e) →
      WellFormed (.connective c parts)
  | compare (r : Relation) {left right : Expr} : WellFormed left → WellFormed right →
      WellFormed (.compare r left right)

end Expr

/-! ### What is printed is derived -/

namespace Expr

open Grammar

variable {e : Expr} {es : List Expr} {ws : List Word} {l : Level} {joint : Word}

/-- The parts behind the first, as they are printed. -/
def partsBehind (joint : Word) (es : List Expr) : List Part := es.map fun e => ⟨joint, bracketed e.words, e⟩

theorem flatten_partsBehind (joint : Word) (es : List Expr) :
    Part.flatten (partsBehind joint es) = wordsBehind joint es := by
  induction es with
  | nil => rfl
  | cons e es ih =>
    rw [wordsBehind, ← ih]
    rfl

theorem trees_partsBehind (joint : Word) (es : List Expr) : Part.trees (partsBehind joint es) = es := by
  rw [Part.trees, partsBehind, List.map_map]
  exact List.map_id es

theorem forall_mem_partsBehind {P : Part → Prop} (h : ∀ e ∈ es, P ⟨joint, bracketed e.words, e⟩) :
    ∀ p ∈ partsBehind joint es, P p := by
  intro p hp
  obtain ⟨e, he, rfl⟩ := List.mem_map.1 hp
  exact h e he

/-- An expression in brackets may stand at every level. -/
theorem derives_bracketed (h : Derives .expression ws e) : Derives l (bracketed ws) e := by
  have hmember : Derives .member (bracketed ws) e := .atom (.brackets h)
  have hnegation : Derives .negation (bracketed ws) e := .comparison (.operand (.member hmember))
  have hand : Derives (.chain .and) (bracketed ws) e := .alone hnegation
  match l with
  | .chain .or => exact .alone hand
  | .chain .and => exact hand
  | .negation => exact hnegation
  | .comparison => exact .operand (.member hmember)
  | .operand => exact .member hmember
  | .member => exact hmember
  | .atom => exact .brackets h

theorem derives_field {target : Expr} (name : String) (ht : Derives .member ws target) :
    Derives .member (ws ++ [.operator ".", .field name]) (.attribute target name) := by
  unfold Word.field
  split
  · exact .field ht (.inr rfl)
  · exact .field ht (.inl rfl)

theorem derives_call (f : Operation) (h : ∀ e ∈ es, Derives .expression e.words e) :
    Derives .atom (Expr.call f es).words (.call f es) := by
  rcases es with _ | ⟨e, es⟩
  · exact .call f
  · obtain ⟨he, hes⟩ := List.forall_mem_cons.1 h
    have hjoints : ∀ p ∈ partsBehind (.operator ",") es, p.joint = .operator "," :=
      forall_mem_partsBehind fun _ _ => rfl
    have hcall := Derives.callWith f (derives_bracketed he) hjoints
      (forall_mem_partsBehind fun e he => derives_bracketed (hes e he))
    rw [flatten_partsBehind, trees_partsBehind] at hcall
    rw [words, wordsJoined, List.append_assoc]
    exact hcall

theorem derives_connective (c : Connective) (hlength : 2 ≤ es.length) (h : ∀ e ∈ es, Derives .expression e.words e) :
    Derives (.chain c) (Expr.connective c es).words (.connective c es) := by
  rcases es with _ | ⟨e, _ | ⟨e', es⟩⟩
  · cases hlength
  · exact absurd hlength (by simp)
  · obtain ⟨he, hes⟩ := List.forall_mem_cons.1 h
    have hjoint : c.joint ∈ c.joints := by cases c <;> decide
    have hjoints : ∀ p ∈ partsBehind c.joint (e' :: es), p.joint ∈ c.joints := forall_mem_partsBehind fun _ _ => hjoint
    have hchain := Derives.chain (derives_bracketed he) hjoints
      (forall_mem_partsBehind fun e he => derives_bracketed (hes e he))
    rw [flatten_partsBehind, trees_partsBehind] at hchain
    exact hchain

/-- The words of a well-formed expression are derived with it. -/
theorem WellFormed.derives (h : e.WellFormed) : Derives .expression e.words e := by
  induction h with
  | literal ha => exact .ofMember (.atom (Word.ofAtom_spec ha).2)
  | root r => exact .ofMember (.atom (.root r))
  | @field target name _ _ ih => exact .ofMember (derives_field name (derives_bracketed ih))
  | item _ _ ih ihkey => exact .ofMember (.item (derives_bracketed ih) ihkey)
  | call f _ ih => exact .ofMember (.atom (derives_call f ih))
  | negate _ ih => exact .ofComparison (.operand (.negate (derives_bracketed ih)))
  | not _ ih => exact .ofNegation (.not (by decide) (derives_bracketed ih))
  | connective c hlength _ ih =>
    -- a conjunction is a disjunction of one part
    have hchain := derives_connective c hlength ih
    cases c with
    | or => exact hchain
    | and => exact .alone hchain
  | compare r _ _ ihl ihr => exact .ofComparison (.compare r (derives_bracketed ihl) (derives_bracketed ihr))

/-! ### What is printed has these words -/

theorem lexical_bracketed (h : ∀ w ∈ ws, w.Lexical) : ∀ w ∈ bracketed ws, w.Lexical :=
  List.forall_mem_cons.2 ⟨Word.lexical_operator (by decide), List.forall_mem_append.2
    ⟨h, List.forall_mem_singleton.2 (Word.lexical_operator (by decide))⟩⟩

theorem lexical_wordsBehind (hjoint : joint.Lexical) (h : ∀ e ∈ es, ∀ w ∈ e.words, w.Lexical) :
    ∀ w ∈ wordsBehind joint es, w.Lexical := by
  induction es with
  | nil => exact nofun
  | cons e es ih =>
    obtain ⟨he, hes⟩ := List.forall_mem_cons.1 h
    exact List.forall_mem_cons.2 ⟨hjoint, List.forall_mem_append.2 ⟨lexical_bracketed he, ih hes⟩⟩

theorem lexical_wordsJoined (hjoint : joint.Lexical) (h : ∀ e ∈ es, ∀ w ∈ e.words, w.Lexical) :
    ∀ w ∈ wordsJoined joint es, w.Lexical := by
  rcases es with _ | ⟨e, es⟩
  · exact nofun
  · obtain ⟨he, hes⟩ := List.forall_mem_cons.1 h
    exact List.forall_mem_append.2 ⟨lexical_bracketed he, lexical_wordsBehind hjoint hes⟩

theorem lexical_field {name : String} (h : IsFieldName name) : (Word.field name).Lexical := by
  unfold Word.field
  split
  · next hkeyword =>
    have hsmall := h.2 hkeyword
    exact Word.lexical_keyword h.1 (hsmall ▸ hkeyword) hsmall
  · next hkeyword => exact Word.lexical_name h.1 hkeyword

theorem lexical_relation (r : Relation) : ∀ w ∈ r.words, w.Lexical := by
  rcases r with _ | _ | (_ | _ | _ | _) | _ | _
  all_goals first
    | exact List.forall_mem_singleton.2 (Word.lexical_operator (by decide))
    | exact List.forall_mem_singleton.2 (Word.lexical_of_keyword (by decide))
    | exact List.forall_mem_cons.2 ⟨Word.lexical_of_keyword (by decide),
        List.forall_mem_singleton.2 (Word.lexical_of_keyword (by decide))⟩

theorem lexical_root (r : Root) : (Word.name r.name).Lexical := by
  cases r <;> exact Word.lexical_name (Text.isName_of_all rfl rfl) (by decide)

theorem lexical_operation (f : Operation) : (Word.name f.name).Lexical := by
  cases f <;> exact Word.lexical_name (Text.isName_of_all rfl rfl) (by decide)

theorem WellFormed.lexical (h : e.WellFormed) : ∀ w ∈ e.words, w.Lexical := by
  have hoperator {s : String} (hs : s ∈ operators) : ∀ w ∈ [Word.operator s], w.Lexical :=
    List.forall_mem_singleton.2 (Word.lexical_operator hs)
  induction h with
  | literal ha => exact List.forall_mem_singleton.2 (Word.ofAtom_spec ha).1
  | root r => exact List.forall_mem_singleton.2 (lexical_root r)
  | field _ hfield ih =>
    exact List.forall_mem_append.2 ⟨lexical_bracketed ih, List.forall_mem_cons.2
      ⟨Word.lexical_operator (by decide), List.forall_mem_singleton.2 (lexical_field hfield)⟩⟩
  | item _ _ ih ihkey =>
    exact List.forall_mem_append.2 ⟨lexical_bracketed ih, List.forall_mem_cons.2
      ⟨Word.lexical_operator (by decide), List.forall_mem_append.2 ⟨ihkey, hoperator (by decide)⟩⟩⟩
  | call f _ ih =>
    have hcomma : (Word.operator ",").Lexical := Word.lexical_operator (by decide)
    have hargs := lexical_wordsJoined hcomma ih
    exact List.forall_mem_cons.2 ⟨lexical_operation f, List.forall_mem_cons.2
      ⟨Word.lexical_operator (by decide), List.forall_mem_append.2 ⟨hargs, hoperator (by decide)⟩⟩⟩
  | negate _ ih => exact List.forall_mem_cons.2 ⟨Word.lexical_operator (by decide), lexical_bracketed ih⟩
  | not _ ih => exact List.forall_mem_cons.2 ⟨Word.lexical_of_keyword (by decide), lexical_bracketed ih⟩
  | connective c _ _ ih =>
    have hjoint : c.joint.Lexical := by cases c <;> exact Word.lexical_of_keyword (by decide)
    exact lexical_wordsJoined hjoint ih
  | compare r _ _ ihl ihr =>
    exact List.forall_mem_append.2
      ⟨lexical_bracketed ihl, List.forall_mem_append.2 ⟨lexical_relation r, lexical_bracketed ihr⟩⟩

/-- What is printed for a well-formed expression is parsed as the expression. -/
theorem WellFormed.ofText_print (h : e.WellFormed) : Expr.ofText e.print = .ok e := by
  obtain ⟨ts, hts, hwords⟩ := Word.ofText_spaced h.lexical
  have hsentence : Sentence (ts.map Token.word) e := ⟨e.words, hwords, h.derives⟩
  exact (ofText_iff hts).2 hsentence.ofTokens

example : Expr.print (.not (.connective .or [.root .state, .literal (.text "\"x\"")])) =
    "not ( ( state ) or ( \"\\\"x\\\"\" ) )" := by decide

/-! ### What is parsed is well-formed -/

theorem isLiteral_number {s : String} {a : Atom} (hs : Text.IsNumber s.toList) (h : Parser.number s = .ok a) :
    a.IsLiteral := by
  rw [← String.ofList_toList (s := s)] at h
  generalize s.toList = cs at hs h
  cases hs with
  | whole hcs =>
    rw [Parser.number_whole hcs] at h
    split at h
    · cases h
    · next hlong =>
      cases h
      -- leading zeros are not printed again, so the bound is on the value
      have hlt : Text.digitsValue cs < 10 ^ Numeral.maxDigits :=
        Nat.lt_of_lt_of_le (Text.digitsValue_lt cs) (Nat.pow_le_pow_right (by decide) (Nat.not_lt.1 hlong))
      exact .int ((Nat.length_toDigits_le_iff (by decide) (by decide)).2 hlt)
  | @fraction cs ds hcs hds =>
    rw [Parser.number_fraction hcs] at h
    cases h
    have hlength : 0 < ds.length := List.length_pos_iff.2 hds.1
    exact .decimal _ (by omega)

theorem isFieldName_of_lexed {t : Token} (ht : t.Lexed) (hkind : t.kind = .name ∨ t.kind = .keyword) :
    IsFieldName t.value := by
  rcases hkind with hkind | hkind
  · obtain ⟨hname, hsmall⟩ := ht.name hkind
    exact ⟨hname, fun h => absurd h hsmall⟩
  · obtain ⟨hname, hsmall⟩ := Word.keyword_spec (ht.keyword hkind)
    exact ⟨hname, fun _ => hsmall⟩

theorem isLiteral_constant {s : String} {a : Atom} (h : (s, a) ∈ constants) : a.IsLiteral := by
  simp only [constants, List.mem_cons, Prod.mk.injEq, List.not_mem_nil, or_false] at h
  rcases h with ⟨-, rfl⟩ | ⟨-, rfl⟩ | ⟨-, rfl⟩ | ⟨-, rfl⟩
  · exact .bool true
  · exact .bool false
  · exact .null
  · exact .null

theorem mem_flatten {parts : List Part} {p : Part} {w : Word} (hp : p ∈ parts) (hw : w ∈ p.words) :
    w ∈ Part.flatten parts := List.mem_flatMap.2 ⟨p, hp, List.mem_cons_of_mem p.joint hw⟩

theorem wellFormed_chain (c : Connective) (he : e.WellFormed) (hes : ∀ e ∈ es, e.WellFormed) :
    (Parser.chain c (e :: es)).WellFormed := by
  rcases es with _ | ⟨e', es⟩
  · exact he
  · exact .connective c (by simp) (List.forall_mem_cons.2 ⟨he, hes⟩)

theorem forall_mem_trees {parts : List Part} (h : ∀ p ∈ parts, p.tree.WellFormed) :
    ∀ e ∈ Part.trees parts, e.WellFormed := by
  intro e he
  obtain ⟨p, hp, rfl⟩ := List.mem_map.1 he
  exact h p hp

/-- Words that are those of tokens of a text have a well-formed tree. -/
theorem wellFormed_of_derives (h : Derives l ws e) (hws : ∀ w ∈ ws, ∃ t : Token, t.Lexed ∧ t.word = w) :
    e.WellFormed := by
  -- by induction on the derivation: the words of each part are among those of the phrase
  induction h with
  | @chain c ws e parts _ _ _ ih ihparts =>
    obtain ⟨hl, hr⟩ := List.forall_mem_append.1 hws
    exact wellFormed_chain c (ih hl)
      (forall_mem_trees fun p hp => ihparts p hp fun w hw => hr w (mem_flatten hp hw))
  | not _ _ ih => exact .not (ih (List.forall_mem_cons.1 hws).2)
  | comparison _ ih | operand _ ih | member _ ih | atom _ ih => exact ih hws
  | compare r _ _ ihl ihr =>
    obtain ⟨hl, hr⟩ := List.forall_mem_append.1 hws
    exact .compare r (ihl hl) (ihr (List.forall_mem_append.1 hr).2)
  | negate _ ih => exact .negate (ih (List.forall_mem_cons.1 hws).2)
  | field _ hkind ih =>
    obtain ⟨hl, hr⟩ := List.forall_mem_append.1 hws
    obtain ⟨t, ht, hword⟩ := hr _ (List.mem_cons_of_mem _ List.mem_cons_self)
    obtain ⟨rfl, rfl⟩ := Word.mk.inj hword
    exact .field (ih hl) (isFieldName_of_lexed ht hkind)
  | item _ _ ih ihkey =>
    obtain ⟨hl, hr⟩ := List.forall_mem_append.1 hws
    exact .item (ih hl) (ihkey (List.forall_mem_append.1 (List.forall_mem_cons.1 hr).2).1)
  | number h =>
    obtain ⟨t, ht, hword⟩ := List.forall_mem_singleton.1 hws
    obtain ⟨hkind, rfl⟩ := Word.mk.inj hword
    exact .literal (isLiteral_number (ht.number hkind) h)
  | text s => exact .literal (.text _)
  | constant h => exact .literal (isLiteral_constant h)
  | root r => exact .root r
  | call f => exact .call f nofun
  | @callWith f ws e parts _ _ _ ih ihparts =>
    obtain ⟨hl, hr⟩ := List.forall_mem_append.1 (List.forall_mem_cons.1 (List.forall_mem_cons.1 hws).2).2
    obtain ⟨hr, -⟩ := List.forall_mem_append.1 hr
    exact .call f (List.forall_mem_cons.2 ⟨ih hl,
      forall_mem_trees fun p hp => ihparts p hp fun w hw => hr w (mem_flatten hp hw)⟩)
  | brackets _ ih => exact ih (List.forall_mem_append.1 (List.forall_mem_cons.1 hws).2).1

/-- What is parsed is well-formed. -/
theorem wellFormed_of_ofText {s : String} (h : Expr.ofText s = .ok e) : e.WellFormed := by
  rcases hs : Token.ofText s with f | ts
  · rw [Expr.ofText, hs] at h
    cases h
  · obtain ⟨body, t, rfl, ht, hbody⟩ := exists_body hs
    obtain ⟨hok, -⟩ := ofTokens_spec (fun u hu => (hbody u hu).kind_ne_finish) ht
    obtain ⟨ws, hws, hderives⟩ := hok e ((ofText_iff hs).1 h)
    rw [List.map_append, List.map_singleton] at hws
    obtain ⟨rfl, -⟩ := List.append_inj' hws rfl
    refine wellFormed_of_derives hderives fun w hw => ?_
    obtain ⟨u, hu, rfl⟩ := List.mem_map.1 hw
    exact ⟨u, hbody u hu, rfl⟩

/-- Printing and parsing are inverse: what is printed for a well-formed expression is parsed as the expression, and
every expression that is parsed is well-formed. -/
theorem printing_parses :
    (∀ e : Expr, e.WellFormed → Expr.ofText e.print = .ok e) ∧
      ∀ (s : String) (e : Expr), Expr.ofText s = .ok e → e.WellFormed :=
  ⟨fun _ h => h.ofText_print, fun _ _ h => wellFormed_of_ofText h⟩

private def nested : Expr :=
  .connective .or [.root .flow, .connective .or [.literal (.text "\"\\\n"), .literal (.decimal (.finite false 5 (-2)))]]

private theorem wellFormed_nested : nested.WellFormed := by
  have htext : WellFormed (.literal (.text "\"\\\n")) := .literal (.text _)
  have hdecimal : WellFormed (.literal (.decimal (.finite false 5 (-2)))) := .literal (.decimal 5 (by decide))
  exact .connective .or (by decide) (List.forall_mem_cons.2 ⟨.root .flow, List.forall_mem_singleton.2
    (.connective .or (by decide) (List.forall_mem_cons.2 ⟨htext, List.forall_mem_singleton.2 hdecimal⟩))⟩)

/-- A chain in a chain of the same kind, with a text of a quote, a backslash and a line feed. -/
theorem printing_parses_nested : nested.WellFormed ∧ Expr.ofText nested.print = .ok nested :=
  ⟨printing_parses.2 nested.print nested (printing_parses.1 nested wellFormed_nested),
    printing_parses.1 nested wellFormed_nested⟩

end Expr
end FlowRules
