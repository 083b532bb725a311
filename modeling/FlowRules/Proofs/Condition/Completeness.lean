import FlowRules.Proofs.Condition.Soundness

/-!
# What is in the grammar is read

A phrase is read as a whole when the word behind it does not bind as tightly as its level: `binding` says how tightly a
word binds to what stands before it, `opening` how loosely a phrase may bind that begins with a word.  By induction on
the derivation every phrase is read with the tree that it is derived with (`Derives.read`), so there is no other.
-/

namespace FlowRules

@[simp] theorem Operation.ofName?_name (f : Operation) : ofName? f.name = some f := by cases f <;> decide

@[simp] theorem Root.ofName?_name (r : Root) : ofName? r.name = some r := by cases r <;> decide

namespace Grammar

open FlowRules.Parser

variable {l : Level} {ws : List Word} {e : Expr} {ts rest : List Token}

/-! ### How phrases begin -/

/-- How loosely a phrase has to bind that begins with a word; with a closing bracket none begins. -/
def opening (w : Word) : Nat :=
  if w = .operator ")" then 3 else if w ∈ negators then 2 else if w = .operator "-" then 1 else 0

def Level.opening : Level → Nat
  | chain _ | negation => 2
  | comparison | operand => 1
  | member | atom => 0

theorem opening_eq_zero {kind : TokenKind} (hkind : kind ≠ .operator ∧ kind ≠ .keyword) (value : String) :
    opening ⟨kind, value⟩ = 0 := by
  simp [opening, negators, Word.operator, Word.keyword, hkind.1, hkind.2]

theorem Derives.opens (h : Derives l ws e) : ∃ w vs, ws = w :: vs ∧ Grammar.opening w ≤ l.opening := by
  induction h with
  | @chain c ws e parts he hjoints hparts ih =>
    obtain ⟨w, vs, rfl, hw⟩ := ih
    refine ⟨w, vs ++ Part.flatten parts, rfl, Nat.le_trans hw ?_⟩
    cases c <;> decide
  | not hw =>
    refine ⟨_, _, rfl, ?_⟩
    revert hw
    simp only [negators, List.mem_cons, List.not_mem_nil, or_false]
    rintro (rfl | rfl) <;> decide
  | comparison _ ih | operand _ ih | member _ ih =>
    obtain ⟨w, vs, rfl, hw⟩ := ih
    exact ⟨w, vs, rfl, Nat.le_trans hw (by decide)⟩
  | atom _ ih => exact ih
  | compare r _ _ ih _ | field _ _ ih | item _ _ ih _ =>
    obtain ⟨w, vs, rfl, hw⟩ := ih
    exact ⟨w, _, rfl, hw⟩
  | negate => exact ⟨_, _, rfl, by decide⟩
  | constant hs =>
    refine ⟨_, _, rfl, ?_⟩
    simp only [constants, List.mem_cons, Prod.mk.injEq, List.not_mem_nil, or_false] at hs
    rcases hs with ⟨rfl, -⟩ | ⟨rfl, -⟩ | ⟨rfl, -⟩ | ⟨rfl, -⟩ <;> decide
  | brackets => exact ⟨_, _, rfl, by decide⟩
  | number | text | root | call | callWith =>
    exact ⟨_, _, rfl, Nat.le_of_eq (opening_eq_zero (by decide) _)⟩

theorem Derives.length_pos (h : Derives l ws e) : 0 < ws.length := by
  obtain ⟨w, vs, rfl, -⟩ := h.opens
  exact Nat.succ_pos _

/-- A phrase does not begin with a word that asks for a looser level. -/
theorem Derives.isAt_eq_false (h : Derives l ws e) (hts : ts.map Token.word = ws) {kind : TokenKind} {value : String}
    (hl : l.opening < opening ⟨kind, value⟩) : isAt kind value (ts ++ rest) = false := by
  obtain ⟨w, vs, rfl, hw⟩ := h.opens
  obtain ⟨t, us, rfl, rfl, -⟩ := List.map_eq_cons_iff.1 hts
  rw [List.cons_append, Bool.eq_false_iff]
  intro hat
  rw [isAt_cons.1 hat] at hw
  omega

/-! ### What stands behind phrases -/

/-- The words that begin what stands between the sides of a comparison. -/
def comparers : List Word :=
  [.operator "==", .operator "!=", .operator "<", .operator "<=", .operator ">", .operator ">=", .keyword "in",
    .keyword "not"]

/-- How tightly a word binds to the phrase before it. -/
def binding (w : Word) : Nat :=
  if w = .operator "(" then 6
  else if w = .operator "." ∨ w = .operator "[" then 5
  else if w ∈ comparers then 4
  else if w ∈ Connective.and.joints then 2
  else if w ∈ Connective.or.joints then 1
  else 0

/-- How tightly a word may bind that stands behind a phrase of the level. -/
def Level.binding : Level → Nat
  | atom | member => 5
  | operand => 4
  | comparison | negation => 3
  | chain .and => 1
  | chain .or => 0

theorem isAt_eq_false_of_binding {b : Nat} (h : binding (front ts).word ≤ b) {kind : TokenKind} {value : String}
    (hb : b < binding ⟨kind, value⟩) : isAt kind value ts = false := by
  rw [Bool.eq_false_iff]
  intro hat
  have hword : (front ts).word = ⟨kind, value⟩ := by simpa [isAt, Token.word] using hat
  rw [hword] at h
  omega

theorem isAt_eq_false_of_word {t : Token} {w : Word} (ht : t.word = w) {kind : TokenKind} {value : String}
    (hw : w ≠ ⟨kind, value⟩) : isAt kind value (t :: ts) = false := by
  rw [Bool.eq_false_iff]
  exact fun hat => hw (ht.symm.trans (isAt_cons.1 hat))

theorem expect_cons {t : Token} {kind : TokenKind} {value : String} (ht : t.word = ⟨kind, value⟩) :
    expect kind value (t :: ts) = .ok ((), ts) := if_pos (isAt_cons.2 ht)

theorem exists_words (r : Relation) : ∃ w vs, r.words = w :: vs ∧ binding w = 4 := by
  rcases r with _ | _ | (_ | _ | _ | _) | _ | _ <;> exact ⟨_, _, rfl, by decide⟩

theorem relation?_eq_none (h : binding (front ts).word ≤ 3) : relation? (front ts) = none := by
  rw [Option.eq_none_iff_forall_ne_some]
  intro r hr
  obtain ⟨w, vs, hwords, hw⟩ := exists_words r
  rw [relation?_words hr] at hwords
  obtain ⟨rfl, -⟩ := List.cons.inj hwords
  omega

theorem binding_joint {c : Connective} {w : Word} (hw : w ∈ c.joints) :
    (Level.chain c).binding < binding w ∧ binding w ≤ (Level.below c).binding := by
  cases c <;> simp only [Connective.joints, List.mem_cons, List.not_mem_nil, or_false] at hw <;>
    rcases hw with rfl | rfl <;> decide

theorem joins_eq_false {c : Connective} (h : binding (front ts).word ≤ (Level.chain c).binding) :
    joins c ts = false := by
  rcases ts with _ | ⟨t, ts⟩
  · exact joins_nil c
  · rw [Bool.eq_false_iff]
    intro hjoins
    have hbinding := (binding_joint (joins_cons.1 hjoins)).1
    rw [front_cons] at h
    omega

/-! ### Reading a phrase -/

/-- How many calls deep the function of a level goes before it comes to an atom. -/
def Level.depth : Level → Nat
  | atom | member => 0
  | operand => 1
  | comparison => 2
  | negation => 3
  | chain .and => 4
  | chain .or => 5

/-- The tokens of these words are read as this tree, whatever the level may have behind it. -/
def Read (l : Level) (ws : List Word) (e : Expr) : Prop :=
  ∀ ts rest n, ts.map Token.word = ws → binding (front rest).word ≤ l.binding → 8 * ws.length + l.depth ≤ n →
    reader l n (ts ++ rest) = .ok (e, rest)

/-- When the tokens of these words are read, what remains is to look for further fields and items. -/
def ReadOn (ws : List Word) (e : Expr) : Prop :=
  ∃ k < ws.length, ∀ ts rest n, ts.map Token.word = ws → binding (front rest).word ≤ 5 → 8 * ws.length ≤ n →
    reader .member n (ts ++ rest) = suffixes (n - k) e rest

/-- What is shown of the phrases of a level: behind a member more of it may come. -/
def Complete : Level → List Word → Expr → Prop
  | .member => ReadOn
  | l => Read l

/-! ### Chains and lists of arguments -/

/-- A row of parts is read by a function that reads a part behind each joint and stops at what is behind the row. -/
theorem row_read {joints : List Word} {after : List Token}
    {readRest : Nat → List Token → Except ParseStop (List Expr × List Token)}
    (hstep : ∀ n t us, t.word ∈ joints → readRest (n + 1) (t :: us) = (do
      let (e, us) ← reader l n us
      let (es, us) ← readRest n us
      .ok (e :: es, us)))
    (hstop : ∀ n, readRest (n + 1) rest = .ok ([], after)) (hrest : binding (front rest).word ≤ l.binding)
    (hbinding : ∀ w ∈ joints, binding w ≤ l.binding) (hdepth : l.depth ≤ 5) {parts : List Part}
    (hjoints : ∀ p ∈ parts, p.joint ∈ joints) (hparts : ∀ p ∈ parts, Read l p.words p.tree) {n : Nat}
    (hts : ts.map Token.word = Part.flatten parts) (hn : 8 * (Part.flatten parts).length + 1 ≤ n) :
    readRest n (ts ++ rest) = .ok (Part.trees parts, after) ∧ binding (front (ts ++ rest)).word ≤ l.binding := by
  induction parts generalizing ts n with
  | nil =>
    obtain rfl := List.map_eq_nil_iff.1 hts
    obtain ⟨m, rfl⟩ := Nat.exists_eq_add_one_of_ne_zero (Nat.ne_of_gt hn)
    exact ⟨hstop m, hrest⟩
  | cons p parts ih =>
    -- the joint is a word of its own, so what it adds to the bound pays for the calls down to the part behind it
    obtain ⟨hp, hjoints⟩ := List.forall_mem_cons.1 hjoints
    obtain ⟨hread, hparts⟩ := List.forall_mem_cons.1 hparts
    obtain ⟨t, us, rfl, ht, hus⟩ := List.map_eq_cons_iff.1 hts
    obtain ⟨us, vs, rfl, hus, hvs⟩ := List.map_eq_append_iff.1 hus
    have hlength : (Part.flatten (p :: parts)).length = p.words.length + (Part.flatten parts).length + 1 := by
      simp [Part.flatten]
    obtain ⟨m, rfl⟩ : ∃ m, n = m + 1 := ⟨n - 1, by omega⟩
    obtain ⟨hmore, hfront⟩ := ih hjoints hparts hvs (n := m) (by omega)
    refine ⟨?_, ?_⟩
    · rw [List.cons_append, List.append_assoc, hstep m t _ (ht ▸ hp), hread us _ m hus hfront (by omega)]
      show (readRest m (vs ++ rest) >>= fun x => Except.ok (p.tree :: x.1, x.2)) = _
      rw [hmore]
      rfl
    · rw [List.cons_append, front_cons, ht]
      exact hbinding _ hp

theorem Read.chain {c : Connective} {parts : List Part} (he : Read (.below c) ws e) (hws : 0 < ws.length)
    (hjoints : ∀ p ∈ parts, p.joint ∈ c.joints) (hparts : ∀ p ∈ parts, Read (.below c) p.words p.tree) :
    Read (.chain c) (ws ++ Part.flatten parts) (Parser.chain c (e :: Part.trees parts)) := by
  intro ts rest n hts hrest hn
  obtain ⟨us, vs, rfl, hus, hvs⟩ := List.map_eq_append_iff.1 hts
  have hdepth : (Level.below c).depth + 1 = (Level.chain c).depth := by cases c <;> rfl
  have hbelow : (Level.chain c).binding ≤ (Level.below c).binding := by cases c <;> decide
  rw [List.length_append] at hn
  obtain ⟨m, rfl⟩ : ∃ m, n = m + 1 := ⟨n - 1, by omega⟩
  have hstep (n : Nat) (t : Token) (us : List Token) (ht : t.word ∈ c.joints) : restReader c (n + 1) (t :: us) = (do
      let (e, us) ← reader (.below c) n us
      let (es, us) ← restReader c n us
      .ok (e :: es, us)) := by
    rw [restReader_succ, if_pos (joins_cons.2 ht)]
    rfl
  have hstop (n : Nat) : restReader c (n + 1) rest = .ok ([], rest) := by
    rw [restReader_succ, joins_eq_false hrest]
    rfl
  obtain ⟨hmore, hfront⟩ := row_read hstep hstop (Nat.le_trans hrest hbelow) (fun w hw => (binding_joint hw).2)
    (by cases c <;> decide) hjoints hparts hvs (n := m) (by omega)
  rw [reader_chain, List.append_assoc, he us _ m hus hfront (by omega)]
  show (restReader c m (vs ++ rest) >>= fun x => Except.ok (Parser.chain c (e :: x.1), x.2)) = _
  rw [hmore]
  rfl

/-! ### Negations, comparisons and operands -/

theorem Read.not {w : Word} (hw : w ∈ negators) (he : Read .negation ws e) : Read .negation (w :: ws) (.not e) := by
  intro ts rest n hts hrest hn
  obtain ⟨t, us, rfl, ht, hus⟩ := List.map_eq_cons_iff.1 hts
  rw [List.length_cons] at hn
  obtain ⟨m, rfl⟩ : ∃ m, n = m + 1 := ⟨n - 1, by omega⟩
  have hnot : isNot (t :: us ++ rest) = true := by
    simpa [isNot, negators, Word.keyword, Word.operator, ht] using hw
  show notExpr (m + 1) (t :: us ++ rest) = _
  rw [notExpr, if_pos hnot]
  show (reader .negation m (us ++ rest) >>= fun x => Except.ok (Expr.not x.1, x.2)) = _
  rw [he us rest m hus hrest (by omega)]
  rfl

theorem Read.negation (he : Read .comparison ws e) (h : Derives .comparison ws e) : Read .negation ws e := by
  intro ts rest n hts hrest hn
  have hdepth : 8 * ws.length + 3 ≤ n := hn
  obtain ⟨m, rfl⟩ : ∃ m, n = m + 1 := ⟨n - 1, by omega⟩
  have hnot : isNot (ts ++ rest) = false := by
    unfold isNot
    rw [h.isAt_eq_false hts (by decide), h.isAt_eq_false hts (by decide)]
    rfl
  show notExpr (m + 1) (ts ++ rest) = _
  rw [notExpr, if_neg (Bool.eq_false_iff.1 hnot)]
  exact he ts rest m hts hrest (Nat.le_of_succ_le_succ hn)

/-- Behind the left side of a comparison its relation is found, and the right side is read. -/
theorem comparison_words {n : Nat} {left : Expr} {us vs : List Token} (r : Relation)
    (hleft : reader .operand n ts = .ok (left, us ++ vs)) (hus : us.map Token.word = r.words) :
    Parser.comparison (n + 1) ts = reader .operand n vs >>= fun x => .ok (.compare r left x.1, x.2) := by
  rw [Parser.comparison]
  show (reader .operand n ts >>= _) = _
  rw [hleft]
  rcases r with _ | _ | (_ | _ | _ | _) | _ | _
  all_goals
    obtain ⟨⟨kind, value, position⟩, us, rfl, ht, hmore⟩ := List.map_eq_cons_iff.1 hus
    cases ht
  -- all relations but this one have a single word
  case outside =>
    obtain ⟨⟨kind, value, position⟩, us, rfl, ht, hlast⟩ := List.map_eq_cons_iff.1 hmore
    cases ht
    obtain rfl := List.map_eq_nil_iff.1 hlast
    rfl
  all_goals
    obtain rfl := List.map_eq_nil_iff.1 hmore
    rfl

theorem Read.compare {ls rs : List Word} {left right : Expr} (r : Relation) (hl : Read .operand ls left)
    (hr : Read .operand rs right) : Read .comparison (ls ++ (r.words ++ rs)) (.compare r left right) := by
  intro ts rest n hts hrest hn
  obtain ⟨us, vs, rfl, hus, hvs⟩ := List.map_eq_append_iff.1 hts
  obtain ⟨vs, ws, rfl, hvs, hws⟩ := List.map_eq_append_iff.1 hvs
  have hbinding : binding (front rest).word ≤ 3 := hrest
  have hdepth : 8 * (ls ++ (r.words ++ rs)).length + 2 ≤ n := hn
  rw [List.length_append, List.length_append] at hdepth
  obtain ⟨w, more, hwords, hw⟩ := exists_words r
  have hfront : binding (front (vs ++ (ws ++ rest))).word ≤ 4 := by
    obtain ⟨t, vs, rfl, ht, -⟩ := List.map_eq_cons_iff.1 (hvs.trans hwords)
    exact Nat.le_of_eq (ht ▸ hw)
  obtain ⟨m, rfl⟩ : ∃ m, n = m + 1 := ⟨n - 1, by omega⟩
  have hleft : reader .operand m (us ++ (vs ++ (ws ++ rest))) = .ok (left, vs ++ (ws ++ rest)) :=
    hl us _ m hus hfront (by show 8 * ls.length + 1 ≤ m; omega)
  show Parser.comparison (m + 1) (us ++ (vs ++ ws) ++ rest) = _
  rw [List.append_assoc, List.append_assoc, comparison_words r hleft hvs,
    hr ws rest m hws (Nat.le_succ_of_le hbinding) (by show 8 * rs.length + 1 ≤ m; omega)]
  rfl

theorem Read.comparison (he : Read .operand ws e) : Read .comparison ws e := by
  intro ts rest n hts hrest hn
  have hdepth : 8 * ws.length + 2 ≤ n := hn
  have hbinding : binding (front rest).word ≤ 3 := hrest
  obtain ⟨m, rfl⟩ : ∃ m, n = m + 1 := ⟨n - 1, by omega⟩
  show Parser.comparison (m + 1) (ts ++ rest) = _
  rw [Parser.comparison]
  show (reader .operand m (ts ++ rest) >>= _) = _
  rw [he ts rest m hts (Nat.le_succ_of_le hbinding) (Nat.le_of_succ_le_succ hdepth)]
  have hin : isAt .keyword "in" rest = false := isAt_eq_false_of_binding hbinding (by decide)
  have hnot : isAt .keyword "not" rest = false := isAt_eq_false_of_binding hbinding (by decide)
  simp [bind, Except.bind, relation?_eq_none hbinding, hin, hnot]

theorem Read.negate (he : Read .operand ws e) : Read .operand (.operator "-" :: ws) (.negate e) := by
  intro ts rest n hts hrest hn
  obtain ⟨t, us, rfl, ht, hus⟩ := List.map_eq_cons_iff.1 hts
  rw [List.length_cons] at hn
  obtain ⟨m, rfl⟩ : ∃ m, n = m + 1 := ⟨n - 1, by omega⟩
  show Parser.operand (m + 1) (t :: us ++ rest) = _
  rw [Parser.operand, List.cons_append, if_pos (isAt_cons.2 ht)]
  show (reader .operand m (us ++ rest) >>= fun x => Except.ok (Expr.negate x.1, x.2)) = _
  rw [he us rest m hus hrest (by omega)]
  rfl

theorem suffixes_stop {n : Nat} (hn : 0 < n) (hrest : binding (front rest).word ≤ 4) :
    suffixes n e rest = .ok (e, rest) := by
  obtain ⟨m, rfl⟩ : ∃ m, n = m + 1 := ⟨n - 1, by omega⟩
  rw [suffixes, isAt_eq_false_of_binding hrest (by decide), isAt_eq_false_of_binding hrest (by decide)]
  rfl

theorem ReadOn.operand (he : ReadOn ws e) (h : Derives .member ws e) : Read .operand ws e := by
  intro ts rest n hts hrest hn
  obtain ⟨k, hk, hread⟩ := he
  have hdepth : 8 * ws.length + 1 ≤ n := hn
  have hbinding : binding (front rest).word ≤ 4 := hrest
  obtain ⟨m, rfl⟩ : ∃ m, n = m + 1 := ⟨n - 1, by omega⟩
  show Parser.operand (m + 1) (ts ++ rest) = _
  rw [Parser.operand, h.isAt_eq_false hts (by decide)]
  show reader .member m (ts ++ rest) = _
  rw [hread ts rest m hts (Nat.le_succ_of_le hbinding) (by omega)]
  exact suffixes_stop (by omega) hbinding

/-! ### Members and atoms -/

/-- No field or item is behind the atom yet. -/
theorem ReadOn.atom (he : Read .atom ws e) (h : Derives .atom ws e) : ReadOn ws e := by
  refine ⟨0, h.length_pos, fun ts rest n hts hrest hn => ?_⟩
  show (reader .atom n (ts ++ rest) >>= fun p => suffixes n p.1 p.2) = _
  rw [he ts rest n hts hrest hn]
  rfl

theorem ReadOn.field {kind : TokenKind} {name : String} (he : ReadOn ws e) (hkind : kind = .name ∨ kind = .keyword) :
    ReadOn (ws ++ [.operator ".", ⟨kind, name⟩]) (.attribute e name) := by
  obtain ⟨k, hk, hread⟩ := he
  refine ⟨k + 1, by simp; omega, fun ts rest n hts hrest hn => ?_⟩
  simp only [List.map_eq_append_iff, List.map_eq_cons_iff, List.map_eq_nil_iff] at hts
  obtain ⟨us, _, rfl, hus, t, _, rfl, ht, u, _, rfl, hu, rfl⟩ := hts
  simp only [List.length_append, List.length_cons, List.length_nil] at hn
  have hdot : binding (front (t :: u :: rest)).word ≤ 5 := by
    rw [front_cons, ht]
    decide
  have hname : u.kind = kind ∧ u.value = name := Word.mk.inj hu
  rw [← hname.1] at hkind
  simp only [List.append_assoc, List.cons_append, List.nil_append]
  rw [hread us _ n hus hdot (by omega)]
  -- the members before have taken `k` turns of the loop, and the next one takes the field
  obtain ⟨m, hm, hm'⟩ : ∃ m, n - k = m + 1 ∧ n - (k + 1) = m := ⟨n - k - 1, by omega, by omega⟩
  rw [hm, hm', suffixes, if_pos (isAt_cons.2 ht), ← hname.2]
  exact if_pos hkind

theorem ReadOn.item {ks : List Word} {key : Expr} (he : ReadOn ws e) (hkey : Read .expression ks key) :
    ReadOn (ws ++ .operator "[" :: (ks ++ [.operator "]"])) (.index e key) := by
  obtain ⟨k, hk, hread⟩ := he
  refine ⟨k + 1, by simp; omega, fun ts rest n hts hrest hn => ?_⟩
  simp only [List.map_eq_append_iff, List.map_eq_cons_iff, List.map_eq_nil_iff] at hts
  obtain ⟨us, _, rfl, hus, t, _, rfl, ht, vs, _, rfl, hvs, u, _, rfl, hu, rfl⟩ := hts
  simp only [List.length_append, List.length_cons, List.length_nil] at hn
  have hopen : binding (front (t :: (vs ++ u :: rest))).word ≤ 5 := by
    rw [front_cons, ht]
    decide
  have hclose : binding (front (u :: rest)).word ≤ 0 := by
    rw [front_cons, hu]
    decide
  simp only [List.append_assoc, List.cons_append, List.nil_append]
  rw [hread us _ n hus hopen (by omega)]
  obtain ⟨m, hm, hm'⟩ : ∃ m, n - k = m + 1 ∧ n - (k + 1) = m := ⟨n - k - 1, by omega, by omega⟩
  rw [hm, hm', suffixes, isAt_eq_false_of_word ht (by decide), if_pos (isAt_cons.2 ht)]
  have hread : reader .expression m (vs ++ u :: rest) = .ok (key, u :: rest) :=
    hkey vs _ m hvs hclose (by show 8 * ks.length + 5 ≤ m; omega)
  show (reader .expression m (vs ++ u :: rest) >>= _) = _
  rw [hread]
  show (expect .operator "]" (u :: rest) >>= _) = _
  rw [expect_cons hu]
  rfl

/-- An atom of one word is read when the function gives its tree at once. -/
theorem Read.single {w : Word} (h : ∀ t rest n, t.word = w → binding (front rest).word ≤ 5 →
    Parser.atom (n + 1) (t :: rest) = .ok (e, rest)) : Read .atom [w] e := by
  intro ts rest n hts hrest hn
  simp only [List.map_eq_cons_iff, List.map_eq_nil_iff] at hts
  obtain ⟨t, _, rfl, ht, rfl⟩ := hts
  have hdepth : 8 * 1 + 0 ≤ n := hn
  obtain ⟨m, rfl⟩ : ∃ m, n = m + 1 := ⟨n - 1, by omega⟩
  exact h t rest m ht hrest

theorem Read.number {s : String} {a : Atom} (h : Parser.number s = .ok a) : Read .atom [⟨.number, s⟩] (.literal a) := by
  refine Read.single fun t rest n ht _ => ?_
  obtain ⟨kind, value, position⟩ := t
  cases ht
  show (Parser.number value >>= fun a => Except.ok (Expr.literal a, rest)) = _
  rw [h]
  rfl

theorem Read.text (s : String) : Read .atom [⟨.text, s⟩] (.literal (.text (unquote s))) := by
  refine Read.single fun t rest n ht _ => ?_
  obtain ⟨kind, value, position⟩ := t
  cases ht
  rfl

theorem Read.constant {s : String} {a : Atom} (h : (s, a) ∈ constants) : Read .atom [.keyword s] (.literal a) := by
  refine Read.single fun t rest n ht _ => ?_
  obtain ⟨kind, value, position⟩ := t
  cases ht
  simp only [constants, List.mem_cons, Prod.mk.injEq, List.not_mem_nil, or_false] at h
  rcases h with ⟨rfl, rfl⟩ | ⟨rfl, rfl⟩ | ⟨rfl, rfl⟩ | ⟨rfl, rfl⟩ <;> rfl

theorem Read.root (r : Root) : Read .atom [.name r.name] (.root r) := by
  refine Read.single fun t rest n ht hrest => ?_
  obtain ⟨kind, value, position⟩ := t
  obtain ⟨rfl, rfl⟩ : kind = .name ∧ value = r.name := Word.mk.inj ht
  have hopen : isAt .operator "(" rest = false := isAt_eq_false_of_binding hrest (by decide)
  rw [Parser.atom]
  simp [hopen]

/-- A call is read when its arguments are. -/
theorem atom_call {f : Operation} {t u : Token} {n : Nat} {args : List Expr} (ht : t.word = .name f.name)
    (hu : u.word = .operator "(") (hargs : arguments n ts = .ok (args, rest)) :
    Parser.atom (n + 1) (t :: u :: ts) = .ok (.call f args, rest) := by
  obtain ⟨kind, value, position⟩ := t
  obtain ⟨rfl, rfl⟩ : kind = .name ∧ value = f.name := Word.mk.inj ht
  have hopen : isAt .operator "(" (u :: ts) = true := isAt_cons.2 hu
  rw [Parser.atom]
  simp [hopen, hargs, bind, Except.bind]

theorem Read.call (f : Operation) : Read .atom [.name f.name, .operator "(", .operator ")"] (.call f []) := by
  intro ts rest n hts hrest hn
  simp only [List.map_eq_cons_iff, List.map_eq_nil_iff] at hts
  obtain ⟨t, _, rfl, ht, u, _, rfl, hu, v, _, rfl, hv, rfl⟩ := hts
  have hdepth : 8 * 3 + 0 ≤ n := hn
  obtain ⟨m, rfl⟩ : ∃ m, n = m + 2 := ⟨n - 2, by omega⟩
  refine atom_call ht hu ?_
  rw [arguments]
  exact if_pos (isAt_cons.2 hv)

theorem Read.callWith (f : Operation) {parts : List Part} (he : Read .expression ws e)
    (h : Derives .expression ws e) (hjoints : ∀ p ∈ parts, p.joint = .operator ",")
    (hparts : ∀ p ∈ parts, Read .expression p.words p.tree) :
    Read .atom (.name f.name :: .operator "(" :: (ws ++ (Part.flatten parts ++ [.operator ")"])))
      (.call f (e :: Part.trees parts)) := by
  intro ts rest n hts hrest hn
  simp only [List.map_eq_append_iff, List.map_eq_cons_iff, List.map_eq_nil_iff] at hts
  obtain ⟨t, _, rfl, ht, u, _, rfl, hu, vs, _, rfl, hvs, xs, _, rfl, hxs, v, _, rfl, hv, rfl⟩ := hts
  simp only [List.length_append, List.length_cons, List.length_nil] at hn
  obtain ⟨m, rfl⟩ : ∃ m, n = m + 2 := ⟨n - 2, by omega⟩
  have hclose : binding (front (v :: rest)).word ≤ 0 := by
    rw [front_cons, hv]
    decide
  have hstep (n : Nat) (t : Token) (us : List Token) (ht : t.word ∈ [Word.operator ","]) :
      moreArguments (n + 1) (t :: us) = (do
        let (e, us) ← reader .expression n us
        let (es, us) ← moreArguments n us
        .ok (e :: es, us)) := by
    rw [moreArguments, if_pos (isAt_cons.2 (List.mem_singleton.1 ht))]
    rfl
  have hstop (n : Nat) : moreArguments (n + 1) (v :: rest) = .ok ([], rest) := by
    rw [moreArguments, isAt_eq_false_of_word hv (by decide)]
    show (expect .operator ")" (v :: rest) >>= _) = _
    rw [expect_cons hv]
    rfl
  obtain ⟨hmore, hfront⟩ := row_read (l := .expression) hstep hstop hclose (by decide) (by decide)
    (fun p hp => List.mem_singleton.2 (hjoints p hp)) hparts hxs (n := m) (by omega)
  have hread : reader .expression m (vs ++ (xs ++ v :: rest)) = .ok (e, xs ++ v :: rest) :=
    he vs _ m hvs hfront (by show 8 * ws.length + 5 ≤ m; omega)
  simp only [List.append_assoc, List.cons_append, List.nil_append]
  refine atom_call ht hu ?_
  rw [arguments, h.isAt_eq_false hvs (by decide)]
  show (reader .expression m (vs ++ (xs ++ v :: rest)) >>= _) = _
  rw [hread]
  show (moreArguments m (xs ++ v :: rest) >>= _) = _
  rw [hmore]
  rfl

theorem Read.brackets (he : Read .expression ws e) : Read .atom (.operator "(" :: (ws ++ [.operator ")"])) e := by
  intro ts rest n hts hrest hn
  simp only [List.map_eq_append_iff, List.map_eq_cons_iff, List.map_eq_nil_iff] at hts
  obtain ⟨⟨kind, value, position⟩, _, rfl, ht, us, _, rfl, hus, u, _, rfl, hu, rfl⟩ := hts
  cases ht
  simp only [List.length_append, List.length_cons, List.length_nil] at hn
  obtain ⟨m, rfl⟩ : ∃ m, n = m + 1 := ⟨n - 1, by omega⟩
  have hclose : binding (front (u :: rest)).word ≤ 0 := by
    rw [front_cons, hu]
    decide
  have hread : reader .expression m (us ++ u :: rest) = .ok (e, u :: rest) :=
    he us _ m hus hclose (by show 8 * ws.length + 5 ≤ m; omega)
  simp only [List.append_assoc, List.cons_append, List.nil_append]
  show (reader .expression m (us ++ u :: rest) >>= _) = _
  rw [hread]
  show (expect .operator ")" (u :: rest) >>= _) = _
  rw [expect_cons hu]
  rfl

/-! ### Every phrase is read -/

theorem Complete.below {c : Connective} (h : Complete (.below c) ws e) : Read (.below c) ws e := by
  cases c <;> exact h

theorem Derives.complete (h : Derives l ws e) : Complete l ws e := by
  -- on the derivation: each rule of the grammar is one way through the function of its level
  induction h with
  | chain h hjoints _ ih ihparts => exact Read.chain ih.below h.length_pos hjoints fun p hp => (ihparts p hp).below
  | not hw _ ih => exact Read.not hw ih
  | comparison h ih => exact Read.negation ih h
  | compare r _ _ ihl ihr => exact Read.compare r ihl ihr
  | operand _ ih => exact Read.comparison ih
  | negate _ ih => exact Read.negate ih
  | member h ih => exact ReadOn.operand ih h
  | field _ hkind ih => exact ReadOn.field ih hkind
  | item _ _ ih ihkey => exact ReadOn.item ih ihkey
  | atom h ih => exact ReadOn.atom ih h
  | number h => exact Read.number h
  | text s => exact Read.text s
  | constant h => exact Read.constant h
  | root r => exact Read.root r
  | call f => exact Read.call f
  | callWith f h hjoints _ ih ihparts => exact Read.callWith f ih h hjoints ihparts
  | brackets _ ih => exact Read.brackets ih

/-- An expression is read with its tree up to a word that binds to no expression. -/
theorem Derives.read {n : Nat} (h : Derives .expression ws e) (hts : ts.map Token.word = ws)
    (hrest : binding (front rest).word = 0) (hn : 8 * ws.length + 5 ≤ n) : orExpr n (ts ++ rest) = .ok (e, rest) :=
  h.complete ts rest n hts (Nat.le_of_eq hrest) hn

end Grammar
end FlowRules
