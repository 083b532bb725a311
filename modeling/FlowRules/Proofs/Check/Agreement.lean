import FlowRules.Proofs.Check.Answer
import FlowRules.Proofs.Condition.Printer
import FlowRules.Proofs.Number.Shortest
import FlowRules.Proofs.Run.Coherence
import FlowRules.Proofs.Value.Path

/-!
# Conditions and checks agree on numbers

A condition compares a number with a literal that its parser has read, and a check compares it with a target that is a
text.  Both read the number and the other side as the same two decimals, and compare these (`comparison_agrees`).
-/

namespace FlowRules

open Text Numeral

/-! ### The numbers that are compared -/

/-- Integers that are not too long to be written, and whatever else is a number. -/
inductive Value.IsNumber : Value → Prop
  | int {n : Int} (h : Decimal.digitCount n.natAbs ≤ maxDigits) : IsNumber (.int n)
  | decimal {d : Decimal} (h : d.isNaN = false) : IsNumber (.decimal d)
  | float {x : Binary64} (h : x.isNaN = false) : IsNumber (.float x)

/-- Conditions and checks take a value for the same decimal. -/
def Value.CountsAs (v : Value) (d : Decimal) : Prop :=
  d.isNaN = false ∧ Expr.decimal? v = .ok (some d) ∧ toDecimal v = .ok d

variable {v w : Value} {x y : Decimal} {n sign : String}

theorem toDecimal_of_text (hn : v.plainText = .ok n) (hread : Decimal.read? n = some x) (hdecimal : ∀ d, v ≠ .decimal d)
    (hbool : ∀ b, v ≠ .bool b) : toDecimal v = .ok x := by
  rw [toDecimal, hn]
  · simp only [bind, Except.bind, Decimal.read_trim, hread]
  · exact hdecimal
  · exact hbool

theorem read_decimalText (k : Int) : Decimal.read? (Numeral.text k) = some (Decimal.ofInt k) := by
  have hdenotes := Decimal.Denotes.whole (Word.isDigits_natDigits k.natAbs)
  rw [Decimal.read?, Numeral.toList_text, hdenotes.readChars?, digitsValue_natDigits]
  rfl

theorem countsAs_int {k : Int} (hk : Decimal.digitCount k.natAbs ≤ maxDigits) :
    (Value.int k).CountsAs (Decimal.ofInt k) := by
  have htext : (Value.int k).plainText = .ok (Numeral.text k) := writeInt_eq_text hk
  refine ⟨rfl, ?_, toDecimal_of_text htext (read_decimalText k) nofun nofun⟩
  show ((Value.int k).plainText >>= fun s => .ok (Decimal.read? s)) = _
  rw [htext, ← read_decimalText k]
  rfl

theorem countsAs_decimal (hx : x.isNaN = false) : (Value.decimal x).CountsAs x := ⟨hx, rfl, rfl⟩

/-- Both take a number for the decimal that its text denotes. -/
theorem Value.IsNumber.countsAs (hv : v.IsNumber) : ∃ d, v.CountsAs d := by
  cases hv with
  | @int k hk => exact ⟨_, countsAs_int hk⟩
  | decimal hd => exact ⟨_, countsAs_decimal hd⟩
  | @float z hz =>
    obtain ⟨d, hread, hd⟩ := Binary64.read_toText hz
    refine ⟨d, hd, ?_, toDecimal_of_text rfl hread nofun nofun⟩
    show Except.ok (Decimal.read? z.toText) = _
    rw [hread]

theorem Value.IsNumber.display (hv : v.IsNumber) : ∃ shown, v.display = .ok shown := by
  cases hv with
  | @int k hk => exact ⟨_, writeInt_eq_text hk⟩
  | decimal | float => exact ⟨_, rfl⟩

/-- The literal that a number is parsed as denotes the decimal that its text does. -/
theorem literal_countsAs (hn : Text.IsNumber n.toList) (hshort : '.' ∉ n.toList → n.length ≤ maxDigits) :
    ∃ a d, Parser.number n = .ok a ∧ (Value.atom a).CountsAs d ∧ toDecimal (.text n) = .ok d := by
  have htarget {cs : List Char} {c : Nat} {e : Int} (h : Decimal.Denotes cs c e) :
      toDecimal (.text (String.ofList cs)) = .ok (.finite false c e) := by
    refine toDecimal_of_text rfl ?_ nofun nofun
    rw [Decimal.read?, String.toList_ofList]
    exact @Decimal.Denotes.readChars? cs false c e h
  rw [← String.length_toList] at hshort
  rw [← String.ofList_toList (s := n)]
  generalize n.toList = cs at *
  cases hn with
  | whole hcs =>
    have hlength : cs.length ≤ maxDigits := hshort hcs.point_notMem
    have hcount : Decimal.digitCount (digitsValue cs) ≤ maxDigits :=
      Nat.le_trans ((Decimal.digitCount_le_iff (List.length_pos_iff.2 hcs.1)).2 (digitsValue_lt cs)) hlength
    refine ⟨.int (digitsValue cs), .finite false (digitsValue cs) 0, ?_, countsAs_int hcount, htarget (.whole hcs)⟩
    rw [Parser.number_whole hcs, if_neg (Nat.not_lt.2 hlength)]
  | fraction hcs hds =>
    exact ⟨_, _, Parser.number_fraction hcs, countsAs_decimal rfl, htarget (.fraction hcs hds.2)⟩

/-! ### Comparing decimals -/

/-- What the order of two numbers says on a relation; membership is not one of numbers. -/
def Relation.holds : Relation → Ordering → Bool
  | equal, o => o == .eq
  | different, o => o != .eq
  | ordered c, o => c.holds o
  | within, _ | outside, _ => false

/-- The signs of the six comparisons, with the relation that a condition takes each for and the operator that a check
does. -/
def comparisons : List (String × Relation × Operator) :=
  [("==", .equal, .equals), ("!=", .different, .notEquals), ("<", .ordered .lt, .lessThan),
    ("<=", .ordered .le, .lessThanOrEqual), (">", .ordered .gt, .greaterThan),
    (">=", .ordered .ge, .greaterThanOrEqual)]

/-- How conditions and checks take a sign. -/
structure IsComparison (sign : String) (r : Relation) (op : Operator) : Prop where
  lexical : sign ∈ operators
  words : r.words = [.operator sign]
  leftFirst : r.containerFirst = false
  spelling : Operator.ofSpelling? (some sign) = some op
  compares : op.key ∉ Operator.nullTests

section

variable {o : Ordering} {r : Relation} {op : Operator} {cs : Cursors}

theorem isComparison (hsign : (sign, r, op) ∈ comparisons) : IsComparison sign r op := by
  simp only [comparisons, List.mem_cons, Prod.mk.injEq, List.not_mem_nil, or_false] at hsign
  rcases hsign with ⟨rfl, rfl, rfl⟩ | ⟨rfl, rfl, rfl⟩ | ⟨rfl, rfl, rfl⟩ | ⟨rfl, rfl, rfl⟩ | ⟨rfl, rfl, rfl⟩ |
    ⟨rfl, rfl, rfl⟩ <;> exact ⟨by decide, rfl, rfl, by decide, by decide⟩

theorem exists_compare (hx : x.isNaN = false) (hy : y.isNaN = false) : ∃ o, Decimal.compare? x y = some o := by
  cases x with
  | nan => cases hx
  | finite | infinite =>
    cases y with
    | nan => cases hy
    | finite | infinite => exact ⟨_, rfl⟩

theorem equals_of_compare (hx : x.isNaN = false) (hy : y.isNaN = false) (ho : Decimal.compare? x y = some o) :
    Fault.ofDecimal (x.equals y) = .ok (o == .eq) := by
  have hsignaling {z : Decimal} (hz : z.isNaN = false) : z.isSignaling = false := by
    cases z with
    | nan => cases hz
    | finite | infinite => rfl
  rw [Decimal.equals, hsignaling hx, hsignaling hy, ho]
  rfl

theorem order_of_compare (ho : Decimal.compare? x y = some o) : Fault.ofDecimal (x.order y) = .ok o := by
  rw [Decimal.order, ho]
  rfl

theorem Value.CountsAs.not_null (h : v.CountsAs x) : v.isNull = false := by
  rcases hnull : v.isNull with _ | _
  · rfl
  · unfold Value.isNull at hnull
    split at hnull
    · cases h.2.1
    · cases hnull

theorem decimals?_countsAs (hv : v.CountsAs x) (hw : w.CountsAs y) : Expr.decimals? v w = .ok (some (x, y)) := by
  rw [Expr.decimals?, hv.2.1, hw.2.1]
  rfl

theorem valuesEqual_countsAs (hv : v.CountsAs x) (hw : w.CountsAs y) (ho : Decimal.compare? x y = some o) :
    Expr.valuesEqual v w = .ok (o == .eq) := by
  unfold Expr.valuesEqual
  rw [decimals?_countsAs hv hw]
  exact equals_of_compare hv.1 hw.1 ho

theorem valuesOrdered_countsAs (hv : v.CountsAs x) (hw : w.CountsAs y) (ho : Decimal.compare? x y = some o)
    (c : Comparison) : Expr.valuesOrdered c v w = .ok (c.holds o) := by
  rw [Expr.valuesOrdered, hv.not_null, hw.not_null, decimals?_countsAs hv hw]
  show (Fault.ofDecimal (x.order y) >>= fun o => .ok (c.holds o)) = _
  rw [order_of_compare ho]
  rfl

theorem relate_countsAs (hv : v.CountsAs x) (hw : w.CountsAs y) (ho : Decimal.compare? x y = some o)
    (hr : r.containerFirst = false) : (Expr.relate r v w).run cs = (.ok (r.holds o), cs) := by
  cases r with
  | equal | different =>
    rw [Expr.relate, valuesEqual_countsAs hv hw ho]
    rfl
  | ordered c =>
    rw [Expr.relate, valuesOrdered_countsAs hv hw ho c]
    rfl
  | within | outside => cases hr

theorem apply_countsAs (make : Constructors) (hnumber : v.IsNumber) (hv : v.CountsAs x)
    (hn : toDecimal (.text n) = .ok y) (hy : y.isNaN = false) (ho : Decimal.compare? x y = some o)
    (hsign : (sign, r, op) ∈ comparisons) :
    (op.apply make v (some n) none).run cs = (.ok (r.holds o), cs) := by
  have hequal : Operator.equalsTarget make v (some n) none = .ok (o == .eq) := by
    have hdecimals : Operator.equalsTarget make v (some n) none =
        (toDecimal v >>= fun x => toDecimal (.text n) >>= fun y => Fault.ofDecimal (x.equals y)) := by
      cases hnumber <;> rfl
    rw [hdecimals, hv.2.2, hn]
    exact equals_of_compare hv.1 hy ho
  have horder : Operator.orderTarget v (some n) = .ok o := by
    show (toDecimal v >>= fun x => toDecimal (.text n) >>= fun y => Fault.ofDecimal (x.order y)) = _
    rw [hv.2.2, hn]
    exact order_of_compare ho
  simp only [comparisons, List.mem_cons, Prod.mk.injEq, List.not_mem_nil, or_false] at hsign
  rcases hsign with ⟨-, rfl, rfl⟩ | ⟨-, rfl, rfl⟩ | ⟨-, rfl, rfl⟩ | ⟨-, rfl, rfl⟩ | ⟨-, rfl, rfl⟩ | ⟨-, rfl, rfl⟩
  · rw [Operator.apply, hequal]
    rfl
  · rw [Operator.apply, hequal]
    rfl
  all_goals
    rw [Operator.apply, horder]
    rfl

end

/-! ### The condition -/

/-- The condition that compares the field `v` with a number. -/
def comparisonText (sign n : String) : String := "flow.v " ++ sign ++ " " ++ n

example : comparisonText "<=" "12.5" = "flow.v <= 12.5" := by decide

/-- Its expression. -/
def comparisonTree (r : Relation) (a : Atom) : Expr := .compare r (.attribute (.root .flow) "v") (.literal a)

section

variable {a : Atom} {r : Relation} {op : Operator}

theorem laid_comparisonText (hsign : (sign, r, op) ∈ comparisons) (hn : Text.IsNumber n.toList) :
    Word.Laid (comparisonText sign n).toList
      [.name "flow", .operator ".", .name "v", .operator sign, ⟨.number, n⟩] := by
  have hlexical : (Word.operator sign).Lexical := Word.lexical_operator (isComparison hsign).lexical
  have hchars : (comparisonText sign n).toList =
      "flow".toList ++ '.' :: ("v".toList ++ ' ' :: (sign.toList ++ ' ' :: n.toList)) := by
    rw [comparisonText, String.toList_append, String.toList_append, String.toList_append, List.append_assoc,
      List.append_assoc]
    rfl
  have hnumber : Word.Laid n.toList [⟨.number, n⟩] := by
    have hlaid := Word.Laid.numeral hn spaced_nil .nil
    rwa [List.append_nil] at hlaid
  have hbehind : Word.Laid (sign.toList ++ ' ' :: n.toList) [.operator sign, ⟨.number, n⟩] :=
    .word (hlexical.fits (spaced_cons _)) (.blank rfl hnumber)
  rw [hchars]
  refine .name (isName_of_all rfl rfl) (by decide) (fun c hc => ?_) (.mark (by decide)
    (.name (isName_of_all rfl rfl) (by decide) (spaced_cons _).behindName (.blank rfl hbehind)))
  cases hc
  rfl

theorem ofText_comparison (hsign : (sign, r, op) ∈ comparisons) (hn : Text.IsNumber n.toList)
    (ha : Parser.number n = .ok a) : Expr.ofText (comparisonText sign n) = .ok (comparisonTree r a) := by
  have hfield : Grammar.Derives .operand [.name "flow", .operator ".", .name "v"] (.attribute (.root .flow) "v") :=
    .member (.field (.atom (.root .flow)) (.inl rfl))
  have hcompare := Grammar.Derives.compare r hfield (.member (.atom (.number ha)))
  rw [(isComparison hsign).words] at hcompare
  exact (laid_comparisonText hsign hn).parsed (.ofComparison hcompare)

theorem not_blank_comparison : ConditionCache.isBlankCondition (some (comparisonText sign n)) = false := by
  show Text.isBlankText (comparisonText sign n) = false
  rw [Text.isBlankText, comparisonText, String.append_assoc, String.append_assoc, String.toList_append]
  rfl

/-- The value of the condition is what the order of the two decimals says. -/
theorem verdict_comparison {o : Ordering} {id : Identity} {state : Value} {executionId : String} {cs : Cursors}
    (hsign : (sign, r, op) ∈ comparisons) (htree : Expr.ofText (comparisonText sign n) = .ok (comparisonTree r a))
    (hv : v.CountsAs x) (ha : (Value.atom a).CountsAs y) (ho : Decimal.compare? x y = some o) :
    Condition.verdict ⟨.dict id [(.text "v", v)], state, executionId⟩ (some (comparisonText sign n)) cs =
      (.ok (r.holds o), cs) := by
  generalize henv : Environment.mk (.dict id [(.text "v", v)]) state executionId = env
  have hleft : (Expr.eval env (.attribute (.root .flow) "v")).run cs = (.ok v, cs) := by
    subst henv
    rfl
  have hright : (Expr.eval env (.literal a)).run cs = (.ok (.atom a), cs) := rfl
  have hrelate : (Expr.relate r v (.atom a)).run cs = (.ok (r.holds o), cs) :=
    relate_countsAs hv ha ho (isComparison hsign).leftFirst
  have heval : (Expr.eval env (comparisonTree r a)).run cs = (.ok (.bool (r.holds o)), cs) := by
    rw [comparisonTree, Expr.eval, (isComparison hsign).leftFirst, if_neg Bool.false_ne_true, Eval.run_bind_ok hleft,
      Eval.run_bind_ok hright, Eval.run_bind_ok hrelate]
    rfl
  have htry : (tryCatchThe Fault (Expr.eval env (comparisonTree r a))
      fun f => throw (Condition.wrap (comparisonText sign n) f)).run cs = (.ok (.bool (r.holds o)), cs) := by
    rw [Eval.run_tryCatch, heval]
  unfold Condition.verdict
  rw [not_blank_comparison]
  simp only [Option.getD_some, htree, Condition.holds]
  exact Eval.run_bind_ok htry

end

/-! ### Agreement -/

/-- A condition that compares a number of the flow object with a literal is as true as the check of the number against
the text of the literal, which is answered without a note. -/
theorem comparison_agrees (make : Constructors) (id : Identity) (state : Value) (executionId : String) (cs : Cursors)
    {q : Nat} {r : Relation} {op : Operator} (hv : v.IsNumber)
    (hn : Token.ofText n = .ok [⟨.number, n, 0⟩, ⟨.finish, "", q⟩]) (hshort : '.' ∉ n.toList → n.length ≤ maxDigits)
    (hsign : (sign, r, op) ∈ comparisons) :
    ∃ b, Condition.verdict ⟨.dict id [(.text "v", v)], state, executionId⟩ (some (comparisonText sign n)) cs =
        (.ok b, cs) ∧
      (check make v (some sign) (some n) none).run cs = (.ok ⟨b, none⟩, cs) := by
  have hnumber : Text.IsNumber n.toList := by
    -- what is lexed as a number is written as one
    obtain ⟨body, t, hts, -, hbody⟩ := Grammar.exists_body hn
    have hmem : (⟨.number, n, 0⟩ : Token) ∈ body := by
      rcases body with _ | ⟨u, body⟩
      · cases hts
      · obtain ⟨rfl, -⟩ := List.cons.inj hts
        exact List.mem_cons_self
    exact (hbody _ hmem).number rfl
  obtain ⟨x, hx⟩ := hv.countsAs
  obtain ⟨a, y, ha, hy, htarget⟩ := literal_countsAs hnumber hshort
  obtain ⟨o, ho⟩ := exists_compare hx.1 hy.1
  obtain ⟨shown, hshown⟩ := hv.display
  refine ⟨r.holds o, verdict_comparison hsign (ofText_comparison hsign hnumber ha) hx hy ho, ?_⟩
  exact check_of_apply make (some n) none cs hshown (isComparison hsign).spelling (isComparison hsign).compares
    (apply_countsAs make hv hx htarget hy.1 ho hsign)

private def twelveAndHalf : Binary64 := ⟨false, ⟨1026, by decide⟩, ⟨2533274790395904, by decide⟩⟩

/-- The floating-point number `12.5` and a literal in digits of two scripts. -/
theorem comparison_agrees_scripts :
    (Value.float twelveAndHalf).IsNumber ∧
      Token.ofText "1٢.٥" = .ok [⟨.number, "1٢.٥", 0⟩, ⟨.finish, "", 4⟩] ∧
      ('.' ∉ "1٢.٥".toList → "1٢.٥".length ≤ maxDigits) ∧ ("<=", .ordered .le, .lessThanOrEqual) ∈ comparisons ∧
      ∃ b, Condition.verdict ⟨.dict none [(.text "v", .float twelveAndHalf)], .null, ""⟩
          (some (comparisonText "<=" "1٢.٥")) [] = (.ok b, []) ∧
        (check default (.float twelveAndHalf) (some "<=") (some "1٢.٥") none).run [] =
          (.ok ⟨b, none⟩, []) := by
  have hv : (Value.float twelveAndHalf).IsNumber := .float rfl
  have hn : Token.ofText "1٢.٥" = .ok [⟨.number, "1٢.٥", 0⟩, ⟨.finish, "", 4⟩] := rfl
  have hshort : '.' ∉ "1٢.٥".toList → "1٢.٥".length ≤ maxDigits := fun h => absurd (by decide) h
  have hsign : ("<=", Relation.ordered .le, Operator.lessThanOrEqual) ∈ comparisons := by simp [comparisons]
  exact ⟨hv, hn, hshort, hsign, comparison_agrees default none .null "" [] hv hn hshort hsign⟩

end FlowRules
