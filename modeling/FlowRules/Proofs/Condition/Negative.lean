import FlowRules.Proofs.Condition.TotalOrder
import FlowRules.Proofs.Number.Negation

/-!
# Numbers under a minus sign

A number in a condition keeps all its digits, but a minus sign before it is a change of sign that is computed.  So it
is exact for integers, and for decimals exactly if their value has few enough digits at high enough places
(`negative_literal_exact_iff`).
-/

namespace FlowRules

open Numeral

/-! ### Exact values -/

/-- The ratio that the digits around a point denote. -/
def Text.amount (s : String) : ℚ :=
  match cutAt? '.' s with
  | some (whole, fraction) => digitsValue whole.toList + digitsValue fraction.toList / 10 ^ fraction.length
  | none => digitsValue s.toList

/-- The integers and the decimals. -/
inductive Value.IsExact : Value → Prop
  | int (n : Int) : IsExact (.int n)
  | decimal (d : Decimal) : IsExact (.decimal d)

/-- The value is an integer or a decimal with just this value. -/
inductive Value.IsWorth (r : ℚ) : Value → Prop
  | int {n : Int} (h : (n : ℚ) = r) : IsWorth r (.int n)
  | decimal {d : Decimal} (h : d.value? = some ((r : WithTop ℚ) : Extended)) : IsWorth r (.decimal d)

variable {v w : Value} {r : ℚ} {n : String} {a : Atom}

theorem Value.isWorth_int {k : Int} : (Value.int k).IsWorth r ↔ (k : ℚ) = r := by
  constructor
  · rintro ⟨h⟩
    exact h
  · exact .int

theorem Value.isWorth_decimal {d : Decimal} :
    (Value.decimal d).IsWorth r ↔ d.value? = some ((r : WithTop ℚ) : Extended) := by
  constructor
  · rintro (_ | h)
    exact h
  · exact .decimal

theorem digitCount_le_of_abs_lt {k : Int} (h : |(k : ℚ)| < 10 ^ maxDigits) :
    Decimal.digitCount k.natAbs ≤ maxDigits := by
  rw [← Int.cast_abs, Int.abs_eq_natAbs] at h
  refine (Decimal.digitCount_le_iff (by decide)).2 ?_
  exact_mod_cast h

/-- A value that is worth so little counts as a decimal of its worth. -/
theorem Value.IsWorth.standsAt (h : w.IsWorth r) (hr : |r| < 10 ^ maxDigits) :
    w.StandsAt ((r : WithTop ℚ) : Extended) := by
  cases h with
  | @int k h =>
    subst h
    exact ⟨_, countsAs_int (digitCount_le_of_abs_lt hr), Decimal.value?_ofInt k⟩
  | @decimal d h =>
    have hd : d.isNaN = false := by
      rw [← Bool.not_eq_true, ← Decimal.value?_eq_none, h]
      exact nofun
    exact ⟨d, countsAs_decimal hd, h⟩

/-- Exactly the values of the same worth equal such a value, be they not a number or too long to be written. -/
theorem valuesEqual_iff_isWorth (hw : w.IsWorth r) (hr : |r| < 10 ^ maxDigits) (hv : v.IsExact) :
    Expr.valuesEqual w v = .ok true ↔ v.IsWorth r := by
  obtain ⟨x, ⟨-, hx, -⟩, hvalue⟩ := hw.standsAt hr
  have hasDecimal {y : Decimal} (hy : Expr.decimal? v = .ok (some y)) :
      Expr.valuesEqual w v = .ok true ↔ y.value? = some ((r : WithTop ℚ) : Extended) := by
    have hequal : Expr.valuesEqual w v = Fault.ofDecimal (x.equals y) := by
      unfold Expr.valuesEqual Expr.decimals?
      rw [hx, hy]
      rfl
    rw [hequal, ← Decimal.equals_iff hvalue]
    rcases x.equals y with f | b <;> simp [Fault.ofDecimal]
  cases hv with
  | int k =>
    rw [Value.isWorth_int]
    by_cases hk : Decimal.digitCount k.natAbs ≤ maxDigits
    · rw [hasDecimal (countsAs_int hk).2.1, Decimal.value?_ofInt, Option.some.injEq, WithBot.coe_inj, WithTop.coe_inj]
    · -- the comparison fails at an integer that cannot be written, which is worth more than what it is compared with
      have hlong : (Value.int k).plainText = .error .tooLong :=
        Value.display_oversized (.int (Nat.not_le.1 hk))
      have hfault : Expr.valuesEqual w (.int k) = .error .tooLong := by
        have hdecimal : Expr.decimal? (.int k) = .error .tooLong := by
          show ((Value.int k).plainText >>= fun s => .ok (Decimal.read? s)) = _
          rw [hlong]
          rfl
        unfold Expr.valuesEqual Expr.decimals?
        rw [hx, hdecimal]
        rfl
      refine iff_of_false (fun h => ?_) fun h => ?_
      · rw [hfault] at h
        cases h
      · rw [← h] at hr
        exact hk (digitCount_le_of_abs_lt hr)
  | decimal d =>
    rw [Value.isWorth_decimal]
    exact hasDecimal rfl

/-! ### Literals -/

/-- How a number is read: with a point in it as a decimal, else as an integer. -/
inductive Parser.ReadsAs (n : String) : Atom → Prop
  | whole {k : Nat} (hpoint : '.' ∉ n.toList) (hvalue : Text.amount n = k) : ReadsAs n (.int k)
  | fraction {c : Nat} {e : Int} (hpoint : '.' ∈ n.toList) (hplace : e + Decimal.digitCount c ≤ maxDigits)
    (hvalue : Text.amount n = c * 10 ^ e) : ReadsAs n (.decimal (.finite false c e))

theorem Text.amount_whole {cs : List Char} (hcs : IsDigits cs) : amount (String.ofList cs) = digitsValue cs := by
  rw [amount, cutAt?_eq_none hcs.point_notMem, String.toList_ofList]

theorem Text.amount_fraction {cs ds : List Char} (hcs : IsDigits cs) :
    amount (String.ofList (cs ++ '.' :: ds)) = digitsValue (cs ++ ds) * 10 ^ (-ds.length : Int) := by
  rw [amount, cutAt?_append hcs.point_notMem, digitsValue_append, zpow_neg, zpow_natCast]
  simp only [String.toList_ofList, String.length_ofList]
  push_cast
  field_simp

/-- A number with so few digits before the point is read as what its digits denote, which is less than this. -/
theorem Parser.exists_readsAs (hn : Text.IsNumber n.toList)
    (hshort : (n.toList.takeWhile (· ≠ '.')).length ≤ maxDigits) :
    ∃ a, Parser.number n = .ok a ∧ Parser.ReadsAs n a ∧ |Text.amount n| < 10 ^ maxDigits := by
  rw [← String.ofList_toList (s := n)]
  generalize n.toList = cs at *
  have hpow {k : Nat} (hk : k ≤ maxDigits) : (10 : ℚ) ^ k ≤ 10 ^ maxDigits := pow_le_pow_right₀ (by norm_num) hk
  have hbefore {cs : List Char} (hcs : Text.IsDigits cs) : ∀ c ∈ cs, decide (c ≠ '.') = true := fun c hc =>
    decide_eq_true (ne_of_mem_of_not_mem hc hcs.point_notMem)
  cases hn with
  | whole hcs =>
    have hlength : cs.length ≤ maxDigits := by
      rwa [List.takeWhile_eq_self_iff.2 (hbefore hcs)] at hshort
    have hamount := Text.amount_whole hcs
    refine ⟨.int (Text.digitsValue cs), ?_, .whole ?_ hamount, ?_⟩
    · rw [Parser.number_whole hcs, if_neg (Nat.not_lt.2 hlength)]
    · rw [String.toList_ofList]
      exact hcs.point_notMem
    · have hlt : (Text.digitsValue cs : ℚ) < 10 ^ cs.length := by exact_mod_cast Text.digitsValue_lt cs
      rw [hamount, Nat.abs_cast]
      exact hlt.trans_le (hpow hlength)
  | @fraction cs ds hcs hds =>
    have hlength : cs.length ≤ maxDigits := by
      rwa [List.takeWhile_append_of_pos (hbefore hcs), List.takeWhile_cons_of_neg (by simp), List.append_nil] at hshort
    have hamount := @Text.amount_fraction cs ds hcs
    have hcount : Decimal.digitCount (Text.digitsValue (cs ++ ds)) ≤ (cs ++ ds).length :=
      (Decimal.digitCount_le_iff (List.length_pos_iff.2 (List.append_ne_nil_of_left_ne_nil hcs.1 ds))).2
        (Text.digitsValue_lt _)
    rw [List.length_append] at hcount
    refine ⟨_, Parser.number_fraction hcs, .fraction ?_ (by omega) hamount, ?_⟩
    · rw [String.toList_ofList]
      simp
    · have hlt : (Text.digitsValue (cs ++ ds) : ℚ) < 10 ^ (cs.length + ds.length) := by
        rw [← List.length_append]
        exact_mod_cast Text.digitsValue_lt (cs ++ ds)
      rw [hamount, abs_of_nonneg (by positivity), zpow_neg, zpow_natCast, ← div_eq_mul_inv,
        div_lt_iff₀ (by positivity)]
      calc (Text.digitsValue (cs ++ ds) : ℚ) < 10 ^ (cs.length + ds.length) := hlt
        _ = 10 ^ cs.length * 10 ^ ds.length := pow_add _ _ _
        _ ≤ 10 ^ maxDigits * 10 ^ ds.length := mul_le_mul_of_nonneg_right (hpow hlength) (by positivity)

theorem Value.isWorth_finite {t : Bool} {q : Nat} {f : Int} :
    (Value.decimal (.finite t q f)).IsWorth r ↔ Decimal.ratio t q f = r := by
  rw [isWorth_decimal, Decimal.value?_finite, Option.some.injEq, WithBot.coe_inj, WithTop.coe_inj]

theorem Parser.ReadsAs.isWorth (h : Parser.ReadsAs n a) : (Value.atom a).IsWorth (Text.amount n) := by
  cases h with
  | whole hpoint hvalue => exact .int hvalue.symm
  | fraction hpoint hplace hvalue => exact Value.isWorth_finite.2 hvalue.symm

theorem negated_decimal {x y : Decimal} (h : x.negate = .ok y) : Expr.negated (.decimal x) = .ok (.decimal y) := by
  show (Fault.ofDecimal x.negate >>= fun z => Except.ok (Value.decimal z)) = _
  rw [h]
  rfl

/-- The opposite of a literal is exact for integers and what can be computed, and if it is, so is the opposite of it. -/
theorem Parser.ReadsAs.negated (h : Parser.ReadsAs n a) :
    ∃ b c : Atom, Expr.negated (.atom a) = .ok (.atom b) ∧ Expr.negated (.atom b) = .ok (.atom c) ∧
      ((Value.atom b).IsWorth (-Text.amount n) ↔ '.' ∉ n.toList ∨ Decimal.IsComputed (Text.amount n)) ∧
      ((Value.atom b).IsWorth (-Text.amount n) → (Value.atom c).IsWorth (Text.amount n)) := by
  cases h with
  | @whole k hpoint hvalue =>
    have hopposite : (Value.int (-k)).IsWorth (-Text.amount n) := .int (by rw [hvalue]; push_cast; rfl)
    have htwice : (Value.int (- -k)).IsWorth (Text.amount n) := .int (by rw [hvalue]; simp)
    exact ⟨.int (-k), .int (- -k), rfl, rfl, iff_of_true hopposite (.inl hpoint), fun _ => htwice⟩
  | @fraction k e hpoint hplace hvalue =>
    have hbelow : e + Decimal.digitCount k + Decimal.precision ≤ Decimal.maxPlace := by
      unfold maxDigits at hplace
      unfold Decimal.precision Decimal.maxPlace
      omega
    obtain ⟨t, q, f, hnegate, hq, hleast, hf, hexact⟩ := Decimal.negate_spec false hbelow
    have hbelow' : f + Decimal.digitCount q + Decimal.precision ≤ Decimal.maxPlace := by
      have hcount : Decimal.digitCount q ≤ Decimal.precision := (Decimal.digitCount_le_iff (by decide)).2 hq
      unfold maxDigits at hplace
      unfold Decimal.precision Decimal.maxPlace at *
      omega
    obtain ⟨t', q', f', hnegate', -, -, -, hexact'⟩ := Decimal.negate_spec t hbelow'
    refine ⟨.decimal (.finite t q f), .decimal (.finite t' q' f'), negated_decimal hnegate, negated_decimal hnegate',
      ?_, fun hopposite => ?_⟩
    · have hratio : Decimal.ratio false k e = Text.amount n := hvalue.symm
      rw [Value.isWorth_finite, ← hratio, hexact, hratio, hvalue]
      exact (or_iff_right (not_not.2 hpoint)).symm
    · -- the first opposite can be computed, so its own opposite is exact
      rw [Value.isWorth_finite] at hopposite ⊢
      rw [hexact'.2 ⟨q, f, hq, hleast, rfl⟩, hopposite, neg_neg]

/-! ### Conditions -/

/-- The expression has this value, whatever it is evaluated against. -/
def Expr.HasValue (e : Expr) (v : Value) : Prop :=
  ∀ (env : Environment) (cs : Cursors), (e.eval env).run cs = (.ok v, cs)

/-- The text stands for an expression with this value. -/
def Condition.Yields (s : String) (v : Value) : Prop := ∃ e, Expr.ofText s = .ok e ∧ e.HasValue v

/-- A text has one value: it can be evaluated against nothing. -/
theorem Condition.Yields.unique {s : String} (hv : Condition.Yields s v) (hw : Condition.Yields s w) : v = w := by
  obtain ⟨e, he, hvalue⟩ := hv
  obtain ⟨e', he', hvalue'⟩ := hw
  obtain rfl : e = e' := Except.ok.inj (he.symm.trans he')
  have hsame := (hvalue ⟨.null, .null, ""⟩ []).symm.trans (hvalue' ⟨.null, .null, ""⟩ [])
  exact Except.ok.inj (Prod.mk.inj hsame).1

theorem Expr.hasValue_literal (a : Atom) : (Expr.literal a).HasValue (.atom a) := fun _ _ => rfl

theorem Expr.HasValue.negate {e : Expr} (h : e.HasValue v) (hw : Expr.negated v = .ok w) :
    (Expr.negate e).HasValue w := by
  intro env cs
  rw [Expr.eval, Eval.run_bind_ok (h env cs), hw]
  rfl

/-- A condition is true if what is asked is answered by yes. -/
theorem Condition.verdict_iff {s : String} {tree : Expr} {env : Environment} {cs ds : Cursors}
    {answer : Except Fault Bool} (hs : Expr.ofText s = .ok tree)
    (hblank : ConditionCache.isBlankCondition (some s) = false)
    (htree : (tree.eval env).run cs = (answer.map .bool, ds)) :
    (Condition.verdict env (some s) cs).1 = .ok true ↔ answer = .ok true := by
  unfold Condition.verdict
  rw [hblank]
  simp only [Bool.false_eq_true, if_false, Option.getD_some, hs, Condition.holds]
  rw [Eval.run_bind, Eval.run_tryCatch, htree]
  cases answer with
  | error f => exact iff_of_false (by rintro ⟨⟩) (by rintro ⟨⟩)
  | ok b => exact Iff.rfl

section

variable {b : Atom}

theorem derives_number (ha : Parser.number n = .ok a) : Grammar.Derives .operand [⟨.number, n⟩] (.literal a) :=
  .member (.atom (.number ha))

theorem yields_number (hn : Text.IsNumber n.toList) (ha : Parser.number n = .ok a) : Condition.Yields n (.atom a) := by
  have hlaid : Word.Laid (n.toList ++ []) [⟨.number, n⟩] := .numeral hn spaced_nil .nil
  rw [List.append_nil] at hlaid
  exact ⟨_, hlaid.parsed (.ofComparison (.operand (derives_number ha))), Expr.hasValue_literal a⟩

theorem laid_negative {rest : List Char} {ws : List Word} (hn : Text.IsNumber n.toList) (hrest : Spaced rest)
    (h : Word.Laid rest ws) : Word.Laid ('-' :: (n.toList ++ rest)) (.operator "-" :: ⟨.number, n⟩ :: ws) :=
  .mark (by decide) (.numeral hn hrest h)

theorem yields_negative (hn : Text.IsNumber n.toList) (ha : Parser.number n = .ok a)
    (hb : Expr.negated (.atom a) = .ok (.atom b)) : Condition.Yields ("-" ++ n) (.atom b) := by
  have hlaid : Word.Laid ("-" ++ n).toList [.operator "-", ⟨.number, n⟩] := by
    rw [String.toList_append, ← List.append_nil n.toList]
    exact laid_negative hn spaced_nil .nil
  exact ⟨_, hlaid.parsed (.ofComparison (.operand (.negate (derives_number ha)))),
    (Expr.hasValue_literal a).negate hb⟩

theorem yields_twice {c : Atom} (hn : Text.IsNumber n.toList) (ha : Parser.number n = .ok a)
    (hb : Expr.negated (.atom a) = .ok (.atom b)) (hc : Expr.negated (.atom b) = .ok (.atom c)) :
    Condition.Yields ("- -" ++ n) (.atom c) := by
  have hlaid : Word.Laid ("- -" ++ n).toList [.operator "-", .operator "-", ⟨.number, n⟩] := by
    rw [String.toList_append, ← List.append_nil n.toList]
    exact .mark (by decide) (.blank rfl (laid_negative hn spaced_nil .nil))
  exact ⟨_, hlaid.parsed (.ofComparison (.operand (.negate (.negate (derives_number ha))))),
    ((Expr.hasValue_literal a).negate hb).negate hc⟩

/-! ### The comparison -/

theorem laid_comparedField :
    Word.Laid " == flow.v".toList [.operator "==", .name "flow", .operator ".", .name "v"] := by
  have hv : Word.Laid ("v".toList ++ []) [.name "v"] := .name (Text.isName_of_all rfl rfl) (by decide) nofun .nil
  have hflow : Word.Laid ("flow".toList ++ '.' :: ("v".toList ++ [])) [.name "flow", .operator ".", .name "v"] := by
    refine .name (Text.isName_of_all rfl rfl) (by decide) (fun c hc => ?_) (.mark (by decide) hv)
    cases hc
    rfl
  have hsign : (Word.operator "==").Lexical := Word.lexical_operator (by decide)
  exact .blank rfl (.word (hsign.fits (spaced_cons _)) (.blank rfl hflow))

/-- The condition that compares a number under a minus sign with the field `v` asks whether the values are equal. -/
theorem compared_iff {env : Environment} {cs : Cursors} (hn : Text.IsNumber n.toList) (ha : Parser.number n = .ok a)
    (hb : Expr.negated (.atom a) = .ok (.atom b)) (hv : env.flow.field? "v" = .ok (some v)) :
    (Condition.verdict env (some ("-" ++ n ++ " == flow.v")) cs).1 = .ok true ↔
      Expr.valuesEqual (.atom b) v = .ok true := by
  have hlaid : Word.Laid ("-" ++ n ++ " == flow.v").toList
      [.operator "-", ⟨.number, n⟩, .operator "==", .name "flow", .operator ".", .name "v"] := by
    rw [String.toList_append, String.toList_append]
    exact laid_negative hn (spaced_cons _) laid_comparedField
  have hfield : Grammar.Derives .operand [.name "flow", .operator ".", .name "v"] (.attribute (.root .flow) "v") :=
    .member (.field (.atom (.root .flow)) (.inl rfl))
  have hparsed := hlaid.parsed (.ofComparison (.compare .equal (.negate (derives_number ha)) hfield))
  have hblank : ConditionCache.isBlankCondition (some ("-" ++ n ++ " == flow.v")) = false := by
    show Text.isBlankText ("-" ++ n ++ " == flow.v") = false
    rw [Text.isBlankText, String.toList_append, String.toList_append]
    rfl
  have hright : (Expr.eval env (.attribute (.root .flow) "v")).run cs = (.ok v, cs) := by
    have hflow : (Expr.eval env (.root .flow)).run cs = (.ok env.flow, cs) := rfl
    rw [Expr.eval, Eval.run_bind_ok hflow, Expr.fieldOf, hv]
    rfl
  have hleft := ((Expr.hasValue_literal a).negate hb) env cs
  exact Condition.verdict_iff hparsed hblank (Relation.answers_equal (.atom b) v env _ _ cs cs cs hleft hright)

end

/-! ### Exactness -/

/-- A minus sign before a number stands for the exact opposite: as a value, in a comparison with an integer or a
decimal, and under a second minus sign. -/
structure NegatesExactly (n : String) : Prop where
  opposite : ∃ v, Condition.Yields ("-" ++ n) v ∧ v.IsWorth (-Text.amount n)
  compared : ∀ (env : Environment) (cs : Cursors) (v : Value), v.IsExact → env.flow.field? "v" = .ok (some v) →
    ((Condition.verdict env (some ("-" ++ n ++ " == flow.v")) cs).1 = .ok true ↔ v.IsWorth (-Text.amount n))
  twice : ∃ v, Condition.Yields ("- -" ++ n) v ∧ v.IsWorth (Text.amount n)

/-- A number with no more digits before the point than integers may have is read as what its digits denote, and a minus
sign before it is exact if and only if it is an integer or can be computed. -/
theorem negative_literal_exact_iff {q : Nat} (hn : Token.ofText n = .ok [⟨.number, n, 0⟩, ⟨.finish, "", q⟩])
    (hshort : (n.toList.takeWhile (· ≠ '.')).length ≤ maxDigits) :
    (∃ v, Condition.Yields n v ∧ v.IsWorth (Text.amount n)) ∧
      (NegatesExactly n ↔ '.' ∉ n.toList ∨ Decimal.IsComputed (Text.amount n)) := by
  have hnumber : Text.IsNumber n.toList := Grammar.isNumber_of_ofText hn
  obtain ⟨a, ha, hreads, hbound⟩ := Parser.exists_readsAs hnumber hshort
  obtain ⟨b, c, hb, hc, hexact, htwice⟩ := hreads.negated
  refine ⟨⟨.atom a, yields_number hnumber ha, hreads.isWorth⟩, ?_⟩
  rw [← hexact]
  constructor
  · intro h
    obtain ⟨v, hyields, hworth⟩ := h.opposite
    rwa [hyields.unique (yields_negative hnumber ha hb)] at hworth
  · intro hworth
    rw [← abs_neg] at hbound
    exact {
      opposite := ⟨.atom b, yields_negative hnumber ha hb, hworth⟩
      compared := fun env cs v hv hfield =>
        (compared_iff hnumber ha hb hfield).trans (valuesEqual_iff_isWorth hworth hbound hv)
      twice := ⟨.atom c, yields_twice hnumber ha hb hc, htwice hworth⟩ }

/-- A number in digits of two scripts. -/
theorem negative_literal_exact_scripts :
    Token.ofText "1٢.٥0" = .ok [⟨.number, "1٢.٥0", 0⟩, ⟨.finish, "", 5⟩] ∧
      ("1٢.٥0".toList.takeWhile (· ≠ '.')).length ≤ maxDigits ∧ NegatesExactly "1٢.٥0" := by
  have hn : Token.ofText "1٢.٥0" = .ok [⟨.number, "1٢.٥0", 0⟩, ⟨.finish, "", 5⟩] := rfl
  have hshort : ("1٢.٥0".toList.takeWhile (· ≠ '.')).length ≤ maxDigits := by decide
  have hamount : Text.amount "1٢.٥0" = Text.digitsValue "1٢٥0".toList * 10 ^ (-2 : Int) :=
    @Text.amount_fraction "1٢".toList "٥0".toList ⟨by decide, List.all_eq_true.1 rfl⟩
  have hcomputed : Decimal.IsComputed (Text.amount "1٢.٥0") :=
    ⟨Text.digitsValue "1٢٥0".toList, -2, by decide, by decide, hamount⟩
  exact ⟨hn, hshort, (negative_literal_exact_iff hn hshort).2.2 (.inr hcomputed)⟩

/-- Of 29 digits behind the point the last is lost. -/
theorem negative_literal_rounded :
    Condition.Yields "-0.12345678901234567890123456789"
        (.decimal (.finite true 1234567890123456789012345679 (-28))) ∧
      ¬NegatesExactly "0.12345678901234567890123456789" := by
  have hzero : Text.IsDigits "0".toList := ⟨by decide, List.all_eq_true.1 rfl⟩
  have hplaces : Text.IsDigits "12345678901234567890123456789".toList := ⟨by decide, List.all_eq_true.1 rfl⟩
  have hdigits : Text.digitsValue ("0".toList ++ "12345678901234567890123456789".toList) =
      12345678901234567890123456789 := rfl
  have hread : Parser.number "0.12345678901234567890123456789" =
      .ok (.decimal (.finite false 12345678901234567890123456789 (-29))) := rfl
  have hnegate : Decimal.negate (.finite false 12345678901234567890123456789 (-29)) =
      .ok (.finite true 1234567890123456789012345679 (-28)) := rfl
  have hnumber : Text.IsNumber "0.12345678901234567890123456789".toList := .fraction hzero hplaces
  have htext : "-" ++ "0.12345678901234567890123456789" = "-0.12345678901234567890123456789" := rfl
  have hyields := yields_negative hnumber hread (negated_decimal hnegate)
  rw [htext] at hyields
  have hchars : String.ofList ("0".toList ++ '.' :: "12345678901234567890123456789".toList) =
      "0.12345678901234567890123456789" := rfl
  have hplace : "12345678901234567890123456789".toList.length = 29 := rfl
  have hamount := @Text.amount_fraction "0".toList "12345678901234567890123456789".toList hzero
  rw [hdigits, hchars, hplace] at hamount
  refine ⟨hyields, fun h => ?_⟩
  obtain ⟨v, hv, hworth⟩ := h.opposite
  rw [htext] at hv
  rw [hv.unique hyields, Value.isWorth_finite, hamount, Decimal.ratio] at hworth
  norm_num at hworth

end FlowRules
