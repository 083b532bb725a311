import FlowRules.Proofs.Check.Target
import FlowRules.Proofs.Json.Literal
import FlowRules.Proofs.Json.RoundTrip
import FlowRules.Proofs.Text.SmallForms
import FlowRules.Proofs.Workflow.Library

/-!
# Numbers without quotation marks

The target of a step can be written as a number without quotation marks.  Then it is read as an integer or a
floating-point number of the document, and the target is the text of that.  Main statement: the step validates numeric
fields as the step with the number in quotation marks does if the number is an integer other than a negative zero, or
otherwise denotes what the text of some floating-point number denotes; else there are fields that tell the two steps
apart (`Step.unquoted_iff`).
-/

namespace FlowRules

/-! ### The target of a step -/

namespace Schema

variable {α : Type} {members : List (String × Json)} {j j' : Json} {key s s' : String} {keys : List String}

theorem firstMember?_cons (h : key ∉ keys) : firstMember? ((key, j) :: members) keys = firstMember? members keys := by
  induction keys with
  | nil => rfl
  | cons other keys ih =>
    rw [List.mem_cons, not_or] at h
    have hother : (other == key) = false := beq_false_of_ne (Ne.symm h.1)
    rw [firstMember?, firstMember?, ih h.2, List.lookup_cons, hother]

theorem readField_cons (h : key ∉ keys) (missing : α) (read : Json → Reading α) :
    readField ((key, j) :: members) keys missing read = readField members keys missing read := by
  rw [readField, readField, firstMember?_cons h]

theorem stepFields_target (hj : standard.targetValue j = .ok (some s)) (hj' : standard.targetValue j' = .ok (some s')) :
    standard.stepFields (("targetValue", j') :: members) =
      ⟨(standard.stepFields (("targetValue", j) :: members)).value.withTarget s',
        (standard.stepFields (("targetValue", j) :: members)).problems⟩ := by
  have htarget {j : Json} {s : String} (hj : standard.targetValue j = .ok (some s)) :
      standard.field (("targetValue", j) :: members) ["targetValue", "target_value"] none
        (single none standard.targetValue) = ⟨some s, []⟩ := by
    have hfirst : firstMember? (("targetValue", j) :: members) ["targetValue", "target_value"] =
        some ("targetValue", j) := rfl
    have hread : single none standard.targetValue j = ⟨some s, []⟩ := by rw [single, hj]
    refine (standard_lawful.field_valid none hfirst (congrArg Reading.problems hread)).trans ?_
    rw [hread]
  have hother {keys : List String} (h : "targetValue" ∉ keys) (j : Json) {α : Type} (missing : α)
      (read : Json → Reading α) :
      standard.field (("targetValue", j) :: members) keys missing read = standard.field members keys missing read :=
    readField_cons h missing read
  unfold Library.stepFields
  simp only [htarget hj, htarget hj']
  repeat rw [hother (by decide)]
  rfl

/-- The step that is written with a target and other members. -/
def stepWith (target : Json) (members : List (String × Json)) : Reading Step :=
  standard.stepOf (("targetValue", target) :: members)

/-- A step that is written with another target differs in its target alone. -/
theorem stepWith_target (hj : standard.targetValue j = .ok (some s)) (hj' : standard.targetValue j' = .ok (some s'))
    (members : List (String × Json)) :
    (stepWith j' members).value = (stepWith j members).value.withTarget s' ∧
      (stepWith j' members).problems = (stepWith j members).problems := by
  have hmissing (read : Step) : missing? (read.withTarget s') = missing? read := rfl
  have hchecked (read : Reading Step) : standard.checked missing? read = checkReading missing? read := rfl
  rw [stepWith, stepWith, Library.stepOf, Library.stepOf, stepFields_target hj hj', hchecked, hchecked]
  rcases standard.stepFields (("targetValue", j) :: members) with ⟨value, _ | ⟨p, problems⟩⟩
  · unfold checkReading
    dsimp only
    rw [hmissing]
    rcases missing? value with _ | text
    · exact ⟨rfl, rfl⟩
    · exact ⟨rfl, rfl⟩
  · exact ⟨rfl, rfl⟩

end Schema

/-! ### The text of a floating-point number -/

theorem Extended.signed_inj {a b : Bool} {q r : ℚ} (hq : 0 ≤ q) (hr : 0 ≤ r)
    (h : Extended.signed a q = Extended.signed b r) : q = r ∧ (q ≠ 0 → a = b) := by
  have hcast : (if a then -q else q) = if b then -r else r := WithTop.coe_injective (WithBot.coe_injective h)
  cases a <;> cases b <;> simp only [Bool.false_eq_true, if_true, if_false] at hcast
  · exact ⟨hcast, fun _ => rfl⟩
  · obtain rfl : q = 0 := by linarith
    exact ⟨by linarith, fun h => absurd rfl h⟩
  · obtain rfl : q = 0 := by linarith
    exact ⟨hcast.symm ▸ by linarith, fun h => absurd rfl h⟩
  · exact ⟨neg_injective hcast, fun _ => rfl⟩

theorem Extended.infinite_ne_signed (a b : Bool) (q : ℚ) : Extended.infinite a ≠ Extended.signed b q := by
  cases a with
  | false => exact (WithBot.coe_lt_coe.2 (WithTop.coe_lt_top _)).ne'
  | true => exact (WithBot.bot_lt_coe _).ne

namespace Binary64

open Numeral (signed)

variable {x : Binary64} {negative : Bool} {r : ℚ}

/-- The magnitude of the decimal that the text of a finite number denotes. -/
def written (x : Binary64) : ℚ := if x.isZero then 0 else x.shortest.1 * 10 ^ x.shortest.2

theorem written_nonneg (x : Binary64) : 0 ≤ x.written := by
  unfold written
  split
  · exact le_rfl
  · positivity

/-- What the text of a number denotes. -/
theorem number_toText (x : Binary64) :
    Text.number? x.toText =
      if x.isNaN then none
      else if x.isInfinite then some (.infinite x.negative)
      else some (.signed x.negative x.written) := by
  rw [Text.number?, Decimal.read?, toText, String.toList_ofList, toChars]
  by_cases hnan : x.isNaN = true
  · rw [if_pos hnan, if_pos hnan]
    rfl
  rw [if_neg hnan, if_neg hnan]
  change (Decimal.readChars? (signed x.negative _)).bind Decimal.value? = _
  by_cases hinfinite : x.isInfinite = true
  · rw [if_pos hinfinite, if_pos hinfinite]
    cases x.negative <;> rfl
  rw [if_neg hinfinite, if_neg hinfinite, written]
  by_cases hzero : x.isZero = true
  · have hread : Decimal.readChars? (signed x.negative "0.0".toList) = some (.finite x.negative 0 (-1)) := by
      cases x.negative <;> decide
    rw [if_pos hzero, if_pos hzero, hread, Option.bind_some, Decimal.value?, Nat.cast_zero, zero_mul]
  · obtain ⟨k, hread⟩ := read_digitsText x.negative
      (shortest_inRange (Bool.eq_false_iff.2 hinfinite) (Bool.eq_false_iff.2 hzero))
    have hshift : ((x.shortest.1 * 10 ^ k : Nat) : ℚ) * 10 ^ (x.shortest.2 - k) = x.shortest.1 * 10 ^ x.shortest.2 := by
      rw [zpow_sub₀ (by norm_num), zpow_natCast, Nat.cast_mul, Nat.cast_pow, Nat.cast_ofNat]
      field_simp
    rw [if_neg hzero, if_neg hzero, hread, Option.bind_some, Decimal.value?, hshift]

/-- Only the text of a finite number denotes a finite one. -/
theorem finite_of_number (h : Text.number? x.toText = some (.signed negative r)) :
    x.isNaN = false ∧ x.isInfinite = false ∧ Extended.signed x.negative x.written = .signed negative r := by
  rw [number_toText] at h
  rcases hnan : x.isNaN with _ | _
  · rcases hinfinite : x.isInfinite with _ | _
    · rw [hnan, hinfinite] at h
      exact ⟨rfl, rfl, Option.some.inj h⟩
    · rw [hnan, hinfinite] at h
      exact absurd (Option.some.inj h) (Extended.infinite_ne_signed _ _ _)
  · rw [hnan] at h
    cases h

/-- A decimal that is denoted by the text of some number is denoted by that of the number nearest to it. -/
theorem number_ofDecimal {c : Nat} {e : Int} (h : Text.number? x.toText = some (.signed negative (c * 10 ^ e))) :
    Text.number? (ofDecimal negative c e).toText = some (.signed negative (c * 10 ^ e)) ∧
      (ofDecimal negative c e).isNaN = false ∧ (ofDecimal negative c e).isInfinite = false := by
  obtain ⟨hnan, hinfinite, hsigned⟩ := finite_of_number h
  obtain ⟨hwritten, hsign⟩ := Extended.signed_inj x.written_nonneg (by positivity) hsigned
  rcases hzero : x.isZero with _ | _
  · have hshortest : x.written = x.shortest.1 * 10 ^ x.shortest.2 := by
      rw [written, if_neg (by simp [hzero])]
    have hback := ofDecimal_shortest (isFinite_of_not hnan hinfinite) hzero
    have hpos : x.written ≠ 0 := by
      intro hw
      rw [hshortest, mul_eq_zero] at hw
      have hc := Nat.cast_eq_zero.1 (hw.resolve_right (by positivity))
      exact shortest_ne_zero (isFinite_of_not hnan hinfinite) hzero hc
    have hx : ofDecimal negative c e = x := by
      rw [← hsign hpos, ofDecimal_congr x.negative (hwritten.symm.trans hshortest), hback]
    rw [hx]
    exact ⟨h, hnan, hinfinite⟩
  · have hc : c = 0 := by
      rw [written, if_pos hzero, eq_comm, mul_eq_zero] at hwritten
      exact Nat.cast_eq_zero.1 (hwritten.resolve_right (by positivity))
    have hx : ofDecimal negative c e = zero negative := by
      rw [hc, ofDecimal, if_pos (.inl rfl)]
    rw [hx, number_toText, hc, Nat.cast_zero, zero_mul]
    exact ⟨rfl, rfl, rfl⟩

end Binary64

namespace Json.Literal

open Text

variable {l : Literal} {y : Decimal}

/-! ### Truth values -/

/-- The characters of a number are basic ones, and stand for themselves in quotation marks. -/
theorem chars_basic (l : Literal) : ∀ d ∈ l.chars, d.toNat < 128 ∧ writtenChar d = [d] := by
  have hmarks : ∀ d ∈ marks, d.toNat < 128 ∧ writtenChar d = [d] := List.all_iff_forall_prop.1 (by decide)
  intro d hd
  rcases Numeral.mem_signed hd with rfl | hd
  · exact hmarks '-' (by decide)
  · rcases l.mem_body d hd with hdigit | hmark
    · have hall : ∀ n < 128, (Char.ofNat n).isDigit = true → writtenChar (Char.ofNat n) = [Char.ofNat n] := by decide
      have hbasic : d.toNat < 128 := Nat.lt_of_le_of_lt (Char.isDigit_iff_toNat.1 hdigit).2 (by decide)
      have hwritten : d.isDigit = true → writtenChar d = [d] := forall_basic hall d hbasic
      exact ⟨hbasic, hwritten hdigit⟩
    · exact hmarks d hmark

theorem lower_text (l : Literal) : lower (trim l.text) = String.ofList (l.chars.map Char.toLower) := by
  have htrim : trimChars l.chars = l.chars := by
    refine trimChars_eq_self fun d hd => ?_
    rcases Numeral.mem_signed hd with rfl | hd
    · decide
    · exact (l.body_plain d hd).1
  rw [lower, trim, String.toList_ofList, text, String.toList_ofList, htrim,
    lowerChars_basic fun d hd => (l.chars_basic d hd).1]

/-- A number that is no integer has a digit and a point or a mark of an exponent part. -/
theorem exists_mark (h : ¬l.IsInteger) : ∃ d ∈ l.chars, d.toLower ∈ ['.', 'e'] := by
  obtain ⟨negative, whole, fraction, exponent, hw, hf, he⟩ := l
  have hparts : ∀ d, d ∈ fraction ∨ d ∈ exponent → d ∈ Numeral.signed negative (whole ++ (fraction ++ exponent)) := by
    intro d hd
    exact List.mem_append_right _ (List.mem_append_right _ (List.mem_append.2 hd))
  cases hf with
  | digits hne hds => exact ⟨'.', hparts _ (.inl List.mem_cons_self), by decide⟩
  | none =>
    cases he with
    | none => exact absurd ⟨rfl, rfl⟩ h
    | digits hmark hsign hne hds =>
      refine ⟨_, hparts _ (.inr List.mem_cons_self), ?_⟩
      rcases hmark with rfl | rfl <;> decide

/-- Only integers are words for truth values. -/
theorem readBool_text (h : ¬l.IsInteger) : (readBool l.text).toOption = none := by
  obtain ⟨mark, hmark, hlower⟩ := exists_mark h
  obtain ⟨d, ds, hbody, hd⟩ := l.head_body
  have hdigit : d ∈ l.chars := List.mem_append_right _ (hbody ▸ List.mem_cons_self)
  have hwords : ∀ word ∈ trueWords ++ falseWords,
      (word.toList.any Char.isDigit && word.toList.any (· ∈ ['.', 'e'])) = false := by decide
  have hnone : lower (trim l.text) ∉ trueWords ++ falseWords := by
    intro hword
    have hboth := hwords _ hword
    rw [lower_text, String.toList_ofList, List.any_map, List.any_map, Bool.and_eq_false_iff] at hboth
    rcases hboth with hnone | hnone
    · have hsame : d.toLower = d := by
        refine dif_neg fun hcapital => ?_
        have hhigh := (Char.isDigit_iff_toNat.1 hd).2
        exact absurd (Nat.le_trans hcapital.1 hhigh) (by decide)
      exact List.any_eq_false.1 hnone d hdigit (hsame.symm ▸ hd : d.toLower.isDigit = true)
    · exact List.any_eq_false.1 hnone mark hmark (by simpa using hlower)
  rw [List.mem_append, not_or] at hnone
  rw [readBool]
  simp [hnone.1, hnone.2, Except.toOption]

/-! ### The target that a number stands for -/

/-- A number that is kept where it is written without quotation marks. -/
def IsKept (l : Literal) : Prop :=
  (l.IsInteger → l.text ≠ "-0") ∧ (¬l.IsInteger → ∃ x : Binary64, Text.number? x.toText = Text.number? l.text)

/-- In quotation marks a number is written as it is. -/
theorem writeText_text (l : Literal) : writeText l.text = '"' :: l.chars ++ ['"'] := by
  rw [writeText, text, String.toList_ofList, List.flatMap_congr fun d hd => (l.chars_basic d hd).2,
    List.flatMap_singleton']

/-- The value of a number that is read as a decimal. -/
theorem exists_number (hread : Decimal.read? l.text = some y) :
    ∃ c e, Decimal.readFinite? l.body = some (c, e) ∧
      Text.number? l.text = some (.signed l.negative (c * 10 ^ e)) := by
  obtain ⟨c, e, hfinite⟩ := l.exists_readFinite
  refine ⟨c, e, hfinite, ?_⟩
  rw [Text.number?, hread, l.eq_finite_of_read hfinite hread]
  rfl

/-- An integer is its own target, unless it is a negative zero, which as a target is no word for a truth value. -/
theorem target_integer (h : l.IsInteger) (hlength : l.whole.length ≤ Numeral.maxDigits) :
    ∃ j s, (∀ depth, Yields (readValue depth) l.chars j) ∧ Schema.standard.targetValue j = .ok (some s) ∧
      (SameTarget l.text s ↔ l.IsKept) := by
  obtain ⟨n, hyields, hshort, htext⟩ := l.reads_integer h hlength
  have hwrite : Schema.standard.targetValue (.int n) = .ok (some (Numeral.text n)) := by
    have hplain : (Json.int n).toValue.plainText = .ok (Numeral.text n) := writeInt_eq_text hshort
    rw [Schema.Library.targetValue, Schema.stringified, hplain]
    rfl
  refine ⟨.int n, Numeral.text n, hyields, hwrite, ?_⟩
  have hkept : l.IsKept ↔ l.text ≠ "-0" := ⟨fun hkept => hkept.1 h, fun hne => ⟨fun _ => hne, fun hno => absurd h hno⟩⟩
  rw [hkept]
  rcases htext with htext | ⟨htext, rfl⟩
  · refine iff_of_true (htext ▸ ⟨rfl, rfl⟩) fun hzero => ?_
    have hread := Numeral.read_text hshort
    have hnegative : Numeral.read "-0" = .ok 0 := by
      have hzero := Numeral.read_signed true (List.cons_ne_nil '0' []) (isDigit_of_mem_whole .zero)
      rwa [if_neg (by decide), Binary64.digitsValue_zero] at hzero
    rw [htext, hzero, hnegative] at hread
    cases hread
    rw [← htext] at hzero
    exact absurd hzero (by decide)
  · refine iff_of_false (fun hsame => ?_) fun hne => hne htext
    have htruth := hsame.truth
    rw [htext] at htruth
    exact absurd htruth (by decide)

/-- The text of a finite floating-point number is a number that is no integer. -/
theorem exists_text {x : Binary64} (hnan : x.isNaN = false) (hinfinite : x.isInfinite = false) :
    ∃ l : Literal, ¬l.IsInteger ∧ l.text = x.toText := by
  rcases hzero : x.isZero with _ | _
  · have hc := Binary64.shortest_ne_zero (Binary64.isFinite_of_not hnan hinfinite) hzero
    obtain ⟨whole, fraction, exponent, htext, hw, hf, he, hpoint⟩ := digitsText_parts hc x.shortest.2
    refine ⟨⟨x.negative, whole, fraction, exponent, hw, hf, he⟩, fun h => hpoint.elim (· h.1) (· h.2), ?_⟩
    rw [Binary64.toText, Binary64.toChars, hnan, hinfinite, hzero]
    exact congrArg (fun cs => String.ofList (Numeral.signed x.negative cs)) htext.symm
  · have hfraction : IsFraction ['.', '0'] := .digits (List.cons_ne_nil '0' []) (List.forall_mem_singleton.2 rfl)
    refine ⟨⟨x.negative, ['0'], ['.', '0'], [], .zero, hfraction, .none⟩, ?_, ?_⟩
    · exact fun h => List.cons_ne_nil _ _ h.1
    · rw [Binary64.toText, Binary64.toChars, hnan, hinfinite, hzero]
      rfl

/-- The target of any other number is the text of the floating-point number nearest to it. -/
theorem target_float (h : ¬l.IsInteger) (hread : Decimal.read? l.text = some y) :
    ∃ j s, (∀ depth, Yields (readValue depth) l.chars j) ∧ Schema.standard.targetValue j = .ok (some s) ∧
      (SameTarget l.text s ↔ l.IsKept) := by
  obtain ⟨c, e, hfinite, hnumber⟩ := exists_number hread
  refine ⟨_, _, l.reads_float h hfinite, rfl, ?_⟩
  refine ⟨fun hsame => ⟨fun hinteger => absurd hinteger h, fun _ => ⟨_, hsame.number.symm⟩⟩, fun hkept => ?_⟩
  obtain ⟨x, hx⟩ := hkept.2 h
  obtain ⟨hback, hnan, hinfinite⟩ := Binary64.number_ofDecimal (hx.trans hnumber)
  obtain ⟨l', hl', htext⟩ := exists_text hnan hinfinite
  refine ⟨hnumber.trans hback.symm, ?_⟩
  rw [readBool_text h, ← htext, readBool_text hl']

theorem exists_target (hread : Decimal.read? l.text = some y)
    (hlength : l.IsInteger → l.whole.length ≤ Numeral.maxDigits) :
    ∃ j s, (∀ depth, Yields (readValue depth) l.chars j) ∧ Schema.standard.targetValue j = .ok (some s) ∧
      (SameTarget l.text s ↔ l.IsKept) := by
  by_cases h : l.IsInteger
  · exact target_integer h (hlength h)
  · exact target_float h hread

end Json.Literal

/-! ### Steps -/

/-- The members of a step that validates the field `v` for equality, but for its target. -/
def equalityMembers : List (String × Json) :=
  [("kind", .text "Validation"), ("mode", .text "Simple"), ("targetProperty", .text "v"), ("operator", .text "equals")]

theorem stepWith_equality (s : String) :
    (Schema.stepWith (.text s) equalityMembers).value = equality.withTarget s := rfl

/-- A number, of at most as many digits as are read if it is an integer, can be written as a target with quotation marks
or without: both steps are read, with the same problems, and they validate all numeric fields alike exactly if the number
is kept. -/
theorem Step.unquoted_iff (l : Json.Literal) {y : Decimal} (hread : Decimal.read? l.text = some y)
    (hlength : l.IsInteger → l.whole.length ≤ Numeral.maxDigits) :
    ∃ j, (∀ depth, Json.Yields (Json.readValue depth) l.chars j) ∧
      (∀ depth, Json.Yields (Json.readValue depth) ('"' :: l.chars ++ ['"']) (.text l.text)) ∧
      (∀ members, (Schema.stepWith j members).problems = (Schema.stepWith (.text l.text) members).problems) ∧
      (l.IsKept ↔ ∀ members make flow cs, (Schema.stepWith (.text l.text) members).value.ComparesNumbers flow →
        (Schema.stepWith j members).value.outcome make flow cs =
          (Schema.stepWith (.text l.text) members).value.outcome make flow cs) := by
  obtain ⟨j, s, hyields, htarget, hkept⟩ := l.exists_target hread hlength
  obtain ⟨c, e, -, hnumber⟩ := l.exists_number hread
  have htext : Schema.standard.targetValue (.text l.text) = .ok (some l.text) := rfl
  have hunquoted (members : List (String × Json)) := Schema.stepWith_target htext htarget members
  have hquoted (members : List (String × Json)) := Schema.stepWith_target htext htext members
  refine ⟨j, hyields, ?_, fun members => (hunquoted members).2, ?_⟩
  · rw [← l.writeText_text]
    exact Json.readValue_text l.text
  · rw [← hkept]
    constructor
    · intro hsame members make flow cs hstep
      have houtcome := hsame.outcome hnumber hstep make cs
      rw [← (hquoted members).1, ← (hunquoted members).1] at houtcome
      exact houtcome.symm
    · intro h
      refine sameTarget_of_equality hnumber fun flow hflow => ?_
      have hstep : (Schema.stepWith (.text l.text) equalityMembers).value.ComparesNumbers flow := by
        rw [stepWith_equality]
        exact ⟨hflow.declarative, hflow.operator, hflow.numeric⟩
      have hsame := h equalityMembers default flow [] hstep
      rw [(hunquoted equalityMembers).1, stepWith_equality] at hsame
      exact hsame.symm

/-! ### Two and a half, and a number with too many digits -/

private def half : Json.Literal where
  negative := false
  whole := ['2']
  fraction := ['.', '5']
  exponent := []
  isWhole := .digits (by decide) (List.forall_mem_singleton.2 rfl)
  isFraction := .digits (List.cons_ne_nil _ _) (List.forall_mem_singleton.2 rfl)
  isExponent := .none

/-- Two and a half is kept. -/
theorem Step.unquoted_iff_half :
    Decimal.read? half.text = some (.finite false 25 (-1)) ∧ ¬half.IsInteger ∧ half.IsKept ∧
      ∃ j, Json.Yields (Json.readValue 0) half.chars j ∧
        ∀ members make flow cs, (Schema.stepWith (.text half.text) members).value.ComparesNumbers flow →
          (Schema.stepWith j members).value.outcome make flow cs =
            (Schema.stepWith (.text half.text) members).value.outcome make flow cs := by
  have hread : Decimal.read? half.text = some (.finite false 25 (-1)) := by decide
  have hfraction : ¬half.IsInteger := fun h => List.cons_ne_nil _ _ h.1
  have htext : (Binary64.ofDecimal false 25 (-1)).toText = half.text := by decide +kernel
  have hkept : half.IsKept := ⟨fun h => absurd h hfraction, fun _ => ⟨_, congrArg Text.number? htext⟩⟩
  obtain ⟨j, hyields, -, -, hiff⟩ := Step.unquoted_iff half hread fun h => absurd h hfraction
  exact ⟨hread, hfraction, hkept, j, hyields 0, hiff.1 hkept⟩

private def manyDigits : Json.Literal where
  negative := false
  whole := ['0']
  fraction := '.' :: Text.natDigits 12345678901234567891
  exponent := []
  isWhole := .zero
  isFraction := .digits Nat.toDigits_ne_nil fun _ => Text.isDigit_of_mem_natDigits
  isExponent := .none

private def manyDigitsField : Value := decimalField (.finite false 12345678901234567891 (-20))

/-- A decimal field equals the number of twenty digits that it holds when that is written in quotation marks, and not when
it is written without. -/
theorem Step.unquoted_digits_lost :
    ∃ j, (∀ depth, Json.Yields (Json.readValue depth) manyDigits.chars j) ∧
      manyDigits.text = "0.12345678901234567891" ∧
      (Schema.stepWith (.text manyDigits.text) equalityMembers).value.ComparesNumbers manyDigitsField ∧
      (Schema.stepWith j equalityMembers).value.outcome default manyDigitsField [] = (.ok false, []) ∧
      (Schema.stepWith (.text manyDigits.text) equalityMembers).value.outcome default manyDigitsField [] =
        (.ok true, []) := by
  have htext : manyDigits.text = "0.12345678901234567891" := by decide +kernel
  have hread : Decimal.readFinite? manyDigits.body = some (12345678901234567891, -20) := by decide +kernel
  have hfraction : ¬manyDigits.IsInteger := fun h => List.cons_ne_nil _ _ h.1
  have hfloat : (Binary64.ofDecimal false 12345678901234567891 (-20)).toText = "0.12345678901234568" := by
    decide +kernel
  have htarget : Schema.standard.targetValue (.float (Binary64.ofDecimal false 12345678901234567891 (-20))) =
      .ok (some "0.12345678901234568") := congrArg (fun s => Except.ok (some s)) hfloat
  have hquoted : Schema.standard.targetValue (.text manyDigits.text) = .ok (some manyDigits.text) := rfl
  have hvalue := (Schema.stepWith_target hquoted htarget equalityMembers).1
  refine ⟨_, manyDigits.reads_float hfraction hread, htext, ?_, ?_, ?_⟩
  · rw [stepWith_equality]
    have hstep := comparesNumbers_decimalField (.finite false 12345678901234567891 (-20))
    exact ⟨hstep.declarative, hstep.operator, hstep.numeric⟩
  · rw [show manyDigits.negative = false from rfl, hvalue]
    rfl
  · rw [htext]
    rfl

end FlowRules
