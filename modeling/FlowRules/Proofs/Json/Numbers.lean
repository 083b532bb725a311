import FlowRules.Json.Writer
import FlowRules.Proofs.Json.Beginning
import FlowRules.Proofs.Number.RoundTrip

/-!
# Numbers of a JSON document

The text of an integer that is not too long, and that of a floating-point number, are read as the number, in front of
whatever closes a value (`Json.readValue_int`, `Json.readValue_float`).  All numbers that are no number have one text, so
only one of them is read (`Json.canonicalFloat`).
-/

namespace FlowRules.Json

open Numeral (signed)

variable {cs whole fraction exponent : List Char}

/-! ### Values in front of what closes -/

/-- Characters in front of what closes are read as a value, and what closes is left. -/
def Yields {α : Type} (item : Cursor → Reads α) (cs : List Char) (a : α) : Prop :=
  ∀ rest i, Closes rest → ∃ k, item ⟨cs ++ rest, i⟩ = .ok (a, ⟨rest, k⟩)

theorem IsWhole.head (hw : IsWhole whole) : ∃ d ds, whole = d :: ds ∧ isDigit d = true := by
  cases hw with
  | zero => exact ⟨'0', [], rfl, rfl⟩
  | @digits d ds hd hds => exact ⟨d, ds, rfl, hds d List.mem_cons_self⟩

theorem not_mark_of_isDigit {d : Char} (hd : isDigit d = true) : d ∉ ['_', '-', '+'] := by
  simp only [List.mem_cons, List.not_mem_nil, or_false]
  rintro (rfl | rfl | rfl) <;> exact absurd hd (by decide)

private theorem signed_append (negative : Bool) (cs ds : List Char) :
    signed negative cs ++ ds = signed negative (cs ++ ds) := List.append_assoc _ cs ds

/-- The parts of a number are as long as the number. -/
private theorem drop_number (negative : Bool) (whole fraction exponent rest : List Char) :
    (signed negative (whole ++ (fraction ++ (exponent ++ rest)))).drop
      ((signed negative whole).length + fraction.length + exponent.length) = rest := by
  rw [← List.append_assoc fraction, ← List.append_assoc whole, ← signed_append, ← List.append_assoc whole,
    ← signed_append]
  exact List.drop_left' (by simp only [signed, List.length_append, Nat.add_assoc])

/-- A number with a fraction or an exponent part is read as a floating-point number. -/
theorem readNumber_parts (hw : IsWhole whole) (hf : IsFraction fraction) (he : IsExponent exponent)
    (hpoint : fraction ≠ [] ∨ exponent ≠ []) {c : Nat} {p : Int}
    (hread : Decimal.readFinite? (whole ++ (fraction ++ exponent)) = some (c, p)) (negative : Bool) :
    Yields readNumber (signed negative (whole ++ (fraction ++ exponent)))
      (.float (Binary64.ofDecimal negative c p)) := by
  intro rest i hr
  have hparts := numberParts?_signed negative hw hf he hr
  have hsplit : Decimal.splitSign (signed negative whole ++ fraction ++ exponent) =
      (negative, whole ++ (fraction ++ exponent)) := by
    rw [List.append_assoc, signed_append]
    refine Numeral.splitSign_signed negative fun d hd => ?_
    obtain ⟨b, ds, rfl, hb⟩ := hw.head
    cases hd
    exact not_mark_of_isDigit hb
  have hpart : (fraction.isEmpty && exponent.isEmpty) = false :=
    Bool.and_eq_false_iff.2 (hpoint.imp List.isEmpty_eq_false_iff.2 List.isEmpty_eq_false_iff.2)
  rw [signed_append, List.append_assoc, List.append_assoc, readNumber]
  simp only [hparts, hpart, hsplit, hread, Cursor.drop, drop_number]
  exact ⟨_, rfl⟩

/-- A number with an integer part alone is read as an integer. -/
theorem readNumber_whole (hw : IsWhole whole) (negative : Bool) {n : Int}
    (hread : Numeral.read (String.ofList (signed negative whole)) = .ok n) :
    Yields readNumber (signed negative whole) (.int n) := by
  intro rest i hr
  have hparts := numberParts?_signed negative hw IsFraction.none IsExponent.none hr
  have hdrop := drop_number negative whole [] [] rest
  rw [List.nil_append, List.nil_append] at hparts hdrop
  rw [signed_append, readNumber]
  simp only [hparts, hread, Cursor.drop, hdrop, List.isEmpty_nil, Bool.and_self, if_true]
  exact ⟨_, rfl⟩

/-- What is read as a number is read as a value. -/
theorem Yields.value {negative : Bool} {j : Json} (hw : ∃ d ds, cs = d :: ds ∧ isDigit d = true)
    (h : Yields readNumber (signed negative cs) j) (depth : Nat) : Yields (readValue depth) (signed negative cs) j := by
  intro rest i hr
  obtain ⟨d, ds, rfl, hd⟩ := hw
  obtain ⟨k, hk⟩ := h rest i hr
  refine ⟨k, ?_⟩
  rw [signed_append] at hk ⊢
  rw [List.cons_append] at hk ⊢
  rw [readValue_signed depth negative hd, hk]

/-! ### Integers -/

/-- The digits of a number are a zero, or begin with another digit. -/
theorem isWhole_natDigits (n : Nat) : IsWhole (Text.natDigits n) := by
  have hdigits : ∀ c ∈ Text.natDigits n, isDigit c = true := fun _ => Text.isDigit_of_mem_natDigits
  have hvalue := Text.digitsValue_natDigits n
  have hcount : Decimal.digitCount n = (Text.natDigits n).length := rfl
  rcases hn : Text.natDigits n with _ | ⟨d, ds⟩
  · exact absurd hn Nat.toDigits_ne_nil
  · rw [hn] at hdigits hvalue hcount
    by_cases hd : d = '0'
    · subst hd
      rcases ds with _ | ⟨d, ds⟩
      · exact IsWhole.zero
      · -- a leading zero would make the number shorter than it is
        have hlt : n < 10 ^ (d :: ds).length := by
          have happend := Text.digitsValue_append ['0'] (d :: ds)
          rw [Binary64.digitsValue_zero, Nat.zero_mul, Nat.zero_add, List.singleton_append, hvalue] at happend
          exact happend ▸ Text.digitsValue_lt (d :: ds)
        have hle := (Decimal.digitCount_le_iff (Nat.succ_pos ds.length)).2 hlt
        rw [hcount] at hle
        simp at hle
    · exact IsWhole.digits hd hdigits

theorem readValue_int {n : Int} (hn : Decimal.digitCount n.natAbs ≤ Numeral.maxDigits) (depth : Nat) :
    Yields (readValue depth) (Numeral.text n).toList (.int n) := by
  have hw := isWhole_natDigits n.natAbs
  rw [Numeral.toList_text]
  exact (readNumber_whole hw _ (Numeral.read_text hn)).value hw.head depth

/-! ### Floating-point numbers -/

/-- The digits of a number other than zero begin with another digit than zero. -/
theorem exists_natDigits {c : Nat} (hc : c ≠ 0) :
    ∃ d ds, Text.natDigits c = d :: ds ∧ d ≠ '0' ∧ ∀ b ∈ d :: ds, isDigit b = true := by
  have hw := isWhole_natDigits c
  have hvalue := Text.digitsValue_natDigits c
  generalize Text.natDigits c = digits at *
  cases hw with
  | zero => exact absurd hvalue.symm hc
  | @digits d ds hd hds => exact ⟨d, ds, rfl, hd, hds⟩

private theorem isExponent_exponentChars (n : Int) :
    IsExponent (Binary64.exponentChars n) ∧ Binary64.exponentChars n ≠ [] := by
  obtain ⟨ds, hchars, hne, hds, -⟩ := Decimal.exponentChars_spec n
  rw [hchars]
  refine ⟨?_, List.cons_ne_nil _ _⟩
  split
  · exact @IsExponent.digits 'e' ['-'] ds (.inl rfl) (.inr (.inr rfl)) hne hds
  · exact @IsExponent.digits 'e' ['+'] ds (.inl rfl) (.inr (.inl rfl)) hne hds

private theorem isDigit_of_mem_zeros {d : Char} {k : Nat} (h : d ∈ List.replicate k '0') : isDigit d = true := by
  rw [List.eq_of_mem_replicate h]
  rfl

/-- Digits in writing have a fraction or an exponent part. -/
theorem digitsText_parts {c : Nat} (hc : c ≠ 0) (e : Int) :
    ∃ whole fraction exponent, Binary64.digitsText c e = whole ++ (fraction ++ exponent) ∧
      IsWhole whole ∧ IsFraction fraction ∧ IsExponent exponent ∧ (fraction ≠ [] ∨ exponent ≠ []) := by
  obtain ⟨d, ds, hdigits, hd, hall⟩ := exists_natDigits hc
  obtain ⟨hfirst, hothers⟩ := List.forall_mem_cons.1 hall
  unfold Binary64.digitsText
  rw [hdigits]
  dsimp only
  split
  · split
    · -- zeros behind the point
      refine ⟨['0'], '.' :: (List.replicate _ '0' ++ d :: ds), [], by rw [List.append_nil]; rfl, .zero, ?_, .none,
        .inl (List.cons_ne_nil _ _)⟩
      exact .digits (List.append_ne_nil_of_right_ne_nil _ (List.cons_ne_nil d ds))
        (List.forall_mem_append.2 ⟨fun _ => isDigit_of_mem_zeros, hall⟩)
    · split
      · -- zeros before the point
        refine ⟨d :: ds ++ List.replicate _ '0', ['.', '0'], [], by rw [List.append_nil], ?_, ?_, .none,
          .inl (List.cons_ne_nil _ _)⟩
        · exact .digits hd (List.forall_mem_append.2 ⟨hall, fun _ => isDigit_of_mem_zeros⟩)
        · exact .digits (List.cons_ne_nil _ _) (List.forall_mem_singleton.2 rfl)
      · -- the point among the digits
        next hleft hright =>
        obtain ⟨k, hk⟩ := Nat.exists_eq_succ_of_ne_zero
          (show (e + ((d :: ds).length : Int)).toNat ≠ 0 by omega)
        rw [hk, List.length_cons] at hright
        rw [hk, List.take_succ_cons, List.drop_succ_cons]
        refine ⟨d :: ds.take k, '.' :: ds.drop k, [], by rw [List.append_nil], ?_, ?_, .none,
          .inl (List.cons_ne_nil _ _)⟩
        · exact .digits hd (List.forall_mem_cons.2 ⟨hfirst, fun b hb => hothers b (List.mem_of_mem_take hb)⟩)
        · refine .digits (fun hnil => ?_) fun b hb => hothers b (List.mem_of_mem_drop hb)
          have hle := List.drop_eq_nil_iff.1 hnil
          omega
  · -- one digit before the point, or no point
    obtain ⟨hexponent, hne⟩ := isExponent_exponentChars (e + (d :: ds).length - 1)
    rcases ds with _ | ⟨d', ds⟩
    · exact ⟨[d], [], _, rfl, .digits hd hall, .none, hexponent, .inr hne⟩
    · refine ⟨[d], '.' :: d' :: ds, _, rfl, .digits hd (List.forall_mem_singleton.2 hfirst), ?_, hexponent, .inr hne⟩
      exact .digits (List.cons_ne_nil _ _) hothers

/-- Digits in writing are basic characters. -/
private theorem plainDigit_parts (hw : IsWhole whole) (hf : IsFraction fraction) (he : IsExponent exponent) :
    ∀ c ∈ whole ++ (fraction ++ exponent), Decimal.plainDigit c = c := by
  have hdigit {ds : List Char} (hds : ∀ c ∈ ds, isDigit c = true) : ∀ c ∈ ds, Decimal.plainDigit c = c :=
    fun c hc => Decimal.plainDigit_of_isDigit (hds c hc)
  refine List.forall_mem_append.2 ⟨?_, List.forall_mem_append.2 ⟨?_, ?_⟩⟩
  · cases hw with
    | zero => exact List.forall_mem_singleton.2 rfl
    | digits hd hds => exact hdigit hds
  · cases hf with
    | none => exact List.forall_mem_nil _
    | digits hne hds => exact List.forall_mem_cons.2 ⟨rfl, hdigit hds⟩
  · cases he with
    | none => exact List.forall_mem_nil _
    | digits hmark hsign hne hds =>
      refine List.forall_mem_cons.2 ⟨?_, List.forall_mem_append.2 ⟨?_, hdigit hds⟩⟩
      · rcases hmark with rfl | rfl <;> rfl
      · rcases hsign with rfl | rfl | rfl
        · exact List.forall_mem_nil _
        · exact List.forall_mem_singleton.2 rfl
        · exact List.forall_mem_singleton.2 rfl

private theorem stops_exponentChars (n : Int) :
    ∀ d ∈ (Binary64.exponentChars n).head?, Decimal.isPlainDigit d = false ∧ d ≠ '.' := by
  intro d hd
  cases hd
  decide

/-- Digits in writing are read as a decimal of the same value. -/
theorem readFinite?_digitsText {c : Nat} {e : Int} (hplain : ∀ d ∈ Binary64.digitsText c e, Decimal.plainDigit d = d) :
    ∃ (coefficient : Nat) (power : Int), Decimal.readFinite? (Binary64.digitsText c e) = some (coefficient, power) ∧
      (coefficient : ℚ) * 10 ^ power = c * 10 ^ e := by
  rcases Binary64.digitsText_spec c e with ⟨k, hdenotes⟩ | ⟨cs, n, htext, hdenotes⟩
  · have hread := @Decimal.Denotes.readFinite? _ [] _ _ hdenotes nofun
    rw [Decimal.map_plainDigit_eq_self hplain, List.append_nil] at hread
    refine ⟨_, _, hread, ?_⟩
    have hplace : e = k + (0 + (e - k)) := by omega
    conv_rhs => rw [hplace, zpow_add₀ (by norm_num), zpow_natCast]
    push_cast
    ring
  · rw [htext] at hplain ⊢
    have hread := hdenotes.readFinite? (stops_exponentChars n)
    rw [Decimal.map_plainDigit_eq_self fun d hd => hplain d (List.mem_append_left _ hd),
      Decimal.readExponent?_exponentChars] at hread
    refine ⟨_, _, hread, ?_⟩
    rw [show n + (e - n) = e by omega]

/-- What is read of the text of a number: the number, except that there is one number that is no number. -/
def canonicalFloat (x : Binary64) : Binary64 := if x.isNaN then Binary64.nan else x

theorem readValue_digits {x : Binary64} (hfinite : x.isFinite = true) (hzero : x.isZero = false) (depth : Nat) :
    Yields (readValue depth) (signed x.negative (Binary64.digitsText x.shortest.1 x.shortest.2)) (.float x) := by
  have hback := Binary64.ofDecimal_shortest hfinite hzero
  obtain ⟨whole, fraction, exponent, htext, hw, hf, he, hpoint⟩ :=
    digitsText_parts (Binary64.shortest_ne_zero hfinite hzero) x.shortest.2
  obtain ⟨c, p, hread, hvalue⟩ := readFinite?_digitsText (c := x.shortest.1) (e := x.shortest.2)
    (htext ▸ plainDigit_parts hw hf he)
  rw [htext] at hread ⊢
  have hnumber := readNumber_parts hw hf he hpoint hread x.negative
  rw [Binary64.ofDecimal_congr x.negative hvalue, hback] at hnumber
  refine hnumber.value ?_ depth
  obtain ⟨d, ds, rfl, hd⟩ := hw.head
  exact ⟨d, _, rfl, hd⟩

theorem readValue_zero (negative : Bool) (depth : Nat) :
    Yields (readValue depth) (signed negative "0.0".toList) (.float (Binary64.zero negative)) :=
  (readNumber_parts IsWhole.zero (.digits (List.cons_ne_nil '0' []) (List.forall_mem_singleton.2 rfl)) .none
    (.inl (List.cons_ne_nil _ _)) rfl negative).value ⟨'0', _, rfl, rfl⟩ depth

/-- The words are read as their values. -/
theorem readValue_word {word : List Char} {j : Json} {k : Nat} (hword : words[k]? = some (word, j)) (depth : Nat) :
    Yields (readValue depth) word j := by
  intro rest i _
  refine ⟨i + word.length, ?_⟩
  have hmem := List.mem_of_getElem? hword
  simp only [words, List.mem_cons, List.not_mem_nil, or_false, Prod.mk.injEq] at hmem
  rcases hmem with ⟨rfl, rfl⟩ | ⟨rfl, rfl⟩ | ⟨rfl, rfl⟩ | ⟨rfl, rfl⟩ | ⟨rfl, rfl⟩ | ⟨rfl, rfl⟩ <;>
  · cases depth <;> rfl

/-- The text of a floating-point number is read as the number. -/
theorem readValue_float (x : Binary64) (depth : Nat) :
    Yields (readValue depth) (writeFloat x) (.float (canonicalFloat x)) := by
  unfold writeFloat canonicalFloat
  by_cases hnan : x.isNaN = true
  · rw [if_pos hnan, if_pos hnan]
    exact readValue_word (k := 3) rfl depth
  · rw [if_neg hnan, if_neg hnan]
    by_cases hinfinite : x.isInfinite = true
    · rw [if_pos hinfinite]
      have hx := Binary64.eq_infinity hinfinite
      rcases hnegative : x.negative with _ | _ <;> rw [hnegative] at hx <;> rw [hx]
      · exact readValue_word (k := 4) rfl depth
      · exact readValue_word (k := 5) rfl depth
    · rw [if_neg hinfinite, Binary64.toChars, if_neg hnan, if_neg hinfinite]
      by_cases hzero : x.isZero = true
      · rw [if_pos hzero]
        have hread := readValue_zero x.negative depth
        rwa [← Binary64.eq_zero hzero] at hread
      · rw [if_neg hzero]
        have hfinite := Binary64.isFinite_of_not (Bool.eq_false_iff.2 hnan) (Bool.eq_false_iff.2 hinfinite)
        exact readValue_digits hfinite (Bool.eq_false_iff.2 hzero) depth

end FlowRules.Json
