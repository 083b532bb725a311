import Mathlib.Data.List.Induction
import Mathlib.Data.List.TakeWhile
import FlowRules.Number.Numeral

/-!
# Decimal digits

A decimal digit of any script stands at most nine places behind a zero, is no white space, and is read as the basic
digit of its value.  Digits behind a sign or none are read as the number that they denote, as long as there are not too
many (`Numeral.read_signed`).
-/

namespace FlowRules

namespace Text

variable {c : Char} {cs ds : List Char} {d k n : Nat}

theorem exists_zero_of_digitAmong {zs : List Nat} (h : digitAmong n zs = some d) : ∃ z ∈ zs, n = z + d ∧ d < 10 := by
  induction zs with
  | nil => cases h
  | cons z zs ih =>
    unfold digitAmong at h
    split at h
    · cases h
    · split at h
      · obtain rfl := Option.some.inj h
        exact ⟨z, List.mem_cons_self, by omega, by omega⟩
      · obtain ⟨y, hy, hn⟩ := ih h
        exact ⟨y, List.mem_cons_of_mem z hy, hn⟩

/-- The zero of a digit's script. -/
theorem exists_zero (h : digitValue? c = some d) : ∃ z ∈ decimalZeros, c.toNat = z + d ∧ d < 10 :=
  exists_zero_of_digitAmong h

theorem lt_ten_of_digitValue? (h : digitValue? c = some d) : d < 10 := by
  obtain ⟨_, _, _, hd⟩ := exists_zero h
  exact hd

private theorem digits_not_blank : ∀ z ∈ decimalZeros, ∀ d < 10, inBands (z + d) blankBounds false = false := by
  decide +kernel

private theorem zeros_apart : ∀ z ∈ decimalZeros, z = 48 ∨ 128 ≤ z := by decide

theorem isBlank_of_digit (h : isDecimalDigit c = true) : isBlank c = false := by
  obtain ⟨d, hd⟩ := Option.isSome_iff_exists.1 h
  obtain ⟨z, hz, hc, hd⟩ := exists_zero hd
  rw [isBlank, hc]
  exact digits_not_blank z hz d hd

theorem digitValue?_decimalDigit (hd : d < 10) : digitValue? (decimalDigit d) = some d := by
  revert d
  decide

theorem digitValue?_decimalDigit_mod (n : Nat) : digitValue? (decimalDigit n) = some (n % 10) := by
  have hmod : decimalDigit n = decimalDigit (n % 10) := by simp [decimalDigit]
  rw [hmod, digitValue?_decimalDigit (Nat.mod_lt n (by decide))]

/-! ### The value of digits -/

theorem digitsValue_concat (cs : List Char) (c : Char) :
    digitsValue (cs ++ [c]) = 10 * digitsValue cs + (digitValue? c).getD 0 := by
  simp [digitsValue]

theorem digitsValue_append (cs ds : List Char) :
    digitsValue (cs ++ ds) = digitsValue cs * 10 ^ ds.length + digitsValue ds := by
  induction ds using List.reverseRecOn with
  | nil => simp [digitsValue]
  | append_singleton ds c ih =>
    rw [← List.append_assoc, digitsValue_concat, digitsValue_concat, ih, List.length_append, List.length_singleton,
      Nat.pow_succ, ← Nat.mul_assoc]
    omega

theorem digitsValue_lt (cs : List Char) : digitsValue cs < 10 ^ cs.length := by
  induction cs using List.reverseRecOn with
  | nil => simp [digitsValue]
  | append_singleton cs c ih =>
    have hc : (digitValue? c).getD 0 < 10 := by
      rcases h : digitValue? c with _ | d
      · decide
      · exact lt_ten_of_digitValue? h
    rw [digitsValue_concat, List.length_append, List.length_singleton, Nat.pow_succ]
    omega

/-! ### Digits of numbers -/

theorem digitValue?_of_isDigit (h : c.isDigit = true) : digitValue? c = some (c.toNat - 48) := by
  obtain ⟨hlow, hhigh⟩ : 48 ≤ c.toNat ∧ c.toNat ≤ 57 := Char.isDigit_iff_toNat.1 h
  unfold digitValue? decimalZeros digitAmong
  rw [if_neg (by omega), if_pos (by omega)]

theorem isDecimalDigit_of_isDigit (h : c.isDigit = true) : isDecimalDigit c = true := by
  rw [isDecimalDigit, digitValue?_of_isDigit h]
  rfl

theorem isDigit_of_mem_natDigits (h : c ∈ natDigits n) : c.isDigit = true :=
  Nat.isDigit_of_mem_toDigits (by decide) (by decide) h

theorem isDecimalDigit_of_mem_natDigits (h : c ∈ natDigits n) : isDecimalDigit c = true :=
  isDecimalDigit_of_isDigit (isDigit_of_mem_natDigits h)

theorem digitsValue_eq_ofDigitChars (h : ∀ c ∈ cs, c.isDigit = true) : digitsValue cs = Nat.ofDigitChars 10 cs 0 := by
  induction cs using List.reverseRecOn with
  | nil => rfl
  | append_singleton cs c ih =>
    rw [digitsValue_concat, digitValue?_of_isDigit (h c (by simp)), ih fun d hd => h d (by simp [hd]),
      Nat.ofDigitChars_append]
    rfl

theorem digitsValue_natDigits (n : Nat) : digitsValue (natDigits n) = n := by
  rw [digitsValue_eq_ofDigitChars fun _ => isDigit_of_mem_natDigits]
  exact Nat.ofDigitChars_ten_toDigits

/-- A power of ten has one more digit than its exponent says. -/
theorem length_natDigits_pow (k : Nat) : (natDigits (10 ^ k)).length = k + 1 := by
  have hle : (natDigits (10 ^ k)).length ≤ k + 1 :=
    (Nat.length_toDigits_le_iff (by decide) (Nat.succ_pos k)).2 (Nat.pow_lt_pow_right (by decide) (Nat.lt_succ_self k))
  have hlt : ¬(natDigits (10 ^ k)).length ≤ k := by
    rcases k with _ | k
    · decide
    · exact fun h => Nat.lt_irrefl _ ((Nat.length_toDigits_le_iff (by decide) (Nat.succ_pos k)).1 h)
  omega

theorem digitsValue_paddedDigits (k n : Nat) : digitsValue (paddedDigits k n) = n % 10 ^ k := by
  induction k generalizing n with
  | zero => exact (Nat.mod_one n).symm
  | succ k ih =>
    rw [paddedDigits, digitsValue_concat, ih, digitValue?_decimalDigit_mod, Nat.pow_succ,
      Nat.mul_comm (10 ^ k), Nat.mod_mul]
    exact Nat.add_comm _ _

@[simp] theorem length_paddedDigits (k n : Nat) : (paddedDigits k n).length = k := by
  induction k generalizing n with
  | zero => rfl
  | succ k ih => rw [paddedDigits, List.length_append, ih, List.length_singleton]

theorem isDigit_decimalDigit (n : Nat) : (decimalDigit n).isDigit = true := by
  have hdigits : ∀ d < 10, (decimalDigit d).isDigit = true := by decide
  have hmod : decimalDigit n = decimalDigit (n % 10) := by simp [decimalDigit]
  rw [hmod]
  exact hdigits (n % 10) (Nat.mod_lt n (by decide))

theorem isDigit_of_mem_paddedDigits (h : c ∈ paddedDigits k n) : c.isDigit = true := by
  induction k generalizing n with
  | zero => cases h
  | succ k ih =>
    rw [paddedDigits, List.mem_append, List.mem_singleton] at h
    rcases h with h | rfl
    · exact ih h
    · exact isDigit_decimalDigit n

theorem isDecimalDigit_of_mem_paddedDigits (h : c ∈ paddedDigits k n) : isDecimalDigit c = true :=
  isDecimalDigit_of_isDigit (isDigit_of_mem_paddedDigits h)

end Text
namespace Numeral

open Text

variable {c : Char} {cs : List Char} {d : Nat}

theorem ungroup_eq_self (hne : cs ≠ []) (hcs : '_' ∉ cs) : ungroup cs = some cs := by
  fun_induction ungroup cs with
  | case1 => exact absurd rfl hne
  | case2 => simp at hcs
  | case3 => rfl
  | case4 => simp at hcs
  | case5 c cs _ hnil _ ih =>
    rw [ih hnil fun h => hcs (List.mem_cons_of_mem c h)]
    rfl

theorem hexValue?_decimalDigit (hd : d < 10) : hexValue? (decimalDigit d) = some d := by
  revert d
  decide

theorem decimalDigit_ne_mark (hd : d < 10) : decimalDigit d ∉ ['_', '-', '+'] := by
  revert d
  decide

/-- A digit is read as the basic digit of its value. -/
theorem plainDigit_of_digitValue? (h : Text.digitValue? c = some d) : Decimal.plainDigit c = decimalDigit d := by
  obtain ⟨z, hz, hc, hd⟩ := exists_zero h
  unfold Decimal.plainDigit
  split
  · have hzero : z = 48 := (zeros_apart z hz).resolve_right (by omega)
    have hmod : d % 10 = d := Nat.mod_eq_of_lt hd
    rw [decimalDigit, hmod, ← hzero, ← hc, Char.ofNat_toNat]
  · rw [h]

theorem exists_plainDigit (h : isDecimalDigit c = true) : ∃ d < 10, Decimal.plainDigit c = decimalDigit d := by
  obtain ⟨d, hd⟩ := Option.isSome_iff_exists.1 h
  exact ⟨d, lt_ten_of_digitValue? hd, plainDigit_of_digitValue? hd⟩

/-- A list of digits is that of their basic digits. -/
theorem plainDigit_spec (hcs : ∀ c ∈ cs, isDecimalDigit c = true) (hc : c ∈ cs.map Decimal.plainDigit) :
    ∃ d < 10, c = decimalDigit d := by
  obtain ⟨b, hb, rfl⟩ := List.mem_map.1 hc
  exact exists_plainDigit (hcs b hb)

/-- Basic digits, each with its value, have the value of the digits that they are read from. -/
theorem foldl_plainDigit {value : Char → Nat} (hvalue : ∀ d < 10, value (decimalDigit d) = d)
    (hcs : ∀ c ∈ cs, isDecimalDigit c = true) :
    (cs.map Decimal.plainDigit).foldl (fun n c => 10 * n + value c) 0 = digitsValue cs := by
  induction cs using List.reverseRecOn with
  | nil => rfl
  | append_singleton cs c ih =>
    obtain ⟨d, hd⟩ := Option.isSome_iff_exists.1 (hcs c (by simp))
    rw [List.map_append, List.map_singleton, List.foldl_append, ih fun b hb => hcs b (by simp [hb]), List.foldl_cons,
      List.foldl_nil, digitsValue_concat, plainDigit_of_digitValue? hd, hvalue d (lt_ten_of_digitValue? hd), hd]
    rfl

theorem valueIn_ten (hcs : ∀ c ∈ cs, isDecimalDigit c = true) :
    valueIn 10 (cs.map Decimal.plainDigit) = digitsValue cs :=
  foldl_plainDigit (by decide) hcs

/-! ### Signed digits -/

/-- Characters with a minus sign in front of them, for a negative number. -/
def signed (negative : Bool) (cs : List Char) : List Char := (if negative then ['-'] else []) ++ cs

theorem mem_signed {negative : Bool} (h : c ∈ signed negative cs) : c = '-' ∨ c ∈ cs := by
  cases negative with
  | false => exact .inr h
  | true => exact List.mem_cons.1 h

theorem map_plainDigit_signed (negative : Bool) (cs : List Char) :
    (signed negative cs).map Decimal.plainDigit = signed negative (cs.map Decimal.plainDigit) := by
  cases negative <;> rfl

/-- Nothing is dropped if the first character stays. -/
theorem dropWhile_eq_self {f : Char → Bool} (h : ∀ c ∈ cs.head?, f c = false) : cs.dropWhile f = cs := by
  rcases cs with _ | ⟨c, cs⟩
  · rfl
  · rw [List.dropWhile_cons_of_neg (by simp [h c rfl])]

/-- Nothing is dropped around characters that are no white space. -/
theorem unpadded_eq_self (hcs : ∀ c ∈ cs, isBlank c = false) : Decimal.unpadded cs = cs := by
  have hpadding : ∀ c ∈ cs, Decimal.isPadding c = false := by
    intro c hc
    rw [Decimal.isPadding, hcs c hc]
    rfl
  rw [Decimal.unpadded, dropWhile_eq_self fun c hc => hpadding c (List.mem_of_mem_head? hc),
    dropWhile_eq_self fun c hc => hpadding c (List.mem_reverse.1 (List.mem_of_mem_head? hc)), List.reverse_reverse]

theorem splitSign_signed (negative : Bool) (hcs : ∀ c ∈ cs.head?, c ∉ ['_', '-', '+']) :
    Decimal.splitSign (signed negative cs) = (negative, cs) := by
  cases negative with
  | true => rfl
  | false =>
    show Decimal.splitSign cs = (false, cs)
    unfold Decimal.splitSign
    split
    · exact absurd (hcs '-' rfl) (by decide)
    · exact absurd (hcs '+' rfl) (by decide)
    · rfl

/-- In base ten there is no mark. -/
theorem dropMark_ten (cs : List Char) : dropMark 10 cs = cs := by
  unfold dropMark
  split
  · next h => cases h
  · rfl

/-- Decimal digits behind a sign or none are read as the number that they denote, if they are not too many. -/
theorem read_signed (negative : Bool) (hne : cs ≠ []) (hcs : ∀ c ∈ cs, isDecimalDigit c = true) :
    read (String.ofList (signed negative cs)) =
      if maxDigits < cs.length then .error (.tooLongToRead cs.length)
      else .ok (if negative then -(digitsValue cs : Int) else digitsValue cs) := by
  have hblank : ∀ c ∈ signed negative cs, isBlank c = false := by
    intro c hc
    rcases mem_signed hc with rfl | hc
    · rfl
    · exact isBlank_of_digit (hcs c hc)
  have hmark : ∀ c ∈ cs.map Decimal.plainDigit, c ∉ ['_', '-', '+'] := by
    intro c hc
    obtain ⟨d, hd, rfl⟩ := plainDigit_spec hcs hc
    exact decimalDigit_ne_mark hd
  have hrun : (cs.map Decimal.plainDigit).takeWhile (fun c => c = '_' || (digitValue? 10 c).isSome) =
      cs.map Decimal.plainDigit := by
    rw [List.takeWhile_eq_self_iff]
    intro c hc
    obtain ⟨d, hd, rfl⟩ := plainDigit_spec hcs hc
    simp [digitValue?, hexValue?_decimalDigit hd, hd]
  have hungroup : ungroup (cs.map Decimal.plainDigit) = some (cs.map Decimal.plainDigit) :=
    ungroup_eq_self (by simpa using hne) fun h => hmark '_' h (by decide)
  rw [read, readIn, String.toList_ofList, unpadded_eq_self hblank, map_plainDigit_signed]
  simp only [splitSign_signed negative fun c hc => hmark c (List.mem_of_mem_head? hc), dropMark_ten, hrun, hungroup,
    List.length_map, valueIn_ten hcs]
  by_cases hlong : maxDigits < cs.length
  · rw [if_pos ⟨rfl, hlong⟩, if_pos hlong]
  · rw [if_neg fun h => hlong h.2, if_neg hlong, if_neg (Nat.lt_irrefl _)]

/-- Decimal digits alone are read as the number that they denote, if they are not too many. -/
theorem read_digits (hne : cs ≠ []) (hcs : ∀ c ∈ cs, isDecimalDigit c = true) :
    read (String.ofList cs) =
      if maxDigits < cs.length then .error (.tooLongToRead cs.length) else .ok (digitsValue cs) :=
  read_signed false hne hcs

/-! ### The text of an integer -/

def text (n : Int) : String := String.ofList (signed (n < 0) (natDigits n.natAbs))

variable {n : Int}

theorem toList_text (n : Int) : (text n).toList = signed (n < 0) (natDigits n.natAbs) := String.toList_ofList

/-- An integer that is not too long is written as its text. -/
theorem write_eq_text (hn : Decimal.digitCount n.natAbs ≤ maxDigits) : write n = .ok (text n) := by
  rw [write, if_neg (Nat.not_lt.2 hn), text, signed]
  simp only [decide_eq_true_eq]

/-- The text of an integer is read as the integer, if it is not too long. -/
theorem read_text (hn : Decimal.digitCount n.natAbs ≤ maxDigits) : read (text n) = .ok n := by
  have hne : natDigits n.natAbs ≠ [] := Nat.toDigits_ne_nil
  have hshort : ¬maxDigits < (natDigits n.natAbs).length := Nat.not_lt.2 hn
  rw [text, read_signed _ hne fun _ => isDecimalDigit_of_mem_natDigits, if_neg hshort, digitsValue_natDigits]
  split
  · next hneg =>
    have hlt : n < 0 := of_decide_eq_true hneg
    rw [show -(n.natAbs : Int) = n by omega]
  · next hneg =>
    have hle : ¬n < 0 := fun hlt => hneg (decide_eq_true hlt)
    rw [show (n.natAbs : Int) = n by omega]

end Numeral
end FlowRules
