import Mathlib.Data.Bool.AllAny
import FlowRules.Proofs.Json.Numbers

/-!
# Numbers as they are written

A number is written with an integer part, a fraction and an exponent part, of which the last two can be missing.  Where
both are missing the number is read as an integer, and its text is that of the integer, unless it is a negative zero
(`Json.Literal.reads_integer`).  Otherwise it is read as the floating-point number nearest to the decimal that its text
denotes (`Json.Literal.reads_float`).
-/

namespace FlowRules.Json

open Numeral (signed)
open Text

/-- A number as it is written, in its parts. -/
structure Literal where
  negative : Bool
  whole : List Char
  fraction : List Char
  exponent : List Char
  isWhole : IsWhole whole
  isFraction : IsFraction fraction
  isExponent : IsExponent exponent

namespace Literal

/-- The number without its sign. -/
def body (l : Literal) : List Char := l.whole ++ (l.fraction ++ l.exponent)

def chars (l : Literal) : List Char := signed l.negative l.body

def text (l : Literal) : String := String.ofList l.chars

/-- A number that has an integer part alone. -/
def IsInteger (l : Literal) : Prop := l.fraction = [] ∧ l.exponent = []

variable {l : Literal} {whole : List Char} {c : Nat} {e : Int} {y : Decimal}

/-! ### Digits -/

private theorem natDigits_digit {d : Char} (hd : d.isDigit = true) :
    natDigits (d.toNat - 48) = [d] ∧ d.toNat - 48 < 10 := by
  obtain ⟨hlow, hhigh⟩ : 48 ≤ d.toNat ∧ d.toNat ≤ 57 := Char.isDigit_iff_toNat.1 hd
  have hlt : d.toNat - 48 < 10 := by omega
  have hall : ∀ k < 10, Nat.digitChar k = Char.ofNat (48 + k) := by decide
  rw [natDigits, Nat.toDigits_of_lt_base hlt, hall _ hlt, show 48 + (d.toNat - 48) = d.toNat by omega, Char.ofNat_toNat]
  exact ⟨rfl, hlt⟩

/-- Digits behind those of a number other than zero make those of a greater number. -/
private theorem exists_natDigits_append {n : Nat} (hn : 0 < n) {ds : List Char} (hds : ∀ d ∈ ds, d.isDigit = true) :
    ∃ m, 0 < m ∧ natDigits n ++ ds = natDigits m := by
  induction ds using List.reverseRecOn with
  | nil => exact ⟨n, hn, List.append_nil _⟩
  | append_singleton ds d ih =>
    obtain ⟨hds, hd⟩ := List.forall_mem_append.1 hds
    obtain ⟨m, hm, happend⟩ := ih hds
    obtain ⟨hdigit, hlt⟩ := natDigits_digit (hd d List.mem_cons_self)
    refine ⟨10 * m + (d.toNat - 48), by omega, ?_⟩
    rw [← List.append_assoc, happend, ← hdigit]
    exact Nat.toDigits_append_toDigits (by decide) hm hlt

/-- An integer part is what its value is written with. -/
theorem natDigits_digitsValue (hw : IsWhole whole) : natDigits (digitsValue whole) = whole := by
  obtain ⟨n, hn⟩ : ∃ n, whole = natDigits n := by
    cases hw with
    | zero => exact ⟨0, rfl⟩
    | @digits d ds hd hds =>
      obtain ⟨hfirst, hothers⟩ := List.forall_mem_cons.1 hds
      obtain ⟨hdigit, -⟩ := natDigits_digit hfirst
      have hpos : 0 < d.toNat - 48 := by
        refine Nat.pos_of_ne_zero fun hzero => hd ?_
        rw [hzero] at hdigit
        exact (List.cons.inj hdigit).1.symm
      obtain ⟨m, -, happend⟩ := exists_natDigits_append hpos hothers
      rw [hdigit] at happend
      exact ⟨m, happend⟩
  rw [hn, digitsValue_natDigits]

theorem isDigit_of_mem_whole (hw : IsWhole whole) : ∀ d ∈ whole, isDecimalDigit d = true := by
  cases hw with
  | zero => exact List.forall_mem_singleton.2 rfl
  | digits hd hds => exact fun d hd => isDecimalDigit_of_isDigit (hds d hd)

/-! ### As decimals -/

/-- Besides digits there are a point, marks and signs in a number. -/
def marks : List Char := ['.', 'e', 'E', '+', '-']

theorem mem_body (l : Literal) : ∀ d ∈ l.body, isDigit d = true ∨ d ∈ marks := by
  obtain ⟨negative, whole, fraction, exponent, hw, hf, he⟩ := l
  show ∀ d ∈ whole ++ (fraction ++ exponent), _
  have hdigits {ds : List Char} (hds : ∀ d ∈ ds, isDigit d = true) : ∀ d ∈ ds, isDigit d = true ∨ d ∈ marks :=
    fun d hd => .inl (hds d hd)
  refine List.forall_mem_append.2 ⟨?_, List.forall_mem_append.2 ⟨?_, ?_⟩⟩
  · cases hw with
    | zero => exact List.forall_mem_singleton.2 (.inl rfl)
    | digits hd hds => exact hdigits hds
  · cases hf with
    | none => exact List.forall_mem_nil _
    | digits hne hds => exact List.forall_mem_cons.2 ⟨by decide, hdigits hds⟩
  · cases he with
    | none => exact List.forall_mem_nil _
    | digits hmark hsign hne hds =>
      refine List.forall_mem_cons.2 ⟨?_, List.forall_mem_append.2 ⟨?_, hdigits hds⟩⟩
      · rcases hmark with rfl | rfl <;> decide
      · rcases hsign with rfl | rfl | rfl <;> exact List.all_iff_forall_prop.1 (by decide)

/-- The characters of a number are basic ones, and no white space or underscores. -/
theorem body_plain (l : Literal) : ∀ d ∈ l.body, isBlank d = false ∧ d ≠ '_' ∧ Decimal.plainDigit d = d := by
  intro d hd
  rcases l.mem_body d hd with hdigit | hmark
  · have hunderscore : d ≠ '_' := by
      rintro rfl
      exact absurd hdigit (by decide)
    exact ⟨isBlank_of_digit (isDecimalDigit_of_isDigit hdigit), hunderscore, Decimal.plainDigit_of_isDigit hdigit⟩
  · have hall : ∀ d ∈ marks, isBlank d = false ∧ d ≠ '_' ∧ Decimal.plainDigit d = d :=
      List.all_iff_forall_prop.1 (by decide)
    exact hall d hmark

/-- The integer part and the fraction denote a decimal. -/
theorem exists_denotes (hw : IsWhole whole) (hf : IsFraction l.fraction) :
    ∃ c e, Decimal.Denotes (whole ++ l.fraction) c e := by
  have hdigits : IsDigits whole := by
    refine ⟨?_, isDigit_of_mem_whole hw⟩
    cases hw <;> exact List.cons_ne_nil _ _
  generalize l.fraction = fraction at hf
  cases hf with
  | none => exact ⟨_, _, by rw [List.append_nil]; exact .whole hdigits⟩
  | digits hne hds => exact ⟨_, _, .fraction hdigits fun d hd => isDecimalDigit_of_isDigit (hds d hd)⟩

/-- An exponent part is read as a number. -/
theorem exists_readExponent (l : Literal) : ∃ n, Decimal.readExponent? l.exponent = some n := by
  have he := l.isExponent
  generalize l.exponent = exponent at he
  cases he with
  | none => exact ⟨0, rfl⟩
  | @digits mark sign ds hmark hsign hne hds =>
    have hall : (ds.isEmpty || !ds.all Decimal.isPlainDigit) = false := by
      have hdigits : ds.all Decimal.isPlainDigit = true := List.all_eq_true.2 hds
      rw [List.isEmpty_eq_false_iff.2 hne, hdigits]
      rfl
    have hsplit : ∃ negative, Decimal.splitSign (sign ++ ds) = (negative, ds) := by
      rcases hsign with rfl | rfl | rfl
      · refine ⟨false, Numeral.splitSign_signed false fun d hd => ?_⟩
        exact not_mark_of_isDigit (hds d (List.mem_of_mem_head? hd))
      · exact ⟨false, rfl⟩
      · exact ⟨true, rfl⟩
    obtain ⟨negative, hsplit⟩ := hsplit
    refine ⟨if negative then -(Decimal.plainValue ds : Int) else Decimal.plainValue ds, ?_⟩
    rw [Decimal.readExponent?, if_pos hmark, hsplit]
    simp only [hall, Bool.false_eq_true, if_false]

/-- A number without its sign is read as a coefficient and an exponent. -/
theorem exists_readFinite (l : Literal) : ∃ c e, Decimal.readFinite? l.body = some (c, e) := by
  obtain ⟨c, e, hdenotes⟩ := exists_denotes l.isWhole l.isFraction
  obtain ⟨n, hn⟩ := l.exists_readExponent
  have hstops : ∀ d ∈ l.exponent.head?, Decimal.isPlainDigit d = false ∧ d ≠ '.' := by
    have he := l.isExponent
    generalize l.exponent = exponent at he
    cases he with
    | none => nofun
    | digits hmark =>
      intro d hd
      cases hd
      rcases hmark with rfl | rfl <;> decide
  have hread := hdenotes.readFinite? hstops
  rw [hn, Decimal.map_plainDigit_eq_self, List.append_assoc] at hread
  · exact ⟨_, _, hread⟩
  · intro d hd
    refine (l.body_plain d ?_).2.2
    rw [body, ← List.append_assoc]
    exact List.mem_append_left _ hd

theorem head_body (l : Literal) : ∃ d ds, l.body = d :: ds ∧ isDigit d = true := by
  obtain ⟨d, ds, hwhole, hd⟩ := l.isWhole.head
  exact ⟨d, ds ++ (l.fraction ++ l.exponent), by rw [body, hwhole]; rfl, hd⟩

/-- The text of a number that is read as a decimal at all denotes its coefficient and exponent with its sign. -/
theorem eq_finite_of_read (hfinite : Decimal.readFinite? l.body = some (c, e)) (hread : Decimal.read? l.text = some y) :
    y = .finite l.negative c e := by
  have hall : ∀ d ∈ l.chars, isBlank d = false ∧ d ≠ '_' ∧ Decimal.plainDigit d = d := by
    intro d hd
    rcases Numeral.mem_signed hd with rfl | hd
    · decide
    · exact l.body_plain d hd
  have hunderscores : l.chars.filter (· ≠ '_') = l.chars :=
    List.filter_eq_self.2 fun d hd => decide_eq_true (hall d hd).2.1
  have hsplit : Decimal.splitSign l.chars = (l.negative, l.body) := by
    refine Numeral.splitSign_signed l.negative fun d hd => ?_
    obtain ⟨b, ds, hbody, hb⟩ := l.head_body
    rw [hbody] at hd
    cases hd
    exact not_mark_of_isDigit hb
  rw [Decimal.read?, text, String.toList_ofList, Decimal.readChars?, trimChars_eq_self fun d hd => (hall d hd).1,
    hunderscores, Decimal.map_plainDigit_eq_self fun d hd => (hall d hd).2.2, hsplit] at hread
  simp only [hfinite] at hread
  split at hread
  · cases hread
  · cases hread
    rfl

/-! ### As values of a document -/

/-- An integer is written as its digits are, behind the sign, or its digits are a negative zero. -/
private theorem text_signed (hw : IsWhole whole) (negative : Bool) {n : Int}
    (hn : n = if negative then -(digitsValue whole : Int) else digitsValue whole) :
    Numeral.text n = String.ofList (signed negative whole) ∨ String.ofList (signed negative whole) = "-0" ∧ n = 0 := by
  have hvalue : natDigits (digitsValue whole) = whole := natDigits_digitsValue hw
  rw [Numeral.text]
  cases negative with
  | false =>
    have hn : n = digitsValue whole := hn
    have hsign : decide (n < 0) = false := by simp [hn]
    left
    rw [hsign, hn, Int.natAbs_natCast, hvalue]
  | true =>
    have hn : n = -(digitsValue whole : Int) := hn
    rcases Nat.eq_zero_or_pos (digitsValue whole) with hzero | hpos
    · right
      rw [hzero] at hvalue hn
      rw [← hvalue]
      exact ⟨rfl, hn⟩
    · have hsign : decide (n < 0) = true := by simpa [hn] using hpos
      left
      rw [hsign, hn, Int.natAbs_neg, Int.natAbs_natCast, hvalue]

/-- A number with an integer part alone is read as an integer of the same text, or it is a negative zero. -/
theorem reads_integer (h : l.IsInteger) (hlength : l.whole.length ≤ Numeral.maxDigits) :
    ∃ n : Int, (∀ depth, Yields (readValue depth) l.chars (.int n)) ∧
      Decimal.digitCount n.natAbs ≤ Numeral.maxDigits ∧ (Numeral.text n = l.text ∨ l.text = "-0" ∧ n = 0) := by
  have hchars : l.chars = signed l.negative l.whole := by
    rw [chars, body, h.1, h.2, List.append_nil, List.append_nil]
  obtain ⟨d, ds, hwhole, -⟩ := l.isWhole.head
  have hread := Numeral.read_signed l.negative (hwhole ▸ List.cons_ne_nil d ds) (isDigit_of_mem_whole l.isWhole)
  rw [if_neg (Nat.not_lt.2 hlength)] at hread
  generalize hn : (if l.negative = true then -(digitsValue l.whole : Int) else digitsValue l.whole) = n at hread
  refine ⟨n, fun depth => ?_, ?_, ?_⟩
  · rw [hchars]
    exact (readNumber_whole l.isWhole l.negative hread).value l.isWhole.head depth
  · have habs : n.natAbs = digitsValue l.whole := by
      rw [← hn]
      split <;> omega
    rw [habs, Decimal.digitCount, natDigits_digitsValue l.isWhole]
    exact hlength
  · rw [text, hchars]
    exact text_signed l.isWhole l.negative hn.symm

/-- Every other number is read as the floating-point number nearest to the decimal that its text denotes. -/
theorem reads_float (h : ¬l.IsInteger) (hfinite : Decimal.readFinite? l.body = some (c, e)) (depth : Nat) :
    Yields (readValue depth) l.chars (.float (Binary64.ofDecimal l.negative c e)) := by
  have hpoint : l.fraction ≠ [] ∨ l.exponent ≠ [] := not_and_or.1 h
  have hyields := readNumber_parts l.isWhole l.isFraction l.isExponent hpoint hfinite l.negative
  exact hyields.value l.head_body depth

end Literal
end FlowRules.Json
