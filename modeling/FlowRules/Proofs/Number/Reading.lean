import Mathlib.Data.List.DropRight
import FlowRules.Proofs.Condition.Lexemes

/-!
# Decimals in writing

Digits of any script are read as the decimal that they denote, those behind a point as its places, an exponent part as a
shift, and a sign in front as its sign (`Decimal.read_whole`, `Decimal.read_fraction`, `Decimal.read_exponent`).  White
space around a decimal does not count (`Decimal.read_trim`).
-/

namespace FlowRules

/-! ### White space -/

namespace Text

variable {cs : List Char}

theorem trimChars_trimChars (cs : List Char) : trimChars (trimChars cs) = trimChars cs := by
  have hright (ds : List Char) : trimRight ds = ds.rdropWhile isBlank := rfl
  have hleft : trimLeft (trimChars cs) = trimChars cs := by
    obtain ⟨rest, hrest⟩ : trimChars cs <+: trimLeft cs := List.rdropWhile_prefix isBlank (trimLeft cs)
    rcases h : trimChars cs with _ | ⟨c, ds⟩
    · rfl
    · -- what is left begins as what was left after trimming on the left
      have hc : c ∈ (trimLeft cs).head? := by
        rw [← hrest, h]
        rfl
      rw [trimLeft, List.dropWhile_cons_of_neg (by simp [Token.head?_dropWhile cs c hc])]
  rw [trimChars, hleft, trimChars, hright, hright, List.rdropWhile_idempotent]

/-- Nothing is trimmed off a text that neither begins nor ends with white space. -/
theorem trimChars_of_ends (hhead : ∀ c ∈ cs.head?, isBlank c = false) (hlast : ∀ c ∈ cs.getLast?, isBlank c = false) :
    trimChars cs = cs := by
  have hreverse : ∀ c ∈ cs.reverse.head?, isBlank c = false := by
    rw [List.head?_reverse]
    exact hlast
  rw [trimChars, trimLeft, Numeral.dropWhile_eq_self hhead, trimRight, Numeral.dropWhile_eq_self hreverse,
    List.reverse_reverse]

theorem trimChars_eq_self (hcs : ∀ c ∈ cs, isBlank c = false) : trimChars cs = cs :=
  trimChars_of_ends (fun c hc => hcs c (List.mem_of_mem_head? hc)) fun c hc => hcs c (List.mem_of_getLast? hc)

end Text

namespace Decimal

open Text Numeral

variable {cs ds rest : List Char} {c : Char} {negative : Bool}

theorem read_trim (s : String) : read? (Text.trim s) = read? s := by
  rw [read?, Text.trim, String.toList_ofList, readChars?, trimChars_trimChars]
  rfl

/-! ### Basic digits -/

theorem isPlainDigit_plainDigit (h : isDecimalDigit c = true) : isPlainDigit (plainDigit c) = true := by
  obtain ⟨d, hd, hplain⟩ := exists_plainDigit h
  rw [hplain]
  clear hplain
  revert d
  decide

theorem plainValue_map (hcs : ∀ c ∈ cs, isDecimalDigit c = true) : plainValue (cs.map plainDigit) = digitsValue cs :=
  foldl_plainDigit (by decide) hcs

theorem plainDigit_of_isDigit (h : c.isDigit = true) : plainDigit c = c := by
  have hle : c.toNat ≤ 57 := (Char.isDigit_iff_toNat.1 h).2
  exact if_pos (by omega)

theorem map_plainDigit_eq_self (hcs : ∀ c ∈ cs, plainDigit c = c) : cs.map plainDigit = cs := by
  have hid : ∀ c ∈ cs, plainDigit c = id c := hcs
  rw [List.map_congr_left hid, List.map_id]

theorem map_plainDigit_natDigits (n : Nat) : (natDigits n).map plainDigit = natDigits n :=
  map_plainDigit_eq_self fun _ hc => plainDigit_of_isDigit (isDigit_of_mem_natDigits hc)

/-! ### Coefficient and exponent -/

theorem all_isPlainDigit (h : ∀ c ∈ cs, isDecimalDigit c = true) : ∀ c ∈ cs.map plainDigit, isPlainDigit c = true := by
  intro c hc
  obtain ⟨b, hb, rfl⟩ := List.mem_map.1 hc
  exact isPlainDigit_plainDigit (h b hb)

/-- Digits, or digits with a point and more digits or none behind it, denote a coefficient with a power of ten. -/
inductive Denotes : List Char → Nat → Int → Prop
  | whole {cs : List Char} : IsDigits cs → Denotes cs (digitsValue cs) 0
  | fraction {cs ds : List Char} : IsDigits cs → (∀ d ∈ ds, isDecimalDigit d = true) →
      Denotes (cs ++ '.' :: ds) (digitsValue (cs ++ ds)) (-ds.length)

variable {coefficient : Nat} {exponent n : Int}

theorem Denotes.congr {c : Nat} {e : Int} (h : Denotes cs coefficient exponent) (hc : coefficient = c)
    (he : exponent = e) : Denotes cs c e := hc ▸ he ▸ h

/-- The digits are read, and what is behind them is the exponent part. -/
theorem Denotes.readFinite? (h : Denotes cs coefficient exponent)
    (hrest : ∀ c ∈ rest.head?, isPlainDigit c = false ∧ c ≠ '.') :
    readFinite? (cs.map plainDigit ++ rest) = (readExponent? rest).map fun e => (coefficient, e + exponent) := by
  have hstop : ∀ c ∈ rest.head?, isPlainDigit c = false := fun c hc => (hrest c hc).1
  cases h with
  | whole hcs =>
    have hdigits := all_isPlainDigit hcs.2
    have hpoint : ∀ more, rest ≠ '.' :: more := by
      rintro more rfl
      exact (hrest '.' rfl).2 rfl
    have hne : (cs.map plainDigit).isEmpty = false := by simpa using hcs.1
    simp only [Decimal.readFinite?, Token.takeWhile_append hdigits hstop, Token.dropWhile_append hdigits hstop, hne,
      Bool.false_and, List.append_nil, plainValue_map hcs.2, List.length_nil]
    cases readExponent? rest <;> simp
  | @fraction cs ds hcs hds =>
    have hdigits := all_isPlainDigit hcs.2
    have hmore := all_isPlainDigit hds
    have hpoint : ∀ c ∈ ('.' :: (ds.map plainDigit ++ rest)).head?, isPlainDigit c = false := by
      intro c hc
      cases hc
      rfl
    have hall : ∀ c ∈ cs ++ ds, isDecimalDigit c = true := List.forall_mem_append.2 ⟨hcs.2, hds⟩
    have hne : (cs.map plainDigit).isEmpty = false := by simpa using hcs.1
    have hchars : (cs ++ '.' :: ds).map plainDigit ++ rest =
        cs.map plainDigit ++ '.' :: (ds.map plainDigit ++ rest) := by
      rw [List.map_append, List.map_cons, List.append_assoc]
      rfl
    simp only [hchars, Decimal.readFinite?, Token.takeWhile_append hdigits hpoint,
      Token.dropWhile_append hdigits hpoint, Token.takeWhile_append hmore hstop, Token.dropWhile_append hmore hstop, hne,
      Bool.false_and, ← List.map_append, plainValue_map hall, List.length_map]
    cases readExponent? rest <;> rfl

/-- The characters are digits and points. -/
theorem Denotes.chars (h : Denotes cs coefficient exponent) (hc : c ∈ cs) : isDecimalDigit c = true ∨ c = '.' := by
  cases h with
  | whole hcs => exact .inl (hcs.2 c hc)
  | fraction hcs hds =>
    rcases List.mem_append.1 hc with hc | hc
    · exact .inl (hcs.2 c hc)
    · rcases List.mem_cons.1 hc with rfl | hc
      · exact .inr rfl
      · exact .inl (hds c hc)

/-- The first character is a digit. -/
theorem Denotes.head (h : Denotes cs coefficient exponent) : ∃ c ds, cs = c :: ds ∧ isDecimalDigit c = true := by
  cases h with
  | whole hcs | fraction hcs _ =>
    obtain ⟨c, ds, rfl⟩ := List.exists_cons_of_ne_nil hcs.1
    exact ⟨c, _, rfl, hcs.2 c List.mem_cons_self⟩

/-! ### Reading decimals -/

/-- Characters without white space and underscores behind a sign or none are read as they are. -/
theorem readChars?_signed {n : Nat} {e : Int} (hcs : ∀ c ∈ cs, isBlank c = false ∧ c ≠ '_')
    (hsign : ∀ c ∈ (cs.map plainDigit).head?, c ∉ ['_', '-', '+'])
    (hfinite : Decimal.readFinite? (cs.map plainDigit) = some (n, e))
    (hwithin : (hasExponent (cs.map plainDigit) && !inRange n e) = false) :
    readChars? (signed negative cs) = some (.finite negative n e) := by
  have hall : ∀ c ∈ signed negative cs, isBlank c = false ∧ c ≠ '_' := by
    intro c hc
    rcases mem_signed hc with rfl | hc
    · decide
    · exact hcs c hc
  have hplain : (signed negative cs).filter (· ≠ '_') = signed negative cs :=
    List.filter_eq_self.2 fun c hc => decide_eq_true (hall c hc).2
  rw [readChars?, trimChars_eq_self fun c hc => (hall c hc).1, hplain, map_plainDigit_signed,
    splitSign_signed negative hsign]
  simp only [hfinite, hwithin, Bool.false_eq_true, if_false]

theorem hasExponent_append (cs ds : List Char) : hasExponent (cs ++ ds) = (hasExponent cs || hasExponent ds) :=
  List.any_append

section

variable (h : Denotes cs coefficient exponent)

include h

theorem Denotes.not_special (hc : c ∈ cs) : isBlank c = false ∧ c ≠ '_' := by
  rcases h.chars hc with hdigit | rfl
  · refine ⟨isBlank_of_digit hdigit, ?_⟩
    rintro rfl
    revert hdigit
    decide
  · decide

theorem Denotes.hasExponent : hasExponent (cs.map plainDigit) = false := by
  refine List.any_eq_false.2 fun c hc => ?_
  obtain ⟨b, hb, rfl⟩ := List.mem_map.1 hc
  rcases h.chars hb with hdigit | rfl
  · obtain ⟨d, hd, hplain⟩ := exists_plainDigit hdigit
    rw [hplain]
    clear hplain
    revert d
    decide
  · decide

/-- Digits with or without a point and an exponent part, behind a sign or none. -/
theorem Denotes.readChars?_append (hrest : ∀ c ∈ rest, isBlank c = false ∧ c ≠ '_' ∧ plainDigit c = c)
    (hhead : ∀ c ∈ rest.head?, isPlainDigit c = false ∧ c ≠ '.') (hexponent : readExponent? rest = some n)
    (hrange : Decimal.hasExponent rest = true → inRange coefficient (n + exponent) = true) :
    Decimal.readChars? (signed negative (cs ++ rest)) = some (.finite negative coefficient (n + exponent)) := by
  have hchars : (cs ++ rest).map plainDigit = cs.map plainDigit ++ rest := by
    rw [List.map_append, map_plainDigit_eq_self fun c hc => (hrest c hc).2.2]
  have hfinite : Decimal.readFinite? (cs.map plainDigit ++ rest) = some (coefficient, n + exponent) := by
    rw [h.readFinite? hhead, hexponent]
    rfl
  have hnotSpecial : ∀ c ∈ cs ++ rest, isBlank c = false ∧ c ≠ '_' :=
    List.forall_mem_append.2 ⟨fun c hc => h.not_special hc, fun c hc => ⟨(hrest c hc).1, (hrest c hc).2.1⟩⟩
  have hsign : ∀ c ∈ ((cs ++ rest).map plainDigit).head?, c ∉ ['_', '-', '+'] := by
    obtain ⟨b, ds, rfl, hb⟩ := h.head
    intro c hc
    cases hc
    obtain ⟨d, hd, hplain⟩ := exists_plainDigit hb
    rw [hplain]
    exact decimalDigit_ne_mark hd
  have hwithin : (Decimal.hasExponent (cs.map plainDigit ++ rest) && !inRange coefficient (n + exponent)) = false := by
    rw [hasExponent_append, h.hasExponent, Bool.false_or]
    -- without an exponent part the range does not matter
    rcases hbool : Decimal.hasExponent rest with _ | _
    · rfl
    · rw [hrange hbool]
      rfl
  rw [← hchars] at hfinite hwithin
  exact readChars?_signed hnotSpecial hsign hfinite hwithin

/-- Digits with or without a point, behind a sign or none. -/
theorem Denotes.readChars? : Decimal.readChars? (signed negative cs) = some (.finite negative coefficient exponent) := by
  have hread := @Denotes.readChars?_append cs [] negative coefficient exponent 0 h nofun nofun rfl nofun
  rwa [List.append_nil, Int.zero_add] at hread

end

/-! ### Exponent parts -/

theorem plainValue_natDigits (n : Nat) : plainValue (natDigits n) = n := by
  have hvalue := @plainValue_map (natDigits n) fun _ => isDecimalDigit_of_mem_natDigits
  rwa [map_plainDigit_natDigits, digitsValue_natDigits] at hvalue

/-- An exponent part is a sign and digits, which may begin with a zero. -/
theorem exponentChars_spec (n : Int) :
    ∃ ds, Binary64.exponentChars n = 'e' :: (if n < 0 then '-' else '+') :: ds ∧ ds ≠ [] ∧
      (∀ d ∈ ds, isPlainDigit d = true) ∧ plainValue ds = n.natAbs := by
  have hne : natDigits n.natAbs ≠ [] := Nat.toDigits_ne_nil
  refine ⟨_, rfl, ?_⟩
  split
  · refine ⟨List.cons_ne_nil _ _, List.forall_mem_cons.2 ⟨rfl, fun _ => isDigit_of_mem_natDigits⟩, ?_⟩
    exact plainValue_natDigits n.natAbs
  · exact ⟨hne, fun _ => isDigit_of_mem_natDigits, plainValue_natDigits n.natAbs⟩

/-- A mark, the sign of a number and its digits are read as the number. -/
theorem readExponent?_mark {mark : Char} {n : Int} (hmark : mark = 'e' ∨ mark = 'E') (hne : ds ≠ [])
    (hdigits : ∀ d ∈ ds, isPlainDigit d = true) (hvalue : plainValue ds = n.natAbs) :
    readExponent? (mark :: (if n < 0 then '-' else '+') :: ds) = some n := by
  have hall : (ds.isEmpty || !ds.all isPlainDigit) = false := by
    rw [List.isEmpty_eq_false_iff.2 hne, List.all_eq_true.2 hdigits]
    rfl
  rw [readExponent?, if_pos hmark]
  by_cases hneg : n < 0
  · simp only [if_pos hneg, splitSign, hall, hvalue]
    show some (-(n.natAbs : Int)) = some n
    exact congrArg some (by omega)
  · simp only [if_neg hneg, splitSign, hall, hvalue]
    show some (n.natAbs : Int) = some n
    exact congrArg some (by omega)

theorem readExponent?_exponentChars (n : Int) : readExponent? (Binary64.exponentChars n) = some n := by
  obtain ⟨ds, hchars, hne, hdigits, hvalue⟩ := exponentChars_spec n
  rw [hchars]
  exact readExponent?_mark (.inl rfl) hne hdigits hvalue

/-- The same with an exponent part, as long as the decimal is in the range. -/
theorem Denotes.readChars?_mark {mark : Char} (h : Denotes cs coefficient exponent) (hmark : mark = 'e' ∨ mark = 'E')
    (hne : ds ≠ []) (hdigits : ∀ d ∈ ds, isPlainDigit d = true) (hvalue : plainValue ds = n.natAbs)
    (hrange : inRange coefficient (n + exponent) = true) :
    Decimal.readChars? (signed negative (cs ++ mark :: (if n < 0 then '-' else '+') :: ds)) =
      some (.finite negative coefficient (n + exponent)) := by
  have hplain : ∀ c, isPlainDigit c = true → isBlank c = false ∧ c ≠ '_' ∧ plainDigit c = c := by
    intro c hc
    refine ⟨isBlank_of_digit (isDecimalDigit_of_isDigit hc), ?_, plainDigit_of_isDigit hc⟩
    rintro rfl
    cases hc
  refine h.readChars?_append ?_ ?_ (readExponent?_mark hmark hne hdigits hvalue) fun _ => hrange
  · refine List.forall_mem_cons.2 ⟨?_, List.forall_mem_cons.2 ⟨?_, fun d hd => hplain d (hdigits d hd)⟩⟩
    · rcases hmark with rfl | rfl <;> decide
    · split <;> decide
  · intro c hc
    cases hc
    rcases hmark with rfl | rfl <;> decide

theorem Denotes.readChars?_exponent (h : Denotes cs coefficient exponent)
    (hrange : inRange coefficient (n + exponent) = true) :
    Decimal.readChars? (signed negative (cs ++ Binary64.exponentChars n)) =
      some (.finite negative coefficient (n + exponent)) := by
  obtain ⟨ds, hchars, hne, hdigits, hvalue⟩ := exponentChars_spec n
  rw [hchars]
  exact h.readChars?_mark (.inl rfl) hne hdigits hvalue hrange

end Decimal
end FlowRules
