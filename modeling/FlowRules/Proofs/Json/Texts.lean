import FlowRules.Json.Reader
import FlowRules.Json.Writer

/-!
# Texts of a JSON document

Every character is written in the basic alphabet: as it is, as a short escape, as a code unit or as the two halves of a
surrogate pair.  Each of these is read as the character (`Json.textFrom_writtenChar`), and a text in quotes as the text
(`Json.readText_writeText`).
-/

namespace FlowRules.Json

variable {d m n start fuel : Nat} {read cs rest : List Char}

/-! ### Code units -/

theorem hexValue?_hexDigit (hd : d < 16) : Numeral.hexValue? (Text.hexDigit d) = some d := by
  revert d
  decide

/-- A code unit is four digits, and they are read as it. -/
theorem codeUnit?_hexDigits (hn : n < 0x10000) : codeUnit? (Text.hexDigits 4 n) = some n := by
  have hdigit (k : Nat) : Numeral.hexValue? (Text.hexDigit (k % 16)) = some (k % 16) :=
    hexValue?_hexDigit (Nat.mod_lt k (by decide))
  show ((([n / 16 / 16 / 16 % 16, n / 16 / 16 % 16, n / 16 % 16, n % 16].map Text.hexDigit).mapM Numeral.hexValue?).bind
    fun values => some (values.foldl (fun n v => n * 16 + v) 0)) = some n
  simp only [List.map_cons, List.map_nil, List.mapM_cons, List.mapM_nil, hdigit]
  refine congrArg some ?_
  simp only [List.foldl_cons, List.foldl_nil]
  omega

@[simp] theorem length_hexDigits (k n : Nat) : (Text.hexDigits k n).length = k := by
  induction k generalizing n with
  | zero => rfl
  | succ k ih => rw [Text.hexDigits, List.length_append, ih, List.length_singleton]

private theorem take_hexDigits (n : Nat) (rest : List Char) :
    (Text.hexDigits 4 n ++ rest).take 4 = Text.hexDigits 4 n := List.take_left' (length_hexDigits 4 n)

private theorem drop_hexDigits (n : Nat) (rest : List Char) : (Text.hexDigits 4 n ++ rest).drop 4 = rest :=
  List.drop_left' (length_hexDigits 4 n)

/-- A code unit outside of the halves of surrogate pairs is read as its character. -/
theorem codePoint_unit (hn : n < 0x10000) (hhigh : isHighSurrogate n = false) (hrest : rest ≠ []) (i : Nat) :
    codePoint ⟨'u' :: (Text.hexDigits 4 n ++ rest), i⟩ = .ok (unitChar n, ⟨rest, i + 5⟩) := by
  have hlength : ¬(Text.hexDigits 4 n ++ rest).length ≤ 4 := by
    have hpos := List.length_pos_iff.2 hrest
    rw [List.length_append, length_hexDigits]
    omega
  unfold codePoint
  simp only [Cursor.drop, List.drop_succ_cons, List.drop_zero, hlength, if_false, take_hexDigits,
    codeUnit?_hexDigits hn, hhigh, Bool.false_and, Bool.false_eq_true, drop_hexDigits]

/-- Two halves of a surrogate pair are read as the character that they stand for. -/
theorem codePoint_pair (hn : n < 0x10000) (hm : m < 0x10000) (hhigh : isHighSurrogate n = true)
    (hlow : isLowSurrogate m = true) (hrest : rest ≠ []) (i : Nat) :
    codePoint ⟨'u' :: (Text.hexDigits 4 n ++ (codeUnit m ++ rest)), i⟩ = .ok (pairChar n m, ⟨rest, i + 5 + 6⟩) := by
  have hlength : ¬(Text.hexDigits 4 n ++ (codeUnit m ++ rest)).length ≤ 4 := by
    rw [List.length_append, length_hexDigits, codeUnit, List.cons_append, List.length_cons]
    omega
  have hbehind : 6 < (codeUnit m ++ rest).length := by
    have hpos := List.length_pos_iff.2 hrest
    rw [codeUnit, List.length_append, List.length_cons, List.length_cons, length_hexDigits]
    omega
  have hmark : ((codeUnit m ++ rest).take 2 == ['\\', 'u']) = true := rfl
  have hunit : codeUnit? (((codeUnit m ++ rest).drop 2).take 4) = some m :=
    (congrArg codeUnit? (take_hexDigits m rest)).trans (codeUnit?_hexDigits hm)
  have hleft : (codeUnit m ++ rest).drop 6 = rest := drop_hexDigits m rest
  unfold codePoint
  simp only [Cursor.drop, List.drop_succ_cons, List.drop_zero, hlength, if_false, take_hexDigits,
    codeUnit?_hexDigits hn, hhigh, Bool.true_and, drop_hexDigits, hbehind, decide_true, hmark, if_true, hunit, hlow, hleft]

/-! ### Characters -/

private theorem not_surrogate (c : Char) : c.toNat < 0xd800 ∨ 0xe000 ≤ c.toNat ∧ c.toNat < 0x110000 := by
  have hvalid : c.toNat < 0xd800 ∨ 0xdfff < c.toNat ∧ c.toNat < 0x110000 := c.valid
  omega

theorem unitChar_toNat (c : Char) : unitChar c.toNat = c := by
  have hc := not_surrogate c
  rw [unitChar, if_neg (by omega), Char.ofNat_toNat]

/-- A character of a higher plane is two halves of a surrogate pair. -/
theorem pairChar_toNat {c : Char} (hc : 0x10000 ≤ c.toNat) :
    pairChar (0xd800 + (c.toNat - 0x10000) / 0x400) (0xdc00 + (c.toNat - 0x10000) % 0x400) = c := by
  have hvalue : 0x10000 + (0xd800 + (c.toNat - 0x10000) / 0x400 - 0xd800) * 0x400 +
      (0xdc00 + (c.toNat - 0x10000) % 0x400 - 0xdc00) = c.toNat := by omega
  rw [pairChar, hvalue, Char.ofNat_toNat]

/-- A short escape is read as its character. -/
private theorem textFrom_escape {e c : Char} (he : e ≠ 'u') (hc : escapedChar? e = some c) (i : Nat) :
    textFrom start read (fuel + 1) ⟨'\\' :: e :: rest, i⟩ = textFrom start (c :: read) fuel ⟨rest, i + 2⟩ := by
  rw [textFrom]
  simp only [if_neg he, hc, Cursor.drop, List.drop_succ_cons, List.drop_zero]

private theorem textFrom_codePoint {c : Char} {i k : Nat} (hc : codePoint ⟨'u' :: cs, i + 1⟩ = .ok (c, ⟨rest, k⟩)) :
    textFrom start read (fuel + 1) ⟨'\\' :: 'u' :: cs, i⟩ = textFrom start (c :: read) fuel ⟨rest, k⟩ := by
  rw [textFrom]
  simp only [if_true, Cursor.drop, List.drop_succ_cons, List.drop_zero, hc]

private theorem textFrom_plain {c : Char} (hquote : c ≠ '"') (hescape : c ≠ '\\') (hc : 0x20 ≤ c.toNat) (i : Nat) :
    textFrom start read (fuel + 1) ⟨c :: rest, i⟩ = textFrom start (c :: read) fuel ⟨rest, i + 1⟩ := by
  rw [textFrom]
  split
  · next h => cases h
  · next h => exact absurd (List.cons.inj h).1 hquote
  · next h => exact absurd (List.cons.inj h).1 hescape
  · next h => exact absurd (List.cons.inj h).1 hescape
  · next h =>
    obtain ⟨rfl, rfl⟩ := List.cons.inj h
    rw [if_neg (Nat.not_lt.2 hc)]
    rfl

/-- A character in writing is read as the character. -/
theorem textFrom_writtenChar (c : Char) (hrest : rest ≠ []) (i : Nat) :
    ∃ k, textFrom start read (fuel + 1) ⟨writtenChar c ++ rest, i⟩ = textFrom start (c :: read) fuel ⟨rest, k⟩ := by
  unfold writtenChar
  split
  iterate 7 exact ⟨i + 2, textFrom_escape (by decide) rfl i⟩
  next hquote hescape _ _ _ _ _ =>
    have hc := not_surrogate c
    dsimp only
    split
    · next hplain => exact ⟨i + 1, textFrom_plain hquote hescape hplain.1 i⟩
    · split
      · next hunit =>
        have hhigh : isHighSurrogate c.toNat = false := by
          rw [isHighSurrogate, Bool.and_eq_false_iff, decide_eq_false_iff_not, decide_eq_false_iff_not]
          omega
        have hread := codePoint_unit hunit hhigh hrest (i + 1)
        rw [unitChar_toNat] at hread
        exact ⟨_, textFrom_codePoint hread⟩
      · next hpair =>
        have hhigh : isHighSurrogate (0xd800 + (c.toNat - 0x10000) / 0x400) = true := by
          rw [isHighSurrogate, Bool.and_eq_true, decide_eq_true_eq, decide_eq_true_eq]
          omega
        have hlow : isLowSurrogate (0xdc00 + (c.toNat - 0x10000) % 0x400) = true := by
          rw [isLowSurrogate, Bool.and_eq_true, decide_eq_true_eq, decide_eq_true_eq]
          omega
        have hread := codePoint_pair (by omega) (by omega) hhigh hlow hrest (i + 1)
        rw [pairChar_toNat (Nat.not_lt.1 hpair)] at hread
        rw [codeUnit, List.append_assoc]
        exact ⟨_, textFrom_codePoint hread⟩

/-! ### Texts -/

/-- Characters in writing are read up to the quote behind them. -/
theorem textFrom_writtenChars (hfuel : cs.length < fuel) (i : Nat) :
    ∃ k, textFrom start read fuel ⟨cs.flatMap writtenChar ++ '"' :: rest, i⟩ =
      .ok (String.ofList (read.reverse ++ cs), ⟨rest, k⟩) := by
  induction cs generalizing read fuel i with
  | nil =>
    obtain ⟨fuel, rfl⟩ := Nat.exists_eq_succ_of_ne_zero (Nat.ne_of_gt hfuel)
    refine ⟨i + 1, ?_⟩
    rw [List.append_nil]
    rfl
  | cons c cs ih =>
    obtain ⟨fuel, rfl⟩ := Nat.exists_eq_succ_of_ne_zero (Nat.ne_zero_of_lt hfuel)
    have hne : cs.flatMap writtenChar ++ '"' :: rest ≠ [] := List.append_ne_nil_of_right_ne_nil _ (List.cons_ne_nil _ _)
    obtain ⟨j, hj⟩ := @textFrom_writtenChar start fuel read _ c hne i
    obtain ⟨k, hk⟩ := @ih fuel (c :: read) (Nat.lt_of_succ_lt_succ hfuel) j
    refine ⟨k, ?_⟩
    rw [List.flatMap_cons, List.append_assoc, hj, hk, List.reverse_cons, List.append_assoc]
    rfl

private theorem writtenChar_ne_nil (c : Char) : writtenChar c ≠ [] := by
  unfold writtenChar
  split <;> try exact List.cons_ne_nil _ _
  dsimp only
  split
  · exact List.cons_ne_nil _ _
  · split <;> exact List.cons_ne_nil _ _

private theorem length_le_flatMap (cs : List Char) : cs.length ≤ (cs.flatMap writtenChar).length := by
  induction cs with
  | nil => exact Nat.le_refl 0
  | cons c cs ih =>
    have hpos := List.length_pos_iff.2 (writtenChar_ne_nil c)
    rw [List.flatMap_cons, List.length_append, List.length_cons]
    omega

/-- A text in quotes is read as the text. -/
theorem readText_writeText (s : String) (rest : List Char) (i : Nat) :
    ∃ k, readText ⟨writeText s ++ rest, i⟩ = .ok (s, ⟨rest, k⟩) := by
  have hrest : writeText s ++ rest = '"' :: (s.toList.flatMap writtenChar ++ '"' :: rest) := by
    simp [writeText]
  have hfuel : s.toList.length < (writeText s ++ rest).length := by
    have hle := length_le_flatMap s.toList
    rw [hrest, List.length_cons, List.length_append]
    omega
  obtain ⟨k, hk⟩ := @textFrom_writtenChars i _ [] _ rest hfuel (i + 1)
  refine ⟨k, ?_⟩
  rw [List.reverse_nil, List.nil_append, String.ofList_toList] at hk
  rw [readText, ← hk, hrest]
  rfl

end FlowRules.Json
