import FlowRules.Proofs.Number.Reading

/-!
# The texts of floating-point numbers

The digits of a finite number are laid out with a point or with an exponent part, and either layout is read as the
decimal that they denote (`Binary64.digitsText_spec`).  The shortest digits stay far inside the range of decimals
(`Binary64.shortest_inRange`), so the text of every number is read as a decimal (`Binary64.read_toText`).
-/

namespace FlowRules

namespace Decimal

variable {c d k : Nat}

theorem digitCount_le_iff (hk : 0 < k) : digitCount c ≤ k ↔ c < 10 ^ k := Nat.length_toDigits_le_iff (by decide) hk

theorem digitCount_pos (c : Nat) : 0 < digitCount c := List.length_pos_iff.2 Nat.toDigits_ne_nil

theorem digitCount_mono (h : c ≤ d) : digitCount c ≤ digitCount d :=
  (digitCount_le_iff (digitCount_pos d)).2
    (Nat.lt_of_le_of_lt h ((digitCount_le_iff (digitCount_pos d)).1 (Nat.le_refl _)))

end Decimal

namespace Binary64

open Text Numeral

variable {x : Binary64} {negative : Bool} {c : Nat} {e p : Int}

/-! ### The range of the shortest digits -/

/-- Dropping zeros makes the coefficient smaller and the exponent larger. -/
theorem dropZeros_spec (c : Nat) (e : Int) (fuel : Nat) :
    (dropZeros c e fuel).1 ≤ c ∧ e ≤ (dropZeros c e fuel).2 ∧ (dropZeros c e fuel).2 ≤ e + fuel := by
  induction fuel generalizing c e with
  | zero => exact ⟨Nat.le_refl c, Int.le_refl e, Int.le_of_eq (Int.add_zero e).symm⟩
  | succ fuel ih =>
    rw [dropZeros]
    split
    · obtain ⟨hc, hlow, hhigh⟩ := ih (c / 10) (e + 1)
      exact ⟨Nat.le_trans hc (Nat.div_le_self c 10), by omega, by omega⟩
    · exact ⟨Nat.le_refl c, Int.le_refl e, by omega⟩

/-- A number that is neither zero nor infinite is read from digits in a narrow range. -/
theorem place_of_ofDecimal (h : ofDecimal negative c p = x) (hinfinite : x.isInfinite = false)
    (hzero : x.isZero = false) : p + Decimal.digitCount c ≤ 310 := by
  unfold ofDecimal at h
  dsimp only at h
  split at h
  · subst h
    cases hzero
  · split at h
    · subst h
      cases hinfinite
    · omega

theorem nearestOnGrid?_spec (h : nearestOnGrid? x p = some c) : ofDecimal x.negative c p = x := by
  unfold nearestOnGrid? at h
  dsimp only at h
  split at h
  · next hlow hhigh =>
    -- both neighbours read back, and the nearer of them is taken
    cases h
    unfold divRound
    dsimp only
    split
    · exact of_decide_eq_true hhigh
    · exact of_decide_eq_true hlow
  · next hlow _ =>
    cases h
    exact of_decide_eq_true hlow
  · next _ hhigh =>
    cases h
    exact of_decide_eq_true hhigh
  · cases h

theorem searchGrids_spec (hinfinite : x.isInfinite = false) (hzero : x.isZero = false) (p : Int) (fuel : Nat) :
    searchGrids x p fuel = (0, 0) ∨
      p - fuel ≤ (searchGrids x p fuel).2 ∧
        (searchGrids x p fuel).2 + Decimal.digitCount (searchGrids x p fuel).1 ≤ 310 := by
  induction fuel generalizing p with
  | zero => exact .inl rfl
  | succ fuel ih =>
    rw [searchGrids]
    rcases h : nearestOnGrid? x p with _ | c
    · rcases ih (p - 1) with hnone | ⟨hlow, hhigh⟩
      · exact .inl hnone
      · exact .inr ⟨by push_cast; omega, hhigh⟩
    · exact .inr ⟨by push_cast; omega, place_of_ofDecimal (nearestOnGrid?_spec h) hinfinite hzero⟩

theorem le_firstPlace (m : Nat) {q : Int} (hq : -1074 ≤ q) : -1075 ≤ firstPlace m q := by
  unfold firstPlace
  split <;> omega

theorem exponent_ge (x : Binary64) : -1074 ≤ x.parts.2 := by
  unfold parts
  split
  · exact Int.le_refl _
  · show -1074 ≤ (x.exponent.val : Int) - 1075
    omega

theorem shortest_inRange (hinfinite : x.isInfinite = false) (hzero : x.isZero = false) :
    Decimal.inRange x.shortest.1 x.shortest.2 = true := by
  have hbound : -2000 ≤ x.shortest.2 ∧ x.shortest.2 + Decimal.digitCount x.shortest.1 ≤ 2000 := by
    have hfirst := le_firstPlace x.parts.1 (exponent_ge x)
    have hgrids := searchGrids_spec hinfinite hzero (firstPlace x.parts.1 x.parts.2) 17
    have hzeros := dropZeros_spec (searchGrids x (firstPlace x.parts.1 x.parts.2) 17).1
      (searchGrids x (firstPlace x.parts.1 x.parts.2) 17).2 17
    change (x.shortest.1 ≤ _ ∧ _ ≤ x.shortest.2 ∧ x.shortest.2 ≤ _) at hzeros
    obtain ⟨hc, hlow, hhigh⟩ := hzeros
    have hcount := Decimal.digitCount_mono hc
    rcases hgrids with hnone | ⟨hfrom, hto⟩
    · rw [hnone] at hcount hlow hhigh
      change Decimal.digitCount x.shortest.1 ≤ 1 at hcount
      dsimp only at hlow hhigh
      omega
    · omega
  obtain ⟨hlow, hhigh⟩ := hbound
  unfold Decimal.inRange
  rw [Bool.and_eq_true, decide_eq_true_eq, decide_eq_true_eq]
  omega

/-! ### The layout of digits -/

theorem digitsValue_zeros (k : Nat) : digitsValue (List.replicate k '0') = 0 := by
  induction k with
  | zero => rfl
  | succ k ih =>
    rw [List.replicate_succ', digitsValue_concat, ih]
    rfl

theorem digitsValue_zero : digitsValue ['0'] = 0 := digitsValue_zeros 1

theorem isDecimalDigit_of_mem_zeros {d : Char} {k : Nat} (h : d ∈ List.replicate k '0') : isDecimalDigit d = true := by
  rw [List.eq_of_mem_replicate h]
  rfl

section

variable {digits : List Char} {k : Nat}

/-- Zeros fill the places behind the point. -/
theorem denotes_behindPoint (hall : ∀ d ∈ digits, isDecimalDigit d = true) (k : Nat) :
    Decimal.Denotes ('0' :: '.' :: (List.replicate k '0' ++ digits)) (digitsValue digits) (-(k + digits.length)) := by
  have hzero : IsDigits ['0'] := ⟨List.cons_ne_nil _ _, List.forall_mem_singleton.2 rfl⟩
  have hplaces : ∀ d ∈ List.replicate k '0' ++ digits, isDecimalDigit d = true :=
    List.forall_mem_append.2 ⟨fun _ => isDecimalDigit_of_mem_zeros, hall⟩
  refine (Decimal.Denotes.fraction hzero hplaces).congr ?_ ?_
  · rw [digitsValue_append, digitsValue_append, digitsValue_zeros, digitsValue_zero]
    simp
  · rw [List.length_append, List.length_replicate]
    push_cast
    rfl

/-- Zeros fill the places before the point, and one is behind it. -/
theorem denotes_beforePoint (hne : digits ≠ []) (hall : ∀ d ∈ digits, isDecimalDigit d = true) (k : Nat) :
    Decimal.Denotes (digits ++ List.replicate k '0' ++ ['.', '0']) (digitsValue digits * 10 ^ (k + 1)) (-1) := by
  have hwhole : IsDigits (digits ++ List.replicate k '0') :=
    ⟨List.append_ne_nil_of_left_ne_nil hne _, List.forall_mem_append.2 ⟨hall, fun _ => isDecimalDigit_of_mem_zeros⟩⟩
  have hplace : ∀ d ∈ ['0'], isDecimalDigit d = true := List.forall_mem_singleton.2 rfl
  refine (Decimal.Denotes.fraction hwhole hplace).congr ?_ rfl
  rw [digitsValue_append, digitsValue_append, digitsValue_zeros, digitsValue_zero, List.length_replicate, Nat.pow_succ]
  simp [Nat.mul_assoc]

/-- The point stands among the digits. -/
theorem denotes_amongDigits (hall : ∀ d ∈ digits, isDecimalDigit d = true) (hk : 0 < k) (hlength : k < digits.length) :
    Decimal.Denotes (digits.take k ++ '.' :: digits.drop k) (digitsValue digits) (k - digits.length) := by
  have hwhole : IsDigits (digits.take k) := by
    refine ⟨fun hnil => ?_, fun d hd => hall d (List.mem_of_mem_take hd)⟩
    have htake : (digits.take k).length = k := List.length_take_of_le (Nat.le_of_lt hlength)
    rw [hnil] at htake
    exact Nat.ne_of_lt hk htake
  have hplaces : ∀ d ∈ digits.drop k, isDecimalDigit d = true := fun d hd => hall d (List.mem_of_mem_drop hd)
  refine (Decimal.Denotes.fraction hwhole hplaces).congr ?_ ?_
  · rw [List.take_append_drop]
  · rw [List.length_drop]
    omega

/-- One digit stands before the point, or there is no point at all. -/
theorem denotes_firstDigit {written : List Char}
    (hwritten : written = match digits with
      | [] => []
      | [d] => [d]
      | d :: ds => d :: '.' :: ds)
    (hne : digits ≠ []) (hall : ∀ d ∈ digits, isDecimalDigit d = true) :
    Decimal.Denotes written (digitsValue digits) (1 - digits.length) := by
  subst hwritten
  obtain ⟨d, ds, rfl⟩ := List.exists_cons_of_ne_nil hne
  obtain ⟨hd, hds⟩ := List.forall_mem_cons.1 hall
  have hfirst : IsDigits [d] := ⟨List.cons_ne_nil _ _, List.forall_mem_singleton.2 hd⟩
  rcases ds with _ | ⟨d', ds⟩
  · exact .whole hfirst
  · refine (Decimal.Denotes.fraction hfirst hds).congr rfl ?_
    simp only [List.length_cons]
    omega

end

/-- Digits in writing have a point, or one digit before a point and an exponent part.  Zeros that fill places count as
digits of the coefficient. -/
theorem digitsText_spec (c : Nat) (e : Int) :
    (∃ k : Nat, Decimal.Denotes (digitsText c e) (c * 10 ^ k) (e - k)) ∨
      ∃ cs n, digitsText c e = cs ++ exponentChars n ∧ Decimal.Denotes cs c (e - n) := by
  have hne : natDigits c ≠ [] := Nat.toDigits_ne_nil
  have hall : ∀ d ∈ natDigits c, isDecimalDigit d = true := fun _ => isDecimalDigit_of_mem_natDigits
  have hvalue : digitsValue (natDigits c) = c := digitsValue_natDigits c
  unfold digitsText
  generalize natDigits c = digits at *
  dsimp only
  split
  · -- without an exponent part: zeros behind the point, zeros before it, or the point among the digits
    left
    split
    · exact ⟨0, (denotes_behindPoint hall _).congr (by simpa using hvalue) (by omega)⟩
    · split
      · exact ⟨_, (denotes_beforePoint hne hall _).congr (by rw [hvalue]) (by omega)⟩
      · exact ⟨0, (denotes_amongDigits hall (by omega) (by omega)).congr (by simpa using hvalue) (by omega)⟩
  · exact .inr ⟨_, _, rfl, (denotes_firstDigit rfl hne hall).congr hvalue (by omega)⟩

/-- Digits in writing are read as the decimal that they denote. -/
theorem read_digitsText (negative : Bool) (hrange : Decimal.inRange c e = true) :
    ∃ k : Nat, Decimal.readChars? (signed negative (digitsText c e)) =
      some (.finite negative (c * 10 ^ k) (e - k)) := by
  rcases digitsText_spec c e with ⟨k, hdenotes⟩ | ⟨cs, n, htext, hdenotes⟩
  · exact ⟨k, hdenotes.readChars?⟩
  · have hplace : n + (e - n) = e := by omega
    have hread := @Decimal.Denotes.readChars?_exponent cs negative c (e - n) n hdenotes (by rwa [hplace])
    refine ⟨0, ?_⟩
    rw [htext, hread, hplace]
    simp

/-- The text of a number is read as a decimal. -/
theorem read_toText (hx : x.isNaN = false) : ∃ d, Decimal.read? x.toText = some d ∧ d.isNaN = false := by
  rw [Decimal.read?, toText, String.toList_ofList, toChars, if_neg (Bool.eq_false_iff.1 hx)]
  change ∃ d, Decimal.readChars? (signed x.negative _) = some d ∧ d.isNaN = false
  by_cases hinfinite : x.isInfinite = true
  · rw [if_pos hinfinite]
    refine ⟨.infinite x.negative, ?_, rfl⟩
    cases x.negative <;> decide
  · rw [if_neg hinfinite]
    by_cases hzero : x.isZero = true
    · rw [if_pos hzero]
      refine ⟨.finite x.negative 0 (-1), ?_, rfl⟩
      cases x.negative <;> decide
    · rw [if_neg hzero]
      obtain ⟨k, hread⟩ := read_digitsText x.negative
        (shortest_inRange (Bool.eq_false_iff.2 hinfinite) (Bool.eq_false_iff.2 hzero))
      exact ⟨_, hread, rfl⟩

end Binary64
end FlowRules
