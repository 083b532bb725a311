import FlowRules.Proofs.Number.Order

/-!
# Change of sign

The opposite of a decimal has at most as many digits as computed results have, and none below their least place.  What
does not fit is rounded, so the change of sign is exact for those decimals whose value fits (`Decimal.negate_spec`).
-/

namespace FlowRules.Decimal

open Binary64 (IsPlace place_digits)

variable {c k p : Nat} {e : Int} {r : ℚ}

/-- A ratio with few enough digits, none of them at too low a place. -/
def IsComputed (r : ℚ) : Prop := ∃ (m : Nat) (f : Int), m < 10 ^ precision ∧ leastExponent ≤ f ∧ r = m * 10 ^ f

/-! ### Division by a power of ten -/

theorem divRound_le (h : c < 10 ^ (k + p)) : divRound c k ≤ 10 ^ p := by
  have hquotient : c / 10 ^ k < 10 ^ p := by
    rw [Nat.div_lt_iff_lt_mul (Nat.pow_pos (by decide)), ← Nat.pow_add, Nat.add_comm p]
    exact h
  unfold divRound
  split
  · exact Nat.zero_le _
  · dsimp only
    split
    · exact hquotient
    · exact hquotient.le

/-- Nothing is lost exactly if only zeros are dropped. -/
theorem divRound_mul_eq_iff (hc : c ≠ 0) : divRound c k * 10 ^ k = c ↔ 10 ^ k ∣ c := by
  constructor
  · intro h
    exact ⟨divRound c k, by rw [Nat.mul_comm, h]⟩
  · rintro ⟨q, rfl⟩
    have hpow : 0 < 10 ^ k := Nat.pow_pos (by decide)
    have hle : 10 ^ k ≤ 10 ^ k * q := Nat.le_of_dvd (Nat.pos_of_ne_zero hc) (Nat.dvd_mul_right _ q)
    have hdigits : ¬digitCount (10 ^ k * q) < k := fun hlt =>
      Nat.not_lt.2 hle ((digitCount_le_iff (Nat.zero_lt_of_lt hlt)).1 hlt.le)
    rw [divRound, if_neg hdigits]
    simp only [Nat.mul_div_cancel_left q hpow, Nat.mul_mod_right]
    rw [if_neg (by omega), Nat.mul_comm]

/-! ### Rounding -/

/-- How many digits of a coefficient are dropped. -/
def dropped (c : Nat) (e : Int) : Nat :=
  if e + digitCount c - 1 < minPlace then max (digitCount c - precision) (leastExponent - e).toNat
  else digitCount c - precision

/-- Enough digits are dropped, and either none, or all but the precision, or those below the least place. -/
theorem dropped_spec (c : Nat) (e : Int) :
    digitCount c ≤ dropped c e + precision ∧ leastExponent ≤ e + dropped c e ∧
      (dropped c e = 0 ∨ digitCount c = dropped c e + precision ∨ e + dropped c e = leastExponent) := by
  have hpos := digitCount_pos c
  unfold dropped precision minPlace leastExponent
  split <;> omega

/-- Only zeros are dropped from what can be computed. -/
theorem IsComputed.dvd (h : IsComputed (c * 10 ^ e)) (hc : c ≠ 0) : 10 ^ dropped c e ∣ c := by
  obtain ⟨m, f, hm, hf, hvalue⟩ := h
  -- the first digit is at the same place on both sides
  have hplace : e + digitCount c ≤ precision + f := by
    have hlow : (10 : ℚ) ^ (e + digitCount c - 1) ≤ c * 10 ^ e := ((place_digits hc).shift e).1
    have hhigh : (m : ℚ) * 10 ^ f < 10 ^ (precision + f : Int) := by
      have hm' : (m : ℚ) < 10 ^ precision := by exact_mod_cast hm
      rw [zpow_add₀ (by norm_num), zpow_natCast]
      exact mul_lt_mul_of_pos_right hm' (by positivity)
    have hlt := (hlow.trans_eq hvalue).trans_lt hhigh
    have hexp := (zpow_lt_zpow_iff_right₀ (by norm_num : (1 : ℚ) < 10)).1 hlt
    omega
  have hdropped : dropped c e = 0 ∨ e + dropped c e ≤ f := by
    obtain ⟨-, -, hnone | hspare | hfloor⟩ := dropped_spec c e
    · exact .inl hnone
    · exact .inr (by omega)
    · exact .inr (by omega)
  rcases hdropped with hnone | hle
  · rw [hnone]
    exact Nat.one_dvd c
  · have hshift : c = m * 10 ^ (f - e).toNat := by
      have hsplit : (10 : ℚ) ^ f = 10 ^ (f - e).toNat * 10 ^ e := by
        rw [← zpow_natCast, Int.toNat_of_nonneg (by omega), ← zpow_add₀ (by norm_num), Int.sub_add_cancel]
      rw [hsplit, ← mul_assoc] at hvalue
      exact_mod_cast mul_right_cancel₀ (by positivity : (10 : ℚ) ^ e ≠ 0) hvalue
    exact (Nat.pow_dvd_pow 10 (by omega)).trans (Dvd.intro_left m hshift.symm)

/-- A coefficient that has come to one digit too many drops a zero. -/
def carried (q drop : Nat) : Nat × Nat := if q = 10 ^ precision then (q / 10, drop + 1) else (q, drop)

theorem rounded_eq (negative : Bool) (hc : c ≠ 0) (e : Int) :
    rounded negative c e =
      let p := carried (divRound c (dropped c e)) (dropped c e)
      if maxPlace < e + p.2 + digitCount p.1 - 1 then .error .overflow else .ok (.finite negative p.1 (e + p.2)) := by
  rw [rounded, if_neg hc]
  rfl

/-- A coefficient is rounded to one with few enough digits, none of them at too low a place. -/
theorem rounded_spec (negative : Bool) (hc : c ≠ 0) (hplace : e + digitCount c + precision ≤ maxPlace) :
    ∃ (q : Nat) (f : Int), rounded negative c e = .ok (.finite negative q f) ∧ q < 10 ^ precision ∧ leastExponent ≤ f ∧
      f ≤ max (e + digitCount c) 0 ∧ (q : ℚ) * 10 ^ f = divRound c (dropped c e) * 10 ^ (e + dropped c e) := by
  have hpos := digitCount_pos c
  obtain ⟨hprecision, hleast, hdropped⟩ := dropped_spec c e
  have hle : divRound c (dropped c e) ≤ 10 ^ precision :=
    divRound_le ((digitCount_le_iff (by omega)).1 hprecision)
  have hbehind : e + dropped c e < max (e + digitCount c) 0 := by
    unfold precision leastExponent at hdropped
    omega
  -- so far below the greatest place no rounding can overflow
  have hfits {q : Nat} {f : Int} (hq : q < 10 ^ precision) (hf : f ≤ max (e + digitCount c) 0) :
      ¬maxPlace < f + digitCount q - 1 := by
    have hcount : digitCount q ≤ precision := (digitCount_le_iff (by decide)).2 hq
    unfold precision maxPlace at *
    omega
  rw [rounded_eq negative hc e]
  by_cases hcarry : divRound c (dropped c e) = 10 ^ precision
  · -- all nines have become a one behind which a zero is dropped
    have hlt : 10 ^ precision / 10 < 10 ^ precision := by decide
    refine ⟨10 ^ precision / 10, e + (dropped c e + 1 : Nat), ?_, hlt, by omega, by omega, ?_⟩
    · simp only [carried, hcarry, if_true]
      rw [if_neg (hfits hlt (by omega))]
    · have hten : ((10 ^ precision / 10 : Nat) : ℚ) * 10 = (10 ^ precision : Nat) := by
        rw [precision]
        norm_num
      rw [hcarry, ← hten, Nat.cast_succ, ← add_assoc, zpow_add_one₀ (by norm_num)]
      ring
  · have hlt : divRound c (dropped c e) < 10 ^ precision := lt_of_le_of_ne hle hcarry
    refine ⟨divRound c (dropped c e), e + dropped c e, ?_, hlt, hleast, hbehind.le, rfl⟩
    simp only [carried, if_neg hcarry]
    rw [if_neg (hfits hlt hbehind.le)]

/-! ### The opposite -/

/-- The ratio of a sign, a coefficient and an exponent. -/
def ratio (negative : Bool) (c : Nat) (e : Int) : ℚ := if negative then -(c * 10 ^ e) else c * 10 ^ e

theorem value?_finite (negative : Bool) (c : Nat) (e : Int) :
    (finite negative c e).value? = some ((ratio negative c e : WithTop ℚ) : Extended) := rfl

/-- A change of sign gives a coefficient with few enough digits, none of them at too low a place, and it is exact if
and only if such a coefficient can be had. -/
theorem negate_spec (negative : Bool) (hplace : e + digitCount c + precision ≤ maxPlace) :
    ∃ (t : Bool) (q : Nat) (f : Int), negate (.finite negative c e) = .ok (.finite t q f) ∧ q < 10 ^ precision ∧
      leastExponent ≤ f ∧ f ≤ max (e + digitCount c) 0 ∧
      (ratio t q f = -ratio negative c e ↔ IsComputed (c * 10 ^ e)) := by
  by_cases hc : c = 0
  · subst hc
    have hzero : IsComputed ((0 : Nat) * 10 ^ e) := ⟨0, 0, by decide, by decide, by simp⟩
    have hbounds : leastExponent ≤ max leastExponent (min maxPlace e) ∧
        max leastExponent (min maxPlace e) ≤ max (e + digitCount 0) 0 := by
      unfold leastExponent
      omega
    exact ⟨false, 0, _, rfl, by decide, hbounds.1, hbounds.2, iff_of_true (by simp [ratio]) hzero⟩
  · obtain ⟨q, f, hrounded, hq, hleast, hf, hvalue⟩ := rounded_spec (!negative) hc hplace
    refine ⟨!negative, q, f, ?_, hq, hleast, hf, ?_⟩
    · rw [negate, if_neg hc, hrounded]
    · have hsame : ratio (!negative) q f = -ratio negative c e ↔ (q : ℚ) * 10 ^ f = c * 10 ^ e := by
        cases negative <;> simp [ratio]
      rw [hsame]
      constructor
      · intro hexact
        exact ⟨q, f, hq, hleast, hexact.symm⟩
      · intro hcomputed
        have hnothing : divRound c (dropped c e) * 10 ^ dropped c e = c :=
          (divRound_mul_eq_iff hc).2 (hcomputed.dvd hc)
        calc (q : ℚ) * 10 ^ f = divRound c (dropped c e) * 10 ^ (e + dropped c e) := hvalue
          _ = (divRound c (dropped c e) * 10 ^ dropped c e : Nat) * 10 ^ e := by
            rw [Int.add_comm, zpow_add₀ (by norm_num), zpow_natCast]
            push_cast
            ring
          _ = c * 10 ^ e := by rw [hnothing]

end FlowRules.Decimal
