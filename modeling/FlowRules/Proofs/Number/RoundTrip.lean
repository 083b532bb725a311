import FlowRules.Proofs.Number.Rounding
import FlowRules.Proofs.Number.Shortest

/-!
# Floating-point numbers read back

A decimal is read as the number nearest to it, and this depends on its value alone (`Binary64.ofDecimal_congr`).  Main
statement: the shortest digits of a finite number other than zero read back as the number
(`Binary64.ofDecimal_shortest`).  They are found because with seventeen digits one of the two decimals next to a number is
close to it (`Binary64.exists_nearestOnGrid`).
-/

namespace FlowRules.Binary64

variable {r : ℚ} {c c' m num den : Nat} {e e' p p' q : Int} {negative : Bool} {x : Binary64}

/-! ### Kinds of numbers -/

theorem eq_infinity (h : x.isInfinite = true) : x = infinity x.negative := by
  obtain ⟨negative, exponent, fraction⟩ := x
  obtain ⟨hexponent, hfraction⟩ := Bool.and_eq_true_iff.1 h
  obtain rfl : exponent = 2047 := eq_of_beq hexponent
  obtain rfl : fraction = 0 := eq_of_beq hfraction
  rfl

theorem eq_zero (h : x.isZero = true) : x = zero x.negative := by
  obtain ⟨negative, exponent, fraction⟩ := x
  obtain ⟨hexponent, hfraction⟩ := Bool.and_eq_true_iff.1 h
  obtain rfl : exponent = 0 := eq_of_beq hexponent
  obtain rfl : fraction = 0 := eq_of_beq hfraction
  rfl

theorem isFinite_of_not (hnan : x.isNaN = false) (hinfinite : x.isInfinite = false) : x.isFinite = true := by
  rw [isNaN, Bool.and_eq_false_iff] at hnan
  rw [isInfinite, Bool.and_eq_false_iff] at hinfinite
  rcases hnan with hexponent | hfraction
  · exact Bool.not_eq_true' _ ▸ hexponent
  · rcases hinfinite with hexponent | hzero
    · exact Bool.not_eq_true' _ ▸ hexponent
    · rw [bne, hzero] at hfraction
      cases hfraction

/-! ### Decimal places -/

/-- The first digit of a ratio stands at the place before `p`. -/
def IsPlace (r : ℚ) (p : Int) : Prop := 10 ^ (p - 1) ≤ r ∧ r < 10 ^ p

private theorem place_le (h : IsPlace r p) (h' : IsPlace r p') : p ≤ p' := by
  have hlt : (10 : ℚ) ^ (p - 1) < 10 ^ p' := h.1.trans_lt h'.2
  have hexp := (zpow_lt_zpow_iff_right₀ (by norm_num : (1 : ℚ) < 10)).1 hlt
  omega

theorem IsPlace.unique (h : IsPlace r p) (h' : IsPlace r p') : p = p' := Int.le_antisymm (place_le h h') (place_le h' h)

theorem place_digits (hc : c ≠ 0) : IsPlace c (Decimal.digitCount c) := by
  constructor
  · obtain ⟨k, hk⟩ : ∃ k, Decimal.digitCount c = k + 1 := ⟨_, (Nat.succ_pred_eq_of_pos (Decimal.digitCount_pos c)).symm⟩
    have hle : 10 ^ k ≤ c := by
      rcases k with _ | k
      · exact Nat.pos_of_ne_zero hc
      · refine Nat.not_lt.1 fun hlt => ?_
        have hcount := (Decimal.digitCount_le_iff (Nat.succ_pos k)).2 hlt
        omega
    rw [hk, Nat.cast_succ, add_sub_cancel_right, zpow_natCast]
    exact_mod_cast hle
  · have hlt := (Decimal.digitCount_le_iff (Decimal.digitCount_pos c)).1 le_rfl
    rw [zpow_natCast]
    exact_mod_cast hlt

theorem IsPlace.shift (h : IsPlace r p) (e : Int) : IsPlace (r * 10 ^ e) (e + p) := by
  have hpow : (0 : ℚ) < 10 ^ e := by positivity
  have hlow : (10 : ℚ) ^ (e + p - 1) = 10 ^ (p - 1) * 10 ^ e := by
    rw [← zpow_add₀ (by norm_num)]
    congr 1
    omega
  have hhigh : (10 : ℚ) ^ (e + p) = 10 ^ p * 10 ^ e := by
    rw [← zpow_add₀ (by norm_num), Int.add_comm]
  unfold IsPlace
  rw [hlow, hhigh]
  exact ⟨mul_le_mul_of_nonneg_right h.1 hpow.le, mul_lt_mul_of_pos_right h.2 hpow⟩

/-! ### Reading a decimal -/

/-- A decimal that is not zero is read as the ratio that it is, unless its first digit stands far out. -/
theorem ofDecimal_eq (negative : Bool) (hc : c ≠ 0) (e : Int) :
    ∃ num den : Nat, num ≠ 0 ∧ den ≠ 0 ∧ (num : ℚ) / den = c * 10 ^ e ∧ ofDecimal negative c e =
      if e + Decimal.digitCount c < -330 then zero negative
      else if 310 < e + Decimal.digitCount c then infinity negative else ofRatio negative num den := by
  unfold ofDecimal
  dsimp only
  simp only [hc, false_or]
  by_cases he : 0 ≤ e
  · obtain ⟨k, rfl⟩ := Int.eq_ofNat_of_zero_le he
    refine ⟨c * 10 ^ k, 1, by positivity, one_ne_zero, ?_, by rw [if_pos he, Int.toNat_natCast]⟩
    rw [zpow_natCast]
    push_cast
    rw [div_one]
  · obtain ⟨k, rfl⟩ := Int.exists_eq_neg_ofNat (Int.not_le.1 he).le
    refine ⟨c, 10 ^ k, hc, by positivity, ?_, by rw [if_neg he, Int.neg_neg, Int.toNat_natCast]⟩
    rw [zpow_neg, zpow_natCast]
    push_cast
    rfl

/-- What a decimal is read as does not depend on how it is written. -/
theorem ofDecimal_congr (negative : Bool) (h : (c : ℚ) * 10 ^ e = c' * 10 ^ e') :
    ofDecimal negative c e = ofDecimal negative c' e' := by
  have hpow : (0 : ℚ) < 10 ^ e := by positivity
  have hpow' : (0 : ℚ) < 10 ^ e' := by positivity
  by_cases hc : c = 0
  · have hc' : c' = 0 := by
      rw [hc, Nat.cast_zero, zero_mul, eq_comm, mul_eq_zero, or_iff_left hpow'.ne'] at h
      exact_mod_cast h
    simp [ofDecimal, hc, hc']
  · have hc' : c' ≠ 0 := by
      rintro rfl
      rw [Nat.cast_zero, zero_mul, mul_eq_zero, or_iff_left hpow.ne'] at h
      exact hc (by exact_mod_cast h)
    obtain ⟨num, den, hnum, hden, hratio, heq⟩ := ofDecimal_eq negative hc e
    obtain ⟨num', den', hnum', hden', hratio', heq'⟩ := ofDecimal_eq negative hc' e'
    have hplace : e + (Decimal.digitCount c : Int) = e' + Decimal.digitCount c' :=
      ((place_digits hc).shift e).unique (h ▸ (place_digits hc').shift e')
    have hround := ofRatio_congr negative hnum hden hnum' hden' (by rw [hratio, hratio', h])
    rw [heq, heq', hplace, hround]

/-! ### Decimals that are close to a number -/

/-- A number is neither too small nor too large for the places at which decimals are read. -/
private theorem magnitude_bounds (hfinite : x.isFinite = true) (hzero : x.isZero = false) :
    (10 : ℚ) ^ (-330 : Int) < x.magnitude ∧ 2 * x.magnitude < 10 ^ (310 : Int) := by
  obtain ⟨hpos, hlt, hleast, hgreatest, -⟩ := isParts hfinite hzero
  have hone : (1 : ℚ) ≤ x.parts.1 := by exact_mod_cast hpos
  have hmax : (x.parts.1 : ℚ) ≤ 2 ^ (53 : Int) := by exact_mod_cast hlt.le
  have hpow : (0 : ℚ) < 2 ^ x.parts.2 := by positivity
  unfold magnitude
  constructor
  · calc (10 : ℚ) ^ (-330 : Int) = (10 ^ (-55 : Int)) ^ 6 := by rw [← zpow_natCast, ← zpow_mul]; rfl
      _ < (2 ^ (-179 : Int)) ^ 6 := pow_lt_pow_left₀ (by norm_num) (by positivity) (by decide)
      _ = 2 ^ (-1074 : Int) := by rw [← zpow_natCast, ← zpow_mul]; rfl
      _ ≤ 2 ^ x.parts.2 := zpow_le_zpow_right₀ one_le_two hleast
      _ ≤ x.parts.1 * 2 ^ x.parts.2 := le_mul_of_one_le_left hpow.le hone
  · calc 2 * ((x.parts.1 : ℚ) * 2 ^ x.parts.2) ≤ 2 * (2 ^ (53 : Int) * 2 ^ (971 : Int)) := by
          refine mul_le_mul_of_nonneg_left (mul_le_mul hmax ?_ hpow.le (by positivity)) two_pos.le
          exact zpow_le_zpow_right₀ one_le_two hgreatest
      _ = (2 ^ (205 : Int)) ^ 5 := by
          rw [← zpow_natCast, ← zpow_mul, ← zpow_add₀ two_ne_zero, ← zpow_one_add₀ two_ne_zero]
          rfl
      _ < (10 ^ (62 : Int)) ^ 5 := pow_lt_pow_left₀ (by norm_num) (by positivity) (by decide)
      _ = 10 ^ (310 : Int) := by rw [← zpow_natCast, ← zpow_mul]; rfl

theorem IsClose.bounds {v : ℚ} (h : IsClose r v) : v < 2 * r ∧ r < 2 * v := by
  have hv : 0 < v := (mul_nonneg (abs_nonneg (r - v)) (by positivity)).trans_lt h
  obtain ⟨hlow, hhigh⟩ := abs_lt.1 ((lt_div_iff₀ (by positivity)).2 h)
  constructor <;> linarith

/-- A decimal that is close to a number is read as it. -/
theorem ofDecimal_of_close (hfinite : x.isFinite = true) (hzero : x.isZero = false)
    (hclose : IsClose (c * 10 ^ e) x.magnitude) : ofDecimal x.negative c e = x := by
  obtain ⟨hleast, hgreatest⟩ := magnitude_bounds hfinite hzero
  obtain ⟨hlow, hhigh⟩ := hclose.bounds
  have hc : c ≠ 0 := by
    rintro rfl
    rw [Nat.cast_zero, zero_mul] at hhigh hlow
    linarith
  obtain ⟨hfirst, hlast⟩ := (place_digits hc).shift e
  obtain ⟨num, den, hnum, hden, hratio, heq⟩ := ofDecimal_eq x.negative hc e
  rw [heq, if_neg, if_neg, ofRatio_of_close hfinite hzero hnum hden (by rwa [hratio])]
  · intro hfar
    have hpow := zpow_le_zpow_right₀ (by norm_num : (1 : ℚ) ≤ 10)
      (by omega : (310 : Int) ≤ e + Decimal.digitCount c - 1)
    exact ((hpow.trans hfirst).trans_lt hhigh).not_gt hgreatest
  · intro hfar
    have hpow := zpow_le_zpow_right₀ (by norm_num : (1 : ℚ) ≤ 10)
      (by omega : e + Decimal.digitCount c + 1 ≤ (-330 : Int))
    rw [zpow_add_one₀ (by norm_num)] at hpow
    linarith

/-! ### Grids -/

/-- The first digit of a number. -/
theorem firstPlace_spec (hm : m ≠ 0) (q : Int) : IsPlace (m * 2 ^ q) (firstPlace m q + 1) := by
  unfold firstPlace
  split
  · next hq =>
    obtain ⟨k, rfl⟩ := Int.eq_ofNat_of_zero_le hq
    have hplace := place_digits (c := m * 2 ^ k) (by positivity)
    rw [Int.sub_add_cancel, Int.toNat_natCast, zpow_natCast]
    exact_mod_cast hplace
  · next hq =>
    obtain ⟨k, rfl⟩ := Int.exists_eq_neg_ofNat (Int.not_le.1 hq).le
    have hplace := (place_digits (c := m * 5 ^ k) (by positivity)).shift (-k)
    have hvalue : ((m * 5 ^ k : Nat) : ℚ) * 10 ^ (-(k : Int)) = m * 2 ^ (-(k : Int)) := by
      rw [zpow_neg, zpow_neg, zpow_natCast, zpow_natCast]
      push_cast
      rw [show (10 : ℚ) = 2 * 5 by norm_num, mul_pow]
      field_simp
    rw [hvalue] at hplace
    rw [Int.sub_add_cancel, Int.neg_neg, Int.toNat_natCast, Int.add_comm]
    exact hplace

private theorem pow_toNat_div {b : ℚ} (hb : b ≠ 0) (q : Int) : b ^ q.toNat / b ^ (-q).toNat = b ^ q := by
  rw [← zpow_natCast, ← zpow_natCast, ← zpow_sub₀ hb]
  congr 1
  omega

theorem inUnits_spec (m : Nat) (q p : Int) :
    (inUnits m q p).2 ≠ 0 ∧ ((inUnits m q p).1 : ℚ) / (inUnits m q p).2 = m * 2 ^ q / 10 ^ p := by
  refine ⟨by unfold inUnits; positivity, ?_⟩
  rw [← pow_toNat_div two_ne_zero q, ← pow_toNat_div (by norm_num : (10 : ℚ) ≠ 0) p]
  unfold inUnits
  push_cast
  field_simp

/-- The decimal of a grid that is nearest to a number is one of the two next to it. -/
theorem divRound_eq_or (num den : Nat) : divRound num den = num / den ∨ divRound num den = num / den + 1 := by
  unfold divRound
  dsimp only
  split
  · exact .inr rfl
  · exact .inl rfl

/-- Where one of the two decimals next to a number reads back, the grid gives one that does. -/
theorem nearestOnGrid?_ne_none
    (h : ofDecimal x.negative (divRound (inUnits x.parts.1 x.parts.2 p).1 (inUnits x.parts.1 x.parts.2 p).2) p = x) :
    nearestOnGrid? x p ≠ none := by
  unfold nearestOnGrid?
  dsimp only
  rcases divRound_eq_or (inUnits x.parts.1 x.parts.2 p).1 (inUnits x.parts.1 x.parts.2 p).2 with hlow | hhigh
  · rw [hlow] at h
    rw [decide_eq_true h]
    split <;> simp_all
  · rw [hhigh] at h
    rw [decide_eq_true h]
    split <;> simp_all

/-- The grid of seventeen digits has a decimal that reads back. -/
theorem exists_nearestOnGrid (hfinite : x.isFinite = true) (hzero : x.isZero = false) :
    nearestOnGrid? x (firstPlace x.parts.1 x.parts.2 - 16) ≠ none := by
  have hfirst := (firstPlace_spec (isParts hfinite hzero).pos.ne' x.parts.2).1
  rw [add_sub_cancel_right] at hfirst
  refine nearestOnGrid?_ne_none (ofDecimal_of_close hfinite hzero ?_)
  obtain ⟨p, hp⟩ : ∃ p, firstPlace x.parts.1 x.parts.2 = p + 16 := ⟨_, (Int.sub_add_cancel _ 16).symm⟩
  rw [hp, zpow_add₀ (by norm_num)] at hfirst
  rw [hp, Int.add_sub_cancel]
  obtain ⟨hden, hratio⟩ := inUnits_spec x.parts.1 x.parts.2 p
  have hnearest := (divRound_nearest (inUnits x.parts.1 x.parts.2 p).1 (Nat.pos_of_ne_zero hden)).close
  generalize divRound (inUnits x.parts.1 x.parts.2 p).1 (inUnits x.parts.1 x.parts.2 p).2 = c at *
  -- the decimal is at most half a unit of the grid away, and the number has seventeen digits in these units
  have hpow : (0 : ℚ) < 10 ^ p := by positivity
  have hdiff : (c : ℚ) * 10 ^ p - x.magnitude = -((x.magnitude / 10 ^ p - c) * 10 ^ p) := by
    field_simp
    ring
  rw [hratio] at hnearest
  have habs : |(c : ℚ) * 10 ^ p - x.magnitude| ≤ 1 / 2 * 10 ^ p := by
    rw [hdiff, abs_neg, abs_mul, abs_of_pos hpow]
    exact mul_le_mul_of_nonneg_right hnearest hpow.le
  calc |(c : ℚ) * 10 ^ p - x.magnitude| * 2 ^ 54 ≤ 1 / 2 * 10 ^ p * 2 ^ 54 :=
        mul_le_mul_of_nonneg_right habs (by positivity)
    _ < 10 ^ p * 10 ^ (16 : Int) := by
        norm_num
        linarith
    _ ≤ x.magnitude := hfirst

/-! ### The shortest digits -/

/-- The first grid that has a decimal that reads back gives it. -/
theorem searchGrids_reads {fuel k : Nat} (hk : k < fuel) (h : nearestOnGrid? x (p - k) ≠ none) :
    ofDecimal x.negative (searchGrids x p fuel).1 (searchGrids x p fuel).2 = x := by
  induction fuel generalizing p k with
  | zero => cases hk
  | succ fuel ih =>
    rw [searchGrids]
    rcases hgrid : nearestOnGrid? x p with _ | c
    · rcases k with _ | k
      · rw [Int.natCast_zero, Int.sub_zero] at h
        exact absurd hgrid h
      · refine ih (k := k) (Nat.lt_of_succ_lt_succ hk) ?_
        rwa [show p - 1 - (k : Int) = p - (k + 1 : Nat) by omega]
    · exact nearestOnGrid?_spec hgrid

theorem ofDecimal_dropZeros (negative : Bool) (c : Nat) (e : Int) (fuel : Nat) :
    ofDecimal negative (dropZeros c e fuel).1 (dropZeros c e fuel).2 = ofDecimal negative c e := by
  induction fuel generalizing c e with
  | zero => rfl
  | succ fuel ih =>
    rw [dropZeros]
    split
    · next h =>
      rw [ih]
      refine ofDecimal_congr negative ?_
      have hc : (c : ℚ) = (c / 10 : Nat) * 10 := by exact_mod_cast (by omega : c = c / 10 * 10)
      rw [hc, zpow_add_one₀ (by norm_num)]
      ring
    · rfl

/-- The shortest digits of a number read back as it. -/
theorem ofDecimal_shortest (hfinite : x.isFinite = true) (hzero : x.isZero = false) :
    ofDecimal x.negative x.shortest.1 x.shortest.2 = x := by
  unfold shortest
  dsimp only
  rw [ofDecimal_dropZeros]
  exact searchGrids_reads (k := 16) (by decide) (exists_nearestOnGrid hfinite hzero)

theorem shortest_ne_zero (hfinite : x.isFinite = true) (hzero : x.isZero = false) : x.shortest.1 ≠ 0 := by
  intro hc
  have hback := ofDecimal_shortest hfinite hzero
  rw [hc, ofDecimal, if_pos (.inl rfl)] at hback
  rw [← hback] at hzero
  cases hzero

end FlowRules.Binary64
