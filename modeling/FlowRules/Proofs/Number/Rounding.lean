import Mathlib.Algebra.Order.Field.Power
import Mathlib.Data.Rat.Cast.Order
import Mathlib.Tactic.FieldSimp
import Mathlib.Tactic.Linarith
import Mathlib.Tactic.NormNum
import Mathlib.Tactic.Positivity
import Mathlib.Tactic.Ring
import FlowRules.Number.Binary64

/-!
# Rounding to floating-point numbers

A ratio is rounded at the exponent at which it has 53 binary digits, and what it is rounded to depends on the ratio alone
(`Binary64.ofRatio_congr`).  Main statement: a ratio that is closer to a number than the 54th binary place is rounded to
it, also below a power of two, where the numbers lie closer together (`Binary64.ofRatio_of_close`).
-/

namespace FlowRules.Binary64

variable {r : ℚ} {m n num den num' den' : Nat} {q q' : Int} {negative : Bool} {x : Binary64}

/-! ### The nearest natural number -/

/-- A natural number is nearest to a ratio, and even where the ratio is halfway between two. -/
structure IsNearest (r : ℚ) (n : Nat) : Prop where
  close : |r - n| ≤ 1 / 2
  even : |r - n| = 1 / 2 → n % 2 = 0

theorem IsNearest.of_lt (h : |r - n| < 1 / 2) : IsNearest r n := ⟨h.le, fun heq => absurd heq h.ne⟩

private theorem not_nearest_of_lt (hm : IsNearest r m) (hn : IsNearest r n) : ¬m < n := by
  intro hlt
  obtain ⟨hmlow, hmhigh⟩ := abs_le.1 hm.close
  obtain ⟨hnlow, hnhigh⟩ := abs_le.1 hn.close
  have hcast : (m : ℚ) + 1 ≤ n := by exact_mod_cast hlt
  -- the two are neighbours, and the ratio is halfway between them
  have hhalf : r = m + 1 / 2 := by linarith
  have hnext : (n : ℚ) = m + 1 := by linarith
  have hmeven := hm.even (by rw [hhalf, add_sub_cancel_left]; norm_num)
  have hneven := hn.even (by rw [hhalf, hnext]; norm_num)
  have hnat : n = m + 1 := by exact_mod_cast hnext
  omega

theorem IsNearest.unique (hm : IsNearest r m) (hn : IsNearest r n) : m = n :=
  Nat.le_antisymm (Nat.not_lt.1 (not_nearest_of_lt hn hm)) (Nat.not_lt.1 (not_nearest_of_lt hm hn))

theorem divRound_nearest (num : Nat) (hden : 0 < den) : IsNearest ((num : ℚ) / den) (divRound num den) := by
  have hpos : (0 : ℚ) < den := by exact_mod_cast hden
  have hdivision : (num : ℚ) = den * (num / den : Nat) + (num % den : Nat) := by
    exact_mod_cast (Nat.div_add_mod num den).symm
  have hratio : (num : ℚ) / den = (num / den : Nat) + (num % den : Nat) / (den : ℚ) := by
    rw [hdivision]
    field_simp
  have hlow : 0 ≤ ((num % den : Nat) : ℚ) / den := by positivity
  have hhigh : ((num % den : Nat) : ℚ) / den < 1 := by
    rw [div_lt_one hpos]
    exact_mod_cast Nat.mod_lt num hden
  have hhalf : ((num % den : Nat) : ℚ) / den = 1 / 2 ↔ den = 2 * (num % den) := by
    rw [div_eq_div_iff hpos.ne' two_ne_zero]
    norm_cast
    omega
  have hbeyond : 1 / 2 < ((num % den : Nat) : ℚ) / den ↔ den < 2 * (num % den) := by
    rw [div_lt_div_iff₀ two_pos hpos]
    norm_cast
    omega
  unfold divRound
  dsimp only
  rw [hratio]
  generalize ((num % den : Nat) : ℚ) / den = part at *
  split
  · next hup =>
    have hpart : 1 / 2 ≤ part := by
      rcases hup with hup | ⟨hup, -⟩
      · exact (hbeyond.2 hup).le
      · exact (hhalf.2 hup).ge
    have habs : |((num / den : Nat) : ℚ) + part - (num / den + 1 : Nat)| = 1 - part := by
      rw [abs_of_neg] <;> push_cast <;> linarith
    refine ⟨habs.le.trans (by linarith), fun heq => ?_⟩
    have htie := hhalf.1 (by linarith)
    omega
  · next hdown =>
    have hpart : part ≤ 1 / 2 := not_lt.1 fun hlt => hdown (.inl (hbeyond.1 hlt))
    have habs : |((num / den : Nat) : ℚ) + part - (num / den : Nat)| = part := by
      rw [add_sub_cancel_left, abs_of_nonneg hlow]
    refine ⟨habs.le.trans hpart, fun heq => ?_⟩
    have htie := hhalf.1 (habs.symm.trans heq)
    omega

theorem scaled_nearest (num : Nat) (hden : 0 < den) (q : Int) :
    IsNearest ((num : ℚ) / den / 2 ^ q) (scaled num den q) := by
  unfold scaled
  split
  · next hq =>
    obtain ⟨k, rfl⟩ := Int.eq_ofNat_of_zero_le hq
    have hratio : (num : ℚ) / den / 2 ^ (k : Int) = num / (den * 2 ^ k : Nat) := by
      rw [zpow_natCast]
      push_cast
      rw [div_div]
    rw [hratio, Int.toNat_natCast]
    exact divRound_nearest num (by positivity)
  · next hq =>
    obtain ⟨k, rfl⟩ := Int.exists_eq_neg_ofNat (Int.not_le.1 hq).le
    have hratio : (num : ℚ) / den / 2 ^ (-(k : Int)) = (num * 2 ^ k : Nat) / den := by
      rw [zpow_neg, zpow_natCast]
      push_cast
      rw [div_inv_eq_mul, div_mul_eq_mul_div]
    rw [hratio, Int.neg_neg, Int.toNat_natCast]
    exact divRound_nearest _ hden

/-! ### The exponent of a ratio -/

/-- At an exponent a ratio has 53 binary digits, or fewer at the least. -/
structure IsScale (r : ℚ) (q : Int) : Prop where
  least : -1074 ≤ q
  lt : r < 2 ^ (q + 53)
  le : q = -1074 ∨ 2 ^ (q + 52) ≤ r

private theorem not_scale_of_lt (h : IsScale r q) (h' : IsScale r q') : ¬q < q' := by
  intro hlt
  have hleast := h.least
  have hle : (2 : ℚ) ^ (q' + 52) ≤ r := h'.le.resolve_left (by omega)
  have hpow : (2 : ℚ) ^ (q + 53) ≤ 2 ^ (q' + 52) := zpow_le_zpow_right₀ one_le_two (by omega)
  linarith [h.lt]

theorem IsScale.unique (h : IsScale r q) (h' : IsScale r q') : q = q' :=
  Int.le_antisymm (Int.not_lt.1 (not_scale_of_lt h' h)) (Int.not_lt.1 (not_scale_of_lt h h'))

/-- The binary digits of a ratio begin where those of its parts say, or one place below. -/
private theorem log_bounds (hnum : num ≠ 0) (hden : den ≠ 0) :
    (2 : ℚ) ^ ((num.log2 : Int) - den.log2 - 1) ≤ num / den ∧ (num : ℚ) / den < 2 ^ ((num.log2 : Int) - den.log2 + 1) := by
  have hpos : (0 : ℚ) < den := by exact_mod_cast Nat.pos_of_ne_zero hden
  have hnumlow : (2 : ℚ) ^ (num.log2 : Int) ≤ num := by
    rw [zpow_natCast]
    exact_mod_cast Nat.log2_self_le hnum
  have hnumhigh : (num : ℚ) < 2 ^ ((num.log2 : Int) + 1) := by
    have h : num < 2 ^ (num.log2 + 1) := Nat.lt_log2_self
    exact_mod_cast h
  have hdenlow : (2 : ℚ) ^ (den.log2 : Int) ≤ den := by
    rw [zpow_natCast]
    exact_mod_cast Nat.log2_self_le hden
  have hdenhigh : (den : ℚ) < 2 ^ ((den.log2 : Int) + 1) := by
    have h : den < 2 ^ (den.log2 + 1) := Nat.lt_log2_self
    exact_mod_cast h
  constructor
  · rw [le_div_iff₀ hpos]
    calc (2 : ℚ) ^ ((num.log2 : Int) - den.log2 - 1) * den
        ≤ 2 ^ ((num.log2 : Int) - den.log2 - 1) * 2 ^ ((den.log2 : Int) + 1) :=
          mul_le_mul_of_nonneg_left hdenhigh.le (by positivity)
      _ = 2 ^ (num.log2 : Int) := by
          rw [← zpow_add₀ two_ne_zero]
          congr 1
          omega
      _ ≤ num := hnumlow
  · rw [div_lt_iff₀ hpos]
    calc (num : ℚ) < 2 ^ ((num.log2 : Int) + 1) := hnumhigh
      _ = 2 ^ ((num.log2 : Int) - den.log2 + 1) * 2 ^ (den.log2 : Int) := by
          rw [← zpow_add₀ two_ne_zero]
          congr 1
          omega
      _ ≤ 2 ^ ((num.log2 : Int) - den.log2 + 1) * den := mul_le_mul_of_nonneg_left hdenlow (by positivity)

/-- The test by which an exponent is lowered. -/
private theorem below_iff (num : Nat) (hden : den ≠ 0) (g : Int) :
    (if 0 ≤ g then num < den * 2 ^ (g.toNat + 52) else num * 2 ^ (-g).toNat < den * 2 ^ 52) ↔
      (num : ℚ) / den < 2 ^ (g + 52) := by
  have hpos : (0 : ℚ) < den := by exact_mod_cast Nat.pos_of_ne_zero hden
  rw [div_lt_iff₀ hpos]
  split
  · next hg =>
    obtain ⟨k, rfl⟩ := Int.eq_ofNat_of_zero_le hg
    rw [Int.toNat_natCast]
    have hpow : (2 : ℚ) ^ ((k : Int) + 52) = (2 ^ (k + 52) : Nat) := by exact_mod_cast rfl
    rw [hpow, mul_comm]
    norm_cast
  · next hg =>
    obtain ⟨k, rfl⟩ := Int.exists_eq_neg_ofNat (Int.not_le.1 hg).le
    rw [Int.neg_neg, Int.toNat_natCast]
    have hk : (0 : ℚ) < 2 ^ k := by positivity
    have hpow : (2 : ℚ) ^ (-(k : Int) + 52) * den * 2 ^ k = (den * 2 ^ 52 : Nat) := by
      rw [zpow_add₀ two_ne_zero, zpow_neg, zpow_natCast]
      push_cast
      field_simp
    rw [← mul_lt_mul_iff_of_pos_right hk, hpow]
    norm_cast

/-- The least exponent is taken where the digits of a ratio would reach further. -/
private theorem isScale_max {g : Int} (hlow : 2 ^ (g + 52) ≤ r) (hhigh : r < 2 ^ (g + 53)) :
    IsScale r (max (-1074) g) := by
  refine ⟨le_max_left _ _, hhigh.trans_le (zpow_le_zpow_right₀ one_le_two ?_), ?_⟩
  · have hle := le_max_right (-1074) g
    omega
  · rcases le_total g (-1074) with h | h
    · exact .inl (max_eq_left h)
    · rw [max_eq_right h]
      exact .inr hlow

theorem scaleFor_isScale (hnum : num ≠ 0) (hden : den ≠ 0) : IsScale ((num : ℚ) / den) (scaleFor num den) := by
  obtain ⟨hlow, hhigh⟩ := log_bounds hnum hden
  have hbelow := below_iff num hden ((num.log2 : Int) - den.log2 - 52)
  unfold scaleFor
  dsimp only
  rw [if_congr hbelow rfl rfl]
  split
  · next hlt => exact isScale_max (le_of_eq_of_le (by congr 1; omega) hlow) (lt_of_lt_of_eq hlt (by congr 1; omega))
  · next hle => exact isScale_max (not_lt.1 hle) (lt_of_lt_of_eq hhigh (by congr 1; omega))

/-! ### What a ratio is rounded to -/

theorem ofRatio_eq (negative : Bool) (hnum : num ≠ 0) (hden : den ≠ 0) (hq : IsScale ((num : ℚ) / den) q)
    (hm : IsNearest ((num : ℚ) / den / 2 ^ q) m) :
    ofRatio negative num den = if m = 2 ^ 53 then ofParts negative (2 ^ 52) (q + 1) else ofParts negative m q := by
  obtain rfl := (scaleFor_isScale hnum hden).unique hq
  obtain rfl := (scaled_nearest num (Nat.pos_of_ne_zero hden) _).unique hm
  rw [ofRatio, if_neg hnum]

/-- What a ratio is rounded to does not depend on how it is written. -/
theorem ofRatio_congr (negative : Bool) (hnum : num ≠ 0) (hden : den ≠ 0) (hnum' : num' ≠ 0) (hden' : den' ≠ 0)
    (h : (num : ℚ) / den = num' / den') : ofRatio negative num den = ofRatio negative num' den' := by
  have hq := scaleFor_isScale hnum' hden'
  have hm := scaled_nearest num' (Nat.pos_of_ne_zero hden') (scaleFor num' den')
  rw [ofRatio_eq negative hnum' hden' hq hm]
  rw [← h] at hq hm
  exact ofRatio_eq negative hnum hden hq hm

/-! ### The parts of a number -/

/-- The magnitude of a finite number. -/
def magnitude (x : Binary64) : ℚ := x.parts.1 * 2 ^ x.parts.2

/-- The parts of a number have 53 binary digits, or fewer at the least exponent. -/
structure IsParts (m : Nat) (q : Int) : Prop where
  pos : 0 < m
  lt : m < 2 ^ 53
  least : -1074 ≤ q
  greatest : q ≤ 971
  le : q = -1074 ∨ 2 ^ 52 ≤ m

theorem exponent_ne (hfinite : x.isFinite = true) : x.exponent.val ≠ 2047 := by
  intro heq
  have hexponent : x.exponent = 2047 := Fin.ext heq
  simp [isFinite, hexponent] at hfinite

theorem isParts (hfinite : x.isFinite = true) (hzero : x.isZero = false) : IsParts x.parts.1 x.parts.2 := by
  have hfraction := x.fraction.isLt
  have hexponent := x.exponent.isLt
  have hne := exponent_ne hfinite
  unfold parts
  split
  · next hsmall =>
    have hpos : x.fraction.val ≠ 0 := by
      intro heq
      have hexp : x.exponent = 0 := Fin.ext hsmall
      have hfrac : x.fraction = 0 := Fin.ext heq
      simp [isZero, hexp, hfrac] at hzero
    show IsParts x.fraction.val (-1074)
    exact ⟨Nat.pos_of_ne_zero hpos, by omega, by omega, by omega, .inl rfl⟩
  · show IsParts (2 ^ 52 + x.fraction.val) ((x.exponent.val : Int) - 1075)
    exact ⟨by omega, by omega, by omega, by omega, .inr (by omega)⟩

theorem ofParts_parts (hfinite : x.isFinite = true) : ofParts x.negative x.parts.1 x.parts.2 = x := by
  have hne := exponent_ne hfinite
  obtain ⟨negative, exponent, fraction⟩ := x
  have hexponent := exponent.isLt
  have hfraction := fraction.isLt
  dsimp only at hne
  unfold parts
  dsimp only
  split
  · next hsmall =>
    have hexp : exponent = 0 := Fin.ext hsmall
    show ofParts negative fraction.val (-1074) = _
    rw [ofParts, if_neg (by decide), if_pos hfraction, hexp, Fin.ofNat_val_eq_self]
  · show ofParts negative (2 ^ 52 + fraction.val) ((exponent.val : Int) - 1075) = _
    have hexp : ((exponent.val : Int) - 1075 + 1075).toNat = exponent.val := by omega
    have hfrac : 2 ^ 52 + fraction.val - 2 ^ 52 = fraction.val := by omega
    rw [ofParts, if_neg (by omega), if_neg (by omega), hexp, hfrac, Fin.ofNat_val_eq_self, Fin.ofNat_val_eq_self]

/-! ### Ratios that are close to a number -/

/-- A ratio is closer to another than its 54th binary place. -/
def IsClose (r v : ℚ) : Prop := |r - v| * 2 ^ 54 < v

/-- The same in units of the last place. -/
private theorem isClose_units (h : IsClose r (m * 2 ^ q)) :
    -(m : ℚ) < (r / 2 ^ q - m) * 2 ^ 54 ∧ (r / 2 ^ q - m) * 2 ^ 54 < m := by
  have hpow : (0 : ℚ) < 2 ^ q := by positivity
  have hunits : (r - m * 2 ^ q) * 2 ^ 54 = (r / 2 ^ q - m) * 2 ^ 54 * 2 ^ q := by
    field_simp
  unfold IsClose at h
  rw [← abs_of_pos (by positivity : (0 : ℚ) < 2 ^ 54), ← abs_mul, hunits, abs_lt, ← neg_mul] at h
  exact ⟨lt_of_mul_lt_mul_right h.1 hpow.le, lt_of_mul_lt_mul_right h.2 hpow.le⟩

/-- A ratio that is close to a number has the exponent of the number, unless it is below a power of two that the number
is. -/
private theorem close_scale (hlt : m < 2 ^ 53) (hleast : -1074 ≤ q) (hclose : IsClose r (m * 2 ^ q))
    (hle : q = -1074 ∨ 2 ^ 52 ≤ r / 2 ^ q) : IsScale r q ∧ IsNearest (r / 2 ^ q) m := by
  obtain ⟨hbelow, habove⟩ := isClose_units hclose
  have hpow : (0 : ℚ) < 2 ^ q := by positivity
  have hmax : (m : ℚ) ≤ 2 ^ 53 - 1 := by
    have hcast : (m : ℚ) + 1 ≤ (2 ^ 53 : Nat) := by exact_mod_cast hlt
    push_cast at hcast
    linarith
  refine ⟨⟨hleast, ?_, hle.imp_right fun hle => ?_⟩, IsNearest.of_lt ?_⟩
  · rw [zpow_add₀ two_ne_zero, ← div_lt_iff₀' hpow]
    norm_num
    linarith
  · rw [zpow_add₀ two_ne_zero, ← le_div_iff₀' hpow]
    exact_mod_cast hle
  · rw [abs_lt]
    constructor <;> linarith

/-- Below a power of two, a ratio that is close to it has the exponent below, and is rounded to it all the same. -/
private theorem close_scale_below (hle : 2 ^ 52 ≤ m) (hleast : -1074 < q) (hclose : IsClose r (m * 2 ^ q))
    (hlt : r / 2 ^ q < 2 ^ 52) : m = 2 ^ 52 ∧ IsScale r (q - 1) ∧ IsNearest (r / 2 ^ (q - 1)) (2 ^ 53) := by
  obtain ⟨hbelow, habove⟩ := isClose_units hclose
  have hpow : (0 : ℚ) < 2 ^ q := by positivity
  have hm : m = 2 ^ 52 := by
    refine Nat.le_antisymm (Nat.lt_succ_iff.1 ?_) hle
    have hcast : (m : ℚ) < (2 ^ 52 + 1 : Nat) := by
      push_cast
      linarith
    exact_mod_cast hcast
  have hdouble : r / 2 ^ (q - 1) = 2 * (r / 2 ^ q) := by
    rw [zpow_sub_one₀ two_ne_zero]
    field_simp
  rw [hm] at hbelow
  push_cast at hbelow
  refine ⟨hm, ⟨by omega, ?_, .inr ?_⟩, IsNearest.of_lt ?_⟩
  · rw [show q - 1 + 53 = q + 52 by omega, zpow_add₀ two_ne_zero, ← div_lt_iff₀' hpow]
    exact_mod_cast hlt
  · rw [show q - 1 + 52 = q + 51 by omega, zpow_add₀ two_ne_zero, ← le_div_iff₀' hpow]
    norm_num
    linarith
  · rw [hdouble, abs_lt]
    push_cast
    constructor <;> linarith

theorem ofRatio_of_close (hfinite : x.isFinite = true) (hzero : x.isZero = false) (hnum : num ≠ 0) (hden : den ≠ 0)
    (hclose : IsClose ((num : ℚ) / den) x.magnitude) : ofRatio x.negative num den = x := by
  have hx := ofParts_parts hfinite
  obtain ⟨hpos, hlt, hleast, hgreatest, hle⟩ := isParts hfinite hzero
  by_cases hscale : x.parts.2 = -1074 ∨ 2 ^ 52 ≤ (num : ℚ) / den / 2 ^ x.parts.2
  · obtain ⟨hq, hm⟩ := close_scale hlt hleast hclose hscale
    rw [ofRatio_eq x.negative hnum hden hq hm, if_neg hlt.ne, hx]
  · obtain ⟨hq, hunits⟩ := not_or.1 hscale
    obtain ⟨hm, hq, hm'⟩ := close_scale_below (hle.resolve_left hq) (by omega) hclose (not_le.1 hunits)
    rw [ofRatio_eq x.negative hnum hden hq hm', if_pos rfl, Int.sub_add_cancel, ← hm, hx]

end FlowRules.Binary64
