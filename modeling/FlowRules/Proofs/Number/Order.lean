import Mathlib
import FlowRules.Proofs.Number.RoundTrip
import FlowRules.Value.Compare

/-!
# The order of numbers

Every number has a value on the line of the rational numbers with its two ends, except those that are no number at all.
Decimals are compared as their values are (`Decimal.compare?_eq`), and numbers of any two kinds are equal when their
values are (`Number.equals_eq`).
-/

namespace FlowRules

/-- The rational numbers with an end on either side. -/
abbrev Extended : Type := WithBot (WithTop ℚ)

namespace Extended

/-- The number on the line with a sign and a magnitude. -/
def signed (negative : Bool) (r : ℚ) : Extended := ((if negative then -r else r : ℚ) : WithTop ℚ)

/-- An end of the line. -/
def infinite (negative : Bool) : Extended := if negative then ⊥ else ⊤

variable {a b : Bool} {p q : ℚ}

theorem cmp_coe (p q : ℚ) : cmp (((p : ℚ) : WithTop ℚ) : Extended) ((q : ℚ) : WithTop ℚ) = cmp p q := by
  have hbot := (WithBot.coe_strictMono (α := WithTop ℚ)).cmp_map_eq (p : WithTop ℚ) (q : WithTop ℚ)
  have htop := (WithTop.coe_strictMono (α := ℚ)).cmp_map_eq p q
  exact hbot.trans htop

/-- Magnitudes are compared if neither is under a minus sign, and the other way round if both are. -/
theorem cmp_signed (hp : 0 ≤ p) (hq : 0 ≤ q) :
    cmp (signed a p) (signed b q) =
      if p = 0 ∧ q = 0 then .eq
      else
        match decide (a = true ∧ p ≠ 0), decide (b = true ∧ q ≠ 0) with
        | false, false => cmp p q
        | true, true => cmp q p
        | true, false => .lt
        | false, true => .gt := by
  unfold signed
  rw [cmp_coe]
  rcases hp.eq_or_lt with rfl | hp <;> rcases hq.eq_or_lt with rfl | hq
  · simp
  · have hne := hq.ne'
    cases b with
    | false => cases a <;> simp [hne]
    | true =>
      have hlt : -q < 0 := neg_lt_zero.2 hq
      cases a <;> simp [hne, hlt.cmp_eq_gt]
  · have hne := hp.ne'
    cases a with
    | false => cases b <;> simp [hne]
    | true =>
      have hlt : -p < 0 := neg_lt_zero.2 hp
      cases b <;> simp [hne, hlt.cmp_eq_lt]
  · have hpne := hp.ne'
    have hqne := hq.ne'
    cases a with
    | false =>
      cases b with
      | false => simp [hpne, hqne]
      | true =>
        have hlt : -q < p := by linarith
        simp [hpne, hqne, hlt.cmp_eq_gt]
    | true =>
      cases b with
      | false =>
        have hlt : -p < q := by linarith
        simp [hpne, hqne, hlt.cmp_eq_lt]
      | true =>
        have hanti : StrictAnti fun r : ℚ => -r := fun r s h => neg_lt_neg h
        have hneg : cmp (-p) (-q) = cmp q p := StrictAnti.cmp_map_eq hanti p q
        simp [hpne, hqne, hneg]

end Extended

namespace Decimal

open Binary64 (IsPlace place_digits)

variable {c d : Nat} {e f : Int} {x y z : Decimal}

/-- A number with its first digit at a lower place is smaller. -/
theorem lt_of_place {r s : ℚ} {p q : Int} (hr : IsPlace r p) (hs : IsPlace s q) (h : p < q) : r < s := by
  have hle : (10 : ℚ) ^ p ≤ 10 ^ (q - 1) := zpow_le_zpow_right₀ (by norm_num) (by omega)
  calc r < 10 ^ p := hr.2
    _ ≤ 10 ^ (q - 1) := hle
    _ ≤ s := hs.1

/-- Coefficients are compared at a common exponent. -/
theorem cmp_shift (h : f ≤ e) (c d : Nat) :
    cmp (c * 10 ^ (e - f).toNat) d = cmp ((c : ℚ) * 10 ^ e) (d * 10 ^ f) := by
  have hpow : (0 : ℚ) < 10 ^ f := by positivity
  have hsplit : (10 : ℚ) ^ e = 10 ^ (e - f).toNat * 10 ^ f := by
    rw [← zpow_natCast, Int.toNat_of_nonneg (by omega), ← zpow_add₀ (by norm_num), Int.sub_add_cancel]
  have hcast : ((c * 10 ^ (e - f).toNat : Nat) : ℚ) = c * 10 ^ (e - f).toNat := by push_cast; rfl
  rw [hsplit, ← mul_assoc, cmp_mul_pos_right hpow, ← hcast, Nat.strictMono_cast.cmp_map_eq]

theorem compareMagnitude_eq (c : Nat) (e : Int) (d : Nat) (f : Int) :
    compareMagnitude c e d f = cmp ((c : ℚ) * 10 ^ e) (d * 10 ^ f) := by
  have he : (0 : ℚ) < 10 ^ e := by positivity
  have hf : (0 : ℚ) < 10 ^ f := by positivity
  unfold compareMagnitude
  by_cases hc : c = 0
  · by_cases hd : d = 0
    · simp [hc, hd]
    · have hpos : (0 : ℚ) < d * 10 ^ f := by positivity
      simp [hc, hd, hpos.cmp_eq_lt]
  · by_cases hd : d = 0
    · have hpos : (0 : ℚ) < c * 10 ^ e := by positivity
      simp [hc, hd, hpos.cmp_eq_gt]
    · have hplace := (place_digits hc).shift e
      have hplace' := (place_digits hd).shift f
      rw [if_neg hc, if_neg hd, Int.add_comm _ e, Int.add_comm _ f]
      split
      · next h => exact (lt_of_place hplace hplace' (compare_lt_iff_lt.1 h)).cmp_eq_lt.symm
      · next h => exact (lt_of_place hplace' hplace (compare_gt_iff_gt.1 h)).cmp_eq_gt.symm
      · split
        · next h => rw [← cmp_eq_compare, cmp_shift h]
        · next h => rw [← cmp_eq_compare, ← cmp_swap, cmp_shift (by omega), cmp_swap]

/-- The value of a decimal; what is no number has none. -/
def value? : Decimal → Option Extended
  | .finite s c e => some (.signed s (c * 10 ^ e))
  | .infinite s => some (.infinite s)
  | .nan .. => none

theorem value?_eq_none : x.value? = none ↔ x.isNaN = true := by
  cases x <;> simp [value?, isNaN]

/-- Decimals are in the order of their values. -/
theorem compare?_eq (x y : Decimal) : compare? x y = x.value?.bind fun p => y.value?.map fun q => cmp p q := by
  cases x with
  | nan => rfl
  | infinite s =>
    cases y with
    | nan => rfl
    | infinite t => cases s <;> cases t <;> rfl
    | finite t d f =>
      cases s with
      | true => exact congrArg some (WithBot.bot_lt_coe _).cmp_eq_lt.symm
      | false => exact congrArg some (WithBot.coe_lt_coe.2 (WithTop.coe_lt_top _)).cmp_eq_gt.symm
  | finite s c e =>
    cases y with
    | nan => rfl
    | infinite t =>
      cases t with
      | true => exact congrArg some (WithBot.bot_lt_coe _).cmp_eq_gt.symm
      | false => exact congrArg some (WithBot.coe_lt_coe.2 (WithTop.coe_lt_top _)).cmp_eq_lt.symm
    | finite t d f =>
      have he : (0 : ℚ) < 10 ^ e := by positivity
      have hf : (0 : ℚ) < 10 ^ f := by positivity
      have hc : (c : ℚ) * 10 ^ e = 0 ↔ c = 0 := by simp [he.ne']
      have hd : (d : ℚ) * 10 ^ f = 0 ↔ d = 0 := by simp [hf.ne']
      have hcmp := Extended.cmp_signed (a := s) (b := t) (p := c * 10 ^ e) (q := d * 10 ^ f) (by positivity) (by positivity)
      simp only [hc, hd, ne_eq] at hcmp
      simp only [compare?, value?, Option.bind_some, Option.map_some, compareMagnitude_eq, ne_eq]
      exact congrArg some hcmp.symm

theorem compare?_swap (x y : Decimal) : compare? y x = (compare? x y).map Ordering.swap := by
  rw [compare?_eq, compare?_eq]
  rcases x.value? with _ | p <;> rcases y.value? with _ | q
  · rfl
  · rfl
  · rfl
  · exact congrArg some (cmp_swap p q).symm

theorem equals_comm (x y : Decimal) : y.equals x = x.equals y := by
  unfold equals
  rw [Bool.or_comm, compare?_swap x y]
  rcases compare? x y with _ | _ | _ | _ <;> rfl

theorem isSignaling_of_value {p : Extended} (hx : x.value? = some p) : x.isSignaling = false := by
  cases x with
  | nan => cases hx
  | finite | infinite => rfl

/-- What equals a number has its value. -/
theorem equals_iff {p : Extended} (hx : x.value? = some p) : x.equals y = .ok true ↔ y.value? = some p := by
  unfold equals
  rw [compare?_eq, hx, isSignaling_of_value hx, Bool.false_or]
  rcases hy : y.value? with _ | q
  · rcases y.isSignaling with _ | _ <;> simp
  · rw [isSignaling_of_value hy, eq_comm (a := some q)]
    simp

theorem order_swap (x y : Decimal) : y.order x = (x.order y).map Ordering.swap := by
  unfold order
  rw [compare?_swap x y]
  rcases compare? x y with _ | o <;> rfl

/-- The value of an integer. -/
theorem value?_ofInt (n : Int) : (ofInt n).value? = some (((n : ℚ) : WithTop ℚ) : Extended) := by
  have hsigned : (if decide (n < 0) then -((n.natAbs : ℚ) * 10 ^ (0 : Int)) else (n.natAbs : ℚ) * 10 ^ (0 : Int)) = n := by
    rw [zpow_zero, mul_one, Nat.cast_natAbs]
    by_cases h : n < 0
    · simp [h, abs_of_neg h]
    · simp [h, abs_of_nonneg (Int.not_lt.1 h)]
  show some (((_ : ℚ) : WithTop ℚ) : Extended) = _
  rw [hsigned]

end Decimal

namespace Binary64

variable {x y : Binary64}

/-- The value of a floating-point number; what is no number has none. -/
def value? (x : Binary64) : Option Extended :=
  if x.isNaN then none
  else if x.isInfinite then some (.infinite x.negative)
  else some (.signed x.negative x.magnitude)

theorem value?_exactDecimal (x : Binary64) : x.exactDecimal.value? = x.value? := by
  unfold exactDecimal value? magnitude
  by_cases hnan : x.isNaN
  · simp [hnan, Decimal.value?]
  · by_cases hinfinite : x.isInfinite
    · simp [hnan, hinfinite, Decimal.value?]
    · simp only [hnan, hinfinite, Bool.false_eq_true, if_false]
      rcases x.parts with ⟨m, q⟩
      by_cases hq : 0 ≤ q
      · obtain ⟨k, rfl⟩ := Int.eq_ofNat_of_zero_le hq
        simp [Decimal.value?]
      · obtain ⟨k, rfl⟩ := Int.exists_eq_neg_ofNat (Int.not_le.1 hq).le
        have hpow : (5 : ℚ) ^ k * 10 ^ (-(k : Int)) = 2 ^ (-(k : Int)) := by
          rw [zpow_neg, zpow_neg, zpow_natCast, zpow_natCast, show (10 : ℚ) = 2 * 5 by norm_num, mul_pow]
          field_simp
        have hvalue : ((m * 5 ^ k : Nat) : ℚ) * 10 ^ (-(k : Int)) = m * 2 ^ (-(k : Int)) := by
          push_cast
          rw [mul_assoc, hpow]
        simp only [if_neg hq, Int.neg_neg, Int.toNat_natCast, Decimal.value?, hvalue]

/-- A finite number with its sign, as a rational number. -/
def rational (x : Binary64) : ℚ := if x.negative then -x.magnitude else x.magnitude

theorem value?_finite (hnan : x.isNaN = false) (hinfinite : x.isInfinite = false) :
    x.value? = some ((x.rational : WithTop ℚ) : Extended) := by
  rw [value?, hnan, hinfinite]
  rfl

theorem units_eq (x : Binary64) : (x.units : ℚ) = x.rational * 2 ^ 1074 := by
  have hexponent := exponent_ge x
  have hpow : (2 : ℚ) ^ (x.parts.2 + 1074).toNat = 2 ^ x.parts.2 * 2 ^ 1074 := by
    rw [← zpow_natCast, Int.toNat_of_nonneg (by omega), zpow_add₀ two_ne_zero]
    rfl
  have hmagnitude : (x.parts.1 : ℚ) * 2 ^ (x.parts.2 + 1074).toNat = x.magnitude * 2 ^ 1074 := by
    rw [magnitude, hpow, mul_assoc]
  unfold units rational
  cases x.negative <;> simp [hmagnitude]

/-- Units tell the order of the rational numbers that they stand for, the infinities taken as powers of two. -/
theorem cmp_units (x y : Binary64) : cmp x.units y.units = cmp x.rational y.rational := by
  have hpow : (0 : ℚ) < 2 ^ 1074 := by positivity
  rw [← Int.cast_strictMono (R := ℚ).cmp_map_eq, units_eq, units_eq, cmp_mul_pos_right hpow]

/-- The power of two that an infinity is taken as. -/
def limit : ℚ := 2 ^ 52 * 2 ^ (972 : Int)

theorem limit_pos : 0 < limit := by
  unfold limit
  positivity

theorem magnitude_infinity (negative : Bool) : (infinity negative).magnitude = limit := by
  have hparts : (infinity negative).parts = (2 ^ 52, 972) := by
    simp [infinity, parts]
  rw [magnitude, hparts, limit, Nat.cast_pow, Nat.cast_ofNat]

/-- What is finite is smaller. -/
theorem magnitude_lt (hfinite : x.isFinite = true) : x.magnitude < limit := by
  have hfraction := x.fraction.isLt
  have hexponent := x.exponent.isLt
  have hne := exponent_ne hfinite
  obtain ⟨hm, hq⟩ : x.parts.1 < 2 ^ 53 ∧ x.parts.2 + 1 ≤ 972 := by
    unfold parts
    split
    · exact ⟨by omega, by omega⟩
    · exact ⟨by omega, by omega⟩
  have hcast : (x.parts.1 : ℚ) < 2 ^ 52 * 2 := by exact_mod_cast hm
  have hpow : (0 : ℚ) < 2 ^ x.parts.2 := by positivity
  calc x.magnitude < 2 ^ 52 * 2 * 2 ^ x.parts.2 := mul_lt_mul_of_pos_right hcast hpow
    _ = 2 ^ 52 * 2 ^ (x.parts.2 + 1) := by rw [mul_assoc, ← zpow_one_add₀ two_ne_zero, add_comm]
    _ ≤ limit := mul_le_mul_of_nonneg_left (zpow_le_zpow_right₀ one_le_two hq) (by positivity)

theorem rational_bounds (hfinite : x.isFinite = true) : -limit < x.rational ∧ x.rational < limit := by
  have hlt := magnitude_lt hfinite
  have hnonneg : 0 ≤ x.magnitude := by
    unfold magnitude
    positivity
  unfold rational
  split
  · constructor <;> linarith
  · constructor <;> linarith

theorem rational_infinity (negative : Bool) : (infinity negative).rational = if negative then -limit else limit := by
  rw [rational, magnitude_infinity]
  rfl

theorem value?_infinite (hinfinite : x.isInfinite = true) : x.value? = some (.infinite x.negative) := by
  rw [eq_infinity hinfinite]
  cases x.negative <;> rfl

theorem value?_eq_none : x.value? = none ↔ x.isNaN = true := by
  unfold value?
  cases x.isNaN <;> cases x.isInfinite <;> simp

/-- Numbers are in the order of their units, in which an infinity stands beyond all that is finite. -/
theorem cmp_units_eq {p q : Extended} (hp : x.value? = some p) (hq : y.value? = some q) :
    cmp x.units y.units = cmp p q := by
  have hnan {z : Binary64} {r : Extended} (hr : z.value? = some r) : z.isNaN = false := by
    rcases hz : z.isNaN with _ | _
    · rfl
    · rw [value?_eq_none.2 hz] at hr
      cases hr
  have htop (r : ℚ) : ((r : WithTop ℚ) : Extended) < ⊤ := WithBot.coe_lt_coe.2 (WithTop.coe_lt_top r)
  have hbot (r : ℚ) : ⊥ < ((r : WithTop ℚ) : Extended) := WithBot.bot_lt_coe _
  rw [cmp_units]
  rcases hx : x.isInfinite with _ | _
  · obtain ⟨hlow, hhigh⟩ := rational_bounds (isFinite_of_not (hnan hp) hx)
    rw [value?_finite (hnan hp) hx] at hp
    cases hp
    rcases hy : y.isInfinite with _ | _
    · rw [value?_finite (hnan hq) hy] at hq
      cases hq
      exact (Extended.cmp_coe _ _).symm
    · rw [value?_infinite hy] at hq
      cases hq
      rw [eq_infinity hy, rational_infinity]
      cases y.negative with
      | false => exact hhigh.cmp_eq_lt.trans (htop _).cmp_eq_lt.symm
      | true => exact hlow.cmp_eq_gt.trans (hbot _).cmp_eq_gt.symm
  · rw [value?_infinite hx] at hp
    cases hp
    rw [eq_infinity hx, rational_infinity]
    rcases hy : y.isInfinite with _ | _
    · obtain ⟨hlow, hhigh⟩ := rational_bounds (isFinite_of_not (hnan hq) hy)
      rw [value?_finite (hnan hq) hy] at hq
      cases hq
      cases x.negative with
      | false => exact hhigh.cmp_eq_gt.trans (htop _).cmp_eq_gt.symm
      | true => exact hlow.cmp_eq_lt.trans (hbot _).cmp_eq_lt.symm
    · rw [value?_infinite hy] at hq
      cases hq
      rw [eq_infinity hy, rational_infinity]
      have hneg : -limit < limit := neg_lt_self limit_pos
      cases x.negative with
      | false =>
        cases y.negative with
        | false => exact (cmp_self_eq_eq _).trans (cmp_self_eq_eq _).symm
        | true => exact hneg.cmp_eq_gt
      | true =>
        cases y.negative with
        | false => exact hneg.cmp_eq_lt
        | true => exact (cmp_self_eq_eq _).trans (cmp_self_eq_eq _).symm

/-- Floating-point numbers are in the order of their values. -/
theorem compare?_eq (x y : Binary64) : compare? x y = x.value?.bind fun p => y.value?.map fun q => cmp p q := by
  unfold compare?
  rcases hp : x.value? with _ | p
  · simp [value?_eq_none.1 hp]
  · rcases hq : y.value? with _ | q
    · simp [value?_eq_none.1 hq]
    · have hx : x.isNaN = false := by
        simp [← Bool.not_eq_true, ← value?_eq_none, hp]
      have hy : y.isNaN = false := by
        simp [← Bool.not_eq_true, ← value?_eq_none, hq]
      simp [hx, hy, ← cmp_eq_compare, cmp_units_eq hp hq]

/-- A floating-point number and an integer are in the order of their values. -/
theorem compareInt?_eq (x : Binary64) (n : Int) :
    x.compareInt? n = x.value?.map fun p => cmp p (((n : ℚ) : WithTop ℚ) : Extended) := by
  unfold compareInt?
  rcases hnan : x.isNaN with _ | _
  · rcases hinfinite : x.isInfinite with _ | _
    · have hpow : (0 : ℚ) < 2 ^ 1074 := by positivity
      have hunits : cmp x.units (n * 2 ^ 1074) = cmp x.rational n := by
        rw [← Int.cast_strictMono (R := ℚ).cmp_map_eq, units_eq, Int.cast_mul, Int.cast_pow, Int.cast_ofNat,
          cmp_mul_pos_right hpow]
      rw [value?_finite hnan hinfinite, Option.map_some, Extended.cmp_coe, ← hunits, cmp_eq_compare]
      rfl
    · rw [value?_infinite hinfinite]
      cases x.negative with
      | false => exact congrArg some (WithBot.coe_lt_coe.2 (WithTop.coe_lt_top _)).cmp_eq_gt.symm
      | true => exact congrArg some (WithBot.bot_lt_coe _).cmp_eq_lt.symm
  · rw [value?_eq_none.2 hnan]
    rfl

end Binary64

namespace Number

variable {m n : Number}

/-- The value of a number of any kind. -/
def value? : Number → Option Extended
  | .int n => some (((n : ℚ) : WithTop ℚ) : Extended)
  | .float x => x.value?
  | .decimal d => d.value?

def isSignaling : Number → Bool
  | .decimal d => d.isSignaling
  | _ => false

theorem value?_exact (m : Number) : m.exact.value? = m.value? := by
  cases m with
  | int n => exact Decimal.value?_ofInt n
  | float x => exact x.value?_exactDecimal
  | decimal d => rfl

theorem isSignaling_exact (m : Number) : m.exact.isSignaling = m.isSignaling := by
  cases m with
  | int n => rfl
  | float x =>
    show x.exactDecimal.isSignaling = false
    unfold Binary64.exactDecimal
    split
    · rfl
    · split
      · rfl
      · dsimp only
        split <;> rfl
  | decimal d => rfl

/-- The order of the values of two numbers. -/
def byValue? (m n : Number) : Option Ordering := m.value?.bind fun p => n.value?.map fun q => cmp p q

theorem compare?_exact (m n : Number) : Decimal.compare? m.exact n.exact = byValue? m n := by
  rw [Decimal.compare?_eq, value?_exact, value?_exact, byValue?]

theorem byValue?_swap (m n : Number) : byValue? n m = (byValue? m n).map Ordering.swap := by
  unfold byValue?
  rcases m.value? with _ | p <;> rcases n.value? with _ | q
  · rfl
  · rfl
  · rfl
  · exact congrArg some (cmp_swap p q).symm

theorem byValue?_int (j k : Int) : byValue? (.int j) (.int k) = some (compare j k) := by
  have hcast : cmp (j : ℚ) k = cmp j k := Int.cast_strictMono.cmp_map_eq j k
  show some (cmp (((j : ℚ) : WithTop ℚ) : Extended) _) = _
  rw [Extended.cmp_coe, hcast, cmp_eq_compare]

theorem byValue?_float (x y : Binary64) : byValue? (.float x) (.float y) = x.compare? y :=
  (x.compare?_eq y).symm

theorem byValue?_float_int (x : Binary64) (n : Int) : byValue? (.float x) (.int n) = x.compareInt? n := by
  show (x.value?.bind fun p => some (cmp p _)) = _
  rw [Binary64.compareInt?_eq]
  rcases x.value? with _ | p <;> rfl

theorem byValue?_eq_iff : byValue? m n = some .eq ↔ ∃ p, m.value? = some p ∧ n.value? = some p := by
  unfold byValue?
  rcases m.value? with _ | p <;> rcases n.value? with _ | q
  · simp
  · simp
  · simp
  · simpa using (cmp_eq_eq_iff p q).trans eq_comm

def isDecimal : Number → Bool
  | .decimal _ => true
  | _ => false

/-- What it comes to to ask for an order: where there is none, that is an error if decimals are involved. -/
def asked (decimal : Bool) : Option Ordering → Except DecimalFault (Option Ordering)
  | some o => .ok (some o)
  | none => if decimal then .error .invalidOperation else .ok none

/-- The order of two numbers is that of their values. -/
theorem order_eq (m n : Number) : m.order n = asked (m.isDecimal || n.isDecimal) (byValue? m n) := by
  have hexact (h : (m.isDecimal || n.isDecimal) = true) :
      (m.exact.order n.exact).map some = asked (m.isDecimal || n.isDecimal) (byValue? m n) := by
    rw [Decimal.order, compare?_exact, h]
    rcases byValue? m n with _ | o <;> rfl
  have hplain {o : Option Ordering} (ho : byValue? m n = o) : .ok o = asked false (byValue? m n) := by
    rw [ho]
    rcases o with _ | o <;> rfl
  cases m with
  | int j =>
    cases n with
    | int k => exact hplain (byValue?_int j k)
    | float y => exact hplain (by rw [byValue?_swap, byValue?_float_int])
    | decimal d => exact hexact rfl
  | float x =>
    cases n with
    | int k => exact hplain (byValue?_float_int x k)
    | float y => exact hplain (byValue?_float x y)
    | decimal d => exact hexact rfl
  | decimal d => exact hexact rfl

theorem order_swap (m n : Number) : n.order m = (m.order n).map (Option.map Ordering.swap) := by
  rw [order_eq, order_eq, byValue?_swap m n, Bool.or_comm]
  rcases byValue? m n with _ | o
  · cases m.isDecimal || n.isDecimal <;> rfl
  · rfl

/-- Numbers of any two kinds are equal when their values are; only with a signaling decimal is there no answer. -/
theorem equals_eq (m n : Number) :
    m.equals n =
      if m.isSignaling || n.isSignaling then .error .invalidOperation else .ok (byValue? m n == some .eq) := by
  have hexact : m.exact.equals n.exact =
      if m.isSignaling || n.isSignaling then .error .invalidOperation else .ok (byValue? m n == some .eq) := by
    rw [Decimal.equals, isSignaling_exact, isSignaling_exact, compare?_exact]
  cases m with
  | int j =>
    cases n with
    | int k =>
      have hbeq : (j == k) = (some (compare j k) == some .eq) := by
        rw [Bool.eq_iff_iff]
        simp
      show Except.ok (j == k) = .ok (byValue? (.int j) (.int k) == some .eq)
      rw [byValue?_int, hbeq]
    | float y =>
      show Except.ok (y.compareInt? j == some .eq) = .ok (byValue? (.int j) (.float y) == some .eq)
      rw [byValue?_swap, byValue?_float_int]
      rcases y.compareInt? j with _ | _ | _ | _ <;> rfl
    | decimal d => exact hexact
  | float x =>
    cases n with
    | int k =>
      show Except.ok (x.compareInt? k == some .eq) = .ok (byValue? (.float x) (.int k) == some .eq)
      rw [byValue?_float_int]
    | float y =>
      show Except.ok (x.compare? y == some .eq) = .ok (byValue? (.float x) (.float y) == some .eq)
      rw [byValue?_float]
    | decimal d => exact hexact
  | decimal d => exact hexact

theorem equals_comm (m n : Number) : n.equals m = m.equals n := by
  rw [equals_eq, equals_eq, byValue?_swap m n, Bool.or_comm]
  rcases byValue? m n with _ | _ | _ | _ <;> rfl

theorem equals_trans {k : Number} (hk : m.equals k = .ok true) (hn : k.equals n = .ok true) : m.equals n = .ok true := by
  have hvalue {i j : Number} (h : i.equals j = .ok true) :
      (i.isSignaling || j.isSignaling) = false ∧ ∃ p, i.value? = some p ∧ j.value? = some p := by
    rw [equals_eq] at h
    split at h
    · cases h
    · next hsignaling =>
      refine ⟨by simpa using hsignaling, byValue?_eq_iff.1 ?_⟩
      simpa using h
  obtain ⟨hleft, p, hm, hkp⟩ := hvalue hk
  obtain ⟨hright, q, hkq, hnq⟩ := hvalue hn
  rw [Bool.or_eq_false_iff] at hleft hright
  rw [hkp] at hkq
  cases hkq
  rw [equals_eq, hleft.1, hright.2, byValue?_eq_iff.2 ⟨p, hm, hnq⟩]
  rfl

end Number
end FlowRules
