import FlowRules.Text.LetterCase
import Mathlib.Data.List.Basic

/-!
# Small forms of small forms

The letters that small forms are made of are no capital letters, so the small form of a small form is the same
(`Text.lowerChars_lowerChars`); they are no white space and no underscores either, so a small form has of these only
what its text has (`Text.mem_of_mem_lowerChars`).  The table of capital letters is made of progressions, and whether
the images of one meet another is a question of bounds and of parity.  The letter case of the basic alphabet alone does
not count for a small form, not even for the sigmas in it (`Text.lowerChars_map_toLower`).
-/

namespace FlowRules.Text

/-! ### Progressions of code points -/

namespace Shift

variable {s r : Shift} {n : Nat}

/-- The code points that are moved. -/
def Covers (s : Shift) (n : Nat) : Prop := s.first ≤ n ∧ n ≤ s.last ∧ (n - s.first) % s.step = 0

/-- Where a code point is moved. -/
def image (s : Shift) (n : Nat) : Nat := ((n : Int) + s.delta).toNat

/-- The images of a progression lie before another one, behind it, or between the code points of it. -/
def isApart (s r : Shift) : Bool :=
  decide (0 ≤ (s.first : Int) + s.delta) &&
    (decide ((s.last : Int) + s.delta < r.first) || decide ((r.last : Int) < s.first + s.delta) ||
      (s.step == 2 || s.first == s.last) && r.step == 2 && decide (((s.first : Int) + s.delta - r.first) % 2 = 1))

theorem not_covers_image (hapart : s.isApart r = true) (hn : s.Covers n) : ¬r.Covers (s.image n) := by
  rintro ⟨hfirst, hlast, hstep⟩
  obtain ⟨hfirst', hlast', hstep'⟩ := hn
  simp only [isApart, Bool.and_eq_true, Bool.or_eq_true, decide_eq_true_eq, beq_iff_eq] at hapart
  have himage : (s.image n : Int) = n + s.delta := Int.toNat_of_nonneg (by omega)
  obtain ⟨-, (hbefore | hbehind) | ⟨⟨hsteps, htwo⟩, hodd⟩⟩ := hapart
  · omega
  · omega
  · rw [htwo] at hstep
    rcases hsteps with htwo' | hsingle
    · rw [htwo'] at hstep'
      omega
    · omega

end Shift

theorem exists_shift {n m : Nat} {shifts : List Shift} (h : shifted n shifts = some m) :
    ∃ s ∈ shifts, s.Covers n ∧ m = s.image n := by
  induction shifts with
  | nil => cases h
  | cons s shifts ih =>
    rw [shifted] at h
    split at h
    · next hcovers => exact ⟨s, List.mem_cons_self, hcovers, (Option.some.inj h).symm⟩
    · obtain ⟨r, hr, hcovers, hm⟩ := ih h
      exact ⟨r, List.mem_cons_of_mem s hr, hcovers, hm⟩

theorem shifted_eq_none {n : Nat} {shifts : List Shift} (h : ∀ s ∈ shifts, ¬s.Covers n) : shifted n shifts = none := by
  induction shifts with
  | nil => rfl
  | cons s shifts ih =>
    obtain ⟨hs, hshifts⟩ := List.forall_mem_cons.1 h
    exact (if_neg hs).trans (ih hshifts)

/-- The code points of a capital letter of more than one small letter, of white space and of the underscore. -/
private def otherBands : List Shift := [
  ⟨304, 304, 1, 0⟩, ⟨9, 13, 1, 0⟩, ⟨28, 32, 1, 0⟩, ⟨95, 95, 1, 0⟩, ⟨133, 133, 1, 0⟩, ⟨160, 160, 1, 0⟩,
  ⟨5760, 5760, 1, 0⟩, ⟨8192, 8202, 1, 0⟩, ⟨8232, 8233, 1, 0⟩, ⟨8239, 8239, 1, 0⟩, ⟨8287, 8287, 1, 0⟩,
  ⟨12288, 12288, 1, 0⟩]

/-- The code points that no small form has: those of capital letters and these. -/
private def foreign : List Shift := lowerShifts ++ otherBands

private theorem lowerShifts_apart : (lowerShifts.all fun s => foreign.all s.isApart) = true := by decide +kernel

/-! ### Small letters -/

variable {c d : Char} {before cs : List Char}

/-- A character that is its own small form, wherever it stands. -/
def IsSmall (c : Char) : Prop := lowerChar c = [c] ∧ c ≠ 'Σ'

/-- White space or an underscore. -/
def isGap (c : Char) : Bool := isBlank c || c == '_'

/-- Code points from the second half of the first 256 on are mapped by the tables. -/
theorem lowerChar_of_large (hc : ¬c.toNat < 128) :
    lowerChar c =
      match shifted c.toNat lowerShifts with
      | some n => [Char.ofNat n]
      | none =>
        match lowerSpecials.lookup c.toNat with
        | some ns => ns.map Char.ofNat
        | none => [c] := by
  rw [lowerChar, if_neg hc]
  rfl

theorem lookup_lowerSpecials (n : Nat) : lowerSpecials.lookup n = if n = 304 then some [105, 775] else none := by
  rw [lowerSpecials, List.lookup_cons, List.lookup_nil]
  by_cases hn : n = 304
  · rw [if_pos hn, beq_iff_eq.2 hn]
  · rw [if_neg hn, beq_false_of_ne hn]

section

variable {n : Nat}

private theorem not_in_band (h : ∀ r ∈ foreign, ¬r.Covers n) {a b : Nat} (hmem : ⟨a, b, 1, 0⟩ ∈ otherBands) :
    ¬(a ≤ n ∧ n ≤ b) :=
  fun hn => h _ (List.mem_append_right _ hmem) ⟨hn.1, hn.2, Nat.mod_one _⟩

private theorem lowerChar_ofNat (h : ∀ r ∈ foreign, ¬r.Covers n) (hpoint : (Char.ofNat n).toNat = n) :
    lowerChar (Char.ofNat n) = [Char.ofNat n] := by
  have hletter (s : Shift) (hs : s ∈ lowerShifts) : ¬s.Covers n := h s (List.mem_append_left _ hs)
  by_cases hascii : n < 128
  · have hcapital : ¬('A' ≤ Char.ofNat n ∧ Char.ofNat n ≤ 'Z') := by
      intro hcapital
      have hlow : 65 ≤ (Char.ofNat n).toNat := hcapital.1
      have hhigh : (Char.ofNat n).toNat ≤ 90 := hcapital.2
      rw [hpoint] at hlow hhigh
      exact hletter ⟨65, 90, 1, 32⟩ List.mem_cons_self ⟨hlow, hhigh, Nat.mod_one _⟩
    rw [lowerChar, if_pos (by rwa [hpoint]), if_neg hcapital]
  · have hspecial : n ≠ 304 := fun hn =>
      not_in_band h (by simp [otherBands]) ⟨Nat.le_of_eq hn.symm, Nat.le_of_eq hn⟩
    have hnone : lowerSpecials.lookup n = none := (lookup_lowerSpecials n).trans (if_neg hspecial)
    rw [lowerChar_of_large (by rwa [hpoint]), hpoint, shifted_eq_none hletter]
    simp only [hnone]

private theorem isGap_ofNat (h : ∀ r ∈ foreign, ¬r.Covers n) (hpoint : (Char.ofNat n).toNat = n) :
    isGap (Char.ofNat n) = false := by
  have hblank : inBands n blankBounds false = false := by
    have hband (a b : Nat) (hmem : ⟨a, b, 1, 0⟩ ∈ otherBands) : ¬(a ≤ n ∧ n ≤ b) := not_in_band h hmem
    by_contra hblank
    simp only [otherBands, List.mem_cons, List.not_mem_nil, or_false, Shift.mk.injEq, or_imp, forall_and] at hband
    simp [inBands, blankBounds] at hblank hband
    omega
  have hunderscore : Char.ofNat n ≠ '_' := by
    intro heq
    rw [heq] at hpoint
    exact not_in_band h (by simp [otherBands]) ⟨Nat.le_of_eq hpoint, Nat.le_of_eq hpoint.symm⟩
  rw [isGap, isBlank, hpoint, hblank, Bool.false_or]
  exact beq_false_of_ne hunderscore

/-- What is not foreign to small forms is small and no gap. -/
private theorem isSmall_of_not_foreign (h : ∀ r ∈ foreign, ¬r.Covers n) :
    IsSmall (Char.ofNat n) ∧ isGap (Char.ofNat n) = false := by
  by_cases hvalid : n.isValidChar
  · have hpoint : (Char.ofNat n).toNat = n := by
      rw [Char.ofNat, dif_pos hvalid]
      rfl
    have hsmall := lowerChar_ofNat h hpoint
    have hsigma : Char.ofNat n ≠ 'Σ' := by
      intro hsigma
      rw [hsigma] at hsmall
      exact absurd hsmall (by decide)
    exact ⟨⟨hsmall, hsigma⟩, isGap_ofNat h hpoint⟩
  · -- there is no such character, and the one with the number zero stands for it
    have hnull : Char.ofNat n = '\x00' := by
      rw [Char.ofNat, dif_neg hvalid]
      rfl
    rw [hnull]
    exact ⟨⟨by decide, by decide⟩, by decide⟩

end

/-- The images of capital letters are not foreign to small forms. -/
private theorem isSmall_of_covers {s : Shift} {n : Nat} (hs : s ∈ lowerShifts) (hn : s.Covers n) :
    IsSmall (Char.ofNat (s.image n)) ∧ isGap (Char.ofNat (s.image n)) = false := by
  refine isSmall_of_not_foreign fun r hr => Shift.not_covers_image ?_ hn
  exact List.all_eq_true.1 (List.all_eq_true.1 lowerShifts_apart s hs) r hr

/-- What the small form of a character is made of is small, and a gap only if it is the character. -/
theorem isSmall_of_mem_lowerChar (hc : c ≠ 'Σ') (hd : d ∈ lowerChar c) : IsSmall d ∧ (isGap d = true → d = c) := by
  have hsame (hlower : lowerChar c = [c]) : IsSmall d ∧ (isGap d = true → d = c) := by
    rw [hlower, List.mem_singleton] at hd
    rw [hd]
    exact ⟨⟨hlower, hc⟩, fun _ => rfl⟩
  have hother (hsmall : IsSmall d ∧ isGap d = false) : IsSmall d ∧ (isGap d = true → d = c) :=
    ⟨hsmall.1, fun hgap => absurd hgap (by simp [hsmall.2])⟩
  by_cases hascii : c.toNat < 128
  · by_cases hcapital : 'A' ≤ c ∧ c ≤ 'Z'
    · rw [lowerChar, if_pos hascii, if_pos hcapital, List.mem_singleton] at hd
      have hcovers : Shift.Covers ⟨65, 90, 1, 32⟩ c.toNat := ⟨hcapital.1, hcapital.2, Nat.mod_one _⟩
      exact hother (hd ▸ isSmall_of_covers List.mem_cons_self hcovers)
    · exact hsame (by rw [lowerChar, if_pos hascii, if_neg hcapital])
  · have hlower := lowerChar_of_large hascii
    rcases hshifted : shifted c.toNat lowerShifts with _ | n
    · rcases hspecial : lowerSpecials.lookup c.toNat with _ | ns
      · exact hsame (by simp only [hlower, hshifted, hspecial])
      · obtain rfl : ns = [105, 775] := by
          rw [lookup_lowerSpecials] at hspecial
          split at hspecial
          · exact (Option.some.inj hspecial).symm
          · cases hspecial
        simp only [hlower, hshifted, hspecial, List.map_cons, List.map_nil, List.mem_cons, List.not_mem_nil,
          or_false] at hd
        rcases hd with rfl | rfl
        · exact hother ⟨⟨by decide, by decide⟩, by decide⟩
        · exact hother ⟨⟨by decide, by decide⟩, by decide⟩
    · simp only [hshifted] at hlower
      obtain ⟨s, hs, hcovers, rfl⟩ := exists_shift hshifted
      rw [hlower, List.mem_singleton] at hd
      exact hother (hd ▸ isSmall_of_covers hs hcovers)

/-- Small forms are small, and have no gaps but those of the text. -/
theorem isSmall_of_mem_lowerFrom (hd : d ∈ lowerFrom before cs) : IsSmall d ∧ (isGap d = true → d ∈ cs) := by
  induction cs generalizing before with
  | nil => cases hd
  | cons c cs ih =>
    rcases List.mem_append.1 hd with hd | hd
    · by_cases hc : c = 'Σ'
      · have hsigma : d = 'ς' ∨ d = 'σ' := by
          rw [if_pos hc] at hd
          split at hd
          · exact .inl (List.mem_singleton.1 hd)
          · exact .inr (List.mem_singleton.1 hd)
        rcases hsigma with rfl | rfl
        · exact ⟨⟨by decide, by decide⟩, fun hgap => absurd hgap (by decide)⟩
        · exact ⟨⟨by decide, by decide⟩, fun hgap => absurd hgap (by decide)⟩
      · rw [if_neg hc] at hd
        obtain ⟨hsmall, hgap⟩ := isSmall_of_mem_lowerChar hc hd
        exact ⟨hsmall, fun h => hgap h ▸ List.mem_cons_self⟩
    · obtain ⟨hsmall, hgap⟩ := ih hd
      exact ⟨hsmall, fun h => List.mem_cons_of_mem c (hgap h)⟩

theorem lowerFrom_of_isSmall (h : ∀ c ∈ cs, IsSmall c) (before : List Char) : lowerFrom before cs = cs := by
  induction cs generalizing before with
  | nil => rfl
  | cons c cs ih =>
    obtain ⟨⟨hlower, hsigma⟩, hcs⟩ := List.forall_mem_cons.1 h
    rw [lowerFrom, if_neg hsigma, hlower, ih hcs, List.singleton_append]

/-- The small form of a small form is the same. -/
theorem lowerChars_lowerChars (cs : List Char) : lowerChars (lowerChars cs) = lowerChars cs :=
  lowerFrom_of_isSmall (fun _ hc => (isSmall_of_mem_lowerFrom hc).1) []

/-- The gaps of a small form are those of the text. -/
theorem mem_of_mem_lowerChars (hd : d ∈ lowerChars cs) (hgap : isGap d = true) : d ∈ cs :=
  (isSmall_of_mem_lowerFrom hd).2 hgap

/-! ### Letters of the basic alphabet -/

/-- What holds of the basic characters by their code points. -/
@[elab_as_elim]
theorem forall_basic {P : Char → Prop} (h : ∀ n < 128, P (Char.ofNat n)) (c : Char) (hc : c.toNat < 128) : P c := by
  have hpoint := h c.toNat hc
  rwa [Char.ofNat_toNat] at hpoint

private theorem ascii_toLower : ∀ n < 128, lowerChar (Char.ofNat n).toLower = lowerChar (Char.ofNat n) ∧
    isCased (Char.ofNat n).toLower = isCased (Char.ofNat n) ∧
    isCaseIgnorable (Char.ofNat n).toLower = isCaseIgnorable (Char.ofNat n) ∧
    isGap (Char.ofNat n).toLower = isGap (Char.ofNat n) := by decide

theorem toLower_of_large (hc : ¬c.toNat < 128) : c.toLower = c := by
  refine dif_neg fun hcapital => hc ?_
  have hhigh : c.toNat ≤ 90 := hcapital.2
  omega

/-- The letter case of the basic alphabet makes no difference to what a character is here. -/
theorem toLower_spec (c : Char) : lowerChar c.toLower = lowerChar c ∧ isCased c.toLower = isCased c ∧
    isCaseIgnorable c.toLower = isCaseIgnorable c ∧ isGap c.toLower = isGap c := by
  by_cases hc : c.toNat < 128
  · exact forall_basic ascii_toLower c hc
  · rw [toLower_of_large hc]
    exact ⟨rfl, rfl, rfl, rfl⟩

theorem meetsCased_map_toLower (cs : List Char) : meetsCased (cs.map Char.toLower) = meetsCased cs := by
  have hskip : (cs.map Char.toLower).dropWhile isCaseIgnorable = (cs.dropWhile isCaseIgnorable).map Char.toLower := by
    rw [List.dropWhile_map]
    congr 2
    funext c
    exact (toLower_spec c).2.2.1
  rw [meetsCased, meetsCased, hskip]
  cases cs.dropWhile isCaseIgnorable with
  | nil => rfl
  | cons c _ => exact (toLower_spec c).2.1

theorem toLower_eq_sigma_iff : c.toLower = 'Σ' ↔ c = 'Σ' := by
  by_cases hc : c.toNat < 128
  · have hne : ∀ n < 128, (Char.ofNat n).toLower ≠ 'Σ' ∧ Char.ofNat n ≠ 'Σ' := by decide
    obtain ⟨hlower, hsame⟩ : c.toLower ≠ 'Σ' ∧ c ≠ 'Σ' := forall_basic hne c hc
    exact iff_of_false hlower hsame
  · rw [toLower_of_large hc]

/-- The letter case of the basic alphabet makes no difference to a small form. -/
theorem lowerFrom_map_toLower (before cs : List Char) :
    lowerFrom (before.map Char.toLower) (cs.map Char.toLower) = lowerFrom before cs := by
  induction cs generalizing before with
  | nil => rfl
  | cons c cs ih =>
    have hcs := ih (c :: before)
    rw [List.map_cons] at hcs
    rw [List.map_cons, lowerFrom, lowerFrom, hcs, meetsCased_map_toLower, meetsCased_map_toLower,
      (toLower_spec c).1]
    simp only [toLower_eq_sigma_iff]

theorem lowerChars_map_toLower (cs : List Char) : lowerChars (cs.map Char.toLower) = lowerChars cs :=
  lowerFrom_map_toLower [] cs

private theorem ascii_isSmall : ∀ n < 128, lowerChar (Char.ofNat n).toLower = [(Char.ofNat n).toLower] ∧
    (Char.ofNat n).toLower ≠ 'Σ' := by decide

/-- The small form of a text of the basic alphabet has its letters one by one. -/
theorem lowerChars_basic (h : ∀ c ∈ cs, c.toNat < 128) : lowerChars cs = cs.map Char.toLower := by
  rw [← lowerChars_map_toLower]
  refine lowerFrom_of_isSmall (fun d hd => ?_) []
  obtain ⟨c, hc, rfl⟩ := List.mem_map.1 hd
  exact forall_basic ascii_isSmall c (h c hc)

end FlowRules.Text
