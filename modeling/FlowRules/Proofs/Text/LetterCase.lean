import FlowRules.Text.Basic
import FlowRules.Text.LetterCase

/-!
# Small letters inside a text

Every character but one has its small form whatever stands around it.  The one is the capital sigma, whose small form is
another at the end of a word.  So the small form of a part of a text is that of the part alone exactly if each sigma of
the part ends a word in the text just when it ends one in the part (`Text.keepsSigmas_iff`).
-/

namespace FlowRules.Text

variable {c : Char} {before before' after after' cs ds : List Char}

/-- A sigma between these characters, those before it in reverse, ends a word. -/
def isFinal (before after : List Char) : Bool := meetsCased before && !meetsCased after

/-- The small form of a part of a text, given the characters before it in reverse and those after it. -/
def lowerBetween (before after : List Char) : List Char → List Char
  | [] => []
  | c :: cs =>
    (if c = 'Σ' then (if isFinal before (cs ++ after) then ['ς'] else ['σ']) else lowerChar c)
      ++ lowerBetween (c :: before) after cs

/-- The small form of a text is that of a part with the small form of the rest behind it. -/
theorem lowerFrom_append (before cs ds : List Char) :
    lowerFrom before (cs ++ ds) = lowerBetween before ds cs ++ lowerFrom (cs.reverse ++ before) ds := by
  induction cs generalizing before with
  | nil => rfl
  | cons c cs ih =>
    rw [List.cons_append, lowerFrom, lowerBetween, ih, List.reverse_cons, List.append_assoc, List.append_assoc]
    rfl

theorem lowerFrom_eq_lowerBetween (before cs : List Char) : lowerFrom before cs = lowerBetween before [] cs := by
  have happend := lowerFrom_append before cs []
  simpa [lowerFrom] using happend

theorem lowerChars_eq_lowerBetween (cs : List Char) : lowerChars cs = lowerBetween [] [] cs :=
  lowerFrom_eq_lowerBetween [] cs

/-- The small form of a text in three parts. -/
theorem lowerChars_append_append (before cs after : List Char) :
    lowerChars (before ++ cs ++ after) = lowerBetween [] (cs ++ after) before ++
      lowerBetween before.reverse after cs ++ lowerBetween (cs.reverse ++ before.reverse) [] after := by
  rw [lowerChars, List.append_assoc, lowerFrom_append, List.append_nil, lowerFrom_append, lowerFrom_eq_lowerBetween,
    List.append_assoc]

/-- What stands around a part does not change the length of its small form. -/
theorem length_lowerBetween (before before' after after' cs : List Char) :
    (lowerBetween before after cs).length = (lowerBetween before' after' cs).length := by
  induction cs generalizing before before' with
  | nil => rfl
  | cons c cs ih =>
    rw [lowerBetween, lowerBetween, List.length_append, List.length_append, ih (c :: before) (c :: before')]
    by_cases hc : c = 'Σ'
    · simp only [if_pos hc]
      split <;> split <;> rfl
    · simp only [if_neg hc]

/-- Two surroundings give a part the same small form exactly if each sigma of the part ends a word in both or in
neither. -/
theorem lowerBetween_eq_iff :
    lowerBetween before after cs = lowerBetween before' after' cs ↔
      ∀ a b, cs = a ++ 'Σ' :: b →
        isFinal (a.reverse ++ before) (b ++ after) = isFinal (a.reverse ++ before') (b ++ after') := by
  induction cs generalizing before before' with
  | nil => simp [lowerBetween]
  | cons c cs ih =>
    have hhead : (if c = 'Σ' then (if isFinal before (cs ++ after) then ['ς'] else ['σ']) else lowerChar c) =
        (if c = 'Σ' then (if isFinal before' (cs ++ after') then ['ς'] else ['σ']) else lowerChar c) ↔
        (c = 'Σ' → isFinal before (cs ++ after) = isFinal before' (cs ++ after')) := by
      by_cases hc : c = 'Σ'
      · rw [if_pos hc, if_pos hc]
        rcases isFinal before (cs ++ after) with _ | _ <;> rcases isFinal before' (cs ++ after') with _ | _ <;>
          simp [hc]
      · simp [hc]
    have hlength : (lowerBetween (c :: before) after cs).length = (lowerBetween (c :: before') after' cs).length :=
      length_lowerBetween _ _ _ _ cs
    rw [lowerBetween, lowerBetween]
    constructor
    · intro h a b hab
      obtain ⟨hsigma, hrest⟩ := List.append_inj' h hlength
      rcases a with _ | ⟨d, a⟩
      · cases hab
        exact hhead.1 hsigma rfl
      · cases hab
        have hfinal := ih.1 hrest a b rfl
        simpa using hfinal
    · intro h
      have hsigma : c = 'Σ' → isFinal before (cs ++ after) = isFinal before' (cs ++ after') := by
        rintro rfl
        exact h [] cs rfl
      have hrest : lowerBetween (c :: before) after cs = lowerBetween (c :: before') after' cs := by
        refine ih.2 fun a b hab => ?_
        have hfinal := h (c :: a) b (by rw [hab, List.cons_append])
        simpa using hfinal
      rw [hhead.2 hsigma, hrest]

/-! ### Parts that keep their sigmas -/

/-- In this place of a text each sigma of a part ends a word just when it ends one in the part alone. -/
def KeepsSigmas (before cs after : List Char) : Prop :=
  ∀ a b, cs = a ++ 'Σ' :: b → isFinal (before ++ a).reverse (b ++ after) = isFinal a.reverse b

theorem keepsSigmas_iff : KeepsSigmas before cs after ↔ lowerBetween before.reverse after cs = lowerChars cs := by
  rw [lowerChars_eq_lowerBetween, lowerBetween_eq_iff, KeepsSigmas]
  simp only [List.reverse_append, List.append_nil]

/-! ### Searching for small forms -/

theorem occursIn_append (cs ds : List Char) : occursIn cs (ds ++ cs ++ after) = true := by
  induction ds with
  | nil =>
    rw [List.nil_append]
    rcases cs with _ | ⟨c, cs⟩
    · cases after with
      | nil => rfl
      | cons => rfl
    · rw [List.cons_append, occursIn, ← List.cons_append, List.isPrefixOf_iff_prefix.2 (List.prefix_append _ after)]
      rfl
  | cons d ds ih =>
    rw [List.cons_append, List.cons_append, occursIn, ih, Bool.or_true]

theorem occursIn_lowerChars (h : KeepsSigmas before cs after) :
    occursIn (lowerChars cs) (lowerChars (before ++ cs ++ after)) = true := by
  rw [lowerChars_append_append, keepsSigmas_iff.1 h]
  exact occursIn_append _ _

/-- The beginning of a text begins it in small form exactly if it keeps its sigmas. -/
theorem isPrefixOf_lowerChars :
    (lowerChars cs).isPrefixOf (lowerChars (cs ++ after)) = true ↔ KeepsSigmas [] cs after := by
  have hchars := lowerChars_append_append [] cs after
  simp only [List.nil_append, lowerBetween] at hchars
  have hlength : (lowerChars cs).length = (lowerBetween [] after cs).length := by
    rw [lowerChars_eq_lowerBetween]
    exact length_lowerBetween _ _ _ _ cs
  rw [keepsSigmas_iff, List.isPrefixOf_iff_prefix, hchars]
  constructor
  · rintro ⟨rest, hrest⟩
    exact (List.append_inj hrest hlength).1.symm
  · intro hkeeps
    rw [← hkeeps]
    exact List.prefix_append _ _

/-- The end of a text ends it in small form exactly if it keeps its sigmas. -/
theorem isSuffixOf_lowerChars :
    (lowerChars cs).isSuffixOf (lowerChars (before ++ cs)) = true ↔ KeepsSigmas before cs [] := by
  have hchars := lowerChars_append_append before cs []
  simp only [List.append_nil, lowerBetween] at hchars
  have hlength : (lowerChars cs).length = (lowerBetween before.reverse [] cs).length := by
    rw [lowerChars_eq_lowerBetween]
    exact length_lowerBetween _ _ _ _ cs
  rw [keepsSigmas_iff, List.isSuffixOf_iff_suffix, hchars]
  constructor
  · rintro ⟨rest, hrest⟩
    exact (List.append_inj' hrest hlength).2.symm
  · intro hkeeps
    rw [← hkeeps]
    exact List.suffix_append _ _

end FlowRules.Text
