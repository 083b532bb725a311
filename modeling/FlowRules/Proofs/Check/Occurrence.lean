import FlowRules.Proofs.Check.Numeric
import FlowRules.Proofs.Text.LetterCase

/-!
# Parts of a text in checks

The checks for a part, the beginning and the end of a text compare small forms.  A target that stands in the text of a
value as it is passes them unless it has a capital sigma that ends a word in only one of the two texts
(`literal_matches_accepted_iff`).
-/

namespace FlowRules

variable {make : Constructors} {v : Value} {s t : String} {declared : Option TypeRef}

/-- A check of the text form of a value that can be shown is the test of the two small forms. -/
theorem answers_onTexts_iff {op : Operator} {test : List Char → List Char → Bool} (hs : v.textForm = .ok s)
    (hcompares : op.key ∉ Operator.nullTests)
    (happly : op.apply make v (some t) declared = Eval.ofExcept (Operator.onTexts test v (some t))) :
    op.Answers make v t declared true ↔
      ¬v.Oversized ∧ test (Text.lowerChars t.toList) (Text.lowerChars s.toList) = true := by
  have htest : Operator.onTexts test v (some t) = .ok (test (Text.lowerChars t.toList) (Text.lowerChars s.toList)) := by
    rw [Operator.onTexts, hs]
    rfl
  have hanswers (hv : ¬v.Oversized) :
      op.Answers make v t declared (test (Text.lowerChars t.toList) (Text.lowerChars s.toList)) := by
    refine answers_of_apply (Value.display_ok hv) hcompares happly ?_
    rw [htest]
    rfl
  constructor
  · intro htrue
    have hv : ¬v.Oversized := htrue.not_oversized hcompares
    exact ⟨hv, (hanswers hv).unique htrue⟩
  · rintro ⟨hv, htrue⟩
    have htested := hanswers hv
    rwa [htrue] at htested

/-- A target that stands in the text form of a value as it is, between these characters, is found there if it keeps its
sigmas and the value can be shown.  The text form begins or ends with such a target exactly if that is so. -/
theorem literal_matches_accepted_iff (make : Constructors) (declared : Option TypeRef) (hs : v.textForm = .ok s)
    (before after : List Char) (ht : s.toList = before ++ t.toList ++ after) :
    (¬v.Oversized ∧ Text.KeepsSigmas before t.toList after → Operator.contains.Answers make v t declared true) ∧
      (before = [] → (Operator.startsWith.Answers make v t declared true ↔
        ¬v.Oversized ∧ Text.KeepsSigmas before t.toList after)) ∧
      (after = [] → (Operator.endsWith.Answers make v t declared true ↔
        ¬v.Oversized ∧ Text.KeepsSigmas before t.toList after)) := by
  refine ⟨?_, ?_, ?_⟩
  · rintro ⟨hv, hkeeps⟩
    rw [answers_onTexts_iff hs (by decide) rfl, ht]
    exact ⟨hv, Text.occursIn_lowerChars hkeeps⟩
  · rintro rfl
    rw [answers_onTexts_iff hs (by decide) rfl, ht, List.nil_append, Text.isPrefixOf_lowerChars]
  · rintro rfl
    rw [answers_onTexts_iff hs (by decide) rfl, ht, List.append_nil, Text.isSuffixOf_lowerChars]

/-- A target that ends with a sigma, at the end of a word. -/
theorem literal_matches_accepted_final :
    (Value.text "ΟΔΟΣ").textForm = .ok "ΟΔΟΣ" ∧ "ΟΔΟΣ".toList = "ΟΔ".toList ++ "ΟΣ".toList ++ [] ∧
      (¬(Value.text "ΟΔΟΣ").Oversized ∧ Text.KeepsSigmas "ΟΔ".toList "ΟΣ".toList []) ∧
      Operator.contains.Answers default (.text "ΟΔΟΣ") "ΟΣ" none true ∧
      Operator.endsWith.Answers default (.text "ΟΔΟΣ") "ΟΣ" none true := by
  have hv : ¬(Value.text "ΟΔΟΣ").Oversized := Value.not_oversized_atom nofun
  have ht : "ΟΔΟΣ".toList = "ΟΔ".toList ++ "ΟΣ".toList ++ [] := by decide
  have hs : (Value.text "ΟΔΟΣ").textForm = .ok "ΟΔΟΣ" := rfl
  have hkeeps : Text.KeepsSigmas "ΟΔ".toList "ΟΣ".toList [] := Text.keepsSigmas_iff.2 (by decide)
  obtain ⟨hcontains, -, hends⟩ := literal_matches_accepted_iff default none hs _ _ ht
  exact ⟨hs, ht, ⟨hv, hkeeps⟩, hcontains ⟨hv, hkeeps⟩, (hends rfl).2 ⟨hv, hkeeps⟩⟩

/-- The sigma of the target ends a word and that of the text does not. -/
theorem literal_sigma_refused :
    "ΑΣΑ".toList = [] ++ "ΑΣ".toList ++ ['Α'] ∧ (Value.text "ΑΣΑ").textForm = .ok "ΑΣΑ" ∧
      (check default (.text "ΑΣΑ") (some "contains") (some "ΑΣ") none).run [] = (.ok ⟨false, none⟩, []) ∧
      (check default (.text "ΑΣΑ") (some "startswith") (some "ΑΣ") none).run [] = (.ok ⟨false, none⟩, []) := by
  refine ⟨by decide, rfl, ?_, ?_⟩
  · cbv
  · cbv

end FlowRules
