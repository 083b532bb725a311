import FlowRules.Proofs.Check.Answer
import FlowRules.Proofs.Text.SmallForms
import Mathlib.Logic.Relation

/-!
# Spellings of operators

The spelling of an operator is changed by putting in or taking out white space and underscores, and by writing letters
of the basic alphabet large or small.  Whatever is changed so, the spelling stands for the same keyword, which stands for
itself, and a check with it comes to the same (`Operator.spellings_alike`).  The signs for comparisons make no exception,
as they are looked up also behind the changes.
-/

namespace FlowRules

open Text

namespace Operator

variable {s t : String} {cs ds : List Char} {c d : Char}

/-- One change of a spelling that does not count. -/
inductive Respells : List Char → List Char → Prop
  | insert (before after : List Char) {c : Char} (hgap : isGap c = true) :
      Respells (before ++ after) (before ++ c :: after)
  | remove (before after : List Char) {c : Char} (hgap : isGap c = true) :
      Respells (before ++ c :: after) (before ++ after)
  | recase (before after : List Char) {c d : Char} (hletter : c.toLower = d.toLower) :
      Respells (before ++ c :: after) (before ++ d :: after)

/-! ### Spellings without what does not count -/

theorem squeeze_eq (s : String) : squeeze s = String.ofList (lowerChars (s.toList.filter fun c => !isGap c)) := by
  have hkept : (fun c => !isBlank c && c != '_') = fun c => !isGap c := by
    funext c
    simp [isGap, bne]
  rw [squeeze, hkept]

/-- A change that does not count keeps the characters that count, but for the case of letters of the basic alphabet. -/
theorem Respells.counted (h : Respells cs ds) :
    (ds.filter fun c => !isGap c).map Char.toLower = (cs.filter fun c => !isGap c).map Char.toLower := by
  cases h with
  | insert before after hgap => simp [hgap]
  | remove before after hgap => simp [hgap]
  | recase before after hletter =>
    rename_i c d
    have hgap : isGap d = isGap c := by rw [← (toLower_spec d).2.2.2, ← hletter, (toLower_spec c).2.2.2]
    cases hc : isGap c <;> simp [hgap, hc, hletter]

theorem counted_of_respelled (h : Relation.ReflTransGen Respells cs ds) :
    (ds.filter fun c => !isGap c).map Char.toLower = (cs.filter fun c => !isGap c).map Char.toLower := by
  induction h with
  | refl => rfl
  | tail _ hstep ih => exact hstep.counted.trans ih

theorem squeeze_respelled (h : Relation.ReflTransGen Respells s.toList t.toList) : squeeze t = squeeze s := by
  rw [squeeze_eq, squeeze_eq, ← lowerChars_map_toLower, counted_of_respelled h, lowerChars_map_toLower]

/-- Nothing is squeezed out of a squeezed spelling. -/
theorem squeeze_squeeze (s : String) : squeeze (squeeze s) = squeeze s := by
  have hkept : ∀ c ∈ lowerChars (s.toList.filter fun c => !isGap c), (!isGap c) = true := by
    intro c hc
    by_contra hgap
    have hgap : isGap c = true := by simpa using hgap
    have hmem := mem_of_mem_lowerChars hc hgap
    simp [hgap] at hmem
  rw [squeeze_eq (squeeze s), squeeze_eq s, String.toList_ofList, List.filter_eq_self.2 hkept, lowerChars_lowerChars]

theorem filter_dropWhile_isBlank (cs : List Char) :
    (cs.dropWhile isBlank).filter (fun c => !isGap c) = cs.filter fun c => !isGap c := by
  induction cs with
  | nil => rfl
  | cons c cs ih =>
    cases hc : isBlank c with
    | true =>
      have hgap : isGap c = true := by rw [isGap, hc, Bool.true_or]
      rw [List.dropWhile_cons_of_pos hc, ih, List.filter_cons_of_neg (by simp [hgap])]
    | false => rw [List.dropWhile_cons_of_neg (by simp [hc])]

theorem squeeze_trim (s : String) : squeeze (trim s) = squeeze s := by
  rw [squeeze_eq, squeeze_eq, trim, String.toList_ofList, trimChars, trimRight, List.filter_reverse,
    filter_dropWhile_isBlank, ← List.filter_reverse, List.reverse_reverse, trimLeft, filter_dropWhile_isBlank]

/-! ### Keywords -/

/-- The keyword for a squeezed spelling. -/
def keyword (k : String) : String := (aliases.lookup k).getD k

/-- The signs are squeezed spellings themselves, so they are found behind the squeezing too. -/
theorem normalize_eq (s : String) : normalize (some s) = keyword (squeeze s) := by
  have hsqueezed : ∀ p ∈ aliases, squeeze p.1 = p.1 := by decide
  rw [← squeeze_trim, keyword]
  rcases halias : aliases.lookup (trim s) with _ | k
  · simp only [normalize, Option.getD_some, halias]
  · have hsame : squeeze (trim s) = trim s := hsqueezed (trim s, k) (mem_of_lookup halias)
    simp only [normalize, Option.getD_some, hsame, halias]

theorem keyword_keyword (s : String) : normalize (some (keyword (squeeze s))) = keyword (squeeze s) := by
  have hkeywords : ∀ p ∈ aliases, normalize (some p.2) = p.2 := by decide
  rcases halias : aliases.lookup (squeeze s) with _ | k
  · have hself : keyword (squeeze s) = squeeze s := by rw [keyword, halias, Option.getD_none]
    rw [hself, normalize_eq, squeeze_squeeze, hself]
  · have hself : normalize (some k) = k := hkeywords (squeeze s, k) (mem_of_lookup halias)
    rw [keyword, halias, Option.getD_some, hself]

theorem normalize_normalize (s : String) : normalize (some (normalize (some s))) = normalize (some s) := by
  rw [normalize_eq s, keyword_keyword]

end Operator

/-! ### Checks -/

/-- What a check comes to, but for the note. -/
def verdict (r : Except Fault Checked × Cursors) : Except Fault Bool × Cursors := (r.1.map (·.passed), r.2)

section

variable {make : Constructors} {v : Value} {s t target : Option String} {declared : Option TypeRef} {cs : Cursors}

/-- Two spellings of one operator are told apart in the note alone. -/
theorem verdict_congr (h : Operator.ofSpelling? t = Operator.ofSpelling? s) (hs : Operator.ofSpelling? s ≠ none) :
    verdict ((check make v t target declared).run cs) = verdict ((check make v s target declared).run cs) := by
  obtain ⟨op, hop⟩ := Option.ne_none_iff_exists'.1 hs
  have hop' : Operator.ofSpelling? t = some op := h.trans hop
  by_cases hnull : op.key ∈ Operator.nullTests
  · rw [check, check, hop, hop']
    rcases Operator.key_mem_nullTests.1 hnull with rfl | rfl
    · rfl
    · rfl
  · rw [check_run make target declared cs hop hnull, check_run make target declared cs hop' hnull]
    rcases v.display with f | shown
    · rfl
    · rcases (op.apply make v target declared).run cs with ⟨f | passed, ds⟩
      · rfl
      · rfl

end

namespace Operator

/-- Changes of a spelling that do not count leave its keyword, which stands for itself.  So the spellings are all of one
operator or of none; then checks with them are refused, and otherwise they come to the same. -/
theorem spellings_alike {s t : String} (h : Relation.ReflTransGen Respells s.toList t.toList) :
    normalize (some t) = normalize (some s) ∧ normalize (some (normalize (some s))) = normalize (some s) ∧
      ofSpelling? (some t) = ofSpelling? (some s) ∧
      ∀ make v target declared cs,
        (ofSpelling? (some s) = none →
          (check make v (some s) target declared).run cs = (.error (.unsupportedOperator (some s)), cs) ∧
            (check make v (some t) target declared).run cs = (.error (.unsupportedOperator (some t)), cs)) ∧
        (ofSpelling? (some s) ≠ none →
          verdict ((check make v (some t) target declared).run cs) =
            verdict ((check make v (some s) target declared).run cs)) := by
  have hkeyword : normalize (some t) = normalize (some s) := by
    rw [normalize_eq, normalize_eq, squeeze_respelled h]
  have hop : ofSpelling? (some t) = ofSpelling? (some s) := by rw [ofSpelling?, ofSpelling?, hkeyword]
  refine ⟨hkeyword, normalize_normalize s, hop, fun make v target declared cs => ⟨fun hnone => ?_, verdict_congr hop⟩⟩
  have hkeys : normalize (some s) ∉ keys := ofSpelling?_eq_none.1 hnone
  have hkeys' : normalize (some t) ∉ keys := by rwa [hkeyword]
  exact ⟨check_unsupported make v target declared cs hkeys, check_unsupported make v target declared cs hkeys'⟩

/-- A blank, an underscore in its place, and two capitals. -/
theorem spellings_alike_isNull :
    Relation.ReflTransGen Respells "Is Null".toList "is_null".toList ∧ ofSpelling? (some "Is Null") = some .isNull ∧
      ofSpelling? (some "is_null") = ofSpelling? (some "Is Null") ∧
      verdict ((check default .null (some "is_null") none none).run []) =
        verdict ((check default .null (some "Is Null") none none).run []) := by
  have hremoved : Respells "Is Null".toList "IsNull".toList := .remove ['I', 's'] ['N', 'u', 'l', 'l'] (by decide)
  have hinserted : Respells "IsNull".toList "Is_Null".toList := .insert ['I', 's'] ['N', 'u', 'l', 'l'] (by decide)
  have hsmall : Respells "Is_Null".toList "is_Null".toList := .recase [] ['s', '_', 'N', 'u', 'l', 'l'] (by decide)
  have hsmall' : Respells "is_Null".toList "is_null".toList := .recase ['i', 's', '_'] ['u', 'l', 'l'] (by decide)
  have hchanged : Relation.ReflTransGen Respells "Is Null".toList "is_null".toList :=
    (((Relation.ReflTransGen.single hremoved).tail hinserted).tail hsmall).tail hsmall'
  have hop : ofSpelling? (some "Is Null") = some .isNull := by decide
  obtain ⟨-, -, hsame, hcheck⟩ := spellings_alike hchanged
  have hknown : ofSpelling? (some "Is Null") ≠ none := by simp [hop]
  exact ⟨hchanged, hop, hsame, (hcheck default .null none none []).2 hknown⟩

end Operator
end FlowRules
