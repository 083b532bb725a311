import FlowRules.Check.Engine
import FlowRules.Proofs.Check.Writing
import FlowRules.Proofs.Number.Digits
import FlowRules.Proofs.Value.Source

/-!
# Checks answer

A check with a spelling of no operator is refused, and every other check answers, unless the checked value cannot be
written: its text is made for the note before the operator is applied, and only the tests for null go without
(`check_answers`).
-/

namespace FlowRules

namespace Operator

variable {spelling : Option String}

theorem ofSpelling?_eq_none : ofSpelling? spelling = none ↔ normalize spelling ∉ keys := by
  rw [ofSpelling?, ofKey?, List.find?_eq_none, keys, List.mem_map]
  simp

theorem key_of_ofSpelling? {op : Operator} (h : ofSpelling? spelling = some op) : op.key = normalize spelling := by
  simpa using List.find?_some h

theorem ofSpelling?_of_mem (h : normalize spelling ∈ keys) : ∃ op, ofSpelling? spelling = some op := by
  rcases hs : ofSpelling? spelling with _ | op
  · exact absurd h (ofSpelling?_eq_none.1 hs)
  · exact ⟨op, rfl⟩

/-- The keywords of the tests for null. -/
def nullTests : List String := [isNull.key, isNotNull.key]

theorem nullTests_subset : nullTests ⊆ keys := by decide

theorem key_mem_nullTests {op : Operator} : op.key ∈ nullTests ↔ op = isNull ∨ op = isNotNull := by
  cases op <;> decide

end Operator

section

variable (make : Constructors) (actual : Value) {spelling : Option String} (target : Option String)
  (declared : Option TypeRef) (cs : Cursors)

theorem check_unsupported (h : Operator.normalize spelling ∉ Operator.keys) :
    (check make actual spelling target declared).run cs = (.error (.unsupportedOperator spelling), cs) := by
  rw [check, Operator.ofSpelling?_eq_none.2 h]
  rfl

variable {actual} {op : Operator}

/-- An operator that is no test for null is applied after the text for the note is made, and only what goes wrong in
applying it is put into a note. -/
theorem check_run (hop : Operator.ofSpelling? spelling = some op) (hnull : op.key ∉ Operator.nullTests) :
    (check make actual spelling target declared).run cs =
      match actual.display with
      | .error f => (.error f, cs)
      | .ok shown =>
        match (op.apply make actual target declared).run cs with
        | (.ok passed, ds) => (.ok ⟨passed, none⟩, ds)
        | (.error f, ds) => (.ok ⟨false, some (Operator.failureNote spelling shown target f)⟩, ds) := by
  rw [Operator.key_mem_nullTests] at hnull
  rw [check, hop]
  split
  · next hnone => cases hnone
  · next hsome => exact absurd (.inl (Option.some.inj hsome)) hnull
  · next hsome => exact absurd (.inr (Option.some.inj hsome)) hnull
  · next hsome =>
    cases hsome
    rcases hshown : actual.display with f | shown
    · -- nothing is caught yet
      rfl
    · rw [Eval.run_bind_ok (Eval.run_ofExcept _ cs), Eval.run_tryCatch]
      rcases happly : (op.apply make actual target declared).run cs with ⟨f | passed, ds⟩
      · rw [Eval.run_bind_fault happly]
        rfl
      · rw [Eval.run_bind_ok happly]
        rfl

/-- Where the operator decides, the check answers as it does, without a note. -/
theorem check_of_apply {shown : String} {passed : Bool} {ds : Cursors} (hshown : actual.display = .ok shown)
    (hop : Operator.ofSpelling? spelling = some op) (hnull : op.key ∉ Operator.nullTests)
    (happly : (op.apply make actual target declared).run cs = (.ok passed, ds)) :
    (check make actual spelling target declared).run cs = (.ok ⟨passed, none⟩, ds) := by
  rw [check_run make target declared cs hop hnull, hshown, happly]

/-- The tests for null do not look into the value. -/
theorem check_of_nullTest (h : Operator.normalize spelling ∈ Operator.nullTests) :
    ∃ answer, (check make actual spelling target declared).run cs = (.ok answer, cs) := by
  obtain ⟨op, hop⟩ := Operator.ofSpelling?_of_mem (Operator.nullTests_subset h)
  rw [← Operator.key_of_ofSpelling? hop, Operator.key_mem_nullTests] at h
  rw [check, hop]
  rcases h with rfl | rfl
  · exact ⟨_, rfl⟩
  · exact ⟨_, rfl⟩

theorem check_of_display {shown : String} (hshown : actual.display = .ok shown)
    (hkeys : Operator.normalize spelling ∈ Operator.keys) (hnull : Operator.normalize spelling ∉ Operator.nullTests) :
    ∃ answer ds, (check make actual spelling target declared).run cs = (.ok answer, ds) := by
  obtain ⟨op, hop⟩ := Operator.ofSpelling?_of_mem hkeys
  rw [← Operator.key_of_ofSpelling? hop] at hnull
  rw [check_run make target declared cs hop hnull, hshown]
  rcases (op.apply make actual target declared).run cs with ⟨f | passed, ds⟩
  · exact ⟨_, ds, rfl⟩
  · exact ⟨_, ds, rfl⟩

theorem check_of_oversized (hactual : actual.Oversized) (hkeys : Operator.normalize spelling ∈ Operator.keys)
    (hnull : Operator.normalize spelling ∉ Operator.nullTests) :
    (check make actual spelling target declared).run cs = (.error .tooLong, cs) := by
  obtain ⟨op, hop⟩ := Operator.ofSpelling?_of_mem hkeys
  rw [← Operator.key_of_ofSpelling? hop] at hnull
  rw [check_run make target declared cs hop hnull, Value.display_oversized hactual]

variable (actual spelling)

/-- A check with a spelling of no operator is refused.  Every other check has an answer, unless an integer with more
digits than are written is shown in the checked value and the operator is no test for null: then the check fails. -/
theorem check_answers :
    (Operator.normalize spelling ∉ Operator.keys →
      (check make actual spelling target declared).run cs = (.error (.unsupportedOperator spelling), cs)) ∧
    (Operator.normalize spelling ∈ Operator.keys →
      (actual.Oversized → Operator.normalize spelling ∈ Operator.nullTests) →
      ∃ answer ds, (check make actual spelling target declared).run cs = (.ok answer, ds)) ∧
    (Operator.normalize spelling ∈ Operator.keys → actual.Oversized →
      Operator.normalize spelling ∉ Operator.nullTests →
      (check make actual spelling target declared).run cs = (.error .tooLong, cs)) := by
  refine ⟨check_unsupported make actual target declared cs, fun hkeys hactual => ?_,
    fun hkeys hactual => check_of_oversized make target declared cs hactual hkeys⟩
  by_cases hnull : Operator.normalize spelling ∈ Operator.nullTests
  · obtain ⟨answer, hanswer⟩ := check_of_nullTest make target declared cs hnull
    exact ⟨answer, cs, hanswer⟩
  · obtain ⟨shown, hshown⟩ := Value.display_ok fun h => hnull (hactual h)
    exact check_of_display make target declared cs hshown hkeys hnull

end

/-- A signaling decimal cannot be compared, and the check of it answers. -/
theorem check_answers_signaling :
    Operator.normalize (some " Equals ") ∈ Operator.keys ∧ ¬(Value.decimal (.nan false true 0)).Oversized ∧
      ∃ answer ds, (check default (.decimal (.nan false true 0)) (some " Equals ") (some "1") none).run [] =
        (.ok answer, ds) := by
  have hkeys : Operator.normalize (some " Equals ") ∈ Operator.keys := by decide
  have hactual : ¬(Value.decimal (.nan false true 0)).Oversized := Value.not_oversized_atom nofun
  exact ⟨hkeys, hactual, (check_answers default _ _ (some "1") none []).2.1 hkeys fun h => absurd h hactual⟩

theorem Value.oversized_pow {k : Nat} (hk : Numeral.maxDigits ≤ k) : (Value.int (10 ^ k)).Oversized := by
  refine .int ?_
  rw [Int.natAbs_pow]
  exact Nat.lt_of_lt_of_eq (Nat.lt_succ_of_le hk) (Text.length_natDigits_pow k).symm

/-- Whether an integer of 4301 digits is one has no answer. -/
theorem check_fails_oversized :
    (check default (.int (10 ^ 4300)) (some "equals") (some "1") none).run [] = (.error .tooLong, []) :=
  check_of_oversized default (some "1") none [] (Value.oversized_pow (by decide)) (by decide) (by decide)

end FlowRules
