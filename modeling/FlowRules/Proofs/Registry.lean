import FlowRules.Handler.Registry
import FlowRules.Proofs.Entries

/-!
# Registered handlers

Main statements: in a registry that is built by adding handlers nothing is registered under the empty key
(`Registry.Built.lookup_empty`), so that a key under which something is registered has an entry when it is looked up
(`Registry.exists_entry`).
-/

namespace FlowRules

namespace Registry

/-- Registries to which handlers have been added one after another. -/
inductive Built : Registry → Prop where
  | empty : Built {}
  | rule {r r' : Registry} {key : String} {e : Entry Unit} {rows : List LogRow} (h : Built r)
    (ha : r.addRule key e = .ok (r', rows)) : Built r'
  | validation {r r' : Registry} {key : String} {e : Entry (List Bool)} {rows : List LogRow} (h : Built r)
    (ha : r.addValidation key e = .ok (r', rows)) : Built r'

private theorem key_ne_empty {key label key' : String} (h : HandlerKey.check key label = .ok key') : key' ≠ "" := by
  unfold HandlerKey.check at h
  split at h
  · cases h
  · split at h
    · cases h
    · split at h
      · cases h
      · cases h
        rintro rfl
        exact absurd rfl ‹¬ Text.isBlankText "" = true›

private theorem lookup_setEntry {α : Type} {key k : String} (hk : k ≠ key) (v : α) (entries : List (String × α)) :
    (setEntry key v entries).lookup k = entries.lookup k := by
  induction entries with
  | nil => simp [setEntry, List.lookup_cons, beq_false_of_ne hk]
  | cons e entries ih =>
    obtain ⟨k', v'⟩ := e
    unfold setEntry
    split
    · subst k'
      simp [List.lookup_cons, beq_false_of_ne hk]
    · simp only [List.lookup_cons, ih]

/-- Nothing is registered under the empty key. -/
theorem Built.lookup_empty {r : Registry} (h : r.Built) :
    r.rules.lookup "" = none ∧ r.validations.lookup "" = none := by
  induction h with
  | empty => exact ⟨rfl, rfl⟩
  | @rule r r' key e rows _ ha ih =>
    unfold addRule at ha
    rcases hk : HandlerKey.check key HandlerKey.defaultLabel with f | key' <;> rw [hk] at ha <;> cases ha
    exact ⟨(lookup_setEntry (key_ne_empty hk).symm e r.rules).trans ih.1, ih.2⟩
  | @validation r r' key e rows _ ha ih =>
    unfold addValidation at ha
    rcases hk : HandlerKey.check key HandlerKey.defaultLabel with f | key' <;> rw [hk] at ha <;> cases ha
    exact ⟨ih.1, (lookup_setEntry (key_ne_empty hk).symm e r.validations).trans ih.2⟩

/-- A key under which something is registered has an entry when it is looked up. -/
theorem exists_entry {α : Type} {entries : List (String × Entry α)} (hempty : entries.lookup "" = none)
    {key : Option String} (h : (entries.lookup (key.getD "")).isSome = true) : ∃ e, entry? entries key = some e := by
  have hkey : entry? entries key = entries.lookup (key.getD "") := by
    unfold entry?
    split
    · exact hempty.symm
    · exact hempty.symm
    · rfl
  rw [hkey]
  exact Option.isSome_iff_exists.1 h

/-- A handler that is resolved comes from an entry. -/
theorem mem_of_resolve {α : Type} {entries : List (String × Entry α)} {key : Option String} {serial : Nat}
    {handler : Handler α} (h : resolve entries key serial = .ok (some handler)) :
    ∃ k e, (k, e) ∈ entries ∧ e.resolve serial = .ok handler := by
  unfold resolve at h
  split at h
  · cases h
  · rename_i e he
    have hlookup : ∃ k, entries.lookup k = some e := by
      unfold entry? at he
      split at he
      · cases he
      · cases he
      · exact ⟨_, he⟩
    obtain ⟨k, hk⟩ := hlookup
    refine ⟨k, e, mem_of_lookup hk, ?_⟩
    rcases hr : e.resolve serial with f | made <;> rw [hr] at h <;> cases h
    rfl

end Registry

end FlowRules
