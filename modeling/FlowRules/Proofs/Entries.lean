import Mathlib.Data.List.Nodup

/-!
# Entries under keys

A table is a list of entries in which the first entry under a key is the one that is found.  In a table with at most
one entry under each key every entry is found (`lookup_eq_some_iff_mem`).
-/

namespace FlowRules

variable {α β : Type} [BEq α] [LawfulBEq α] {entries : List (α × β)} {key : α} {b : β}

/-- What is found under a key is an entry. -/
theorem mem_of_lookup (h : entries.lookup key = some b) : (key, b) ∈ entries := by
  obtain ⟨before, behind, rfl, -⟩ := List.lookup_eq_some_iff.1 h
  exact List.mem_append_right before List.mem_cons_self

theorem lookup_eq_none_iff_notMem : entries.lookup key = none ↔ key ∉ entries.map Prod.fst := by
  rw [List.lookup_eq_none_iff, List.mem_map]
  constructor
  · rintro h ⟨p, hp, rfl⟩
    simpa using h p hp
  · intro h p hp
    exact bne_iff_ne.2 fun hkey => h ⟨p, hp, hkey.symm⟩

theorem lookup_eq_some_iff_mem (h : (entries.map Prod.fst).Nodup) :
    entries.lookup key = some b ↔ (key, b) ∈ entries := by
  constructor
  · exact mem_of_lookup
  · intro hb
    obtain ⟨before, behind, rfl⟩ := List.append_of_mem hb
    refine List.lookup_eq_some_iff.2 ⟨before, behind, rfl, fun p hp => bne_iff_ne.2 ?_⟩
    rw [List.map_append, List.nodup_append] at h
    rintro rfl
    exact h.2.2 _ (List.mem_map_of_mem hp) _ (List.mem_map_of_mem List.mem_cons_self) rfl

end FlowRules
