import FlowRules.Proofs.Entries
import FlowRules.Proofs.Store.Listing
import Mathlib.Algebra.Order.BigOperators.Group.List
import Mathlib.Algebra.Order.Group.Nat
import Mathlib.Data.List.Perm.Subperm

/-!
# The size of repositories

The size that a repository has is no less than the total length of its definitions, each taken once.  Main statements:
this is so for definitions in memory (`MemoryStore.sized_repository`) and in files (`FileTree.sized_repository`), where
reading bytes as text and unifying the ends of lines make nothing longer.
-/

namespace FlowRules

/-- The definitions that are found, each taken once, have no more characters in all than the size says. -/
def Repository.Sized (r : Repository) : Prop :=
  ∀ texts : List String, texts.Nodup → (∀ text ∈ texts, ∃ name, r.find name = .ok (some text)) →
    (texts.map String.length).sum ≤ r.size

/-! ### Sums over entries -/

section

variable {α : Type} {entries : List α} {text? : α → Option String} {weight : α → Nat}

private theorem sum_filterMap_le (h : ∀ e ∈ entries, ∀ text, text? e = some text → text.length ≤ weight e) :
    ((entries.filterMap text?).map String.length).sum ≤ (entries.map weight).sum := by
  induction entries with
  | nil => exact Nat.le_refl 0
  | cons e entries ih =>
    obtain ⟨he, hrest⟩ := List.forall_mem_cons.1 h
    have hsum := ih hrest
    rw [List.filterMap_cons, List.map_cons, List.sum_cons]
    split
    · omega
    · next text htext =>
      have hlength := he text htext
      rw [List.map_cons, List.sum_cons]
      omega

/-- Distinct texts that are each held by an entry weigh no more than the entries. -/
theorem sum_length_le (entries : List α) (text? : α → Option String) {texts : List String} (hnodup : texts.Nodup)
    (htexts : ∀ text ∈ texts, ∃ e ∈ entries, text? e = some text)
    (hweight : ∀ e ∈ entries, ∀ text, text? e = some text → text.length ≤ weight e) :
    (texts.map String.length).sum ≤ (entries.map weight).sum := by
  -- being distinct, the texts are in some order among those that the entries hold
  have hsub : texts ⊆ entries.filterMap text? := fun text htext => List.mem_filterMap.2 (htexts text htext)
  obtain ⟨kept, hperm, hkept⟩ := List.subperm_of_subset hnodup hsub
  calc (texts.map String.length).sum = (kept.map String.length).sum := (hperm.map _).sum_nat.symm
    _ ≤ ((entries.filterMap text?).map String.length).sum := (hkept.map _).sum_le_sum fun n _ => Nat.zero_le n
    _ ≤ (entries.map weight).sum := sum_filterMap_le hweight

end

/-! ### In memory -/

theorem MemoryStore.sized_repository (store : MemoryStore) : store.repository.Sized := by
  intro texts hnodup hfound
  refine sum_length_le store (fun e => some e.2) hnodup (fun text htext => ?_) ?_
  · obtain ⟨name, hname⟩ := hfound text htext
    exact ⟨(name, text), mem_of_lookup (Except.ok.inj hname), rfl⟩
  · rintro e - _ ⟨⟩
    exact Nat.le_refl _

/-! ### In files -/

namespace Text

theorem length_utf8Chars {place : Nat} {pending : Option (UInt8 × Nat × Nat × Nat × Nat × Nat)} {bytes : List UInt8}
    {cs : List Char} (h : utf8Chars place pending bytes = .ok cs) : cs.length ≤ bytes.length := by
  induction bytes generalizing place pending cs with
  | nil =>
    rw [utf8Chars.eq_def] at h
    dsimp only at h
    split at h <;> cases h
    exact Nat.le_refl 0
  | cons b bytes ih =>
    -- a character ends with the byte that is read
    have hcons {c : Char} (h : (utf8Chars (place + 1) none bytes).bind (fun rest => .ok (c :: rest)) = .ok cs) :
        cs.length ≤ bytes.length + 1 := by
      rcases hrest : utf8Chars (place + 1) none bytes with f | rest <;> rw [hrest] at h <;> cases h
      exact Nat.succ_le_succ (ih hrest)
    rw [utf8Chars.eq_def] at h
    rw [List.length_cons]
    dsimp only at h
    split at h
    · split at h
      · split at h
        · exact hcons h
        · exact Nat.le_succ_of_le (ih h)
      · cases h
    · split at h
      · exact hcons h
      · split at h
        · cases h
        · exact Nat.le_succ_of_le (ih h)

theorem length_unifyNewlines (cs : List Char) : (unifyNewlines cs).length ≤ cs.length := by
  fun_induction unifyNewlines cs with
  | case1 => exact Nat.le_refl 0
  | case2 cs ih => exact Nat.le_succ_of_le (Nat.succ_le_succ ih)
  | case3 cs _ ih => exact Nat.succ_le_succ ih
  | case4 c cs _ _ ih => exact Nat.succ_le_succ ih

end Text

namespace FileTree

variable {tree : FileTree} {name text : String} {f : Fault}

private theorem toOption_eq_some {α : Type} {x : Except Fault α} {a : α} : x.toOption = some a ↔ x = .ok a := by
  cases x <;> simp [Except.toOption]

private theorem length_unified (s : String) : (String.ofList (Text.unifyNewlines s.toList)).length ≤ s.length := by
  rw [String.length_ofList]
  exact Text.length_unifyNewlines s.toList

theorem length_contentText {content : FileContent} (h : contentText content = .ok text) :
    text.length ≤ contentSize content := by
  cases content with
  | text s =>
    cases h
    exact length_unified s
  | directory =>
    cases h
    exact Nat.le_refl 0
  | bytes bs =>
    rw [contentText] at h
    split at h
    · next s hs =>
      cases h
      rcases hchars : Text.utf8Chars 0 none bs with f | cs <;> rw [Text.ofUtf8, hchars] at hs <;> cases hs
      refine Nat.le_trans (length_unified _) ?_
      rw [String.length_ofList]
      exact Text.length_utf8Chars hchars
    · cases h

/-- A name is refused, or what is found is what stands at its path. -/
theorem find_cases (tree : FileTree) (name : String) :
    (∃ f, WorkflowName.check name = .error f ∧ tree.find name = .error f) ∨
      tree.find name = tree.textAt (pathOf name) := by
  rw [find_eq]
  rcases hname : WorkflowName.check name with f | checked
  · exact .inl ⟨f, rfl, rfl⟩
  · obtain rfl := eq_of_check_ok hname
    exact .inr rfl

/-- A text that is found is that of a file in the tree. -/
theorem exists_entry (h : tree.find name = .ok (some text)) : ∃ e ∈ tree, contentText e.2 = .ok text := by
  rcases tree.find_cases name with ⟨f, -, herror⟩ | hfind
  · rw [herror] at h
    cases h
  · rw [hfind, textAt, file?] at h
    rcases hlookup : tree.lookup (pathOf name) with _ | content <;> rw [hlookup] at h
    · cases h
    · cases content with
      | directory => cases h
      | text s =>
        cases h
        exact ⟨_, mem_of_lookup hlookup, rfl⟩
      | bytes bs =>
        change (contentText (.bytes bs)).map some = _ at h
        rcases hcontent : contentText (.bytes bs) with f | s <;> rw [hcontent] at h <;> cases h
        exact ⟨_, mem_of_lookup hlookup, hcontent⟩

theorem sized_repository (tree : FileTree) (directory : String) : (tree.repository directory).Sized := by
  intro texts hnodup hfound
  refine sum_length_le tree (fun e => (contentText e.2).toOption) hnodup (fun text htext => ?_) ?_
  · obtain ⟨name, hname⟩ := hfound text htext
    obtain ⟨e, he, hcontent⟩ := exists_entry hname
    exact ⟨e, he, toOption_eq_some.2 hcontent⟩
  · intro e _ text htext
    exact length_contentText (toOption_eq_some.1 htext)

end FileTree
end FlowRules
