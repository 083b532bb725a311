import FlowRules.Proofs.Workflow.Steps

/-!
# The extent of definitions

Reading takes at least one character for each element of an array.  Main statement: a workflow has at most as many
steps as its definition has characters (`Definition.length_steps`).
-/

namespace FlowRules

namespace Json

/-! ### Elements and characters -/

/-- Neither a document that is an array nor a member of it that is one has more than `n` elements. -/
structure Narrow (n : Nat) (j : Json) : Prop where
  elements : ∀ items, j = .array items → items.length ≤ n
  members : ∀ members, j = .object members → ∀ m ∈ members, ∀ items, m.2 = .array items → items.length ≤ n

variable {n depth : Nat} {c next : Cursor} {j : Json}

/-- Neither an array nor an object. -/
def isPlain : Json → Bool
  | .array _ | .object _ => false
  | _ => true

theorem narrow_of_plain (h : j.isPlain = true) : j.Narrow n := by
  constructor
  · rintro items rfl
    cases h
  · rintro members rfl
    cases h

theorem narrow_array {items : List Json} (h : items.length ≤ n) : (array items).Narrow n := by
  refine ⟨?_, nofun⟩
  rintro _ ⟨⟩
  exact h

theorem narrow_object {members : List (String × Json)}
    (h : ∀ m ∈ members, ∀ items, m.2 = .array items → items.length ≤ n) : (object members).Narrow n := by
  refine ⟨nofun, ?_⟩
  rintro _ ⟨⟩
  exact h

private theorem words_plain : (words.all fun w => w.2.isPlain) = true := rfl

private theorem narrow_word (h : readWord? c = some (j, next)) : j.Narrow n := by
  obtain ⟨w, hw, hnext⟩ := Option.map_eq_some_iff.1 h
  cases hnext
  exact narrow_of_plain (List.all_eq_true.1 words_plain w (List.mem_of_find?_eq_some hw))

private theorem narrow_number (h : readNumber c = .ok (j, next)) : j.Narrow n := by
  unfold readNumber at h
  split at h
  · cases h
  · dsimp only at h
    split at h
    · split at h <;> cases h
      exact narrow_of_plain rfl
    · split at h <;> cases h
      exact narrow_of_plain rfl

private theorem narrow_text (h : (readText c).map (fun (s, next) => (Json.text s, next)) = .ok (j, next)) :
    j.Narrow n := by
  rcases hread : readText c with stop | ⟨s, behind⟩ <;> rw [hread] at h <;> cases h
  exact narrow_of_plain rfl

private theorem narrow_plain
    (h : (match readWord? c with
      | some r => Except.ok r
      | none => readNumber c) = .ok (j, next)) : j.Narrow n := by
  split at h
  · next r hr =>
    cases h
    exact narrow_word hr
  · exact narrow_number h

section

variable {item : Cursor → Reads Json} (hitem : ∀ c, Within c.rest Short (item c))

include hitem

/-- Behind each element stands a comma or the closing bracket. -/
theorem elements_narrow {read : List Json} {fuel : Nat} (h : elements item read fuel c = .ok (j, next))
    (hn : read.length + c.rest.length ≤ n) : j.Narrow n := by
  -- what has been read grows by one where at least one character less is left
  induction fuel generalizing read c with
  | zero => cases h
  | succ fuel ih =>
    have hwithin := hitem c
    rw [elements] at h
    split at h
    · cases h
    · next v behind hv =>
      rw [hv] at hwithin
      have hbehind := ((skipBlanks_suffix behind).trans hwithin.2).length_le
      dsimp only at h
      split at h
      · next hrest =>
        cases h
        rw [hrest, List.length_cons] at hbehind
        refine narrow_array ?_
        rw [List.length_reverse, List.length_cons]
        omega
      · next hrest =>
        have hskip := (skipBlanks_suffix (behind.skipBlanks.drop 1)).length_le
        have hdrop : (behind.skipBlanks.drop 1).rest.length + 1 = behind.skipBlanks.rest.length := by
          rw [Cursor.drop, hrest]
          rfl
        refine ih h ?_
        rw [List.length_cons]
        omega
      · cases h

theorem members_narrow (hnarrow : ∀ c j next, item c = .ok (j, next) → c.rest.length ≤ n → j.Narrow n)
    {read : List (String × Json)} {fuel : Nat} (h : members item read fuel c = .ok (j, next))
    (hread : ∀ m ∈ read, ∀ items, m.2 = .array items → items.length ≤ n) (hn : c.rest.length ≤ n) : j.Narrow n := by
  induction fuel generalizing read c with
  | zero => cases h
  | succ fuel ih =>
    have hkey := readText_within c
    rw [members] at h
    split at h
    · split at h
      · cases h
      · next key behind hbehind =>
        rw [hbehind] at hkey
        have hcolon := (skipBlanks_suffix behind).trans hkey.2
        dsimp only at h
        split at h
        · have hstart := ((skipBlanks_suffix _).trans (drop_suffix behind.skipBlanks 1)).trans hcolon
          have hwithin := hitem (behind.skipBlanks.drop 1).skipBlanks
          split at h
          · cases h
          · next v after hv =>
            rw [hv] at hwithin
            have hvalue := hnarrow _ _ _ hv (hstart.length_le.trans hn)
            have hset : ∀ m ∈ setMember key v read, ∀ items, m.2 = .array items → items.length ≤ n := by
              intro m hm
              rcases mem_setMember hm with hm | hm
              · rw [hm]
                exact hvalue.elements
              · exact hread m hm
            have hafter := ((skipBlanks_suffix after).trans hwithin.2).trans hstart
            split at h
            · cases h
              exact narrow_object hset
            · refine ih h hset (Nat.le_trans ?_ hn)
              exact (((skipBlanks_suffix _).trans (drop_suffix _ 1)).trans hafter).length_le
            · cases h
        · cases h
    · cases h

end

/-- A value has no more elements than there are characters to read. -/
theorem readValue_narrow (h : readValue depth c = .ok (j, next)) (hn : c.rest.length ≤ n) : j.Narrow n := by
  induction depth generalizing c j next with
  | zero =>
    rw [readValue] at h
    split at h
    · exact narrow_text h
    · cases h
    · cases h
    · exact narrow_plain h
  | succ depth ih =>
    have hbehind := ((skipBlanks_suffix _).trans (drop_suffix c 1)).length_le
    rw [readValue] at h
    split at h
    · exact narrow_text h
    · dsimp only at h
      split at h
      · cases h
        exact narrow_array (Nat.zero_le n)
      · refine elements_narrow (readValue_within depth) h ?_
        rw [List.length_nil, Nat.zero_add]
        exact hbehind.trans hn
    · dsimp only at h
      split at h
      · cases h
        exact narrow_object (List.forall_mem_nil _)
      · exact members_narrow (readValue_within depth) (fun c j next => ih) h (List.forall_mem_nil _) (hbehind.trans hn)
    · exact narrow_plain h

theorem read_narrow {s : String} (h : read s = .ok j) : j.Narrow s.length := by
  unfold read at h
  dsimp only at h
  split at h
  · cases h
  · split at h
    · cases h
    · cases h
    · cases h
    · next v behind hv =>
      split at h
      · cases h
        exact readValue_narrow hv (skipBlanks_suffix _).length_le
      · cases h

end Json

/-! ### Steps and characters -/

theorem Schema.firstMember?_eq_some {members : List (String × Json)} {names : List String} {key : String} {j : Json}
    (h : firstMember? members names = some (key, j)) : members.lookup key = some j := by
  induction names with
  | nil => cases h
  | cons name names ih =>
    rw [firstMember?] at h
    split at h
    · next hlookup =>
      cases h
      exact hlookup
    · exact ih h

theorem Schema.length_stepsOf {n : Nat} {members : List (String × Json)} (h : (Json.object members).Narrow n) :
    (standard.stepsOf members).value.length ≤ n := by
  show (readField members ["rules"] [] _).value.length ≤ n
  rw [readField]
  rcases hfirst : firstMember? members ["rules"] with _ | ⟨key, j⟩
  · exact Nat.zero_le n
  · cases j with
    | array items =>
      show (readItemsFrom standard.step 0 items).value.length ≤ n
      rw [readItemsFrom_value, List.length_map]
      exact h.members members rfl _ (mem_of_lookup (firstMember?_eq_some hfirst)) items rfl
    | _ => exact Nat.zero_le n

/-- A workflow has at most as many steps as its definition has characters. -/
theorem Definition.length_steps {text : String} {c : Workflow} (h : read text = .ok (some c)) :
    c.steps.length ≤ text.length := by
  obtain ⟨members, hread, hmembers⟩ := exists_members h
  rw [(Schema.Library.workflow_eq_ok Schema.standard_lawful hmembers).1]
  exact Schema.length_stepsOf (Json.read_narrow hread)

end FlowRules
