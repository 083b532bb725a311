import FlowRules.Check.Declared
import FlowRules.Proofs.Check.Writing
import FlowRules.Proofs.Value.Source

/-!
# What reading a value can raise

Fields are read by looking at attributes of values of the host, and each of these can raise whatever the host likes.
Main statements: a field path raises nothing else but where a place in a sequence cannot be read as a number
(`Value.field_error`), and a declarative validation with a known operator raises nothing else but where a value cannot
be written (`Step.judge_error`).
-/

namespace FlowRules

namespace Value

/-- An attribute of a value, or of what is found in it, raises a fault when it is looked at. -/
inductive Raises (f : Fault) : Value → Prop where
  | here {id : Identity} {cls : ClassInfo} {fields offers : List (String × Value)} {failing : List (String × Fault)}
    {name : String} (h : failing.lookup name = some f) : Raises f (.object id cls fields offers failing)
  | attribute {v w : Value} {name : String} (h : v.attribute? name = .ok (some w)) (hw : Raises f w) : Raises f v
  | item {v w : Value} {items : List Value} (hi : v.sequenceItems? = some items) (h : w ∈ items) (hw : Raises f w) :
    Raises f v
  | entry {id : Identity} {entries : List (Value × Value)} {k w : Value} (h : (k, w) ∈ entries) (hw : Raises f w) :
    Raises f (.dict id entries)

/-- A value offers another by an attribute, at a place of a sequence or at a key. -/
inductive Offers : Value → Value → Prop where
  | attribute {v w : Value} {name : String} (h : v.attribute? name = .ok (some w)) : Offers v w
  | item {v w : Value} {items : List Value} (hi : v.sequenceItems? = some items) (h : w ∈ items) : Offers v w
  | entry {id : Identity} {entries : List (Value × Value)} {k w : Value} (h : (k, w) ∈ entries) :
    Offers (.dict id entries) w

theorem Offers.raises {f : Fault} {v w : Value} (h : v.Offers w) (hw : w.Raises f) : v.Raises f := by
  rcases h with h | ⟨hi, h⟩ | h
  · exact .attribute h hw
  · exact .item hi h hw
  · exact .entry h hw

/-- A fault of reading in a value: one of its attributes, or a number that is too long. -/
def ReadFault (v : Value) (f : Fault) : Prop := v.Raises f ∨ ∃ n, f = .value (.numeral n)

variable {v w : Value} {f : Fault} {name : String}

/-! ### Attributes -/

theorem attribute_error (h : v.attribute? name = .error f) : v.Raises f := by
  cases v with
  | object id cls fields offers failing =>
    dsimp only [attribute?] at h
    split at h
    · rename_i hfails
      cases h
      exact Raises.here hfails
    · cases h
  | member e own a =>
    dsimp only [attribute?] at h
    split at h
    · cases h
    · cases h
    · split at h <;> cases h
  | tuple id label items =>
    dsimp only [attribute?] at h
    split at h <;> cases h
  | source id items =>
    dsimp only [attribute?] at h
    split at h <;> cases h
  | atom a => cases h
  | list id items => cases h
  | set id items => cases h
  | dict id entries => cases h
  | other type => cases h

theorem present_error (h : v.present? name = .error f) : v.Raises f := by
  unfold present? at h
  split at h
  · split at h
    · cases h
    · rename_i hattribute _
      cases h
      exact attribute_error hattribute
  · exact attribute_error h

theorem present_ok (h : v.present? name = .ok (some w)) : v.attribute? name = .ok (some w) := by
  unfold present? at h
  split at h
  · split at h <;> cases h
  · exact h

/-! ### Entries of a dictionary -/

theorem text_equals (name : String) (k : Value) : ∃ b, equals (.text name) k = .ok b := by
  have hatom : equals (.text name) k = k.atom?.elim (.ok false) (Atom.equals (.text name)) := by
    rw [equals]
    cases k.atom? <;> rfl
  rw [hatom]
  rcases k.atom? with _ | b
  · exact ⟨false, rfl⟩
  · cases b <;> exact ⟨_, rfl⟩

theorem mem_of_findEntry {test : Value → Except Fault Bool} {entries : List (Value × Value)}
    (h : findEntry test entries = .ok (some w)) : ∃ k, (k, w) ∈ entries := by
  induction entries with
  | nil => cases h
  | cons e entries ih =>
    obtain ⟨k, v⟩ := e
    rw [findEntry] at h
    rcases ht : test k with f | _ | _ <;> rw [ht] at h
    · cases h
    · obtain ⟨k', hk'⟩ := ih h
      exact ⟨k', List.mem_cons_of_mem _ hk'⟩
    · cases h
      exact ⟨k, List.mem_cons_self⟩

/-- What is found at a key is there. -/
theorem mem_of_lookupKey {key : Value} {entries : List (Value × Value)} (h : lookup key entries = .ok (some w)) :
    ∃ k, (k, w) ∈ entries := by
  unfold lookup at h
  rcases hkey : checkKey key with f | _ <;> rw [hkey] at h
  · cases h
  · exact mem_of_findEntry h

/-- Looking up a text never fails. -/
theorem lookup_text (name : String) (entries : List (Value × Value)) : ∃ o, lookup (.text name) entries = .ok o := by
  have hlookup : lookup (.text name) entries = findEntry (fun k => equals (.text name) k) entries := rfl
  rw [hlookup]
  induction entries with
  | nil => exact ⟨none, rfl⟩
  | cons e entries ih =>
    obtain ⟨k, v⟩ := e
    obtain ⟨b, hb⟩ := text_equals name k
    rw [findEntry, hb]
    cases b with
    | true => exact ⟨some v, rfl⟩
    | false => exact ih rfl

/-! ### Fields -/

theorem looseField_spec (v : Value) (name : String) :
    (∀ f, v.looseField? name = .error f → v.Raises f) ∧ ∀ w, v.looseField? name = .ok (some w) → v.Offers w := by
  unfold looseField?
  split
  · exact ⟨nofun, nofun⟩
  · rename_i found _
    split
    · rename_i id entries _
      obtain ⟨o, ho⟩ := lookup_text found entries
      refine ⟨fun f hf => ?_, fun w hw => ?_⟩
      · rw [ho] at hf
        cases hf
      · obtain ⟨k, hk⟩ := mem_of_lookupKey hw
        exact Offers.entry hk
    · exact ⟨fun f hf => attribute_error hf, fun w hw => Offers.attribute hw⟩

theorem namedField_spec (v : Value) (name : String) :
    (∀ f, v.namedField? name = .error f → v.Raises f) ∧ ∀ w, v.namedField? name = .ok (some w) → v.Offers w := by
  unfold namedField?
  split
  · rcases hp : v.present? name with g | _ | u
    · refine ⟨fun f hf => ?_, nofun⟩
      cases hf
      exact present_error hp
    · exact looseField_spec v name
    · refine ⟨nofun, fun w hw => ?_⟩
      cases hw
      exact Offers.attribute (present_ok hp)
  · exact looseField_spec v name

theorem mem_of_itemAt {items : List Value} {place : Int} (h : itemAt? items place = some w) : w ∈ items := by
  unfold itemAt? at h
  split at h
  · exact List.mem_of_getElem? h
  · split at h
    · exact List.mem_of_getElem? h
    · cases h

theorem segment_spec (v : Value) (name : String) :
    (∀ f, v.segment? name = .error f → v.ReadFault f) ∧ ∀ w, v.segment? name = .ok (some w) → v.Offers w := by
  have hnamed : (∀ f, v.namedField? name = .error f → v.ReadFault f) ∧
      ∀ w, v.namedField? name = .ok (some w) → v.Offers w :=
    ⟨fun f hf => Or.inl ((namedField_spec v name).1 f hf), (namedField_spec v name).2⟩
  unfold segment?
  split
  · exact ⟨nofun, nofun⟩
  · rename_i id entries
    obtain ⟨o, ho⟩ := lookup_text name entries
    rcases o with _ | u <;> rw [ho]
    · obtain ⟨herror, hok⟩ := looseField_spec (.dict id entries) name
      exact ⟨fun f hf => Or.inl (herror f hf), hok⟩
    · refine ⟨nofun, fun w hw => ?_⟩
      cases hw
      obtain ⟨k, hk⟩ := mem_of_lookupKey ho
      exact Offers.entry hk
  · split
    · rename_i items hitems
      split
      · split
        · refine ⟨nofun, fun w hw => ?_⟩
          exact Offers.item hitems (mem_of_itemAt (Except.ok.inj hw))
        · rename_i n _
          refine ⟨fun f hf => ?_, nofun⟩
          cases hf
          exact Or.inr ⟨n, rfl⟩
      · exact hnamed
    · exact hnamed

theorem field_error {path : String} (h : v.field? path = .error f) : v.ReadFault f := by
  have hfollow : ∀ (names : List String) (v : Value), v.follow? names = .error f → v.ReadFault f := by
    intro names
    induction names with
    | nil => exact nofun
    | cons name names ih =>
      intro v h
      obtain ⟨herror, hok⟩ := segment_spec v name
      rw [follow?] at h
      rcases hs : v.segment? name with g | _ | w <;> rw [hs] at h
      · cases h
        exact herror _ hs
      · cases h
      · rcases ih w h with hw | hn
        · exact Or.inl ((hok w hs).raises hw)
        · exact Or.inr hn
  unfold field? at h
  split at h
  · cases h
  · exact hfollow _ v h

/-- What values hand on to what they offer, the part that a path names has from the value. -/
theorem field_found {P : Value → Prop} (hP : ∀ v w : Value, v.Offers w → P v → P w) (hv : P v) {path : String}
    (h : v.field? path = .ok (some w)) : P w := by
  have hfollow : ∀ (names : List String) (v : Value), P v → v.follow? names = .ok (some w) → P w := by
    intro names
    induction names with
    | nil =>
      intro v hv h
      cases h
      exact hv
    | cons name names ih =>
      intro v hv h
      rw [follow?] at h
      rcases hs : v.segment? name with g | _ | u <;> rw [hs] at h
      · cases h
      · cases h
      · exact ih u (hP v u ((segment_spec v name).2 u hs) hv) h
  unfold field? at h
  split at h
  · cases h
  · exact hfollow _ v hv h

theorem declaredType_error {path : String} (h : v.declaredType? path = .error f) : v.ReadFault f := by
  unfold declaredType? at h
  split at h
  · cases h
  · dsimp only at h
    split at h
    · cases h
    · rcases hf : v.field? (cutLast path).1 with g | _ | w <;> rw [hf] at h <;> cases h
      exact field_error hf

end Value

/-! ### Declarative validations -/

theorem Step.comparisonType_error {flow actual : Value} {property : String} {f : Fault}
    (h : Step.comparisonType flow actual property = .error f) : flow.ReadFault f := by
  unfold Step.comparisonType at h
  rcases ht : flow.declaredType? property with g | _ | type <;> rw [ht] at h <;> cases h
  exact Value.declaredType_error ht

/-- A known operator raises nothing but where the checked value cannot be written. -/
theorem check_error {make : Constructors} {actual : Value} {spelling target : Option String}
    {declared : Option TypeRef} {cs ds : Cursors} {f : Fault} (hs : (Operator.ofSpelling? spelling).isSome = true)
    (h : (check make actual spelling target declared).run cs = (.error f, ds)) : ∃ n, f = .value (.numeral n) := by
  unfold check at h
  split at h
  · rename_i hnone
    rw [hnone] at hs
    cases hs
  · cases h
  · cases h
  · rcases Eval.run_bind_error h with h | ⟨shown, es, -, h⟩
    · rw [Eval.run_ofExcept] at h
      exact ⟨_, Value.display_error (congrArg Prod.fst h)⟩
    · rw [Eval.run_tryCatch] at h
      split at h <;> cases h

theorem Step.judge_error {make : Constructors} {s : Step} {flow : Value} {cs ds : Cursors} {f : Fault}
    (hs : (Operator.ofSpelling? s.operator).isSome = true) (h : (s.judge make flow).run cs = (.error f, ds)) :
    flow.ReadFault f := by
  unfold Step.judge at h
  dsimp only at h
  split at h
  · cases h
  · rcases Eval.run_bind_error h with h | ⟨found, es, -, h⟩
    · rw [Eval.run_ofExcept] at h
      exact Value.field_error (congrArg Prod.fst h)
    · rcases found with _ | actual
      · cases h
      · rcases Eval.run_bind_error h with h | ⟨type, es', -, h⟩
        · rw [Eval.run_ofExcept] at h
          exact comparisonType_error (congrArg Prod.fst h)
        · rcases Eval.run_bind_error h with h | ⟨checked, es'', -, h⟩
          · exact Or.inr (check_error hs h)
          · cases h

end FlowRules
