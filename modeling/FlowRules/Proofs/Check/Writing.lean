import FlowRules.Proofs.Entries
import FlowRules.Value.Display

/-!
# Values that cannot be written

A value is written unless an integer with more digits than are written is shown in it.  Main statement: `display` fails
for exactly the oversized values, and always for this reason (`Value.display_writes`).
-/

namespace FlowRules

/-- The fault of writing an integer with too many digits. -/
def Fault.tooLong : Fault := .value (.numeral .tooLongToWrite)

namespace Value

/-- The values that are written as parts of a value: an object of a plain class shows none of its fields. -/
def shownParts : Value → List Value
  | .member _ _ a => [.atom a]
  | .tuple _ _ items => items
  | .list _ items => items
  | .set _ items => items
  | .dict _ entries => entries.flatMap fun e => [e.1, e.2]
  | .object _ c fields _ _ => if c.shape = .plain then [] else c.declared.filterMap fun f => fields.lookup f.1
  | _ => []

/-- An integer with more digits than are written is shown in a value. -/
inductive Oversized : Value → Prop
  | int {n : Int} (h : Numeral.maxDigits < Decimal.digitCount n.natAbs) : Oversized (.int n)
  | part {v w : Value} (h : w ∈ v.shownParts) (hw : Oversized w) : Oversized v

variable {v w : Value} {α β : Type} {P Q : Prop} {r : Except Fault α}

theorem oversized_int {n : Int} : (Value.int n).Oversized ↔ Numeral.maxDigits < Decimal.digitCount n.natAbs := by
  constructor
  · rintro (h | ⟨h, -⟩)
    · exact h
    · cases h
  · exact .int

/-- What is no integer is oversized in its parts. -/
theorem oversized_iff (hv : ∀ n, v ≠ .int n) : v.Oversized ↔ ∃ w ∈ v.shownParts, w.Oversized := by
  constructor
  · rintro (h | ⟨h, hw⟩)
    · exact absurd rfl (hv _)
    · exact ⟨_, h, hw⟩
  · rintro ⟨w, h, hw⟩
    exact .part h hw

theorem not_oversized_atom {a : Atom} (ha : ∀ n, a ≠ .int n) : ¬(Value.atom a).Oversized := by
  have hv : ∀ n, Value.atom a ≠ .int n := fun n h => ha n (Value.atom.inj h)
  rw [oversized_iff hv]
  rintro ⟨w, hw, -⟩
  cases hw

/-! ### Writing parts -/

/-- Something is written unless what it shows is oversized. -/
def Writes (P : Prop) : Except Fault α → Prop
  | .ok _ => ¬P
  | .error f => P ∧ f = .tooLong

theorem Writes.congr (h : Writes P r) (hPQ : P ↔ Q) : Writes Q r := by
  rcases r with f | a
  · exact ⟨hPQ.1 h.1, h.2⟩
  · exact fun hQ => h (hPQ.2 hQ)

theorem Writes.ok {a : α} (hP : ¬P) : Writes P (Except.ok a : Except Fault α) := hP

/-- One part after the other. -/
theorem Writes.bind {k : α → Except Fault β} (h : Writes P r) (hk : ∀ a, Writes Q (k a)) :
    Writes (P ∨ Q) (r >>= k) := by
  rcases r with f | a
  · exact ⟨.inl h.1, h.2⟩
  · show Writes (P ∨ Q) (k a)
    exact (hk a).congr ⟨.inr, fun hor => hor.resolve_left h⟩

/-- What is written is only put between other characters. -/
theorem Writes.map (g : α → β) (h : Writes P r) : Writes P (r >>= fun a => .ok (g a)) :=
  (h.bind fun _ => Writes.ok (P := False) id).congr ⟨fun hor => hor.resolve_right id, .inl⟩

/-- What is no integer is written unless one of its parts is oversized. -/
theorem Writes.parts (h : Writes (∃ w ∈ v.shownParts, w.Oversized) r) (hv : ∀ n, v ≠ .int n) : Writes v.Oversized r :=
  h.congr (oversized_iff hv).symm

theorem writeInt_writes (n : Int) : Writes (Value.int n).Oversized (writeInt n) := by
  rw [writeInt, Numeral.write]
  by_cases hlong : Numeral.maxDigits < Decimal.digitCount n.natAbs
  · rw [if_pos hlong]
    exact ⟨.int hlong, rfl⟩
  · rw [if_neg hlong]
    exact fun h => hlong (oversized_int.1 h)

theorem atom_writes (a : Atom) : Writes (Value.atom a).Oversized a.display := by
  cases a with
  | int n => exact writeInt_writes n
  | _ => exact not_oversized_atom nofun

theorem lookup_displayFields (fields : List (String × Value)) (name : String) :
    (displayFields fields).lookup name = (fields.lookup name).map display := by
  induction fields with
  | nil => rfl
  | cons f fields ih =>
    obtain ⟨k, v⟩ := f
    rw [displayFields, List.lookup_cons, List.lookup_cons, ih]
    cases name == k <;> rfl

/-- Declared fields are written unless one of them is oversized. -/
theorem shownFields_writes {fields : List (String × Value)} (h : ∀ f ∈ fields, Writes f.2.Oversized f.2.display)
    (declared : List (String × Annotation)) :
    Writes (∃ w ∈ declared.filterMap (fun f => fields.lookup f.1), w.Oversized)
      (shownFields (displayFields fields) declared) := by
  induction declared with
  | nil => exact Writes.ok (by simp)
  | cons d declared ih =>
    rw [shownFields, lookup_displayFields]
    rcases hd : fields.lookup d.1 with _ | v
    · simp only [List.filterMap_cons, hd]
      exact ih
    · have hv : Writes v.Oversized v.display := h (d.1, v) (mem_of_lookup hd)
      simp only [List.filterMap_cons, hd]
      exact (hv.bind fun s => ih.map _).congr (by simp)

theorem exists_mem_entries {entries : List (Value × Value)} :
    (∃ e ∈ entries, e.1.Oversized ∨ e.2.Oversized) ↔
      ∃ w ∈ entries.flatMap (fun e => [e.1, e.2]), w.Oversized := by
  constructor
  · rintro ⟨e, he, h | h⟩
    · exact ⟨e.1, List.mem_flatMap.2 ⟨e, he, List.mem_cons_self⟩, h⟩
    · exact ⟨e.2, List.mem_flatMap.2 ⟨e, he, List.mem_cons_of_mem _ List.mem_cons_self⟩, h⟩
  · rintro ⟨w, hw, h⟩
    obtain ⟨e, he, hw⟩ := List.mem_flatMap.1 hw
    simp only [List.mem_cons, List.not_mem_nil, or_false] at hw
    rcases hw with rfl | rfl
    · exact ⟨e, he, .inl h⟩
    · exact ⟨e, he, .inr h⟩

/-! ### Writing values -/

mutual

theorem display_writes (v : Value) : Writes v.Oversized v.display := by
  -- the recursion follows `display`; what is shown of each kind of value is in `shownParts`
  cases v with
  | atom a => exact atom_writes a
  | member e name a =>
    refine Writes.parts ?_ nofun
    rw [display]
    exact ((atom_writes a).map _).congr (by simp [shownParts])
  | tuple id label items =>
    refine Writes.parts ?_ nofun
    cases label <;> rw [display] <;> exact (displayList_writes items).map _
  | list id items =>
    refine Writes.parts ?_ nofun
    rw [display]
    exact (displayList_writes items).map _
  | set id items =>
    refine Writes.parts ?_ nofun
    rw [display]
    exact (displayList_writes items).map _
  | dict id entries =>
    refine Writes.parts ?_ nofun
    rw [display]
    exact ((displayEntries_writes entries).map _).congr exists_mem_entries
  | object id c fields offers failing =>
    have hfields := shownFields_writes (displayFields_writes fields) c.declared
    refine Writes.parts ?_ nofun
    rw [display]
    split
    · next hplain => exact Writes.ok (by simp [shownParts, hplain])
    · next hshape =>
      rw [shownParts, if_neg hshape]
      exact hfields.map _
  | source id items => exact Writes.parts (Writes.ok (by simp [shownParts])) nofun
  | other type => exact Writes.parts (Writes.ok (by simp [shownParts])) nofun
termination_by structural v

theorem displayList_writes (vs : List Value) : Writes (∃ v ∈ vs, v.Oversized) (displayList vs) := by
  cases vs with
  | nil => exact Writes.ok (by simp)
  | cons v vs =>
    rw [displayList]
    exact ((display_writes v).bind fun s => (displayList_writes vs).map _).congr (by simp)
termination_by structural vs

theorem displayEntries_writes (es : List (Value × Value)) :
    Writes (∃ e ∈ es, e.1.Oversized ∨ e.2.Oversized) (displayEntries es) := by
  rcases es with _ | ⟨⟨k, v⟩, es⟩
  · exact Writes.ok (by simp)
  · rw [displayEntries]
    exact ((display_writes k).bind fun ks => (display_writes v).bind fun s => (displayEntries_writes es).map _).congr
      (by simp [or_assoc])
termination_by structural es

theorem displayFields_writes (fs : List (String × Value)) : ∀ f ∈ fs, Writes f.2.Oversized f.2.display := by
  rcases fs with _ | ⟨⟨k, v⟩, fs⟩
  · exact nofun
  · exact List.forall_mem_cons.2 ⟨display_writes v, displayFields_writes fs⟩
termination_by structural fs

end

theorem display_ok (h : ¬v.Oversized) : ∃ s, v.display = .ok s := by
  have hwrites := display_writes v
  rcases hs : v.display with f | s
  · rw [hs] at hwrites
    exact absurd hwrites.1 h
  · exact ⟨s, rfl⟩

theorem display_oversized (h : v.Oversized) : v.display = .error .tooLong := by
  have hwrites := display_writes v
  rcases hs : v.display with f | s
  · rw [hs] at hwrites
    rw [hwrites.2]
  · rw [hs] at hwrites
    exact absurd h hwrites

/-- A value that cannot be written has an integer that is too long. -/
theorem display_error {f : Fault} (h : v.display = .error f) : f = .tooLong := by
  have hwrites := display_writes v
  rw [h] at hwrites
  exact hwrites.2

end Value
end FlowRules
