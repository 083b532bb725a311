import FlowRules.Workflow.Definition

/-!
# Laws of libraries for data models

What is relied on of a library for data models is its documented behaviour alone: how fields, lists and models are read
from JSON, and how problems are reported.  Main statement: the library that is used behaves so
(`Schema.standard_lawful`).
-/

namespace FlowRules.Schema

variable {α : Type}

/-- The documented behaviour of a library for data models. -/
structure Library.Lawful (lib : Library) : Prop where
  /-- A field that is missing has its default. -/
  field_missing : ∀ {α : Type} {members : List (String × Json)} {names : List String} (missing : α)
    (read : Json → Reading α), firstMember? members names = none → lib.field members names missing read = ⟨missing, []⟩
  /-- A field is read under the first of its names that is there. -/
  field_valid : ∀ {α : Type} {members : List (String × Json)} {names : List String} {key : String} {j : Json}
    (missing : α) {read : Json → Reading α}, firstMember? members names = some (key, j) → (read j).problems = [] →
      lib.field members names missing read = ⟨(read j).value, []⟩
  /-- Problems with the value of a field are placed under its name. -/
  field_invalid : ∀ {α : Type} {members : List (String × Json)} {names : List String} {key : String} {j : Json}
    (missing : α) {read : Json → Reading α}, firstMember? members names = some (key, j) → (read j).problems ≠ [] →
      (lib.field members names missing read).problems = under [key] (read j).problems
  /-- A list of valid items is read item by item. -/
  items_valid : ∀ {α : Type} {item : Json → Reading α} {js : List Json}, (∀ j ∈ js, (item j).problems = []) →
    lib.items item (.array js) = ⟨js.map fun j => (item j).value, []⟩
  /-- Each item that is not valid is reported, at its number. -/
  items_report : ∀ {α : Type} {item : Json → Reading α} {js : List Json} {i : Nat} {j : Json}, js[i]? = some j →
    (item j).problems ≠ [] → ∃ p ∈ (lib.items item (.array js)).problems, ∃ inside, p.place = toString i :: inside
  /-- Nothing else is reported of a list. -/
  items_reported : ∀ {α : Type} {item : Json → Reading α} {js : List Json} {p : SchemaProblem},
    p ∈ (lib.items item (.array js)).problems →
      ∃ (i : Nat) (j : Json) (inside : List String),
        js[i]? = some j ∧ (item j).problems ≠ [] ∧ p.place = toString i :: inside
  /-- A list is read from an array only. -/
  items_other : ∀ {α : Type} (item : Json → Reading α) {j : Json}, (∀ js, j ≠ .array js) →
    (lib.items item j).problems ≠ []
  /-- A model is read from the members of an object. -/
  model_members : ∀ {α : Type} (name : String) (standIn : α) (read : List (String × Json) → Reading α)
    (members : List (String × Json)), lib.model name standIn read (.object members) = read members
  /-- A model is read from an object only. -/
  model_other : ∀ {α : Type} (name : String) (standIn : α) (read : List (String × Json) → Reading α) {j : Json},
    (∀ members, j ≠ .object members) → (lib.model name standIn read j).problems ≠ []
  /-- What has passed a check has no problems, and the check finds none. -/
  checked_valid : ∀ {α : Type} {check : α → Option String} {read : Reading α}, (lib.checked check read).problems = [] →
    read.problems = [] ∧ check read.value = none ∧ (lib.checked check read).value = read.value
  /-- The problems of all fields are reported. -/
  mem_together : ∀ {problems : List (List SchemaProblem)} {p : SchemaProblem},
    p ∈ lib.together problems ↔ ∃ part ∈ problems, p ∈ part

namespace Library.Lawful

variable {lib : Library} (h : lib.Lawful)

include h

/-- A list is valid exactly when its items are. -/
theorem items_problems_eq_nil {item : Json → Reading α} {js : List Json} :
    (lib.items item (.array js)).problems = [] ↔ ∀ j ∈ js, (item j).problems = [] := by
  constructor
  · intro hnil j hj
    refine Decidable.byContradiction fun hproblems => ?_
    obtain ⟨i, hi⟩ := List.mem_iff_getElem?.1 hj
    obtain ⟨p, hp, -⟩ := h.items_report hi hproblems
    rw [hnil] at hp
    cases hp
  · intro hall
    rw [h.items_valid hall]

theorem together_eq_nil {problems : List (List SchemaProblem)} :
    lib.together problems = [] ↔ ∀ part ∈ problems, part = [] := by
  simp only [List.eq_nil_iff_forall_not_mem, h.mem_together, not_exists, not_and]
  exact ⟨fun hnone part hpart p hp => hnone p part hpart hp, fun hnone p part hpart hp => hnone part hpart p hp⟩

end Library.Lawful

/-! ### The library that is used -/

theorem readItemsFrom_value (item : Json → Reading α) (n : Nat) (js : List Json) :
    (readItemsFrom item n js).value = js.map fun j => (item j).value := by
  induction js generalizing n with
  | nil => rfl
  | cons j js ih => rw [readItemsFrom, List.map_cons, ih]

/-- The problems of a list are those of each item, under its number. -/
theorem readItemsFrom_problems (item : Json → Reading α) (n : Nat) (js : List Json) :
    (readItemsFrom item n js).problems = (js.zipIdx n).flatMap fun (j, i) => under [toString i] (item j).problems := by
  induction js generalizing n with
  | nil => rfl
  | cons j js ih => rw [readItemsFrom, List.zipIdx_cons, List.flatMap_cons, ih]

theorem mem_readItems {item : Json → Reading α} {js : List Json} {p : SchemaProblem} :
    p ∈ (readItems item (.array js)).problems ↔
      ∃ (i : Nat) (j : Json), js[i]? = some j ∧ ∃ q ∈ (item j).problems, p = ⟨toString i :: q.place, q.text⟩ := by
  rw [readItems, readItemsFrom_problems]
  constructor
  · intro hp
    obtain ⟨⟨j, i⟩, hj, hp⟩ := List.mem_flatMap.1 hp
    obtain ⟨q, hq, rfl⟩ := List.mem_map.1 hp
    exact ⟨i, j, List.mem_zipIdx_iff_getElem?.1 hj, q, hq, rfl⟩
  · rintro ⟨i, j, hj, q, hq, rfl⟩
    exact List.mem_flatMap.2 ⟨(j, i), List.mem_zipIdx_iff_getElem?.2 hj, List.mem_map.2 ⟨q, hq, rfl⟩⟩

theorem standard_lawful : standard.Lawful where
  field_missing {α members names} missing read hfirst := by
    show readField members names missing read = _
    rw [readField, hfirst]
  field_valid {α members names key j} missing {read} hfirst hvalid := by
    show readField members names missing read = _
    rw [readField, hfirst]
    dsimp only
    rw [hvalid]
    rfl
  field_invalid {α members names key j} missing {read} hfirst _ := by
    show (readField members names missing read).problems = _
    rw [readField, hfirst]
  items_valid {α item js} hall := by
    have hproblems : (readItems item (.array js)).problems = [] := by
      refine List.eq_nil_iff_forall_not_mem.2 fun p hp => ?_
      obtain ⟨i, j, hj, q, hq, -⟩ := mem_readItems.1 hp
      rw [hall j (List.mem_of_getElem? hj)] at hq
      cases hq
    have hvalue := readItemsFrom_value item 0 js
    show readItems item (.array js) = _
    rw [← hvalue, ← hproblems]
    rfl
  items_report {α item js i j} hj hproblems := by
    obtain ⟨q, hq⟩ := List.exists_mem_of_ne_nil _ hproblems
    exact ⟨_, mem_readItems.2 ⟨i, j, hj, q, hq, rfl⟩, q.place, rfl⟩
  items_reported hp := by
    obtain ⟨i, j, hj, q, hq, rfl⟩ := mem_readItems.1 hp
    exact ⟨i, j, q.place, hj, List.ne_nil_of_mem hq, rfl⟩
  items_other {α} item {j} hj := by
    show (readItems item j).problems ≠ []
    cases j with
    | array js => exact absurd rfl (hj js)
    | _ => exact List.cons_ne_nil _ _
  model_members _ _ _ _ := rfl
  model_other {α} name standIn read {j} hj := by
    show (readModel name standIn read j).problems ≠ []
    cases j with
    | object members => exact absurd rfl (hj members)
    | _ => exact List.cons_ne_nil _ _
  checked_valid {α check read} hvalid := by
    have hvalid : (checkReading check read).problems = [] := hvalid
    show _ ∧ _ ∧ (checkReading check read).value = read.value
    unfold checkReading at hvalid ⊢
    split at hvalid
    · cases hvalid
    · next hno =>
      exact ⟨hvalid, Option.eq_none_iff_forall_ne_some.2 fun text => hno text hvalid, rfl⟩
  mem_together := List.mem_flatten

end FlowRules.Schema
