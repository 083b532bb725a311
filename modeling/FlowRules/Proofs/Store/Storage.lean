import FlowRules.Proofs.Workflow.Canonical
import FlowRules.Proofs.Workflow.Steps
import FlowRules.Store.Basic

/-!
# Definitions kept as texts

A definition that is given as a dictionary is kept as the text of a document.  Main statement: what is found under its
name again defines the workflow that the dictionary describes, and is refused with what is wrong with the dictionary if
it describes none (`MemoryStore.kept_definition`).
-/

namespace FlowRules

/-! ### Values that stand for documents -/

namespace Json

mutual

/-- A value stands for a document: nulls, truth values, numbers and texts for themselves, lists for arrays, and
dictionaries with texts for keys for objects. -/
def Stands : Json → Value → Prop
  | .null, v => v = .null
  | .bool b, v => v = .bool b
  | .int n, v => v = .int n
  | .float x, v => v = .float x
  | .text s, v => v = .text s
  | .array items, v => ∃ id vs, v = .list id vs ∧ StandAll items vs
  | .object members, v => ∃ id es, v = .dict id es ∧ StandUnder members es
termination_by structural j => j

def StandAll : List Json → List Value → Prop
  | [], vs => vs = []
  | j :: js, vs => ∃ w ws, vs = w :: ws ∧ Stands j w ∧ StandAll js ws
termination_by structural js => js

def StandUnder : List (String × Json) → List (Value × Value) → Prop
  | [], es => es = []
  | (k, j) :: ms, es => ∃ w ws, es = (.text k, w) :: ws ∧ Stands j w ∧ StandUnder ms ws
termination_by structural ms => ms

end

mutual

/-- The document of a value is the one that it stands for. -/
theorem toJson_of_stands : (j : Json) → {v : Value} → j.Stands v → v.toJson = .ok j
  | .null, _, rfl | .bool _, _, rfl | .int _, _, rfl | .float _, _, rfl | .text _, _, rfl => rfl
  | .array items, _, ⟨_, vs, rfl, hvs⟩ => by
    rw [Value.toJson, toJsonList_of_stands items hvs]
    rfl
  | .object members, _, ⟨_, es, rfl, hes⟩ => by
    rw [Value.toJson, toJsonMembers_of_stands members hes]
    rfl

theorem toJsonList_of_stands : (items : List Json) → {vs : List Value} → StandAll items vs →
    Value.toJsonList vs = .ok items
  | [], _, rfl => rfl
  | j :: items, _, ⟨w, ws, rfl, hw, hws⟩ => by
    rw [Value.toJsonList, toJson_of_stands j hw, toJsonList_of_stands items hws]
    rfl

theorem toJsonMembers_of_stands : (members : List (String × Json)) → {es : List (Value × Value)} →
    StandUnder members es → Value.toJsonMembers es = .ok members
  | [], _, rfl => rfl
  | (k, j) :: members, _, ⟨w, ws, rfl, hw, hws⟩ => by
    rw [Value.toJsonMembers, toJson_of_stands j hw, toJsonMembers_of_stands members hws]
    rfl

end

end Json

/-- A document that fits and describes a workflow is written as a text that defines the workflow. -/
theorem Definition.exists_text {members : List (String × Json)} {c : Workflow}
    (hfits : (Json.object members).Fits Json.maxDepth) (h : Workflow.ofMembers members = .ok c) :
    ∃ text, Json.write (.object members) = .ok text ∧ Definition.read text = .ok (some c) := by
  obtain ⟨text, hwrite, hread⟩ := Json.read_write hfits
  obtain ⟨_, hdefinition⟩ := Definition.readBy_object Schema.standard hread
  rw [← Workflow.ofMembers, Workflow.ofMembers_canonical, h] at hdefinition
  exact ⟨text, hwrite, hdefinition⟩

/-! ### Keeping and finding -/

theorem lookup_setEntry_self {α : Type} (key : String) (v : α) (entries : List (String × α)) :
    (setEntry key v entries).lookup key = some v := by
  induction entries with
  | nil => simp [setEntry]
  | cons e entries ih =>
    obtain ⟨k, w⟩ := e
    rw [setEntry]
    split
    · next hk => rw [hk, List.lookup_cons_self]
    · next hk => rw [List.lookup_cons, beq_false_of_ne (Ne.symm hk), ih]

namespace MemoryStore

variable {members : List (String × Json)} {v : Value}

/-- The text that is kept for a dictionary is read as its document. -/
theorem definitionText_read (hv : (Json.object members).Stands v) (hfits : (Json.object members).Fits Json.maxDepth) :
    ∃ text, definitionText v = .ok text ∧ Json.read text = .ok (.object (Json.canonicalMembers members)) := by
  obtain ⟨text, hwrite, hread⟩ := Json.read_write hfits
  refine ⟨text, ?_, hread⟩
  have hdocument := Json.toJson_of_stands _ hv
  obtain ⟨id, es, rfl, -⟩ := hv
  simp only [definitionText, Value.atom?, hdocument, bind, Except.bind, hwrite]

/-- A definition that is given as a dictionary is found as a text that defines what the dictionary describes. -/
theorem kept_definition (hv : (Json.object members).Stands v) (hfits : (Json.object members).Fits Json.maxDepth)
    (store : MemoryStore) (name : String) :
    ∃ kept text, store.add name v = .ok kept ∧ kept.repository.find name = .ok (some text) ∧
      (∀ w, Definition.read text = .ok (some w) ↔ Workflow.ofMembers members = .ok w) ∧
      ∀ problems, Workflow.ofMembers members = .error problems →
        ∃ shown, Definition.read text = .error (.workflowDefinition (.invalid shown problems)) := by
  obtain ⟨text, htext, hread⟩ := definitionText_read hv hfits
  obtain ⟨shown, hdefinition⟩ := Definition.readBy_object Schema.standard hread
  rw [← Definition.read, ← Workflow.ofMembers, Workflow.ofMembers_canonical] at hdefinition
  refine ⟨setEntry name text store, text, ?_, congrArg Except.ok (lookup_setEntry_self name text store), ?_, ?_⟩
  · rw [add, htext]
    rfl
  · intro w
    rw [hdefinition]
    rcases Workflow.ofMembers members with problems | w' <;> simp
  · intro problems hproblems
    rw [hproblems] at hdefinition
    exact ⟨shown, hdefinition⟩

/-- A step with a number for its target, in a workflow with a name outside of the basic alphabet. -/
theorem kept_definition_step :
    ∃ kept text,
      add [] "sizes" (.dict (some 0) [(.text "workflowName", .text "Größe 😀"), (.text "rules", .list (some 1)
        [.dict (some 2) [(.text "name", .text "check"), (.text "targetValue", .float (.ofDecimal false 25 (-1)))]])]) =
          .ok kept ∧
      kept.repository.find "sizes" = .ok (some text) ∧
      Definition.read text =
        .ok (some ⟨"Größe 😀", [{ name := some "check", targetValue := some "2.5" }]⟩) := by
  have hv : Json.Stands
      (.object [("workflowName", .text "Größe 😀"),
        ("rules", .array [.object [("name", .text "check"), ("targetValue", .float (.ofDecimal false 25 (-1)))]])])
      (.dict (some 0) [(.text "workflowName", .text "Größe 😀"), (.text "rules", .list (some 1)
        [.dict (some 2) [(.text "name", .text "check"), (.text "targetValue", .float (.ofDecimal false 25 (-1)))]])]) :=
    ⟨_, _, rfl, _, _, rfl, rfl, _, _, rfl,
      ⟨_, _, rfl, _, _, rfl, ⟨_, _, rfl, _, _, rfl, rfl, _, _, rfl, rfl, rfl⟩, rfl⟩, rfl⟩
  have hfits : Json.Fits Json.maxDepth
      (.object [("workflowName", .text "Größe 😀"),
        ("rules", .array [.object [("name", .text "check"), ("targetValue", .float (.ofDecimal false 25 (-1)))]])]) := by
    refine .object (by decide) (List.forall_mem_cons.2 ⟨.text _, List.forall_mem_singleton.2 ?_⟩)
    refine .array (List.forall_mem_singleton.2 (.object (by decide) ?_))
    exact List.forall_mem_cons.2 ⟨.text _, List.forall_mem_singleton.2 (.float _)⟩
  obtain ⟨kept, text, hadd, hfind, hread, -⟩ := kept_definition hv hfits [] "sizes"
  exact ⟨kept, text, hadd, hfind, (hread _).2 (by decide +kernel)⟩

end MemoryStore
end FlowRules
