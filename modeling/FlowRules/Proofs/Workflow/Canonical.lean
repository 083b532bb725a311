import FlowRules.Proofs.Json.RoundTrip
import FlowRules.Workflow.Schema

/-!
# Workflows of canonical documents

Numbers that are no number are written alike, so a document and its canonical form have the same text wherever one is
asked for, and every field is read from them alike.  Main statement: they describe the same workflow, or have the same
problems (`Workflow.ofMembers_canonical`).
-/

namespace FlowRules

namespace Json

/-! ### Texts of values -/

theorem toText_canonicalFloat (x : Binary64) : (canonicalFloat x).toText = x.toText := by
  unfold canonicalFloat
  split
  · next hnan =>
    rw [Binary64.toText, Binary64.toText, Binary64.toChars, Binary64.toChars, if_pos hnan]
    rfl
  · rfl

mutual

/-- A document and its canonical form show alike. -/
theorem display_canonical : (j : Json) → j.canonical.toValue.display = j.toValue.display
  | .null | .bool _ | .int _ | .text _ => rfl
  | .float x => congrArg Except.ok (toText_canonicalFloat x)
  | .array items => by
    rw [canonical, toValue, toValue, Value.display, Value.display, displayList_canonical items]
  | .object members => by
    rw [canonical, toValue, toValue, Value.display, Value.display, displayEntries_canonical members]

theorem displayList_canonical : (items : List Json) →
    Value.displayList (toValues (canonicalItems items)) = Value.displayList (toValues items)
  | [] => rfl
  | j :: items => by
    rw [canonicalItems, toValues, toValues, Value.displayList, Value.displayList, display_canonical j,
      displayList_canonical items]

theorem displayEntries_canonical : (members : List (String × Json)) →
    Value.displayEntries (toEntries (canonicalMembers members)) = Value.displayEntries (toEntries members)
  | [] => rfl
  | (k, j) :: members => by
    rw [canonicalMembers, toEntries, toEntries, Value.displayEntries, Value.displayEntries, display_canonical j,
      displayEntries_canonical members]

end

/-- A document and its canonical form have the same plain text. -/
theorem plainText_canonical (j : Json) : j.canonical.toValue.plainText = j.toValue.plainText := by
  cases j with
  | null | bool | int | text => rfl
  | float x => exact display_canonical (.float x)
  | array items => exact display_canonical (.array items)
  | object members => exact display_canonical (.object members)

theorem canonicalItems_eq_map (items : List Json) : canonicalItems items = items.map canonical := by
  induction items with
  | nil => rfl
  | cons j items ih => rw [canonicalItems, ih, List.map_cons]

/-- The members of the canonical form are found under the same names. -/
theorem lookup_canonicalMembers (members : List (String × Json)) (key : String) :
    (canonicalMembers members).lookup key = (members.lookup key).map canonical := by
  induction members with
  | nil => rfl
  | cons m members ih =>
    rw [canonicalMembers, List.lookup_cons, List.lookup_cons, ih]
    split <;> rfl

end Json

namespace Schema

open Json

variable {α : Type} {members : List (String × Json)}

/-! ### Fields -/

theorem firstMember?_canonical (keys : List String) :
    firstMember? (canonicalMembers members) keys = (firstMember? members keys).map fun m => (m.1, m.2.canonical) := by
  induction keys with
  | nil => rfl
  | cons key keys ih =>
    rw [firstMember?, firstMember?, lookup_canonicalMembers, ih]
    cases members.lookup key <;> rfl

/-- A field is read alike where its values are. -/
theorem readField_canonical {read : Json → Reading α} (hread : ∀ j, read j.canonical = read j) (names : List String)
    (missing : α) : readField (canonicalMembers members) names missing read = readField members names missing read := by
  rw [readField, readField, firstMember?_canonical]
  rcases firstMember? members names with _ | ⟨key, j⟩
  · rfl
  · simp only [Option.map_some, hread]

theorem single_canonical {read : Json → Except String α} (hread : ∀ j, read j.canonical = read j) (standIn : α)
    (j : Json) : single standIn read j.canonical = single standIn read j := by
  rw [single, single, hread]

theorem optionalText_canonical (j : Json) :
    standard.optional standard.text j.canonical = standard.optional standard.text j := by
  cases j <;> rfl

theorem nameText_canonical (j : Json) : standard.text (blankIfNull j.canonical) = standard.text (blankIfNull j) := by
  cases j <;> rfl

theorem kind_canonical (j : Json) : standard.kind j.canonical = standard.kind j := by cases j <;> rfl

theorem mode_canonical (j : Json) : standard.mode j.canonical = standard.mode j := by cases j <;> rfl

/-- Lists of values are compared by the texts of their items. -/
theorem targetValue_canonical (j : Json) : standard.targetValue j.canonical = standard.targetValue j := by
  cases j with
  | null | bool | int | text | object => rfl
  | float x =>
    have hx : stringified (Json.float x).canonical = stringified (.float x) :=
      congrArg (Except.map Json.text) (plainText_canonical (.float x))
    rw [Library.targetValue, Library.targetValue, hx]
  | array items =>
    have hitems : ((canonicalItems items).mapM fun j => j.toValue.plainText) =
        items.mapM fun j => j.toValue.plainText := by
      rw [canonicalItems_eq_map, List.mapM_map]
      exact congrArg (items.mapM ·) (funext plainText_canonical)
    rw [canonical, Library.targetValue, Library.targetValue, stringified, stringified, hitems]

/-! ### Steps -/

theorem step_canonical (j : Json) : standard.step j.canonical = standard.step j := by
  cases j with
  | null | bool | int | text | float | array => rfl
  | object members =>
    have hfields : standard.stepFields (canonicalMembers members) = standard.stepFields members := by
      have hfield {α : Type} {read : Json → Except String α} (hread : ∀ j, read j.canonical = read j)
          (names : List String) (missing standIn : α) :
          standard.field (canonicalMembers members) names missing (single standIn read) =
            standard.field members names missing (single standIn read) :=
        readField_canonical (single_canonical hread standIn) names missing
      unfold Library.stepFields
      simp only [hfield optionalText_canonical, hfield kind_canonical, hfield mode_canonical,
        hfield targetValue_canonical]
    exact congrArg (checkReading missing?) hfields

theorem readItemsFrom_canonical (n : Nat) (items : List Json) :
    readItemsFrom standard.step n (canonicalItems items) = readItemsFrom standard.step n items := by
  induction items generalizing n with
  | nil => rfl
  | cons j items ih => rw [canonicalItems, readItemsFrom, readItemsFrom, step_canonical, ih]

theorem items_canonical (j : Json) :
    standard.items standard.step (emptyIfNull j.canonical) = standard.items standard.step (emptyIfNull j) := by
  cases j with
  | array items => exact readItemsFrom_canonical 0 items
  | _ => rfl

end Schema

/-- The canonical form of a document describes the same workflow. -/
theorem Workflow.ofMembers_canonical (members : List (String × Json)) :
    ofMembers (Json.canonicalMembers members) = ofMembers members := by
  have hname : Schema.standard.nameOf (Json.canonicalMembers members) = Schema.standard.nameOf members :=
    Schema.readField_canonical (Schema.single_canonical Schema.nameText_canonical "") _ _
  have hsteps : Schema.standard.stepsOf (Json.canonicalMembers members) = Schema.standard.stepsOf members :=
    Schema.readField_canonical Schema.items_canonical _ _
  rw [ofMembers, ofMembers, Schema.Library.workflow, Schema.Library.workflow, hname, hsteps]

end FlowRules
