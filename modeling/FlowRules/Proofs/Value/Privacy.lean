import FlowRules.Proofs.Text.SmallForms
import FlowRules.Proofs.Value.Declaration

/-!
# Private attributes

Attributes whose names begin with an underscore are private, and what a path names in an object does not depend on them.
Main statement: objects of one class that differ in private attributes alone have the same at a path, unless the class
declares a private field whose name is the first segment of the path but for letter case.  Such a field is found as every
other field that is declared, and any other private name finds nothing (`Value.private_hidden_iff`).
-/

namespace FlowRules

namespace Text

variable {c : Char} {cs : List Char}

theorem lowerChar_ne_nil (c : Char) : lowerChar c ≠ [] := by
  by_cases hc : c.toNat < 128
  · rw [lowerChar, if_pos hc]
    split <;> exact List.cons_ne_nil _ _
  · rw [lowerChar_of_large hc]
    split
    · exact List.cons_ne_nil _ _
    · rw [lookup_lowerSpecials]
      split
      · next h =>
        split at h
        · cases h
          exact List.cons_ne_nil _ _
        · cases h
      · exact List.cons_ne_nil _ _

/-- A small form begins with an underscore exactly if the text does. -/
theorem head_lowerChars : (lowerChars cs).head? = some '_' ↔ cs.head? = some '_' := by
  rcases cs with _ | ⟨c, cs⟩
  · rfl
  rw [lowerChars, lowerFrom, List.head?_cons, Option.some_inj]
  by_cases hc : c = 'Σ'
  · have hne : 'ς' ≠ '_' ∧ 'σ' ≠ '_' ∧ 'Σ' ≠ '_' := by decide
    rw [hc, if_pos rfl]
    split
    · exact iff_of_false (fun h => hne.1 (Option.some.inj h)) hne.2.2
    · exact iff_of_false (fun h => hne.2.1 (Option.some.inj h)) hne.2.2
  · obtain ⟨d, ds, hlower⟩ := List.exists_cons_of_ne_nil (lowerChar_ne_nil c)
    rw [if_neg hc, hlower, List.cons_append, List.head?_cons, Option.some_inj]
    constructor
    · rintro rfl
      exact ((isSmall_of_mem_lowerChar hc (hlower ▸ List.mem_cons_self)).2 rfl).symm
    · rintro rfl
      have hunderscore : lowerChar '_' = ['_'] := by decide
      rw [hunderscore] at hlower
      cases hlower
      rfl

end Text

/-! ### Public parts -/

/-- A name that begins with an underscore. -/
def isPrivate (name : String) : Bool := Text.startsWith name "_"

section

variable {α : Type} {entries : List (String × α)} {name other : String}

theorem isPrivate_iff : isPrivate name = true ↔ name.toList.head? = some '_' := by
  have hunderscore : "_".toList = ['_'] := rfl
  rw [isPrivate, Text.startsWith, hunderscore]
  rcases name.toList with _ | ⟨c, cs⟩
  · exact iff_of_false (by decide) nofun
  · rw [List.isPrefixOf_cons_cons, List.isPrefixOf_nil_left, Bool.and_true, beq_iff_eq, List.head?_cons, Option.some_inj,
      eq_comm]

/-- Letter case does not make a name private. -/
theorem isPrivate_of_sameName (h : Value.sameName name other = true) : isPrivate name = isPrivate other := by
  have hlower : Text.lowerChars name.toList = Text.lowerChars other.toList := String.ofList_injective (eq_of_beq h)
  rw [Bool.eq_iff_iff, isPrivate_iff, isPrivate_iff, ← Text.head_lowerChars, hlower, Text.head_lowerChars]

/-- The entries whose names are not private. -/
def publicPart (entries : List (String × α)) : List (String × α) := entries.filter fun e => !isPrivate e.1

theorem names_publicPart (entries : List (String × α)) :
    (publicPart entries).map (·.1) = (entries.map (·.1)).filter fun n => !isPrivate n := by
  rw [List.filter_map]
  rfl

theorem lookup_publicPart (entries : List (String × α)) (h : isPrivate name = false) :
    (publicPart entries).lookup name = entries.lookup name := by
  induction entries with
  | nil => rfl
  | cons e entries ih =>
    by_cases he : isPrivate e.1 = true
    · have hne : (name == e.1) = false := by
        refine beq_false_of_ne ?_
        rintro rfl
        rw [h] at he
        cases he
      rw [publicPart, List.filter_cons_of_neg (by simp [he]), List.lookup_cons, hne]
      exact ih
    · rw [publicPart, List.filter_cons_of_pos (by simpa using he), List.lookup_cons, List.lookup_cons]
      rw [publicPart] at ih
      rw [ih]

/-- Entries under names that are not private are found in the public part. -/
theorem lookup_congr {entries' : List (String × α)} (h : publicPart entries' = publicPart entries)
    (hname : isPrivate name = false) : entries'.lookup name = entries.lookup name := by
  rw [← lookup_publicPart entries' hname, h, lookup_publicPart entries hname]

theorem lookup_publicPart_private (h : isPrivate name = true) : (publicPart entries).lookup name = none := by
  refine List.lookup_eq_none_iff.2 fun e he => bne_iff_ne.2 ?_
  rintro rfl
  have hpublic := (List.mem_filter.1 he).2
  rw [h] at hpublic
  cases hpublic

end

namespace Value

variable {v w : Value} {name path : String} {c : ClassInfo} {id id' : Identity}
  {fields offers fields' offers' : List (String × Value)} {failing failing' : List (String × Fault)}

/-- What is left of an object without its private attributes, and without what tells it from an equal one; other values
have no private attributes. -/
def publicView : Value → Value
  | .object _ c fields offers failing => .object none c (publicPart fields) (publicPart offers) (publicPart failing)
  | v => v

/-- The class of an object declares a private field that a name stands for.  Objects of plain classes have no declared
fields. -/
def Exposes (v : Value) (name : String) : Prop :=
  match v with
  | .object _ c _ _ _ => c.shape ≠ .plain ∧ ∃ field ∈ c.fieldNames, isPrivate field = true ∧ sameName field name = true
  | _ => False

/-- The first segment of a path. -/
def firstSegment (path : String) : String := (Text.split '.' path).headD ""

theorem exists_split (path : String) : ∃ names, Text.split '.' path = firstSegment path :: names := by
  have hne : Text.split '.' path ≠ [] := fun h => Text.splitChars_ne_nil '.' _ (List.map_eq_nil_iff.1 h)
  obtain ⟨name, names, hsplit⟩ := List.exists_cons_of_ne_nil hne
  exact ⟨names, by rw [firstSegment, hsplit, List.headD_cons]⟩

/-! ### Names that are not exposed -/

/-- A field that a name stands for is as private as the name is. -/
theorem isPrivate_of_find {names : List String} {field : String} (h : names.find? (sameName · name) = some field) :
    isPrivate field = isPrivate name := isPrivate_of_sameName (ClassInfo.sameName_of_find h)

/-- A private name stands for no field unless it is exposed. -/
theorem find_private (hname : isPrivate name = true) (hdict : ∀ id entries, v ≠ .dict id entries)
    (h : ¬v.Exposes name) : v.fieldNames.find? (sameName · name) = none := by
  rcases hfind : v.fieldNames.find? (sameName · name) with _ | field
  · rfl
  have hprivate := (isPrivate_of_find hfind).trans hname
  have hsame := ClassInfo.sameName_of_find hfind
  have hmem := List.mem_of_find?_eq_some hfind
  cases v with
  | object id c fields offers failing =>
    rw [fieldNames] at hmem
    cases hshape : c.shape with
    | plain =>
      rw [hshape] at hmem
      have hpublic := (List.mem_filter.1 hmem).2
      rw [show Text.startsWith field "_" = true from hprivate] at hpublic
      cases hpublic
    | record | model =>
      rw [hshape] at hmem
      exact absurd ⟨by simp [hshape], field, hmem, hprivate, hsame⟩ h
  | dict id entries => exact absurd rfl (hdict id entries)
  | _ => cases hmem

/-- In what is no dictionary a private name finds nothing unless it is exposed. -/
theorem segment_private (hname : isPrivate name = true) (hdict : ∀ id entries, v ≠ .dict id entries)
    (h : ¬v.Exposes name) : v.segment? name = .ok none := by
  have hplace : isPlace name = false := by
    obtain ⟨cs, hchars⟩ := List.head?_eq_some_iff.1 (isPrivate_iff.1 hname)
    rw [isPlace, hchars]
    rfl
  have hnamed : v.namedField? name = .ok none := by
    have hstarts : Text.startsWith name "_" = true := hname
    rw [namedField?, hstarts, looseField?, find_private hname hdict h]
    rfl
  cases v with
  | atom a =>
    cases a with
    | null => rfl
    | _ => exact hnamed
  | dict id entries => exact absurd rfl (hdict id entries)
  | list id items | tuple id label items =>
    rw [← hnamed]
    exact if_neg (by simp [hplace])
  | _ => exact hnamed

/-! ### Objects with one public view -/

section

variable (hfields : publicPart fields' = publicPart fields) (hoffers : publicPart offers' = publicPart offers)
  (hfailing : publicPart failing' = publicPart failing)

include hfields hoffers hfailing

theorem attribute_congr (hname : isPrivate name = false) :
    (Value.object id' c fields' offers' failing').attribute? name =
      (Value.object id c fields offers failing).attribute? name := by
  rw [attribute?, attribute?, lookup_congr hfailing hname, lookup_congr hfields hname, lookup_congr hoffers hname]

theorem segment_congr (h : ¬(Value.object id c fields offers failing).Exposes name) :
    (Value.object id' c fields' offers' failing').segment? name =
      (Value.object id c fields offers failing).segment? name := by
  cases hname : isPrivate name with
  | true =>
    have hnone {id : Identity} {fields offers : List (String × Value)} {failing : List (String × Fault)} :
        (Value.object id c fields offers failing).segment? name = .ok none :=
      segment_private hname (by rintro _ _ ⟨⟩) h
    rw [hnone, hnone]
  | false =>
    have hpresent : (Value.object id' c fields' offers' failing').present? name =
        (Value.object id c fields offers failing).present? name := by
      rw [present?, present?, attribute_congr hfields hoffers hfailing hname]
    have hnames : (Value.object id' c fields' offers' failing').fieldNames =
        (Value.object id c fields offers failing).fieldNames := by
      cases hshape : c.shape with
      | plain =>
        simp only [fieldNames, hshape]
        exact (names_publicPart fields').symm.trans (hfields ▸ names_publicPart fields)
      | record | model => simp only [fieldNames, hshape]
    have hloose : (Value.object id' c fields' offers' failing').looseField? name =
        (Value.object id c fields offers failing).looseField? name := by
      rw [looseField?, looseField?, hnames]
      rcases hfind : (Value.object id c fields offers failing).fieldNames.find? (sameName · name) with _ | field
      · rfl
      · exact attribute_congr hfields hoffers hfailing ((isPrivate_of_find hfind).trans hname)
    show (Value.object id' c fields' offers' failing').namedField? name =
      (Value.object id c fields offers failing).namedField? name
    rw [namedField?, namedField?, hpresent, hloose]

end

/-- What a segment names in a value depends on the public view alone, unless the segment is exposed. -/
theorem segment_of_view (hview : w.publicView = v.publicView) (h : ¬v.Exposes name) :
    w.segment? name = v.segment? name := by
  cases v with
  | object id c fields offers failing =>
    cases w with
    | object id' c' fields' offers' failing' =>
      simp only [publicView, object.injEq, true_and] at hview
      obtain ⟨rfl, hfields, hoffers, hfailing⟩ := hview
      exact segment_congr hfields hoffers hfailing h
    | _ => cases hview
  | _ =>
    cases w with
    | object => cases hview
    | _ => exact congrArg (segment? · name) hview

/-! ### Exposed names -/

/-- An exposed name is private. -/
theorem Exposes.isPrivate (h : v.Exposes name) : isPrivate name = true := by
  cases v with
  | object id c fields offers failing =>
    obtain ⟨-, field, -, hprivate, hsame⟩ := h
    exact (isPrivate_of_sameName hsame).symm.trans hprivate
  | _ => exact h.elim

/-- Dictionaries within dictionaries, with a value at a path. -/
def nested (leaf : Value) : List String → Value
  | [] => leaf
  | name :: names => .dict none [(.text name, nested leaf names)]

theorem follow_nested (leaf : Value) (names : List String) : (nested leaf names).follow? names = .ok (some leaf) := by
  induction names with
  | nil => rfl
  | cons name names ih =>
    have hequal : equals (.text name) (.text name) = .ok true := by
      show Except.ok (Atom.text name == Atom.text name) = _
      rw [beq_self_eq_true]
    have hlookup : lookup (.text name) [(.text name, nested leaf names)] = .ok (some (nested leaf names)) := by
      show findEntry (fun k => equals (.text name) k) [(.text name, nested leaf names)] = _
      rw [findEntry, hequal]
      rfl
    have hsegment : (nested leaf (name :: names)).segment? name = .ok (some (nested leaf names)) := by
      rw [nested, segment?, hlookup]
      rfl
    rw [follow_cons hsegment, ih]

/-- What an exposed field has is found, whatever it is. -/
theorem exists_follow (h : v.Exposes name) (names : List String) (leaf : Value) :
    ∃ w : Value, w.publicView = v.publicView ∧ w.follow? (name :: names) = .ok (some leaf) := by
  cases v with
  | object id c fields offers failing =>
    obtain ⟨hshape, other, hmem, hprivate, hsame⟩ := h
    obtain ⟨field, hfind⟩ : ∃ field, c.fieldNames.find? (sameName · name) = some field :=
      Option.isSome_iff_exists.1 (List.find?_isSome.2 ⟨other, hmem, hsame⟩)
    have hname : isPrivate name = true := (isPrivate_of_sameName hsame).symm.trans hprivate
    have hfield : isPrivate field = true := (isPrivate_of_find hfind).trans hname
    let w : Value := .object id c ((field, nested leaf names) :: fields) offers (publicPart failing)
    have hview : w.publicView = (Value.object id c fields offers failing).publicView := by
      have hfields : publicPart ((field, nested leaf names) :: fields) = publicPart fields :=
        List.filter_cons_of_neg (by simp [hfield])
      have hfailing : publicPart (publicPart failing) = publicPart failing := by
        rw [publicPart, publicPart, List.filter_filter]
        simp
      show Value.object none c (publicPart ((field, nested leaf names) :: fields)) (publicPart offers)
        (publicPart (publicPart failing)) = _
      rw [hfields, hfailing]
      rfl
    have hnames : w.fieldNames = c.fieldNames := by
      show (Value.object id c ((field, nested leaf names) :: fields) offers (publicPart failing)).fieldNames = _
      rw [fieldNames]
      cases hc : c.shape with
      | plain => exact absurd hc hshape
      | record | model => rfl
    have hreads : w.Reads name field := by
      refine .loose (fun hpublic => ?_) (hnames ▸ hfind)
      rw [show Text.startsWith name "_" = true from hname] at hpublic
      cases hpublic
    have hattribute : w.attribute? field = .ok (some (nested leaf names)) := by
      show (Value.object id c ((field, nested leaf names) :: fields) offers (publicPart failing)).attribute? field = _
      rw [attribute?, lookup_publicPart_private hfield]
      simp
    refine ⟨w, hview, ?_⟩
    rw [follow_cons (hreads.segment.trans hattribute), follow_nested]
  | _ => exact h.elim

/-- What is at a path in an object depends on its public view alone, unless the class exposes the first segment.  In what
is no dictionary a private name finds nothing, unless it is exposed. -/
theorem private_hidden_iff (v : Value) (path : String) :
    ((∀ w : Value, w.publicView = v.publicView → w.field? path = v.field? path) ↔ ¬v.Exposes (firstSegment path)) ∧
      (isPrivate (firstSegment path) = true → (∀ id entries, v ≠ .dict id entries) →
        ¬v.Exposes (firstSegment path) → v.field? path = .ok none) := by
  obtain ⟨names, hsplit⟩ := exists_split path
  have hfield (v : Value) : v.field? path = if path = "" then .ok none else v.follow? (firstSegment path :: names) := by
    rw [field?, hsplit]
  have hempty (hpath : path = "") : ¬v.Exposes (firstSegment path) := by
    rw [hpath]
    intro h
    exact absurd h.isPrivate (by decide)
  refine ⟨⟨fun hall hexposes => ?_, fun hexposes w hw => ?_⟩, fun hname hdict hexposes => ?_⟩
  · have hpath : path ≠ "" := fun hpath => hempty hpath hexposes
    obtain ⟨w, hw, hfound⟩ := exists_follow hexposes names (.bool true)
    obtain ⟨w', hw', hfound'⟩ := exists_follow hexposes names (.bool false)
    have hsame := (hall w hw).trans (hall w' hw').symm
    rw [hfield, hfield, if_neg hpath, if_neg hpath, hfound, hfound'] at hsame
    cases hsame
  · rw [hfield, hfield, follow?, follow?, segment_of_view hw hexposes]
  · rw [hfield, follow?, segment_private hname hdict hexposes]
    split <;> rfl

private def guarded : Value :=
  .object none ⟨"Guarded", .plain, []⟩ [("name", .text "safe"), ("_secret", .text "hidden")] [] []

/-- Nothing is found in a private attribute of an object without declared fields, and nothing depends on it. -/
theorem private_hidden_iff_plain :
    isPrivate (firstSegment "_secret.code") = true ∧ ¬guarded.Exposes (firstSegment "_secret.code") ∧
      guarded.field? "_secret.code" = .ok none ∧
      ∀ w : Value, w.publicView = guarded.publicView → w.field? "_secret.code" = guarded.field? "_secret.code" := by
  have hprivate : isPrivate (firstSegment "_secret.code") = true := by decide
  have hexposes : ¬guarded.Exposes (firstSegment "_secret.code") := fun h => h.1 rfl
  obtain ⟨hiff, hnothing⟩ := private_hidden_iff guarded "_secret.code"
  exact ⟨hprivate, hexposes, hnothing hprivate (by rintro _ _ ⟨⟩) hexposes, hiff.2 hexposes⟩

private def account (pin : String) : Value :=
  .object none ⟨"Account", .record, [("owner", .type .text), ("_pin", .type .text)]⟩
    [("owner", .text "ann"), ("_pin", .text pin)] [] []

/-- A private field that is declared is found, by its name and in other letter case, so two accounts that differ in it
alone are told apart. -/
theorem private_field_found :
    (account "1234").publicView = (account "5678").publicView ∧
      (account "1234").field? "_pin" = .ok (some (.text "1234")) ∧
      (account "5678").field? "_pin" = .ok (some (.text "5678")) ∧
      (account "1234").field? "_PIN" = .ok (some (.text "1234")) :=
  ⟨rfl, rfl, rfl, rfl⟩

end Value
end FlowRules
