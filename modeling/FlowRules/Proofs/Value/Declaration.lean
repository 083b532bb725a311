import FlowRules.Proofs.Entries
import FlowRules.Proofs.Value.Composition

/-!
# Fields and their declarations

The last segment of a path is resolved twice: among the fields of the object in which it is looked up, for the value,
and among the declarations of the object's class, for the type.  Both take a field of just this name first, and else the
first one that has the name but for letter case, but they do not go through the same lists.  Main statement: the type
that is declared at a path is that of the field whose value is found there exactly if the class tells this field for the
name (`Value.declared_type_of_field`).  A model does not where another field that differs in letter case is declared
before it, a class with a declaration that cannot be resolved does not tell the fields of wider classes, and an object
without declared fields can have attributes that nothing is declared for.
-/

namespace FlowRules

/-! ### The declaration that is taken -/

/-- In a part of a list without repetitions the first element with a property is found, if it is there. -/
theorem find?_of_sublist {α : Type} {f : α → Bool} {l l' : List α} {a : α} (hsub : l'.Sublist l) (hnodup : l.Nodup)
    (hfind : l.find? f = some a) (ha : a ∈ l') : l'.find? f = some a := by
  obtain ⟨hfa, before, behind, rfl, hbefore⟩ := List.find?_eq_some_iff_append.1 hfind
  obtain ⟨front, rest, rfl, hfront, hrest⟩ := List.sublist_append_iff.1 hsub
  have hnone : ∀ b ∈ front, f b ≠ true := fun b hb => by simpa using hbefore b (hfront.subset hb)
  have hmem : a ∈ rest := (List.mem_append.1 ha).resolve_left fun h => hnone a h hfa
  obtain ⟨rest, rfl⟩ : ∃ rest', rest = a :: rest' := by
    rcases List.sublist_cons_iff.1 hrest with hbehind | ⟨rest', rfl, -⟩
    · have hnotMem := (List.nodup_cons.1 (List.nodup_append.1 hnodup).2.1).1
      exact absurd (hbehind.subset hmem) hnotMem
    · exact ⟨rest', rfl⟩
  rw [List.find?_append, List.find?_eq_none.2 hnone, Option.none_or, List.find?_cons_of_pos hfa]

namespace ClassInfo

variable {c : ClassInfo} {name taken : String} {ann : Annotation}

/-- The names of the fields whose declarations are told. -/
def toldNames (c : ClassInfo) : List String := c.told.map (·.1)

theorem toldNames_sublist (c : ClassInfo) : c.toldNames.Sublist c.fieldNames := List.filter_sublist.map _

/-- A declaration that is found but for letter case has the first name that is. -/
theorem find?_names {fs : List (String × Annotation)}
    (h : (fs.find? fun f => f.1 == name || Value.sameName f.1 name) = some (taken, ann)) :
    (fs.map (·.1)).find? (Value.sameName · name) = some taken := by
  have hsame (f : String × Annotation) : (f.1 == name || Value.sameName f.1 name) = Value.sameName f.1 name := by
    by_cases hf : f.1 = name
    · rw [hf, Value.sameName, beq_self_eq_true, beq_self_eq_true, Bool.true_or]
    · rw [beq_false_of_ne hf, Bool.false_or]
  simp only [hsame] at h
  rw [List.find?_map]
  show (fs.find? fun f => Value.sameName f.1 name).map (·.1) = _
  rw [h]
  rfl

theorem sameName_of_find {names : List String} {found : String}
    (h : names.find? (Value.sameName · name) = some found) : Value.sameName found name = true := by
  have hfound := List.find?_some h
  exact hfound

/-- Outside models a told declaration with just the name comes before those that have it but for letter case. -/
theorem annotation_eq (hshape : c.shape ≠ .model) (name : String) :
    c.annotation? name = (c.told.lookup name).or
      ((c.told.find? fun f => f.1 == name || Value.sameName f.1 name).map (·.2)) := by
  rw [annotation?]
  cases hc : c.shape with
  | model => exact absurd hc hshape
  | _ => rfl

/-- A declaration that is told and is the first of its name is taken. -/
theorem annotation_of_lookup (hshape : c.shape ≠ .model) (hlookup : c.declared.lookup name = some ann)
    (htold : ann.isTold = true) : c.annotation? name = some ann := by
  have hkept : c.told.lookup name = some ann := by
    obtain ⟨before, behind, hdeclared, hbefore⟩ := List.lookup_eq_some_iff.1 hlookup
    refine List.lookup_eq_some_iff.2 ⟨before.filter fun f => f.2.isTold, behind.filter fun f => f.2.isTold, ?_, ?_⟩
    · rw [told, hdeclared, List.filter_append, List.filter_cons, if_pos htold]
    · exact fun p hp => hbefore p (List.mem_of_mem_filter hp)
  rw [annotation_eq hshape, hkept, Option.some_or]

/-- In a model the first declaration is taken that has the name but for letter case. -/
theorem annotation_model (hshape : c.shape = .model) (h : c.annotation? name = some ann) :
    ∃ taken, (taken, ann) ∈ c.declared ∧ c.fieldNames.find? (Value.sameName · name) = some taken := by
  rw [annotation?, hshape] at h
  obtain ⟨⟨taken, a⟩, hfind, rfl⟩ := Option.map_eq_some_iff.1 h
  exact ⟨taken, List.mem_of_find?_eq_some hfind, find?_names hfind⟩

/-- The name whose declaration is taken where the class tells some declarations: just this name if it is told, and else
the first told one that has it but for letter case. -/
def Takes (c : ClassInfo) (name taken : String) : Prop :=
  (name ∈ c.toldNames → taken = name) ∧
    (name ∉ c.toldNames → c.toldNames.find? (Value.sameName · name) = some taken)

theorem annotation_told (hshape : c.shape ≠ .model) (h : c.annotation? name = some ann) :
    ∃ taken, (taken, ann) ∈ c.told ∧ c.Takes name taken := by
  rw [annotation_eq hshape] at h
  rcases Option.or_eq_some_iff.1 h with hexact | ⟨hnone, hloose⟩
  · have hmem : (name, ann) ∈ c.told := mem_of_lookup hexact
    exact ⟨name, hmem, fun _ => rfl, fun hname => absurd (List.mem_map_of_mem hmem) hname⟩
  · obtain ⟨⟨taken, a⟩, hfind, rfl⟩ := Option.map_eq_some_iff.1 hloose
    exact ⟨taken, List.mem_of_find?_eq_some hfind, fun hname => absurd hname (lookup_eq_none_iff_notMem.1 hnone),
      fun _ => find?_names hfind⟩

theorem Takes.sameName (h : c.Takes name taken) : Value.sameName taken name = true := by
  by_cases hname : name ∈ c.toldNames
  · rw [h.1 hname, Value.sameName, beq_self_eq_true]
  · exact sameName_of_find (h.2 hname)

/-- For a name the class tells the type of a field.  A record tells it unless the declaration itself is not told; a model
tells it for the first field that has the name but for letter case.  The fields of other objects are what attributes they
have: one of just this name needs a declaration, and another one that is the first of those that are told, with none for
just the name. -/
def Tells (c : ClassInfo) (name field : String) : Prop :=
  match c.shape with
  | .record => field ∈ c.toldNames
  | .model => c.fieldNames.find? (Value.sameName · name) = some field
  | .plain => field ∈ c.toldNames ∧
      (field ≠ name → name ∉ c.toldNames ∧ c.toldNames.find? (Value.sameName · name) = some field)

end ClassInfo

/-! ### The field that is read -/

namespace Value

variable {v w : Value} {name field taken path : String} {c : ClassInfo} {id : Identity}
  {fields offers : List (String × Value)} {failing : List (String × Fault)} {ann : Annotation}

/-- The field of a value that a name stands for: the one of just this name, and else the first that has it but for letter
case. -/
def fieldFor? (v : Value) (name : String) : Option String :=
  if name ∈ v.fieldNames then some name else v.fieldNames.find? (sameName · name)

/-- In a record a field is passed over only if it is not told. -/
theorem taken_eq_iff_record (hshape : c.shape = .record) (hnames : c.fieldNames.Nodup) (htaken : taken ∈ c.toldNames)
    (h : c.Takes name taken) (hfield : (Value.object id c fields offers failing).fieldFor? name = some field) :
    taken = field ↔ c.Tells name field := by
  have hdeclared : (Value.object id c fields offers failing).fieldNames = c.fieldNames := by
    rw [fieldNames, hshape]
    rfl
  rw [fieldFor?, hdeclared] at hfield
  rw [ClassInfo.Tells, hshape]
  constructor
  · rintro rfl
    exact htaken
  · intro htold
    by_cases hname : name ∈ c.fieldNames
    · rw [if_pos hname] at hfield
      cases hfield
      exact h.1 htold
    · rw [if_neg hname] at hfield
      have hfirst := find?_of_sublist c.toldNames_sublist hnames hfield htold
      have htakes := h.2 fun hmem => hname (c.toldNames_sublist.subset hmem)
      exact Option.some.inj (htakes.symm.trans hfirst)

theorem taken_eq_iff_plain (hshape : c.shape = .plain) (htaken : taken ∈ c.toldNames) (h : c.Takes name taken) :
    taken = field ↔ c.Tells name field := by
  rw [ClassInfo.Tells, hshape]
  constructor
  · rintro rfl
    refine ⟨htaken, fun hne => ?_⟩
    have hname : name ∉ c.toldNames := fun hname => hne (h.1 hname)
    exact ⟨hname, h.2 hname⟩
  · rintro ⟨htold, hother⟩
    by_cases hne : field = name
    · rw [hne] at htold ⊢
      exact h.1 htold
    · obtain ⟨hname, hfind⟩ := hother hne
      exact Option.some.inj ((h.2 hname).symm.trans hfind)

/-- The declaration that is taken for a name is that of the field that the name stands for exactly if the class tells
this field. -/
theorem exists_taken (hnames : c.fieldNames.Nodup) (h : c.annotation? name = some ann)
    (hfield : (Value.object id c fields offers failing).fieldFor? name = some field) :
    ∃ taken, (taken, ann) ∈ c.declared ∧ sameName taken name = true ∧ (taken = field ↔ c.Tells name field) := by
  cases hshape : c.shape with
  | model =>
    obtain ⟨taken, hmem, hfind⟩ := ClassInfo.annotation_model hshape h
    refine ⟨taken, hmem, ClassInfo.sameName_of_find hfind, ?_⟩
    rw [ClassInfo.Tells, hshape]
    dsimp only
    rw [hfind, Option.some_inj]
  | record =>
    obtain ⟨taken, hmem, htakes⟩ := ClassInfo.annotation_told (by simp [hshape]) h
    have htaken : taken ∈ c.toldNames := List.mem_map_of_mem hmem
    exact ⟨taken, List.mem_of_mem_filter hmem, htakes.sameName, taken_eq_iff_record hshape hnames htaken htakes hfield⟩
  | plain =>
    obtain ⟨taken, hmem, htakes⟩ := ClassInfo.annotation_told (by simp [hshape]) h
    have htaken : taken ∈ c.toldNames := List.mem_map_of_mem hmem
    exact ⟨taken, List.mem_of_mem_filter hmem, htakes.sameName, taken_eq_iff_plain hshape htaken htakes⟩

/-- A name is looked up in the attribute with the name of a field: in that of just this name if it is not private and
there is one, and else in that of the first field that has the name but for letter case. -/
inductive Reads (v : Value) (name : String) : String → Prop
  | exact : Text.startsWith name "_" = false → v.present? name ≠ .ok none → Reads v name name
  | loose {field : String} : (Text.startsWith name "_" = false → v.present? name = .ok none) →
      v.fieldNames.find? (sameName · name) = some field → Reads v name field

theorem present_eq_attribute (h : v.present? name ≠ .ok none) : v.present? name = v.attribute? name := by
  unfold present? at h ⊢
  rcases hattribute : v.attribute? name with f | o
  · rw [hattribute] at h
    by_cases hkind : f.isA "AttributeError" = true
    · exact absurd (if_pos hkind) h
    · exact if_neg hkind
  · rfl

/-- What is found for a name in an object is the attribute that it is looked up in. -/
theorem Reads.segment (h : (Value.object id c fields offers failing).Reads name field) :
    (Value.object id c fields offers failing).segment? name =
      (Value.object id c fields offers failing).attribute? field := by
  show (Value.object id c fields offers failing).namedField? name = _
  cases h with
  | exact hpublic hpresent =>
    rw [← present_eq_attribute hpresent, namedField?, hpublic]
    rcases hp : (Value.object id c fields offers failing).present? name with f | _ | u
    · rfl
    · exact absurd hp hpresent
    · rfl
  | loose hmissing hfind =>
    have hloose : (Value.object id c fields offers failing).looseField? name =
        (Value.object id c fields offers failing).attribute? field := by
      rw [looseField?, hfind]
    rw [← hloose, namedField?]
    cases hprivate : Text.startsWith name "_" with
    | true => rfl
    | false =>
      rw [hmissing hprivate]
      rfl

/-! ### The owner of the last segment -/

/-- The last segment of a path. -/
def leaf (path : String) : String := (cutLast path).2

/-- The value in which the last segment of a path is looked up. -/
def ownerOf? (v : Value) (path : String) : Except Fault (Option Value) := v.follow? (Text.split '.' path).dropLast

/-- A path with a point is cut at its last one. -/
theorem exists_cut (hpoint : '.' ∈ path.toList) : ∃ front name, path = front ++ "." ++ name ∧ '.' ∉ name.toList := by
  obtain ⟨behind, before, hback, hbehind⟩ := List.eq_append_cons_of_mem (List.mem_reverse.2 hpoint)
  have hchars : path.toList = before.reverse ++ '.' :: behind.reverse := by
    rw [← List.reverse_reverse path.toList, hback, List.reverse_append, List.reverse_cons, List.append_assoc]
    rfl
  refine ⟨String.ofList before.reverse, String.ofList behind.reverse, ?_, ?_⟩
  · rw [← String.toList_inj, hchars]
    simp
  · rwa [String.toList_ofList, List.mem_reverse]

theorem leaf_single (hpoint : '.' ∉ path.toList) : leaf path = path := by
  rw [leaf, cutLast_single hpoint]

theorem leaf_joined (front : String) (hpoint : '.' ∉ name.toList) : leaf (front ++ "." ++ name) = name := by
  rw [leaf, cutLast_joined front hpoint]

theorem owner_single (v : Value) (hpoint : '.' ∉ path.toList) : v.ownerOf? path = .ok (some v) := by
  rw [ownerOf?, Text.split_of_notMem hpoint]
  rfl

theorem owner_joined (v : Value) (front : String) (hpoint : '.' ∉ name.toList) :
    v.ownerOf? (front ++ "." ++ name) = v.follow? (Text.split '.' front) := by
  rw [ownerOf?, split_joined, Text.split_of_notMem hpoint, List.dropLast_concat]

/-- What is found at a path is what its owner has under the last segment. -/
theorem field_leaf (howner : v.ownerOf? path = .ok (some w)) (hpath : path ≠ "") :
    v.field? path = w.segment? (leaf path) := by
  by_cases hpoint : '.' ∈ path.toList
  · obtain ⟨front, name, rfl, hname⟩ := exists_cut hpoint
    rw [owner_joined v front hname] at howner
    rw [leaf_joined front hname, field?, if_neg hpath, split_joined, Text.split_of_notMem hname, follow_append, howner]
    exact follow_singleton w name
  · rw [owner_single v hpoint] at howner
    cases howner
    rw [leaf_single hpoint, field_single hpath hpoint]

/-- The declared type at a path is that of the last segment in its owner, unless there is nothing but a point in front of
the last segment.  Then it is that in the value itself, though the owner is what the empty name stands for. -/
theorem declaredType_leaf (howner : v.ownerOf? path = .ok (some w)) (hpath : path ≠ "") :
    v.declaredType? path = .ok ((if path = "." ++ leaf path then v else w).ownType? (leaf path)) := by
  by_cases hpoint : '.' ∈ path.toList
  · obtain ⟨front, name, rfl, hname⟩ := exists_cut hpoint
    rw [owner_joined v front hname] at howner
    rw [leaf_joined front hname]
    by_cases hfront : front = ""
    · rw [hfront, if_pos (by simp), declaredType?, if_neg (joined_ne_empty "" name), cutLast_joined "" hname]
      rfl
    · have hne : front ++ "." ++ name ≠ "." ++ name := by
        intro h
        have hlength := congrArg String.length h
        simp only [String.length_append] at hlength
        exact hfront (String.length_eq_zero_iff.1 (by omega))
      rw [if_neg hne, declaredType_joined v hfront hname, field?, if_neg hfront, howner]
      rfl
  · rw [owner_single v hpoint] at howner
    cases howner
    rw [ite_self, leaf_single hpoint, declaredType_single v hpath hpoint]

/-- The value that is found at a path is that of a field of its owner, if it is looked up as this field.  The type that is
declared there is that of the same field exactly if the class tells this field for the last segment, and else that of
another field whose name differs in letter case at most; where the path begins with its only point, it is a type of the
value itself. -/
theorem declared_type_of_field {u : Value} {t : TypeRef}
    (howner : v.ownerOf? path = .ok (some (.object id c fields offers failing))) (hnames : c.fieldNames.Nodup)
    (hfield : (Value.object id c fields offers failing).fieldFor? (leaf path) = some field)
    (hreads : (Value.object id c fields offers failing).Reads (leaf path) field)
    (hfound : v.field? path = .ok (some u)) (htype : v.declaredType? path = .ok (some t)) :
    (Value.object id c fields offers failing).attribute? field = .ok (some u) ∧
      (path ≠ "." ++ leaf path →
        (c.Tells (leaf path) field → ∃ ann, c.declared.lookup field = some ann ∧ ann.typeRef? = some t) ∧
          (¬c.Tells (leaf path) field → ∃ other ann, other ≠ field ∧ sameName other (leaf path) = true ∧
            c.declared.lookup other = some ann ∧ ann.typeRef? = some t)) ∧
      (path = "." ++ leaf path → v.ownType? (leaf path) = some t) := by
  have hpath : path ≠ "" := by
    rintro rfl
    cases hfound
  rw [field_leaf howner hpath, hreads.segment] at hfound
  have hown := Except.ok.inj ((declaredType_leaf howner hpath).symm.trans htype)
  refine ⟨hfound, fun hfront => ?_, fun hfront => ?_⟩
  · rw [if_neg hfront] at hown
    obtain ⟨ann, hann, ht⟩ := Option.bind_eq_some_iff.1 hown
    obtain ⟨taken, hmem, hsame, hiff⟩ := exists_taken hnames hann hfield
    have hlookup : c.declared.lookup taken = some ann := (lookup_eq_some_iff_mem hnames).2 hmem
    constructor
    · intro htells
      obtain rfl := hiff.2 htells
      exact ⟨ann, hlookup, ht⟩
    · intro hother
      exact ⟨taken, ann, fun h => hother (hiff.1 h), hsame, hlookup, ht⟩
  · rwa [if_pos hfront] at hown

private def sumsClass : ClassInfo := ⟨"Sums", .record, [("Total", .type .text), ("total", .type .int)]⟩

private def sums : Value := .object none sumsClass [("Total", .text "five"), ("total", .int 5)] [] []

private def invoiced : Value := .dict none [(.text "sums", sums)]

/-- A record keeps two fields apart whose names differ in letter case only. -/
theorem declared_type_of_field_sums :
    invoiced.ownerOf? "sums.total" = .ok (some sums) ∧ sumsClass.fieldNames.Nodup ∧
      sums.fieldFor? (leaf "sums.total") = some "total" ∧ sums.Reads (leaf "sums.total") "total" ∧
      invoiced.field? "sums.total" = .ok (some (.int 5)) ∧ invoiced.declaredType? "sums.total" = .ok (some .int) ∧
      sums.attribute? "total" = .ok (some (.int 5)) ∧ sumsClass.Tells (leaf "sums.total") "total" ∧
      ∃ ann, sumsClass.declared.lookup "total" = some ann ∧ ann.typeRef? = some .int := by
  have hleaf : leaf "sums.total" = "total" := by decide
  have howner : invoiced.ownerOf? "sums.total" = .ok (some sums) := rfl
  have hnames : sumsClass.fieldNames.Nodup := by decide
  have hfield : sums.fieldFor? (leaf "sums.total") = some "total" := by
    rw [hleaf]
    rfl
  have hreads : sums.Reads (leaf "sums.total") "total" := by
    rw [hleaf]
    exact .exact rfl nofun
  have hfound : invoiced.field? "sums.total" = .ok (some (.int 5)) := rfl
  have htype : invoiced.declaredType? "sums.total" = .ok (some .int) := rfl
  have htells : sumsClass.Tells (leaf "sums.total") "total" := by
    show "total" ∈ sumsClass.toldNames
    decide
  have hfront : "sums.total" ≠ "." ++ leaf "sums.total" := by
    rw [hleaf]
    decide
  obtain ⟨hvalue, hsame, -⟩ := declared_type_of_field howner hnames hfield hreads hfound htype
  exact ⟨howner, hnames, hfield, hreads, hfound, htype, hvalue, htells, (hsame hfront).1 htells⟩

private def limitsClass : ClassInfo := ⟨"Loose", .plain, [("limit", .type .int), ("owner", .unresolved "Unknown")]⟩

private def limits : Value := .object none limitsClass [("Limit", .text "abc"), ("limit", .int 5)] [] []

private def twinsClass : ClassInfo := ⟨"Twins", .model, [("Amount", .type .int), ("amount", .type .text)]⟩

private def twins : Value := .object none twinsClass [("Amount", .int 0), ("amount", .text "none")] [] []

private def heirClass : ClassInfo :=
  ⟨"Heir", .record, [("amount", .untold), ("Amount", .type .int), ("owner", .unresolved "Unknown")]⟩

private def heir : Value :=
  .object none heirClass [("amount", .text "none"), ("Amount", .int 0), ("owner", .null)] [] []

/-- An attribute for which nothing is declared has the declared type of another one, a field of a model that of the field
before it, and an inherited field that is not told that of one of the class itself. -/
theorem declared_type_displaced :
    (limits.fieldFor? "Limit" = some "Limit" ∧ limits.Reads "Limit" "Limit" ∧
      limits.field? "Limit" = .ok (some (.text "abc")) ∧ limits.declaredType? "Limit" = .ok (some .int) ∧
      limitsClass.declared.lookup "Limit" = none) ∧
    (twins.fieldFor? "amount" = some "amount" ∧ twins.Reads "amount" "amount" ∧
      twins.field? "amount" = .ok (some (.text "none")) ∧ twins.declaredType? "amount" = .ok (some .int) ∧
      (twinsClass.declared.lookup "amount").bind Annotation.typeRef? = some .text) ∧
    heir.fieldFor? "amount" = some "amount" ∧ heir.Reads "amount" "amount" ∧
      heir.field? "amount" = .ok (some (.text "none")) ∧ heir.declaredType? "amount" = .ok (some .int) ∧
      "amount" ∉ heirClass.toldNames :=
  ⟨⟨rfl, .exact rfl nofun, rfl, rfl, rfl⟩, ⟨rfl, .exact rfl nofun, rfl, rfl, rfl⟩,
    rfl, .exact rfl nofun, rfl, rfl, by decide⟩

end Value
end FlowRules
