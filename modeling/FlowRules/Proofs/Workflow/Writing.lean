import FlowRules.Proofs.Store.Storage

/-!
# Definitions written from workflows

A workflow is written as a document that names the fields of each step that are there.  Main statement: if no step lacks
what its kind needs, the text of the document defines the workflow (`Definition.read_written`).
-/

namespace FlowRules

namespace Json

/-- Members for the texts that are there. -/
def membersOf (texts : List (String × Option String)) : List (String × Json) :=
  texts.filterMap fun e => e.2.map fun s => (e.1, .text s)

variable {texts : List (String × Option String)}

theorem names_membersOf (texts : List (String × Option String)) :
    ((membersOf texts).map Prod.fst).Sublist (texts.map Prod.fst) := by
  induction texts with
  | nil => exact .slnil
  | cons e texts ih =>
    obtain ⟨name, _ | s⟩ := e
    · exact ih.cons name
    · exact ih.cons_cons name

theorem lookup_membersOf_eq_none {name : String} (h : name ∉ texts.map Prod.fst) :
    (membersOf texts).lookup name = none := by
  refine List.lookup_eq_none_iff.2 fun m hm => bne_iff_ne.2 ?_
  rintro rfl
  exact h ((names_membersOf texts).subset (List.mem_map_of_mem hm))

theorem lookup_membersOf (hnames : (texts.map Prod.fst).Nodup) {name : String} {text : Option String}
    (h : texts.lookup name = some text) : (membersOf texts).lookup name = text.map .text := by
  induction texts with
  | nil => cases h
  | cons e texts ih =>
    obtain ⟨first, s⟩ := e
    obtain ⟨hfirst, hnames⟩ := List.nodup_cons.1 hnames
    rw [List.lookup_cons] at h
    split at h
    · next hname =>
      -- where the text is missing, its name does not come up again
      obtain rfl := Option.some.inj h
      obtain rfl := eq_of_beq hname
      cases s with
      | none => exact @lookup_membersOf_eq_none texts name hfirst
      | some s => exact List.lookup_cons_self
    · next hname =>
      have htail := ih hnames h
      cases s with
      | none => exact htail
      | some s =>
        have hcons : membersOf ((first, some s) :: texts) = (first, .text s) :: membersOf texts := rfl
        rw [hcons, List.lookup_cons, hname]
        exact htail

theorem fits_membersOf (hnames : (texts.map Prod.fst).Nodup) (depth : Nat) :
    (Json.object (membersOf texts)).Fits (depth + 1) := by
  refine .object ((names_membersOf texts).nodup hnames) fun m hm => ?_
  obtain ⟨e, -, hm⟩ := List.mem_filterMap.1 hm
  obtain ⟨s, -, rfl⟩ := Option.map_eq_some_iff.1 hm
  exact .text s

end Json

/-! ### Documents -/

/-- The name of a kind, unless it is the default. -/
def StepKind.written? (kind : StepKind) : Option String := if kind = .rule then none else some kind.name

/-- The name of a mode, unless it is the default. -/
def StepMode.written? (mode : StepMode) : Option String := if mode = .complex then none else some mode.name

/-- The texts of the fields of a step under their names. -/
def Step.texts (s : Step) : List (String × Option String) :=
  [("name", s.name), ("kind", s.kind.written?), ("mode", s.mode.written?), ("implementationKey", s.implementationKey),
    ("subFlowRef", s.subFlowRef), ("targetProperty", s.targetProperty), ("operator", s.operator),
    ("targetValue", s.targetValue), ("errorMessage", s.errorMessage), ("condition", s.condition),
    ("collectionProperty", s.collectionProperty)]

def Step.json (s : Step) : Json := .object (Json.membersOf s.texts)

def Workflow.members (c : Workflow) : List (String × Json) :=
  [("workflowName", .text c.name), ("rules", .array (c.steps.map Step.json))]

/-- The text that a workflow is written as. -/
def Workflow.written (c : Workflow) : String := (Json.object c.members).written

/-- The names under which the fields of steps are written. -/
private def fieldNames : List String := (({} : Step).texts).map Prod.fst

private theorem nodup_texts (s : Step) : (s.texts.map Prod.fst).Nodup := by
  have hnames : fieldNames.Nodup := by decide
  exact hnames

namespace Schema

variable {texts : List (String × Option String)} {name : String} {others : List String}

section

variable (hnames : (texts.map Prod.fst).Nodup) (hothers : ∀ other ∈ others, other ∉ texts.map Prod.fst)

include hnames hothers

theorem firstMember?_membersOf {text : Option String} (h : texts.lookup name = some text) :
    firstMember? (Json.membersOf texts) (name :: others) = text.map fun s => (name, .text s) := by
  rw [firstMember?, Json.lookup_membersOf hnames h]
  cases text with
  | some s => rfl
  | none =>
    dsimp only [Option.map_none]
    induction others with
    | nil => rfl
    | cons other others ih =>
      obtain ⟨hother, hothers⟩ := List.forall_mem_cons.1 hothers
      rw [firstMember?, Json.lookup_membersOf_eq_none hother]
      exact ih hothers

/-- A field is read from its text if there is one, and has its default otherwise. -/
theorem field_membersOf {α : Type} {text : Option String} {a missing : α} (standIn : α) {read : Json → Except String α}
    (h : texts.lookup name = some text) (hnone : text = none → missing = a)
    (hsome : ∀ s, text = some s → read (.text s) = .ok a) :
    standard.field (Json.membersOf texts) (name :: others) missing (single standIn read) = ⟨a, []⟩ := by
  have hfirst := firstMember?_membersOf hnames hothers h
  cases text with
  | none =>
    obtain rfl := hnone rfl
    exact standard_lawful.field_missing missing _ hfirst
  | some s =>
    have hsingle : single standIn read (.text s) = ⟨a, []⟩ := by rw [single, hsome s rfl]
    refine (standard_lawful.field_valid missing hfirst (congrArg Reading.problems hsingle)).trans ?_
    rw [hsingle]

end

section

variable {s : Step} (hothers : ∀ other ∈ others, other ∉ fieldNames)

include hothers

private theorem field_choice {α : Type} {a missing : α} {text : Option String} {read : Json → Except String α}
    (h : s.texts.lookup name = some text) (hnone : text = none → missing = a)
    (hsome : ∀ s, text = some s → read (.text s) = .ok a) :
    standard.field (Json.membersOf s.texts) (name :: others) missing (single missing read) = ⟨a, []⟩ :=
  have hother : ∀ other ∈ others, other ∉ s.texts.map Prod.fst := hothers
  field_membersOf (nodup_texts s) hother missing h hnone hsome

private theorem field_step {text : Option String} {read : Json → Except String (Option String)}
    (h : s.texts.lookup name = some text) (hread : ∀ s, read (.text s) = .ok (some s)) :
    standard.field (Json.membersOf s.texts) (name :: others) none (single none read) = ⟨text, []⟩ :=
  field_choice hothers h Eq.symm fun t ht => by rw [hread, ht]

end

/-- The fields of a step are read from its document. -/
theorem stepFields_texts (s : Step) : standard.stepFields (Json.membersOf s.texts) = ⟨s, []⟩ := by
  have hkind : (s.kind.written? = none → .rule = s.kind) ∧
      ∀ t, s.kind.written? = some t → standard.kind (.text t) = .ok s.kind := by
    cases s.kind with
    | rule => exact ⟨fun _ => rfl, nofun⟩
    | _ =>
      refine ⟨nofun, ?_⟩
      rintro _ ⟨⟩
      decide
  have hmode : (s.mode.written? = none → .complex = s.mode) ∧
      ∀ t, s.mode.written? = some t → standard.mode (.text t) = .ok s.mode := by
    cases s.mode with
    | complex => exact ⟨fun _ => rfl, nofun⟩
    | simple =>
      refine ⟨nofun, ?_⟩
      rintro _ ⟨⟩
      decide
  have htarget (t : String) : standard.targetValue (.text t) = .ok (some t) := rfl
  have htext (t : String) : standard.optional standard.text (.text t) = .ok (some t) := rfl
  unfold Library.stepFields
  dsimp only
  rw [field_choice (by decide) rfl hkind.1 hkind.2, field_choice (by decide) rfl hmode.1 hmode.2,
    field_step (by decide) rfl htarget]
  repeat rw [field_step (by decide) rfl htext]
  rfl

end Schema

theorem Step.fits_json (s : Step) (depth : Nat) : s.json.Fits (depth + 1) :=
  Json.fits_membersOf (nodup_texts s) depth

theorem Workflow.fits_members (c : Workflow) (depth : Nat) : (Json.object c.members).Fits (depth + 3) := by
  refine .object (by decide : ["workflowName", "rules"].Nodup) (List.forall_mem_cons.2 ⟨.text c.name, ?_⟩)
  refine List.forall_mem_singleton.2 (.array fun j hj => ?_)
  obtain ⟨s, -, rfl⟩ := List.mem_map.1 hj
  exact s.fits_json depth

/-- A workflow is what its members describe. -/
theorem Workflow.ofMembers_members {c : Workflow} (h : ∀ s ∈ c.steps, Schema.missing? s = none) :
    ofMembers c.members = .ok c := by
  have hstep {s : Step} (hs : s ∈ c.steps) : Schema.standard.step s.json = ⟨s, []⟩ := by
    have hchecked : Schema.standard.step s.json =
        Schema.checkReading Schema.missing? (Schema.standard.stepFields (Json.membersOf s.texts)) := rfl
    rw [hchecked, Schema.stepFields_texts, Schema.checkReading]
    dsimp only
    rw [h s hs]
  have hvalid : ∀ j ∈ c.steps.map Step.json, Schema.standard.IsStep j := by
    intro j hj
    obtain ⟨s, hs, rfl⟩ := List.mem_map.1 hj
    exact congrArg Reading.problems (hstep hs)
  have hsteps : Schema.standard.stepsOf c.members = ⟨c.steps, []⟩ := by
    rw [Schema.standard_lawful.stepsOf_valid rfl hvalid, List.map_map]
    refine congrArg (Reading.mk · []) ((List.map_congr_left fun s hs => ?_).trans (List.map_id _))
    exact congrArg Reading.value (hstep hs)
  have hname : Schema.standard.nameOf c.members = ⟨c.name, []⟩ := rfl
  rw [ofMembers, Schema.Library.workflow, hname, hsteps]
  rfl

/-- A workflow whose steps have all that their kinds need is read from the text that it is written as. -/
theorem Definition.read_written {c : Workflow} (h : ∀ s ∈ c.steps, Schema.missing? s = none) :
    read c.written = .ok (some c) := by
  obtain ⟨text, hwrite, hread⟩ := exists_text (c.fits_members (Json.maxDepth - 3)) (Workflow.ofMembers_members h)
  rw [Workflow.written, Json.written, hwrite]
  exact hread

end FlowRules
