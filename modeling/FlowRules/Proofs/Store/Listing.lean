import Mathlib.Data.List.Basic
import FlowRules.Proofs.Value.Path
import FlowRules.Store.Files

/-!
# Listed definitions

A name is listed for every path whose last part has the ending of a definition, and it is looked up by giving it that
ending again.  The way back leads to the same path, unless its last part is nothing but the ending: then the ending is
kept in the name and given to it twice (`FileTree.pathOf_of_nameOf?`).  Nothing in the listing holds a name to the form
that is asked of it where it is looked up, so that a file that does not have this form is listed and refused
(`FileTree.listed_find`).
-/

namespace FlowRules

/-! ### Paths -/

namespace FilePath

/-- What a file or folder may be called. -/
def IsPart (part : String) : Prop := part ≠ "" ∧ part ≠ "." ∧ part ≠ ".." ∧ '/' ∉ part.toList

instance (part : String) : Decidable (IsPart part) := inferInstanceAs (Decidable (_ ∧ _))

/-- Parts that are joined by slashes are read back, also where they are steps up. -/
theorem parts_join {path : List String} (hne : path ≠ [])
    (h : ∀ part ∈ path, part ≠ "" ∧ part ≠ "." ∧ '/' ∉ part.toList) : parts ("/".intercalate path) = path := by
  have hsplit : Text.split '/' (Text.join (String.singleton '/') path) = path :=
    Text.split_join hne fun part hpart => (h part hpart).2.2
  have hjoin : Text.join (String.singleton '/') path = "/".intercalate path := rfl
  rw [parts, ← hjoin, hsplit, List.filter_eq_self]
  intro part hpart
  obtain ⟨hempty, hdot, -⟩ := h part hpart
  simp [hempty, hdot]

/-- The path that is written with its parts is read with just these parts. -/
theorem parts_intercalate {path : List String} (hne : path ≠ []) (h : ∀ part ∈ path, IsPart part) :
    parts ("/".intercalate path) = path :=
  parts_join hne fun part hpart => ⟨(h part hpart).1, (h part hpart).2.1, (h part hpart).2.2.2⟩

end FilePath

namespace FileTree

open FilePath

variable {tree : FileTree} {path : List String} {name : String}

/-- All that stands in the tree has a name that a file or folder may have. -/
def Legal (tree : FileTree) : Prop := ∀ entry ∈ tree, ∀ part ∈ entry.1, IsPart part

instance (tree : FileTree) : Decidable tree.Legal :=
  inferInstanceAs (Decidable (∀ entry ∈ tree, ∀ part ∈ entry.1, IsPart part))

theorem mem_allPaths : path ∈ tree.allPaths ↔ ∃ entry ∈ tree, ∃ n < entry.1.length, entry.1.take (n + 1) = path := by
  simp only [allPaths, List.mem_eraseDups, List.mem_flatMap, List.mem_map, List.mem_range]

theorem Legal.isPart (htree : tree.Legal) (hpath : path ∈ tree.allPaths) : ∀ part ∈ path, IsPart part := by
  obtain ⟨entry, hentry, n, -, rfl⟩ := mem_allPaths.1 hpath
  intro part hpart
  exact htree entry hentry part (List.mem_of_mem_take hpart)

theorem mem_names : name ∈ tree.names ↔ ∃ path ∈ tree.allPaths, nameOf? path = some name := by
  simp only [names, List.mem_filterMap, List.mem_mergeSort]

/-! ### From a path to a name and back -/

/-- The name that is listed for a path, by the last part of the path. -/
theorem nameOf?_append (front : List String) (last : String) :
    nameOf? (front ++ [last]) =
      if Text.endsWith last suffix then
        some ("/".intercalate (front ++ [if last = suffix then last else
          String.ofList (last.toList.take (last.length - suffix.length))]))
      else none := by
  simp only [nameOf?, List.getLast?_concat, List.dropLast_concat]
  rcases Text.endsWith last suffix <;> rfl

/-- What is written behind a path goes to its last part. -/
theorem intercalate_append (front : List String) (stem ending : String) :
    "/".intercalate (front ++ [stem]) ++ ending = "/".intercalate (front ++ [stem ++ ending]) := by
  rcases eq_or_ne front [] with rfl | hne
  · simp
  · simp only [String.intercalate_append_of_ne_nil hne (List.cons_ne_nil _ _), String.intercalate_singleton,
      String.append_assoc]

/-- A text with the ending, less the ending, is the same text once it has the ending again. -/
theorem stem_append {last : String} (h : Text.endsWith last suffix = true) :
    String.ofList (last.toList.take (last.length - suffix.length)) ++ suffix = last := by
  obtain ⟨stem, hstem⟩ := List.isSuffixOf_iff_suffix.1 h
  have hlength : last.length - suffix.length = stem.length := by
    rw [← String.length_toList, ← hstem, List.length_append, String.length_toList, Nat.add_sub_cancel]
  have htake : last.toList.take stem.length = stem := by rw [← hstem, List.take_left]
  rw [hlength, htake, ← String.toList_inj, String.toList_append, String.toList_ofList, hstem]

/-- The place where the definition is looked for that is listed for a path. -/
def soughtAt (path : List String) : List String :=
  if path.getLast? = some suffix then path.dropLast ++ [suffix ++ suffix] else path

/-- The name that is listed for a path leads back to it. -/
theorem pathOf_of_nameOf? (hpath : ∀ part ∈ path, IsPart part) (hname : nameOf? path = some name) :
    pathOf name = soughtAt path := by
  rcases List.eq_nil_or_concat' path with rfl | ⟨front, last, rfl⟩
  · cases hname
  rw [nameOf?_append] at hname
  split at hname
  case isFalse => cases hname
  case isTrue hending =>
    obtain rfl := Option.some.inj hname
    rw [pathOf, intercalate_append, soughtAt, List.getLast?_concat, List.dropLast_concat]
    have hfront : ∀ part ∈ front, IsPart part := fun part hpart => hpath part (List.mem_append_left _ hpart)
    by_cases hlast : last = suffix
    · subst hlast
      have hdouble : IsPart (suffix ++ suffix) := by decide
      rw [if_pos rfl, if_pos rfl, parts_intercalate (by simp)]
      simpa [or_imp, forall_and] using ⟨hfront, hdouble⟩
    · rw [if_neg hlast, if_neg fun h => hlast (Option.some.inj h), stem_append hending,
        parts_intercalate (by simp) hpath]

/-! ### What is found -/

/-- What is found at a path: the text of the file there, if there is a file. -/
def textAt (tree : FileTree) (path : List String) : Except Fault (Option String) :=
  match tree.file? path with
  | none => .ok none
  | some content => (contentText content).map some

theorem find_eq (tree : FileTree) (name : String) :
    tree.find name = (WorkflowName.check name).bind fun name => tree.textAt (pathOf name) := rfl

/-- A name that is refused is refused with a value error. -/
theorem exists_of_check_error {f : Fault} (h : WorkflowName.check name = .error f) : ∃ e, f = .value e := by
  unfold WorkflowName.check at h
  repeat' split at h
  all_goals cases h
  all_goals exact ⟨_, rfl⟩

theorem eq_of_check_ok {checked : String} (h : WorkflowName.check name = .ok checked) : checked = name := by
  unfold WorkflowName.check at h
  repeat' split at h
  all_goals cases h
  rfl

/-- A name is listed exactly where a path gives it.  If it has the form of a name, looking it up gives what is found at
this path, or, where the last part of the path is only the ending, what is found where the ending is doubled.  If it has
not, looking it up is a value error. -/
theorem listed_find (htree : tree.Legal) (directory : String) :
    (∀ name, name ∈ (tree.repository directory).names ↔ ∃ path ∈ tree.allPaths, nameOf? path = some name) ∧
    ∀ path ∈ tree.allPaths, ∀ name, nameOf? path = some name →
      (∀ checked, WorkflowName.check name = .ok checked → path.getLast? ≠ some suffix →
        (tree.repository directory).find name = tree.textAt path) ∧
      (∀ checked, WorkflowName.check name = .ok checked → path.getLast? = some suffix →
        (tree.repository directory).find name = tree.textAt (path.dropLast ++ [suffix ++ suffix])) ∧
      (∀ f, WorkflowName.check name = .error f →
        (tree.repository directory).find name = .error f ∧ ∃ e, f = .value e) := by
  refine ⟨fun name => mem_names, fun path hpath name hname => ?_⟩
  have hfind : (tree.repository directory).find name =
      (WorkflowName.check name).bind fun name => tree.textAt (pathOf name) := find_eq tree name
  have hsought : pathOf name = soughtAt path := pathOf_of_nameOf? (htree.isPart hpath) hname
  refine ⟨?_, ?_, ?_⟩
  · intro checked hcheck hlast
    obtain rfl := eq_of_check_ok hcheck
    rw [hfind, hcheck, Except.bind, hsought, soughtAt, if_neg hlast]
  · intro checked hcheck hlast
    obtain rfl := eq_of_check_ok hcheck
    rw [hfind, hcheck, Except.bind, hsought, soughtAt, if_pos hlast]
  · intro f hcheck
    refine ⟨?_, exists_of_check_error hcheck⟩
    rw [hfind, hcheck, Except.bind]

/-- A folder with a file whose name has the form of a name, and one whose name has not. -/
def exampleTree : FileTree := [(["orders", "line.json"], .text "{}"), (["my flow.json"], .text "{}")]

/-- The file in the folder is found under the name that is listed for it. -/
theorem listed_find_folder :
    exampleTree.Legal ∧ nameOf? ["orders", "line.json"] = some "orders/line" ∧
      (exampleTree.repository "flows").find "orders/line" = .ok (some "{}") := by
  have htree : exampleTree.Legal := by decide
  have hname : nameOf? ["orders", "line.json"] = some "orders/line" := by decide
  have hfind := ((listed_find htree "flows").2 ["orders", "line.json"] (by decide) "orders/line" hname).1 "orders/line"
    (by decide) (by decide)
  exact ⟨htree, hname, hfind.trans (by decide)⟩

/-- A file name with a blank in it is listed, and refused where it is looked up. -/
theorem listed_refused :
    exampleTree.Legal ∧ "my flow" ∈ (exampleTree.repository "flows").names ∧
      (exampleTree.repository "flows").find "my flow" = .error (.value (.badWorkflowName "my flow")) := by
  have hlisted : "my flow" ∈ exampleTree.names := mem_names.2 ⟨["my flow.json"], by decide, by decide⟩
  exact ⟨by decide, hlisted, by decide⟩

end FileTree
end FlowRules
