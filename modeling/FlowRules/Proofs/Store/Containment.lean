import Mathlib.Data.List.Infix
import FlowRules.Proofs.Store.Listing
import FlowRules.Proofs.Text.LetterCase

/-!
# Definitions stay in their directory

The name of a workflow becomes a path below the directory of the definitions.  Main statement: whatever the directory, a
name that is accepted is a relative path, and the path of its definition goes on from the directory by at least one part
and by no step up (`FileTree.find_stays_below`).  No part of the path is empty, a step up or has a backslash in it, also
where the name ends in a line feed, which the form of a name allows (`FileTree.component_of_check`).
-/

namespace FlowRules

/-! ### Splitting what is written one behind the other -/

namespace Text

variable {c sep : Char} {cs rest p last : List Char} {ps front : List (List Char)}

/-- What is written behind a text, with no separator in it, goes to the last piece. -/
theorem splitChars_append_last (h : splitChars sep cs = front ++ [last]) (hrest : sep ∉ rest) :
    splitChars sep (cs ++ rest) = front ++ [last ++ rest] := by
  induction cs generalizing front last with
  | nil =>
    rcases front with _ | ⟨p, front⟩
    · cases h
      exact splitChars_of_notMem hrest
    · cases front <;> cases h
  | cons c cs ih =>
    by_cases hc : c = sep
    · rw [splitChars, if_pos hc] at h
      rw [List.cons_append, splitChars, if_pos hc]
      rcases List.cons_eq_append_iff.1 h with ⟨-, hlast⟩ | ⟨front, rfl, hcs⟩
      · exact absurd (List.cons.inj hlast).2.symm (splitChars_ne_nil sep cs)
      · rw [ih hcs, List.cons_append]
    · obtain ⟨p, ps, hcs, hcons⟩ := splitChars_cons hc cs
      rw [hcons] at h
      rw [List.cons_append, splitChars, if_neg hc]
      -- the character goes to the first piece, which may be the last
      rcases List.cons_eq_append_iff.1 h with ⟨rfl, hlast⟩ | ⟨front, rfl, rfl⟩
      · obtain ⟨rfl, rfl⟩ := List.cons.inj hlast
        have hone : splitChars sep cs = [] ++ [p] := hcs
        rw [ih hone]
        rfl
      · have hmore : splitChars sep cs = (p :: front) ++ [last] := hcs
        rw [ih hmore]
        rfl

/-- The first piece stands at the beginning of the text and the others somewhere in it, all without the separator. -/
theorem splitChars_spec (sep : Char) (cs : List Char) :
    ∃ p ps, splitChars sep cs = p :: ps ∧ sep ∉ p ∧ p <+: cs ∧ ∀ q ∈ ps, sep ∉ q ∧ q <:+: cs := by
  induction cs with
  | nil => exact ⟨[], [], rfl, List.not_mem_nil, List.prefix_rfl, nofun⟩
  | cons c cs ih =>
    obtain ⟨p, ps, hcs, hp, hfront, hps⟩ := ih
    have hrest : ∀ q ∈ ps, sep ∉ q ∧ q <:+: c :: cs := fun q hq => ⟨(hps q hq).1, List.infix_cons (hps q hq).2⟩
    by_cases hc : c = sep
    · have hfirst : sep ∉ p ∧ p <:+: c :: cs := ⟨hp, List.infix_cons hfront.isInfix⟩
      refine ⟨[], p :: ps, ?_, List.not_mem_nil, List.nil_prefix, List.forall_mem_cons.2 ⟨hfirst, hrest⟩⟩
      rw [splitChars, if_pos hc, hcs]
    · refine ⟨c :: p, ps, ?_, List.not_mem_cons_of_ne_of_not_mem (Ne.symm hc) hp, ?_, hrest⟩
      · rw [splitChars, if_neg hc, hcs]
      · exact List.cons_prefix_cons.2 ⟨rfl, hfront⟩

theorem of_mem_splitChars (h : p ∈ splitChars sep cs) : sep ∉ p ∧ p <:+: cs := by
  obtain ⟨first, ps, hcs, hfirst, hfront, hps⟩ := splitChars_spec sep cs
  rw [hcs] at h
  rcases List.mem_cons.1 h with rfl | h
  · exact ⟨hfirst, hfront.isInfix⟩
  · exact hps p h

theorem not_infix_of_contains {s t : String} (h : contains s t = false) : ¬t.toList <:+: s.toList := by
  rintro ⟨before, after, hsplit⟩
  rw [contains, ← hsplit, occursIn_append] at h
  cases h

end Text

/-! ### Paths -/

namespace FilePath

open Text

/-- A path goes on from a place by one part: a step up takes back the last part, if there is one that is no step up, and
at the root there is none to take. -/
def goOn (root : String) (here : List String) (part : String) : List String :=
  if part = ".." then
    match here.getLast? with
    | none => if root = "" then [".."] else []
    | some last => if last = ".." then here ++ [".."] else here.dropLast
  else here ++ [part]

/-- Where a path leads to from its root, by its text alone. -/
def resolve (path : String) : List String := (parts path).foldl (goOn (root path)) []

example : resolve "/srv/./a/../../../flows" = ["flows"] ∧ resolve "../a/../../b" = ["..", "..", "b"] := by decide

variable {path : String} {ps : List String}

theorem foldl_goOn (root : String) (here : List String) (h : ".." ∉ ps) :
    ps.foldl (goOn root) here = here ++ ps := by
  induction ps generalizing here with
  | nil => exact (List.append_nil here).symm
  | cons part ps ih =>
    have hpart : part ≠ ".." := fun h' => h (h' ▸ List.mem_cons_self)
    rw [List.foldl_cons, ih _ fun h' => h (List.mem_cons_of_mem part h'), goOn, if_neg hpart, List.append_assoc,
      List.singleton_append]

/-- The parts of a path are names of files and folders, or steps up. -/
theorem part_spec {part : String} (h : part ∈ parts path) : part ≠ "" ∧ part ≠ "." ∧ '/' ∉ part.toList := by
  obtain ⟨hsplit, hpart⟩ := List.mem_filter.1 h
  obtain ⟨p, hp, rfl⟩ := List.mem_map.1 hsplit
  rw [Bool.and_eq_true, bne_iff_ne, bne_iff_ne] at hpart
  rw [String.toList_ofList]
  exact ⟨hpart.1, hpart.2, (of_mem_splitChars hp).1⟩

theorem parts_append_slash (p q : String) : parts (p ++ "/" ++ q) = parts p ++ parts q := by
  have hchars : (p ++ "/" ++ q).toList = p.toList ++ '/' :: q.toList := by simp
  rw [parts, Text.split, hchars, splitChars_append_sep, List.map_append, List.filter_append]
  rfl

theorem isAbsolute_append {p : String} (hp : p ≠ "") (q : String) : isAbsolute (p ++ q) = isAbsolute p := by
  obtain ⟨c, cs, hchars⟩ := List.exists_cons_of_ne_nil (mt String.toList_eq_nil_iff.1 hp)
  simp [isAbsolute, startsWith, hchars, List.isPrefixOf]

theorem isAbsolute_iff : isAbsolute path = true ↔ path.toList.head? = some '/' := by
  rw [isAbsolute, startsWith]
  cases path.toList with
  | nil => decide
  | cons c cs =>
    have hhead : List.isPrefixOf ['/'] (c :: cs) = true ↔ '/' = c := by simp
    exact hhead.trans (eq_comm.trans Option.some_inj.symm)

/-- Parts that are joined by slashes do not begin with one. -/
theorem isAbsolute_join (h : ∀ part ∈ ps, part ≠ "" ∧ '/' ∉ part.toList) :
    isAbsolute ("/".intercalate ps) = false := by
  rcases ps with _ | ⟨p, ps⟩
  · decide
  · obtain ⟨hne, hslash⟩ := h p List.mem_cons_self
    have hp : isAbsolute p = false := by
      rw [Bool.eq_false_iff, Ne, isAbsolute_iff]
      exact fun hhead => hslash (List.mem_of_mem_head? hhead)
    rcases ps with _ | ⟨q, ps⟩
    · rwa [String.intercalate_singleton]
    · rw [String.intercalate_cons_cons, String.append_assoc, isAbsolute_append hne, hp]

theorem root_cases (path : String) : root path = "" ∨ root path = "/" ∨ root path = "//" := by
  unfold root
  split <;> decide

/-- A root is read back in front of what does not begin with a slash. -/
theorem root_append {r : String} (hr : r = "" ∨ r = "/" ∨ r = "//") (hpath : isAbsolute path = false) :
    root (r ++ path) = r := by
  have hnone : path.toList.takeWhile (· = '/') = [] := by
    rw [Bool.eq_false_iff, Ne, isAbsolute_iff] at hpath
    cases hchars : path.toList with
    | nil => rfl
    | cons c cs =>
      rw [hchars] at hpath
      exact List.takeWhile_cons_of_neg fun hc => hpath (congrArg some (of_decide_eq_true hc))
  have hslashes : ∀ c ∈ r.toList, decide (c = '/') = true := by
    rcases hr with rfl | rfl | rfl <;> simp
  have hlength : (r ++ path).toList.takeWhile (· = '/') = r.toList := by
    rw [String.toList_append, List.takeWhile_append_of_pos hslashes, hnone, List.append_nil]
  rw [root, hlength]
  rcases hr with rfl | rfl | rfl <;> rfl

theorem parts_root_append {r : String} (hr : r = "" ∨ r = "/" ∨ r = "//") (path : String) :
    parts (r ++ path) = parts path := by
  have hslash (path : String) : parts ("/" ++ path) = parts path := parts_append_slash "" path
  rcases hr with rfl | rfl | rfl
  · rw [String.empty_append]
  · exact hslash path
  · exact parts_append_slash "/" path

/-- A path is read with the root and the parts that it is spelled with. -/
theorem spelled_spec {r : String} (hr : r = "" ∨ r = "/" ∨ r = "//")
    (hps : ∀ part ∈ ps, part ≠ "" ∧ part ≠ "." ∧ '/' ∉ part.toList) :
    root (spelled r ps) = r ∧ parts (spelled r ps) = ps := by
  have hrelative : isAbsolute ("/".intercalate ps) = false :=
    isAbsolute_join fun part hpart => ⟨(hps part hpart).1, (hps part hpart).2.2⟩
  have hroot : root (r ++ "/".intercalate ps) = r := root_append hr hrelative
  have hparts : parts (r ++ "/".intercalate ps) = ps := by
    rw [parts_root_append hr]
    rcases eq_or_ne ps [] with rfl | hne
    · rfl
    · exact parts_join hne hps
  unfold spelled
  dsimp only
  split
  · next hempty =>
    rw [hempty] at hroot hparts
    exact ⟨hroot, hparts⟩
  · exact ⟨hroot, hparts⟩

theorem normalized_spec (path : String) :
    root (normalized path) = root path ∧ parts (normalized path) = parts path :=
  spelled_spec (root_cases path) fun _ => part_spec

/-- Where a path leads to that is followed from a directory, if no part of it is a step up. -/
theorem resolve_under (base : String) (hpath : isAbsolute path = false) (hup : ".." ∉ parts path) :
    root (under (normalized base) path) = root base ∧
      resolve (under (normalized base) path) = resolve base ++ parts path := by
  obtain ⟨hroot, hparts⟩ := normalized_spec base
  have hunder : under (normalized base) path = spelled (root base) (parts base ++ parts path) := by
    rw [under, hpath, hroot, hparts]
    rfl
  have hjoined : ∀ part ∈ parts base ++ parts path, part ≠ "" ∧ part ≠ "." ∧ '/' ∉ part.toList := fun part hpart =>
    (List.mem_append.1 hpart).elim part_spec part_spec
  obtain ⟨hroot, hparts⟩ := spelled_spec (root_cases base) hjoined
  rw [hunder]
  refine ⟨hroot, ?_⟩
  rw [resolve, hroot, hparts, List.foldl_append, foldl_goOn _ _ hup]
  rfl

end FilePath

namespace FileTree

open Text

variable {name checked : String}

/-- What is asked of a name, as far as its characters go. -/
theorem spec_of_check (h : WorkflowName.check name = .ok checked) :
    name ≠ "" ∧ WorkflowName.isPath (beforeFinalNewline name.toList) = true ∧ ¬"..".toList <:+: name.toList ∧
      FilePath.isAbsolute name = false ∧ '\\' ∉ name.toList := by
  unfold WorkflowName.check at h
  split at h
  · cases h
  · next hne =>
    split at h
    · cases h
    · next hpath =>
      split at h
      · cases h
      · next hleads =>
        rw [Bool.not_eq_true', Bool.not_eq_false] at hpath
        rw [WorkflowName.leadsOut, Bool.not_eq_true, Bool.or_eq_false_iff, Bool.or_eq_false_iff] at hleads
        obtain ⟨⟨hup, hroot⟩, hbackslash⟩ := hleads
        have hclean := mt (List.singleton_infix_iff '\\' name.toList).2 (not_infix_of_contains hbackslash)
        exact ⟨hne, hpath, not_infix_of_contains hup, hroot, hclean⟩

/-- A text goes on from what is before its final line feed by this line feed, or by nothing. -/
theorem exists_tail (cs : List Char) : ∃ tail, cs = beforeFinalNewline cs ++ tail ∧ '/' ∉ tail := by
  unfold beforeFinalNewline
  split
  · next hlast =>
    obtain ⟨front, rfl⟩ := List.getLast?_eq_some_iff.1 hlast
    exact ⟨['\n'], by rw [List.dropLast_concat], by decide⟩
  · exact ⟨[], (List.append_nil cs).symm, List.not_mem_nil⟩

/-- The pieces of a name with the ending are those of the name; a final line feed and the ending go to the last. -/
theorem pieces_spec (name : String) :
    ∃ front last tail, splitChars '/' (beforeFinalNewline name.toList) = front ++ [last] ∧
      splitChars '/' (name ++ suffix).toList = front ++ [last ++ tail ++ suffix.toList] := by
  obtain ⟨tail, hname, htail⟩ := exists_tail name.toList
  obtain hnil | ⟨front, last, hpieces⟩ := List.eq_nil_or_concat' (splitChars '/' (beforeFinalNewline name.toList))
  · exact absurd hnil (splitChars_ne_nil '/' _)
  · have hending : '/' ∉ tail ++ suffix.toList := by simp [htail, suffix]
    refine ⟨front, last, tail, hpieces, ?_⟩
    rw [String.toList_append, hname, List.append_assoc, splitChars_append_last hpieces hending, List.append_assoc]

theorem ofList_suffix_ne {s : String} (hs : s.length < 5) (cs : List Char) :
    String.ofList (cs ++ suffix.toList) ≠ s := by
  rintro rfl
  have hsuffix : suffix.toList.length = 5 := by decide
  rw [String.length_ofList, List.length_append] at hs
  omega

theorem pathOf_ne_nil (name : String) : pathOf name ≠ [] := by
  obtain ⟨front, last, tail, -, hpieces⟩ := pieces_spec name
  have hlast : String.ofList (last ++ tail ++ suffix.toList) ∈ pathOf name := by
    refine List.mem_filter.2 ⟨List.mem_map_of_mem (hpieces ▸ List.mem_append_right front List.mem_cons_self), ?_⟩
    rw [Bool.and_eq_true, bne_iff_ne, bne_iff_ne]
    exact ⟨ofList_suffix_ne (by decide) _, ofList_suffix_ne (by decide) _⟩
  exact List.ne_nil_of_mem hlast

/-- No piece of the path of a definition is empty or a step up, and none has a backslash in it. -/
theorem component_of_check (h : WorkflowName.check name = .ok checked) {part : String}
    (hpart : part ∈ Text.split '/' (name ++ suffix)) : part ≠ "" ∧ part ≠ ".." ∧ '\\' ∉ part.toList := by
  obtain ⟨-, hpath, hup, -, hbackslash⟩ := spec_of_check h
  obtain ⟨front, last, tail, hbefore, hpieces⟩ := pieces_spec name
  obtain ⟨p, hp, rfl⟩ := List.mem_map.1 hpart
  have hclean : '\\' ∉ (String.ofList p).toList := by
    intro hmem
    rw [String.toList_ofList] at hmem
    have hwhole := (of_mem_splitChars hp).2.subset hmem
    rw [String.toList_append, List.mem_append] at hwhole
    exact hwhole.elim hbackslash (by decide)
  rw [hpieces] at hp
  rcases List.mem_append.1 hp with hp | hp
  · have hpiece : p ∈ splitChars '/' (beforeFinalNewline name.toList) := hbefore ▸ List.mem_append_left _ hp
    refine ⟨?_, ?_, hclean⟩
    · intro hempty
      obtain rfl : p = "".toList := by rw [← hempty, String.toList_ofList]
      exact absurd (List.all_eq_true.1 hpath _ hpiece) (by decide)
    · intro hdots
      obtain rfl : p = "..".toList := by rw [← hdots, String.toList_ofList]
      obtain ⟨tail, hname, -⟩ := exists_tail name.toList
      have hbegins : beforeFinalNewline name.toList <+: name.toList := ⟨tail, hname.symm⟩
      exact hup ((of_mem_splitChars hpiece).2.trans hbegins.isInfix)
  · rw [List.mem_singleton.1 hp]
    exact ⟨ofList_suffix_ne (by decide) _, ofList_suffix_ne (by decide) _, List.mem_singleton.1 hp ▸ hclean⟩

/-- The definition with a name that is accepted is looked for below the directory, whatever the directory is: the name
is a relative path, no part of the path of its definition is empty, a step up or has a backslash in it, and lexically
this path has the root of the directory and goes on from it by the parts under which the definition is looked for in the
tree, at least one. -/
theorem find_stays_below (h : WorkflowName.check name = .ok checked) (tree : FileTree) (base : String) :
    let path := FilePath.under (FilePath.normalized base) (name ++ suffix)
    FilePath.isAbsolute name = false ∧
      (∀ part ∈ Text.split '/' (name ++ suffix), part ≠ "" ∧ part ≠ ".." ∧ '\\' ∉ part.toList) ∧
      FilePath.root path = FilePath.root base ∧
      FilePath.resolve path = FilePath.resolve base ++ pathOf name ∧ pathOf name ≠ [] ∧
      (∀ part ∈ pathOf name, FilePath.IsPart part) ∧ tree.find name = tree.textAt (pathOf name) := by
  intro path
  obtain ⟨hne, -, -, hroot, -⟩ := spec_of_check h
  have hparts : ∀ part ∈ pathOf name, FilePath.IsPart part := by
    intro part hpart
    obtain ⟨hempty, hdot, hslash⟩ := FilePath.part_spec hpart
    exact ⟨hempty, hdot, (component_of_check h (List.mem_of_mem_filter hpart)).2.1, hslash⟩
  have hrelative : FilePath.isAbsolute (name ++ suffix) = false :=
    (FilePath.isAbsolute_append hne suffix).trans hroot
  obtain ⟨hbase, hresolve⟩ := FilePath.resolve_under base hrelative fun hup => (hparts _ hup).2.2.1 rfl
  refine ⟨hroot, fun part => component_of_check h, hbase, hresolve, pathOf_ne_nil name, hparts, ?_⟩
  rw [find_eq, h, eq_of_check_ok h]
  rfl

/-- Points and a line feed in a name are no way out of a directory, nor is a step up in the directory itself. -/
theorem find_stays_below_points :
    WorkflowName.check "./a/.\n" = .ok "./a/.\n" ∧
      FilePath.resolve (FilePath.under (FilePath.normalized "/srv/../flows") ("./a/.\n" ++ suffix)) =
        ["flows", "a", ".\n.json"] := by
  have hcheck : WorkflowName.check "./a/.\n" = .ok "./a/.\n" := rfl
  obtain ⟨-, -, -, hresolve, -⟩ := find_stays_below hcheck [] "/srv/../flows"
  exact ⟨hcheck, hresolve.trans (by decide)⟩

end FileTree
end FlowRules
