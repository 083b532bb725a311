import Mathlib.Data.List.Infix
import FlowRules.Proofs.Condition.Layout
import FlowRules.Proofs.Store.Containment

/-!
# Names and keys that are accepted

A name of a workflow is one or more segments of plain characters, joined by single slashes, with no two points in a row;
a key of a handler is a letter or an underscore and what may follow it.  Both have a length that they may not exceed.
Main statement: accepted, as they are, are just these texts and those with a line feed behind them that are not too long
with it; all others are refused as unsuitable values (`names_and_keys_accepted`).  The line feed is not meant to be let
through (`final_newline_accepted`).
-/

namespace FlowRules

/-! ### Splitting and searching -/

namespace Text

variable {cs needle : List Char}

theorem intercalate_splitChars (sep : Char) (cs : List Char) : [sep].intercalate (splitChars sep cs) = cs := by
  induction cs with
  | nil => rfl
  | cons c cs ih =>
    by_cases hc : c = sep
    · obtain ⟨p, ps, hps⟩ := List.exists_cons_of_ne_nil (splitChars_ne_nil sep cs)
      rw [hps] at ih
      rw [splitChars, if_pos hc, hps, List.intercalate_cons_cons, ih, hc]
      rfl
    · obtain ⟨p, ps, hps, hcons⟩ := splitChars_cons hc cs
      rw [hps] at ih
      rw [hcons, ← ih]
      cases ps <;> simp [List.intercalate_cons_cons]

theorem infix_of_occursIn (h : occursIn needle cs = true) : needle <:+: cs := by
  induction cs with
  | nil =>
    obtain rfl := List.isEmpty_iff.1 h
    exact List.infix_rfl
  | cons c cs ih =>
    rw [occursIn, Bool.or_eq_true, List.isPrefixOf_iff_prefix] at h
    exact h.elim List.IsPrefix.isInfix fun hrest => List.infix_cons (ih hrest)

theorem contains_eq_false_iff {s t : String} : contains s t = false ↔ ¬t.toList <:+: s.toList := by
  refine ⟨not_infix_of_contains, fun h => ?_⟩
  rw [Bool.eq_false_iff]
  exact mt infix_of_occursIn h

/-! ### A line feed at the end -/

/-- What is asked of the part before a final line feed is asked of the text, or of all of it but the line feed. -/
theorem beforeFinalNewline_iff {P : List Char → Prop} (hP : ∀ cs, P cs → '\n' ∉ cs) :
    P (beforeFinalNewline cs) ↔ P cs ∨ ∃ front, cs = front ++ ['\n'] ∧ P front := by
  unfold beforeFinalNewline
  split
  · next hlast =>
    obtain ⟨front, rfl⟩ := List.getLast?_eq_some_iff.1 hlast
    rw [List.dropLast_concat]
    constructor
    · exact fun h => .inr ⟨front, rfl, h⟩
    · rintro (h | ⟨front', hfront, h⟩)
      · exact absurd (List.mem_append_right front List.mem_cons_self) (hP _ h)
      · rwa [(List.append_inj' hfront rfl).1]
  · next hlast =>
    constructor
    · exact .inl
    · rintro (h | ⟨front, rfl, -⟩)
      · exact h
      · exact absurd List.getLast?_concat hlast

/-- What has no line feed in it occurs in a text just if it occurs before the final line feed. -/
theorem infix_beforeFinalNewline (h : '\n' ∉ needle) : needle <:+: beforeFinalNewline cs ↔ needle <:+: cs := by
  unfold beforeFinalNewline
  split
  · next hlast =>
    obtain ⟨front, rfl⟩ := List.getLast?_eq_some_iff.1 hlast
    rw [List.dropLast_concat, List.infix_concat_iff, List.suffix_concat_iff]
    constructor
    · exact .inr
    · rintro ((rfl | ⟨t, rfl, -⟩) | hfront)
      · exact List.nil_infix
      · exact absurd (List.mem_append_right t List.mem_cons_self) h
      · exact hfront
  · exact Iff.rfl

end Text

/-! ### Languages -/

/-- The texts of a form that are not empty and no longer than a limit. -/
def Language (limit : Nat) (form : List Char → Prop) (s : String) : Prop :=
  0 < s.length ∧ s.length ≤ limit ∧ form s.toList

/-- The texts of the language, and those with a line feed behind them that are no longer than the limit. -/
def LanguageAndNewline (limit : Nat) (form : List Char → Prop) (s : String) : Prop :=
  Language limit form s ∨ ∃ t, s = t ++ "\n" ∧ Language limit form t ∧ s.length ≤ limit

/-- A check gives the texts of the language as they are, and refuses all others as unsuitable values. -/
def AcceptsJust (language : String → Prop) (check : String → Except Fault String) : Prop :=
  ∀ s, (language s → check s = .ok s) ∧ (¬language s → ∃ f, check s = .error f ∧ f.kind = "ValueError")

/-- What is asked before a final line feed, and of the length, is the language with these line feeds. -/
theorem languageAndNewline_iff {limit : Nat} {form : List Char → Prop} (hnil : ¬form [])
    (hform : ∀ cs, form cs → '\n' ∉ cs) (s : String) :
    LanguageAndNewline limit form s ↔ form (Text.beforeFinalNewline s.toList) ∧ s.length ≤ limit := by
  have hpos (t : String) (ht : form t.toList) : 0 < t.length := by
    rw [← String.length_toList]
    refine List.length_pos_of_ne_nil fun h => hnil ?_
    rwa [h] at ht
  rw [Text.beforeFinalNewline_iff hform]
  constructor
  · rintro (⟨-, hlength, hs⟩ | ⟨t, rfl, ⟨-, -, ht⟩, hlength⟩)
    · exact ⟨.inl hs, hlength⟩
    · exact ⟨.inr ⟨t.toList, String.toList_append, ht⟩, hlength⟩
  · rintro ⟨hs | ⟨front, hfront, ht⟩, hlength⟩
    · exact .inl ⟨hpos s hs, hlength, hs⟩
    · obtain rfl : s = String.ofList front ++ "\n" := by
        rw [← String.toList_inj, hfront, String.toList_append, String.toList_ofList]
        rfl
      rw [← String.toList_ofList (l := front)] at ht
      have hle : (String.ofList front).length ≤ limit := by
        rw [String.length_append] at hlength
        exact Nat.le_of_add_right_le hlength
      exact .inr ⟨_, rfl, ⟨hpos _ ht, hle, ht⟩, hlength⟩

/-! ### Names of workflows -/

namespace WorkflowName

variable {cs : List Char} {name : String}

/-- A letter, a digit, an underscore, a point or a dash. -/
def IsPlain (c : Char) : Prop :=
  ('a' ≤ c ∧ c ≤ 'z') ∨ ('A' ≤ c ∧ c ≤ 'Z') ∨ ('0' ≤ c ∧ c ≤ '9') ∨ c = '_' ∨ c = '.' ∨ c = '-'

/-- One or more segments of plain characters, none of them empty, joined by single slashes. -/
def IsSegments (cs : List Char) : Prop :=
  ∃ segments, segments ≠ [] ∧ (∀ s ∈ segments, s ≠ [] ∧ ∀ c ∈ s, IsPlain c) ∧ cs = ['/'].intercalate segments

/-- The form of a name: segments, and nowhere two points in a row. -/
def IsName (cs : List Char) : Prop := IsSegments cs ∧ ¬['.', '.'] <:+: cs

theorem isNameChar_iff {c : Char} : isNameChar c = true ↔ IsPlain c := by
  simp only [isNameChar, isAsciiLetter, isAsciiDigit, IsPlain, Bool.or_eq_true, Bool.and_eq_true, decide_eq_true_eq,
    or_assoc]

theorem isPath_iff : isPath cs = true ↔ IsSegments cs := by
  have hsegments (segments : List (List Char)) :
      (segments.all fun s => !s.isEmpty && s.all isNameChar) = true ↔ ∀ s ∈ segments, s ≠ [] ∧ ∀ c ∈ s, IsPlain c := by
    simp [isNameChar_iff]
  rw [isPath, hsegments]
  constructor
  · exact fun h => ⟨_, Text.splitChars_ne_nil '/' cs, h, (Text.intercalate_splitChars '/' cs).symm⟩
  · rintro ⟨segments, hne, h, rfl⟩
    have hslash : ∀ s ∈ segments, '/' ∉ s := by
      intro s hs hmem
      have hplain := (h s hs).2 '/' hmem
      revert hplain
      unfold IsPlain
      decide
    rwa [Text.splitChars_intercalate hne hslash]

/-- The characters of a name are plain or slashes, and the first is plain. -/
theorem IsSegments.chars (h : IsSegments cs) : ∃ c ds, cs = c :: ds ∧ IsPlain c ∧ ∀ d ∈ ds, IsPlain d ∨ d = '/' := by
  obtain ⟨segments, hne, h, rfl⟩ := h
  induction segments with
  | nil => exact absurd rfl hne
  | cons s segments ih =>
    obtain ⟨⟨hs, hplain⟩, hmore⟩ := List.forall_mem_cons.1 h
    obtain ⟨c, s, rfl⟩ := List.exists_cons_of_ne_nil hs
    obtain ⟨hc, hplain⟩ := List.forall_mem_cons.1 hplain
    have hrest : ∀ d ∈ s, IsPlain d ∨ d = '/' := fun d hd => .inl (hplain d hd)
    rcases segments with _ | ⟨t, segments⟩
    · exact ⟨c, s, by rw [List.intercalate_singleton], hc, hrest⟩
    · obtain ⟨d, ds, hds, hd, hchars⟩ := ih (List.cons_ne_nil _ _) hmore
      refine ⟨c, s ++ ('/' :: d :: ds), ?_, hc, ?_⟩
      · rw [List.intercalate_cons_cons, hds, List.append_assoc]
        rfl
      · exact List.forall_mem_append.2
          ⟨hrest, List.forall_mem_cons.2 ⟨.inr rfl, List.forall_mem_cons.2 ⟨.inl hd, hchars⟩⟩⟩

theorem not_isPlain : ¬IsPlain '/' ∧ ¬IsPlain '\\' ∧ ¬IsPlain '\n' := by
  unfold IsPlain
  decide

theorem IsSegments.notMem (h : IsSegments cs) : '\\' ∉ cs ∧ '\n' ∉ cs := by
  obtain ⟨c, ds, rfl, hc, hds⟩ := h.chars
  have hchars : ∀ d ∈ c :: ds, IsPlain d ∨ d = '/' := List.forall_mem_cons.2 ⟨.inl hc, hds⟩
  exact ⟨fun hmem => (hchars _ hmem).elim not_isPlain.2.1 nofun, fun hmem => (hchars _ hmem).elim not_isPlain.2.2 nofun⟩

/-- Of what could lead out of a directory there can only be two points in a row in a name of segments. -/
theorem leadsOut_eq_false_iff (h : IsSegments (Text.beforeFinalNewline name.toList)) :
    leadsOut name = false ↔ ¬['.', '.'] <:+: Text.beforeFinalNewline name.toList := by
  have hroot : Text.startsWith name "/" = false := by
    obtain ⟨c, ds, hbefore, hc, -⟩ := h.chars
    obtain ⟨tail, hname, -⟩ := FileTree.exists_tail name.toList
    have hslash : '/' ≠ c := fun hslash => not_isPlain.1 (hslash ▸ hc)
    rw [Text.startsWith, hname, hbefore, Bool.eq_false_iff]
    exact fun hprefix => hslash (List.cons_prefix_cons.1 (List.isPrefixOf_iff_prefix.1 hprefix)).1
  have hbackslash : Text.contains name "\\" = false := by
    have hmem : '\\' ∉ Text.beforeFinalNewline name.toList := h.notMem.1
    rw [Text.contains_eq_false_iff, ← Text.infix_beforeFinalNewline (by decide)]
    exact mt (List.singleton_infix_iff _ _).1 hmem
  rw [leadsOut, hroot, hbackslash, Bool.or_false, Bool.or_false, Text.contains_eq_false_iff,
    ← Text.infix_beforeFinalNewline (by decide)]
  rfl

theorem acceptsJust : AcceptsJust (LanguageAndNewline maxLength IsName) check := by
  intro name
  rw [languageAndNewline_iff (fun h => nomatch h.1.chars) fun cs h => h.1.notMem.2]
  constructor
  · rintro ⟨⟨hsegments, hup⟩, hlength⟩
    have hne : name ≠ "" := by
      rintro rfl
      exact nomatch hsegments.chars
    have hpath : ¬(!isPath (Text.beforeFinalNewline name.toList)) = true := by simpa using isPath_iff.2 hsegments
    have hleads : ¬leadsOut name = true := Bool.eq_false_iff.1 ((leadsOut_eq_false_iff hsegments).2 hup)
    rw [check, if_neg hne, if_neg hpath, if_neg hleads, if_neg (Nat.not_lt.2 hlength)]
  · intro h
    unfold check
    split
    · exact ⟨_, rfl, rfl⟩
    · split
      · exact ⟨_, rfl, rfl⟩
      · next hpath =>
        have hsegments := isPath_iff.1 (by simpa using hpath)
        split
        · exact ⟨_, rfl, rfl⟩
        · next hleads =>
          have hup := (leadsOut_eq_false_iff hsegments).1 (Bool.eq_false_iff.2 hleads)
          have hlong : maxLength < name.length := Nat.lt_of_not_le fun hlength => h ⟨⟨hsegments, hup⟩, hlength⟩
          exact ⟨_, if_pos hlong, rfl⟩

end WorkflowName

/-! ### Keys of handlers -/

namespace HandlerKey

variable {cs : List Char} {key : String}

/-- A letter or an underscore. -/
def MayStart (c : Char) : Prop := ('a' ≤ c ∧ c ≤ 'z') ∨ ('A' ≤ c ∧ c ≤ 'Z') ∨ c = '_'

/-- A plain character or a colon. -/
def MayFollow (c : Char) : Prop := WorkflowName.IsPlain c ∨ c = ':'

/-- The form of a key. -/
def IsKey (cs : List Char) : Prop := ∃ c ds, cs = c :: ds ∧ MayStart c ∧ ∀ d ∈ ds, MayFollow d

theorem isStart_iff {c : Char} : isStart c = true ↔ MayStart c := by
  simp only [isStart, isAsciiLetter, MayStart, Bool.or_eq_true, Bool.and_eq_true, decide_eq_true_eq, or_assoc]

theorem isRest_iff {c : Char} : isRest c = true ↔ MayFollow c := by
  have hrest : isRest c = (WorkflowName.isNameChar c || c = ':') := by
    simp only [isRest, WorkflowName.isNameChar, Bool.or_assoc, Bool.or_comm (decide (c = ':'))]
  rw [hrest, Bool.or_eq_true, WorkflowName.isNameChar_iff, decide_eq_true_iff, MayFollow]

theorem isKey_iff : isKey cs = true ↔ IsKey cs := by
  cases cs with
  | nil => exact ⟨nofun, nofun⟩
  | cons c ds =>
    rw [isKey, Bool.and_eq_true, isStart_iff, List.all_eq_true]
    simp only [isRest_iff]
    constructor
    · exact fun h => ⟨c, ds, rfl, h⟩
    · rintro ⟨_, _, hchars, h⟩
      obtain ⟨rfl, rfl⟩ := List.cons.inj hchars
      exact h

theorem IsKey.newline_notMem (h : IsKey cs) : '\n' ∉ cs := by
  obtain ⟨c, ds, rfl, hc, hds⟩ := h
  intro hmem
  rcases List.mem_cons.1 hmem with rfl | hmem
  · revert hc
    unfold MayStart
    decide
  · exact (hds _ hmem).elim WorkflowName.not_isPlain.2.2 nofun

/-- What begins with a letter or an underscore is not blank. -/
theorem not_blank (h : IsKey (Text.beforeFinalNewline key.toList)) : Text.isBlankText key = false := by
  obtain ⟨c, ds, hbefore, hc, -⟩ := h
  obtain ⟨tail, hkey, -⟩ := FileTree.exists_tail key.toList
  have hstart : Text.isNameStart c = true := by
    have hstart := isStart_iff.2 hc
    simpa [isStart, isAsciiLetter, Text.isNameStart] using hstart
  rw [Text.isBlankText, hkey, hbefore, List.cons_append, List.all_cons, (nameStart_spec hstart).1, Bool.false_and]

theorem acceptsJust (label : String) :
    AcceptsJust (LanguageAndNewline maxLength IsKey) fun key => check key label := by
  intro key
  rw [languageAndNewline_iff nofun fun cs h => h.newline_notMem]
  constructor
  · rintro ⟨hform, hlength⟩
    have hkey : ¬(!isKey (Text.beforeFinalNewline key.toList)) = true := by simpa using isKey_iff.2 hform
    dsimp only
    rw [check, if_neg (Bool.eq_false_iff.1 (not_blank hform)), if_neg hkey, if_neg (Nat.not_lt.2 hlength)]
  · intro h
    dsimp only [check]
    split
    · exact ⟨_, rfl, rfl⟩
    · split
      · exact ⟨_, rfl, rfl⟩
      · next hkey =>
        have hform := isKey_iff.1 (by simpa using hkey)
        have hlong : maxLength < key.length := Nat.lt_of_not_le fun hlength => h ⟨hform, hlength⟩
        exact ⟨_, if_pos hlong, rfl⟩

end HandlerKey

/-! ### What is accepted -/

/-- The check of names gives the names of one to 255 characters as they are, that of keys the keys of one to 200;
besides these both let through a line feed behind such a text, if it does not make it longer than that.  All else is
refused as an unsuitable value. -/
theorem names_and_keys_accepted (label : String) :
    AcceptsJust (LanguageAndNewline 255 WorkflowName.IsName) WorkflowName.check ∧
      AcceptsJust (LanguageAndNewline 200 HandlerKey.IsKey) fun key => HandlerKey.check key label :=
  ⟨WorkflowName.acceptsJust, HandlerKey.acceptsJust label⟩

/-- A name and a key with a line feed behind them are accepted, and are neither names nor keys. -/
theorem final_newline_accepted :
    (WorkflowName.check "orders\n" = .ok "orders\n" ∧ ¬Language 255 WorkflowName.IsName "orders\n") ∧
      HandlerKey.check "record_sku\n" HandlerKey.defaultLabel = .ok "record_sku\n" ∧
        ¬Language 200 HandlerKey.IsKey "record_sku\n" := by
  have hname : ¬WorkflowName.IsName "orders\n".toList := fun h => h.1.notMem.2 (by decide)
  have hkey : ¬HandlerKey.IsKey "record_sku\n".toList := fun h => h.newline_notMem (by decide)
  exact ⟨⟨by decide, fun h => hname h.2.2⟩, by decide, fun h => hkey h.2.2⟩

end FlowRules
