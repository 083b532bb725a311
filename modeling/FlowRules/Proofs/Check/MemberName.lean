import FlowRules.Check.Coerce
import FlowRules.Proofs.Entries

/-!
# Members of enumerations by name

A member of an enumeration has a first name and may have further ones.  A text that is read as a member is sought among
all names as it is written, then among the first names and then among the values, both without regard to letter case.
Main statement: where no two names agree but for letter case, a text that agrees with a name but for letter case is read
as the member of that name exactly if it is written as the name is, the name is the first of its member, or the member
is the first whose value is written so (`EnumClass.coerce_name_iff`).  So further names are known in their own letter
case only.
-/

namespace FlowRules

/-! ### Values by their texts -/

namespace Atom

/-- The atom can be written, and its text is the word but for letter case. -/
def WrittenAs (a : Atom) (word : String) : Prop := ∃ form, a.textForm = .ok form ∧ Text.lower form = Text.lower word

/-- The atom can be written, and its text is not the word. -/
def WrittenApart (a : Atom) (word : String) : Prop := ∃ form, a.textForm = .ok form ∧ Text.lower form ≠ Text.lower word

end Atom

namespace EnumClass

variable {e : EnumClass} {name first word s : String} {a : Atom} {p : String × Atom} {ps before : List (String × Atom)}

theorem valued_cons_written (h : p.2.WrittenAs word) (ps : List (String × Atom)) :
    valued? word (p :: ps) = .ok (some p) := by
  obtain ⟨form, hform, hword⟩ := h
  rw [valued?, hform]
  exact if_pos (beq_iff_eq.2 hword)

theorem valued_cons_apart (h : p.2.WrittenApart word) (ps : List (String × Atom)) :
    valued? word (p :: ps) = valued? word ps := by
  obtain ⟨form, hform, hword⟩ := h
  rw [valued?, hform]
  exact if_neg fun heq => hword (beq_iff_eq.1 heq)

theorem valued_append (h : ∀ q ∈ before, q.2.WrittenApart word) (ps : List (String × Atom)) :
    valued? word (before ++ ps) = valued? word ps := by
  induction before with
  | nil => rfl
  | cons q before ih =>
    obtain ⟨hq, hbefore⟩ := List.forall_mem_cons.1 h
    rw [List.cons_append, valued_cons_apart hq, ih hbefore]

/-- A value is found if it has the text and those before it have other texts. -/
theorem valued_eq_some_iff :
    valued? word ps = .ok (some p) ↔
      ∃ before behind, ps = before ++ p :: behind ∧ (∀ q ∈ before, q.2.WrittenApart word) ∧ p.2.WrittenAs word := by
  constructor
  · intro h
    induction ps with
    | nil => cases h
    | cons q ps ih =>
      rcases hform : q.2.textForm with f | form
      · rw [valued?, hform] at h
        cases h
      · by_cases hword : Text.lower form = Text.lower word
        · have hwritten : q.2.WrittenAs word := ⟨form, hform, hword⟩
          rw [valued_cons_written hwritten] at h
          cases h
          exact ⟨[], ps, rfl, List.forall_mem_nil _, hwritten⟩
        · have hapart : q.2.WrittenApart word := ⟨form, hform, hword⟩
          rw [valued_cons_apart hapart] at h
          obtain ⟨before, behind, rfl, hbefore, hp⟩ := ih h
          exact ⟨q :: before, behind, rfl, List.forall_mem_cons.2 ⟨hapart, hbefore⟩, hp⟩
  · rintro ⟨before, behind, rfl, hbefore, hp⟩
    rw [valued_append hbefore, valued_cons_written hp]

/-! ### Names -/

/-- What is declared has a first name. -/
theorem exists_canonicalName (h : (name, a) ∈ e.declared) : ∃ first, e.canonicalName? a = some first := by
  have hfound : (e.declared.find? fun p => p.2 = a).isSome := by
    rw [List.find?_isSome]
    exact ⟨(name, a), h, decide_eq_true rfl⟩
  obtain ⟨p, hp⟩ := Option.isSome_iff_exists.1 hfound
  exact ⟨p.1, Option.map_eq_some_iff.2 ⟨p, hp, rfl⟩⟩

theorem mem_canonical : (name, a) ∈ e.canonical ↔ (name, a) ∈ e.declared ∧ e.canonicalName? a = some name := by
  rw [canonical, List.mem_filter, decide_eq_true_iff]

/-- The member of a declared name, if names differ. -/
theorem member_of_mem (hdistinct : (e.declared.map (·.1)).Nodup) (h : (name, a) ∈ e.declared)
    (hfirst : e.canonicalName? a = some first) : e.member? name = some (.member e first a) := by
  rw [member?, (lookup_eq_some_iff_mem hdistinct).2 h]
  show (e.canonicalName? a >>= fun canonical => some (Value.member e canonical a)) = _
  rw [hfirst]
  rfl

/-- No two names agree but for letter case. -/
def Distinct (e : EnumClass) : Prop := (e.declared.map fun p => Text.lower p.1).Nodup

instance (e : EnumClass) : Decidable e.Distinct := inferInstanceAs (Decidable (List.Nodup _))

theorem Distinct.names (h : e.Distinct) : (e.declared.map (·.1)).Nodup := by
  refine List.Nodup.of_map Text.lower ?_
  rwa [List.map_map]

theorem Distinct.unique (h : e.Distinct) (hname : (name, a) ∈ e.declared) (hp : p ∈ e.declared)
    (hlower : Text.lower p.1 = Text.lower name) : p = (name, a) :=
  List.inj_on_of_nodup_map h hp hname hlower

/-- Another spelling of a name is no name. -/
theorem Distinct.member_none (h : e.Distinct) (hname : (name, a) ∈ e.declared)
    (hword : Text.lower word = Text.lower name) (hne : word ≠ name) : e.member? word = none := by
  have hlookup : e.declared.lookup word = none := by
    rw [lookup_eq_none_iff_notMem]
    intro hmem
    obtain ⟨p, hp, rfl⟩ := List.mem_map.1 hmem
    exact hne (congrArg Prod.fst (h.unique hname hp hword))
  rw [member?, hlookup]
  rfl

/-- Without regard to letter case a name is found among the first names exactly if it is one. -/
theorem Distinct.find_canonical (h : e.Distinct) (hname : (name, a) ∈ e.declared)
    (hword : Text.lower word = Text.lower name) :
    (e.canonical.find? fun p => Text.lower p.1 == Text.lower word) =
      if e.canonicalName? a = some name then some (name, a) else none := by
  have honly : ∀ p ∈ e.canonical, Text.lower p.1 = Text.lower word → p = (name, a) := by
    intro p hp hlower
    exact h.unique hname (List.mem_of_mem_filter hp) (hlower.trans hword)
  split
  · next hfirst =>
    have hfound : (e.canonical.find? fun p => Text.lower p.1 == Text.lower word).isSome := by
      rw [List.find?_isSome]
      exact ⟨(name, a), mem_canonical.2 ⟨hname, hfirst⟩, beq_iff_eq.2 hword.symm⟩
    obtain ⟨p, hp⟩ := Option.isSome_iff_exists.1 hfound
    have hlower := List.find?_some hp
    rw [hp, honly p (List.mem_of_find?_eq_some hp) (beq_iff_eq.1 hlower)]
  · next hfirst =>
    rw [List.find?_eq_none]
    intro p hp hlower
    obtain rfl : p = (name, a) := honly p hp (beq_iff_eq.1 hlower)
    exact hfirst (mem_canonical.1 hp).2

/-! ### Reading a name -/

/-- The name as it is written. -/
theorem Distinct.read_name (h : e.Distinct) (hname : (name, a) ∈ e.declared) (hfirst : e.canonicalName? a = some first)
    (hs : Text.trim s = name) : e.read s = .ok (.member e first a) := by
  rw [EnumClass.read, hs, member_of_mem h.names hname hfirst]

/-- A first name in any letter case. -/
theorem Distinct.read_first (h : e.Distinct) (hname : (name, a) ∈ e.declared) (hfirst : e.canonicalName? a = some name)
    (hs : Text.lower (Text.trim s) = Text.lower name) : e.read s = .ok (.member e name a) := by
  by_cases hexact : Text.trim s = name
  · exact h.read_name hname hfirst hexact
  · rw [EnumClass.read, h.member_none hname hs hexact, h.find_canonical hname hs, if_pos hfirst]

/-- A further name in other letter case is left to the values. -/
theorem Distinct.read_further (h : e.Distinct) (hname : (name, a) ∈ e.declared)
    (hfurther : e.canonicalName? a ≠ some name) (hs : Text.lower (Text.trim s) = Text.lower name)
    (hne : Text.trim s ≠ name) :
    (∀ f, valued? (Text.trim s) e.canonical = .error f → e.read s = .error f) ∧
      (valued? (Text.trim s) e.canonical = .ok none → e.read s = .error (.value (.notMember s e.name))) ∧
      ∀ p, valued? (Text.trim s) e.canonical = .ok (some p) → e.read s = .ok (.member e p.1 p.2) := by
  have hfind := h.find_canonical hname hs
  rw [if_neg hfurther] at hfind
  unfold EnumClass.read
  simp only [h.member_none hname hs hne, hfind]
  refine ⟨fun f hf => ?_, fun hnone => ?_, fun p hp => ?_⟩
  · rw [hf]
    rfl
  · rw [hnone]
    rfl
  · rw [hp]
    rfl

/-- The first member whose value has a text. -/
def FirstValued (e : EnumClass) (word : String) (p : String × Atom) : Prop :=
  ∃ before behind, e.canonical = before ++ p :: behind ∧ (∀ q ∈ before, q.2.WrittenApart word) ∧ p.2.WrittenAs word

/-- A text that agrees with a declared name but for letter case is read as the member of this name exactly if it is the
name itself, the name is the first of the member, or the member is the first whose value has this text.  A further name
in other letter case, which is the text of no value, is refused. -/
theorem coerce_name_iff (make : Constructors) (hdistinct : e.Distinct) (hname : (name, a) ∈ e.declared)
    (hs : Text.lower (Text.trim s) = Text.lower name) :
    ∃ first, e.canonicalName? a = some first ∧ e.member? name = some (.member e first a) ∧
      (coerce make (some s) (some (.enumeration e)) = .ok (.member e first a) ↔
        Text.trim s = name ∨ first = name ∨ e.FirstValued (Text.trim s) (first, a)) ∧
      (Text.trim s ≠ name → first ≠ name → (∀ p ∈ e.canonical, p.2.WrittenApart (Text.trim s)) →
        coerce make (some s) (some (.enumeration e)) = .error (.value (.notMember s e.name))) := by
  obtain ⟨first, hfirst⟩ := exists_canonicalName hname
  have hfurther (hne : first ≠ name) : e.canonicalName? a ≠ some name := fun h =>
    hne (Option.some.inj (hfirst.symm.trans h))
  refine ⟨first, hfirst, member_of_mem hdistinct.names hname hfirst, ?_, fun hexact hne hvalues => ?_⟩
  · show e.read s = _ ↔ _
    by_cases hexact : Text.trim s = name
    · exact iff_of_true (hdistinct.read_name hname hfirst hexact) (.inl hexact)
    · by_cases hne : first = name
      · subst hne
        exact iff_of_true (hdistinct.read_first hname hfirst hs) (.inr (.inl rfl))
      · obtain ⟨herror, hnone, hsome⟩ := hdistinct.read_further hname (hfurther hne) hs hexact
        rw [or_iff_right hexact, or_iff_right hne, FirstValued, ← valued_eq_some_iff]
        rcases hvalues : valued? (Text.trim s) e.canonical with f | _ | p
        · rw [herror f hvalues]
          exact iff_of_false nofun nofun
        · rw [hnone hvalues]
          exact iff_of_false nofun nofun
        · rw [hsome p hvalues]
          constructor
          · intro h
            cases h
            rfl
          · intro h
            cases h
            rfl
  · have hnone : valued? (Text.trim s) e.canonical = .ok none := by
      have happend := valued_append hvalues []
      rwa [List.append_nil] at happend
    exact (hdistinct.read_further hname (hfurther hne) hs hexact).2.1 hnone

/-- Levels, the highest of which has a further name. -/
private def levels : EnumClass := ⟨"Level", .none, false, [("LOW", .int 1), ("MID", .int 2), ("HIGH", .int 3), ("TOP", .int 3)]⟩

/-- A first name in other letter case, with white space around it. -/
theorem coerce_name_level :
    levels.Distinct ∧ ("HIGH", Atom.int 3) ∈ levels.declared ∧ Text.lower (Text.trim " high ") = Text.lower "HIGH" ∧
      coerce default (some " high ") (some (.enumeration levels)) = .ok (.member levels "HIGH" (.int 3)) := by
  have hdistinct : levels.Distinct := by decide
  have hname : ("HIGH", Atom.int 3) ∈ levels.declared := by decide
  have hs : Text.lower (Text.trim " high ") = Text.lower "HIGH" := by decide
  have hhigh : levels.canonicalName? (.int 3) = some "HIGH" := by decide
  obtain ⟨first, hfirst, -, hread, -⟩ := coerce_name_iff default hdistinct hname hs
  obtain rfl : first = "HIGH" := Option.some.inj (hfirst.symm.trans hhigh)
  exact ⟨hdistinct, hname, hs, hread.2 (.inr (.inl rfl))⟩

/-- The further name is refused in other letter case. -/
theorem coerce_further_refused :
    levels.Distinct ∧ ("TOP", Atom.int 3) ∈ levels.declared ∧ Text.lower (Text.trim "top") = Text.lower "TOP" ∧
      levels.member? "TOP" = some (.member levels "HIGH" (.int 3)) ∧
      coerce default (some "top") (some (.enumeration levels)) = .error (.value (.notMember "top" "Level")) :=
  ⟨by decide, by decide, by decide, rfl, rfl⟩

end EnumClass
end FlowRules
