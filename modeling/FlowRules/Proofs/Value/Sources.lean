import FlowRules.Proofs.Check.Reading

/-!
# Values without sources

A value has no sources when it is none and there is none in it, however deep.  Main statements: whatever is found in
such a value has none either, be it an attribute, an item, an entry (`Value.Sourceless.offers`) or the part that a path
names (`Value.Sourceless.field`), and so have the items that it is gone through by (`Value.Sourceless.items`).
-/

namespace FlowRules

namespace Value

/-- What a value is made of: items, keys and entries, attributes, and what else its class offers. -/
def parts : Value → List Value
  | .atom _ | .member .. | .other _ => []
  | .tuple _ _ items => items
  | .list _ items => items
  | .set _ items => items
  | .dict _ entries => entries.flatMap fun e => [e.1, e.2]
  | .object _ _ fields offers _ => fields.map Prod.snd ++ offers.map Prod.snd
  | .source _ items => items

/-- A value is a source, or there is one in it. -/
inductive Sourced : Value → Prop where
  | source {id : Nat} {items : List Value} : Sourced (.source id items)
  | part {v w : Value} (hw : w ∈ v.parts) (h : Sourced w) : Sourced v

def Sourceless (v : Value) : Prop := ¬ v.Sourced

variable {v w : Value} {name : String}

theorem Sourceless.part (hv : v.Sourceless) (hw : w ∈ v.parts) : w.Sourceless := fun h => hv (.part hw h)

theorem Sourceless.ne_source (hv : v.Sourceless) (id : Nat) (items : List Value) : v ≠ .source id items := by
  rintro rfl
  exact hv .source

theorem sourceless_of_parts (hv : ∀ id items, v ≠ .source id items) (h : ∀ w ∈ v.parts, w.Sourceless) :
    v.Sourceless := by
  rintro (_ | ⟨hw, hsourced⟩)
  · exact hv _ _ rfl
  · exact h _ hw hsourced

theorem sourceless_atom (a : Atom) : (Value.atom a).Sourceless := sourceless_of_parts nofun nofun

theorem sourceless_member (e : EnumClass) (a : Atom) : (Value.member e name a).Sourceless :=
  sourceless_of_parts nofun nofun

theorem IsPlain.sourceless (h : v.IsPlain) : v.Sourceless := by
  cases v with
  | atom a => exact sourceless_atom a
  | other type => exact sourceless_of_parts nofun nofun
  | _ => cases h

/-! ### What is found in a value -/

private theorem sourceless_of_member? {e : EnumClass} (h : e.member? name = some w) : w.Sourceless := by
  obtain ⟨a, -, h⟩ := Option.bind_eq_some_iff.1 h
  obtain ⟨canonical, -, h⟩ := Option.bind_eq_some_iff.1 h
  cases h
  exact sourceless_member e a

theorem Sourceless.attribute (hv : v.Sourceless) (h : v.attribute? name = .ok (some w)) : w.Sourceless := by
  cases v with
  | atom a => exact (Atom.attribute_plain (Except.ok.inj h)).sourceless
  | member e own a =>
    dsimp only [attribute?] at h
    split at h
    · cases h
      exact sourceless_atom _
    · cases h
      exact sourceless_atom a
    · split at h
      · next m hm =>
        cases h
        exact sourceless_of_member? hm
      · have h := Except.ok.inj h
        split at h
        · cases h
        · exact (Atom.attribute_plain h).sourceless
  | tuple id label items =>
    dsimp only [attribute?] at h
    split at h
    · rcases Option.or_eq_some_iff.1 (Except.ok.inj h) with h | ⟨-, h⟩
      · exact hv.part (List.of_mem_zip (mem_of_lookup h)).2
      · exact (Atom.operation_plain h).sourceless
    · exact (Atom.operation_plain (Except.ok.inj h)).sourceless
  | list id items => exact (Atom.operation_plain (Except.ok.inj h)).sourceless
  | set id items => exact (Atom.operation_plain (Except.ok.inj h)).sourceless
  | dict id entries => cases h
  | object id cls fields offers failing =>
    dsimp only [attribute?] at h
    split at h
    · cases h
    · rcases Option.or_eq_some_iff.1 (Except.ok.inj h) with h | ⟨-, h⟩
      · exact hv.part (List.mem_append_left _ (List.mem_map_of_mem (mem_of_lookup h)))
      · exact hv.part (List.mem_append_right _ (List.mem_map_of_mem (mem_of_lookup h)))
  | source id items => exact absurd rfl (hv.ne_source id items)
  | other type => cases h

theorem Sourceless.offers (h : v.Offers w) (hv : v.Sourceless) : w.Sourceless := by
  rcases h with h | ⟨hitems, hw⟩ | hentry
  · exact hv.attribute h
  · refine hv.part ?_
    unfold sequenceItems? at hitems
    split at hitems <;> cases hitems <;> exact hw
  · exact hv.part (List.mem_flatMap.2 ⟨_, hentry, by simp⟩)

theorem Sourceless.field (hv : v.Sourceless) {path : String} (h : v.field? path = .ok (some w)) : w.Sourceless :=
  field_found (fun _ _ => Sourceless.offers) hv h

theorem Sourceless.items (hv : v.Sourceless) {items : List Value} (h : v.items? = some items) (hw : w ∈ items) :
    w.Sourceless := by
  cases v with
  | tuple id label items =>
    cases h
    exact hv.part hw
  | list id items =>
    cases h
    exact hv.part hw
  | set id items =>
    cases h
    exact hv.part hw
  | dict id entries =>
    cases h
    obtain ⟨e, he, rfl⟩ := List.mem_map.1 hw
    exact hv.part (List.mem_flatMap.2 ⟨e, he, List.mem_cons_self⟩)
  | object id cls fields offers failing =>
    rw [items?] at h
    split at h
    · cases h
      obtain ⟨d, -, hd⟩ := List.mem_filterMap.1 hw
      obtain ⟨u, hu, rfl⟩ := Option.map_eq_some_iff.1 hd
      have hu : u.Sourceless := hv.part (List.mem_append_left _ (List.mem_map_of_mem (mem_of_lookup hu)))
      -- the pair of a name and a value is made for the occasion
      refine sourceless_of_parts nofun fun w hw => ?_
      rcases List.mem_pair.1 hw with rfl | rfl
      · exact sourceless_atom _
      · exact hu
    · cases h
  | source id items => exact absurd rfl (hv.ne_source id items)
  | atom a => cases h
  | member e own a => cases h
  | other type => cases h

end Value
end FlowRules
