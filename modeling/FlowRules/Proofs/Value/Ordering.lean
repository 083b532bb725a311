import FlowRules.Proofs.Value.Mirror

/-!
# The order of values

What stands in an order stands in the opposite one from the other side, and what stands in none fails from either side
(`Value.ordered_swap`).  Sequences need a look at equality: where that is answered from one side only, the items are of
kinds that stand in no order (`Value.ordered_error_of_equals`).
-/

namespace FlowRules

namespace Comparison

/-- The comparison that says the same from the other side. -/
def swap : Comparison → Comparison
  | lt => gt
  | le => ge
  | gt => lt
  | ge => le

theorem swap_holds (op : Comparison) (o : Ordering) : op.swap.holds o.swap = op.holds o := by
  cases op <;> cases o <;> rfl

end Comparison

/-! ### Atoms -/

theorem compareChars_swap (cs ds : List Char) : compareChars ds cs = (compareChars cs ds).swap := by
  induction cs generalizing ds with
  | nil => cases ds <;> rfl
  | cons c cs ih =>
    cases ds with
    | nil => rfl
    | cons d ds =>
      rw [compareChars, compareChars, ← Nat.compare_swap c.toNat d.toNat, ih ds]
      cases compare c.toNat d.toNat <;> rfl

theorem compareBytes_swap (cs ds : List UInt8) : compareBytes ds cs = (compareBytes cs ds).swap := by
  induction cs generalizing ds with
  | nil => cases ds <;> rfl
  | cons c cs ih =>
    cases ds with
    | nil => rfl
    | cons d ds =>
      rw [compareBytes, compareBytes, ← Nat.compare_swap c.toNat d.toNat, ih ds]
      cases compare c.toNat d.toNat <;> rfl

namespace Atom

variable {a b : Atom}

/-- The order of numbers from the other side. -/
theorem ordered?_swap_numbers (op : Comparison) {m n : Number} (ha : a.number? = some m) (hb : b.number? = some n) :
    (b.ordered? op.swap a).map Except.toOption = (a.ordered? op b).map Except.toOption := by
  simp only [ordered?, ha, hb, Number.order_swap m n]
  rcases m.order n with f | _ | o
  · rfl
  · rfl
  · exact congrArg (fun b => some (some b)) (op.swap_holds o)

/-- Both sides give the same answer, or both fail, or neither has a kind to compare. -/
theorem ordered?_swap (op : Comparison) (a b : Atom) :
    (b.ordered? op.swap a).map Except.toOption = (a.ordered? op b).map Except.toOption := by
  have hsame {o p : Ordering} (h : p = o.swap) : some (some (op.swap.holds p)) = some (some (op.holds o)) := by
    rw [h, op.swap_holds]
  rcases ha : a.number? with _ | m
  · cases a with
    | text s =>
      cases b with
      | text t => exact hsame (compareChars_swap _ _)
      | _ => rfl
    | bytes s | byteArray s =>
      cases b with
      | bytes t | byteArray t => exact hsame (compareBytes_swap _ _)
      | _ => rfl
    | date d =>
      cases b with
      | date e => exact hsame (Nat.compare_swap _ _).symm
      | _ => rfl
    | dateTime t =>
      cases b with
      | dateTime u =>
        simp only [ordered?, number?, DateTime.compare?_swap t u]
        rcases t.compare? u with _ | o
        · rfl
        · exact hsame rfl
      | _ => rfl
    | span m =>
      cases b with
      | span n => exact hsame (Int.compare_swap _ _).symm
      | _ => rfl
    | null | zone => cases b <;> rfl
    | _ => cases ha
  · rcases hb : b.number? with _ | n
    · simp only [ordered?, ha, hb]
      cases a with
      | bool | int | float | decimal => cases b <;> rfl
      | _ => cases ha
    · exact ordered?_swap_numbers op ha hb

/-- Where the question for equality fails, so does the one for an order, from the other side. -/
theorem ordered?_error_of_equals {f : Fault} (op : Comparison) (h : a.equals b = .error f) :
    ∃ g, b.ordered? op a = some (.error g) := by
  rw [equals_eq] at h
  split at h
  · next m n hm hn =>
    have hsignaling : (m.isSignaling || n.isSignaling) = true := by
      by_contra hnot
      rw [Number.equals_eq, if_neg hnot] at h
      cases h
    have hvalue {k : Number} (hk : k.isSignaling = true) : k.isDecimal = true ∧ k.value? = none := by
      cases k with
      | decimal d =>
        cases d with
        | nan => exact ⟨rfl, rfl⟩
        | finite | infinite => cases hk
      | int | float => cases hk
    have hnone : Number.byValue? n m = none ∧ (n.isDecimal || m.isDecimal) = true := by
      rcases Bool.or_eq_true_iff.1 hsignaling with hk | hk
      · obtain ⟨hdecimal, hnone⟩ := hvalue hk
        rw [Number.byValue?, hnone, hdecimal, Bool.or_true]
        exact ⟨by cases n.value? <;> rfl, rfl⟩
      · obtain ⟨hdecimal, hnone⟩ := hvalue hk
        rw [Number.byValue?, hnone, hdecimal]
        exact ⟨rfl, rfl⟩
    simp only [ordered?, hm, hn, Number.order_eq, hnone.1, hnone.2]
    exact ⟨_, rfl⟩
  · split at h
    · cases h
    · split at h <;> cases h

end Atom

namespace Value

variable {heap : Nat → Value} {v w x y : Value} {a b : Atom} {op : Comparison}

/-! ### Kinds -/

theorem ordered_of_atom? (op : Comparison) (hv : v.atom? = some a) (hw : w.atom? = some b) :
    ∃ f, v.ordered op w = (a.ordered? op b).getD (.error f) := by
  cases v with
  | atom c =>
    unfold ordered
    simp only [hv, hw]
    exact ⟨_, rfl⟩
  | member e name c =>
    unfold ordered
    simp only [hv, hw]
    exact ⟨_, rfl⟩
  | _ => cases hv

theorem ordered_of_not_paired (op : Comparison) (h : ¬Paired v w) : ∃ f, v.ordered op w = .error f := by
  rcases hv : v.atom? with _ | a
  · cases v with
    | atom => cases hv
    | member e name a =>
      unfold ordered
      simp only [hv]
      exact ⟨_, rfl⟩
    | tuple =>
      cases w with
      | tuple => exact absurd .tuples h
      | _ => exact ⟨_, rfl⟩
    | list =>
      cases w with
      | list => exact absurd .lists h
      | _ => exact ⟨_, rfl⟩
    | set =>
      cases w with
      | set => exact absurd .sets h
      | _ => exact ⟨_, rfl⟩
    | _ => exact ⟨_, rfl⟩
  · have hw : w.atom? = none := by
      rcases hw : w.atom? with _ | b
      · rfl
      · exact absurd (.atoms hv hw) h
    cases v with
    | atom | member =>
      unfold ordered
      simp only [hv, hw]
      exact ⟨_, rfl⟩
    | _ => cases hv

/-! ### Sequences -/

section

variable {xs ys : List Value}

theorem orderedList_cons (op : Comparison) (x y : Value) (xs ys : List Value) :
    orderedList op (x :: xs) (y :: ys) =
      (x.equals y >>= fun b => if b then orderedList op xs ys else x.ordered op y) := rfl

/-- What a question for equality of items says to the other side: if it is affirmed, so is it there; if it fails, it
fails there or the items are in no order. -/
def Consistent (x y : Value) : Prop :=
  (x.equals y = .ok true ↔ y.equals x = .ok true) ∧
    ∀ (op : Comparison) (f : Fault), x.equals y = .error f → ∃ g, y.ordered op x = .error g

theorem orderedList_error {f : Fault} (op : Comparison) (h : ∀ x ∈ xs, ∀ y ∈ ys, Consistent x y)
    (herror : equalsList xs ys = .error f) : ∃ g, orderedList op ys xs = .error g := by
  induction xs generalizing ys with
  | nil => cases herror
  | cons x xs ih =>
    cases ys with
    | nil => cases herror
    | cons y ys =>
      obtain ⟨hyes, hfails⟩ := h x List.mem_cons_self y List.mem_cons_self
      have hunfold : (x.equals y >>= fun b => if b then equalsList xs ys else .ok false) = .error f := herror
      rw [orderedList_cons]
      rcases hxy : x.equals y with g | _ | _
      · rcases hyx : y.equals x with k | _ | _
        · exact ⟨k, rfl⟩
        · exact hfails op g hxy
        · rw [hyes.2 hyx] at hxy
          cases hxy
      · rw [hxy] at hunfold
        cases hunfold
      · rw [hxy] at hunfold
        rw [hyes.1 hxy]
        exact ih (fun x hx y hy => h x (List.mem_cons_of_mem _ hx) y (List.mem_cons_of_mem _ hy)) hunfold

theorem orderedList_swap (op : Comparison) (h : ∀ x ∈ xs, ∀ y ∈ ys, Consistent x y ∧ Consistent y x)
    (hswap : ∀ x ∈ xs, ∀ y ∈ ys, (y.ordered op.swap x).toOption = (x.ordered op y).toOption) :
    (orderedList op.swap ys xs).toOption = (orderedList op xs ys).toOption := by
  induction xs generalizing ys with
  | nil =>
    cases ys with
    | nil => exact congrArg some (op.swap_holds .eq)
    | cons y ys => exact congrArg some (op.swap_holds .lt)
  | cons x xs ih =>
    cases ys with
    | nil => exact congrArg some (op.swap_holds .gt)
    | cons y ys =>
      obtain ⟨⟨hyes, hfails⟩, -, hfails'⟩ := h x List.mem_cons_self y List.mem_cons_self
      have hfirst := hswap x List.mem_cons_self y List.mem_cons_self
      rw [orderedList_cons, orderedList_cons]
      rcases hxy : x.equals y with f | _ | _ <;> rcases hyx : y.equals x with g | _ | _
      · rfl
      · -- the other side asks for the order, which there is none of
        obtain ⟨g, hg⟩ := hfails op.swap f hxy
        show (y.ordered op.swap x).toOption = none
        rw [hg]
        rfl
      · rw [hyes.2 hyx] at hxy
        cases hxy
      · obtain ⟨f, hf⟩ := hfails' op g hyx
        show none = (x.ordered op y).toOption
        rw [hf]
        rfl
      · exact hfirst
      · rw [hyes.2 hyx] at hxy
        cases hxy
      · rw [hyes.1 hxy] at hyx
        cases hyx
      · rw [hyes.1 hxy] at hyx
        cases hyx
      · exact ih (fun x hx y hy => h x (List.mem_cons_of_mem _ hx) y (List.mem_cons_of_mem _ hy))
          fun x hx y hy => hswap x (List.mem_cons_of_mem _ hx) y (List.mem_cons_of_mem _ hy)

end

/-- Where the question whether two values are equal fails, they are in no order from the other side. -/
theorem ordered_error_of_equals (v w : Value) : v.HeldIn heap → w.HeldIn heap →
    ∀ (op : Comparison) (f : Fault), v.equals w = .error f → ∃ g, w.ordered op v = .error g := by
  have hconsistent {x y : Value} (hx : x.HeldIn heap) (hy : y.HeldIn heap)
      (h : ∀ (op : Comparison) (f : Fault), x.equals y = .error f → ∃ g, y.ordered op x = .error g) : Consistent x y :=
    ⟨(equals_mirrors x y hx hy).1, h⟩
  have hsame {id id' : Identity} {r : Except Fault Bool} {f : Fault}
      (h : (if sameIdentity id id' then .ok true else r) = .error f) : r = .error f := by
    split at h
    · cases h
    · exact h
  induction v, w using pairInduct with
  | apart v w h =>
    intro _ _ op f herror
    rw [equals_of_not_paired h] at herror
    cases herror
  | atoms v w a b hv hw =>
    intro _ _ op f herror
    rw [equals_of_atom? hv, hw] at herror
    obtain ⟨g, hg⟩ := Atom.ordered?_error_of_equals op herror
    obtain ⟨k, hk⟩ := ordered_of_atom? op hw hv
    exact ⟨g, by rw [hk, hg]; rfl⟩
  | members e name a e' name' a' hm hm' =>
    intro _ _ op f herror
    rw [equals_members hm] at herror
    cases herror
  | tuples id label xs id' label' ys ih =>
    intro hv hw op f herror
    exact orderedList_error op
      (fun x hx y hy => hconsistent (hv.part hx) (hw.part hy) (ih x hx y hy (hv.part hx) (hw.part hy))) (hsame herror)
  | lists id xs id' ys ih =>
    intro hv hw op f herror
    have hlist : equalsList xs ys = .error f := by
      have h := hsame herror
      split at h
      · cases h
      · exact h
    exact orderedList_error op
      (fun x hx y hy => hconsistent (hv.part hx) (hw.part hy) (ih x hx y hy (hv.part hx) (hw.part hy))) hlist
  | sets id xs id' ys _ =>
    intro hv hw op f herror
    have h := hsame herror
    obtain ⟨b, hb, -⟩ := equalsWithin_spec fun x hx y hy => (hv.keys_set.2 x hx).answers (hw.keys_set.2 y hy)
    split at h
    · cases h
    · rw [hb] at h
      cases h
  | dicts | objects => exact fun _ _ op f _ => ⟨_, rfl⟩
  | sources id xs id' ys =>
    intro _ _ op f herror
    cases herror

/-- An order from one side is the opposite one from the other. -/
theorem ordered_swap (v w : Value) : v.HeldIn heap → w.HeldIn heap →
    ∀ op : Comparison, (w.ordered op.swap v).toOption = (v.ordered op w).toOption := by
  have hconsistent {x y : Value} (hx : x.HeldIn heap) (hy : y.HeldIn heap) : Consistent x y :=
    ⟨(equals_mirrors x y hx hy).1, ordered_error_of_equals x y hx hy⟩
  have hnone {r s : Except Fault Bool} (hr : ∃ f, r = .error f) (hs : ∃ f, s = .error f) : r.toOption = s.toOption := by
    obtain ⟨f, rfl⟩ := hr
    obtain ⟨g, rfl⟩ := hs
    rfl
  induction v, w using pairInduct with
  | apart v w h =>
    exact fun _ _ op => hnone (ordered_of_not_paired op.swap fun h' => h h'.symm) (ordered_of_not_paired op h)
  | atoms v w a b hv hw =>
    intro _ _ op
    obtain ⟨f, hf⟩ := ordered_of_atom? op hv hw
    obtain ⟨g, hg⟩ := ordered_of_atom? op.swap hw hv
    have hswap := Atom.ordered?_swap op a b
    rw [hf, hg]
    generalize a.ordered? op b = r at *
    generalize b.ordered? op.swap a = s at *
    rcases r with _ | r <;> rcases s with _ | s
    · rfl
    · cases hswap
    · cases hswap
    · exact Option.some.inj hswap
  | members e name a e' name' a' hm hm' =>
    intro _ _ op
    have herror {e e' : EnumClass} {name name' : String} {a a' : Atom} (op : Comparison) (hm : e.mixin = .none) :
        ∃ f, (member e name a).ordered op (member e' name' a') = .error f := by
      unfold ordered
      simp only [atom?, if_pos hm]
      exact ⟨_, rfl⟩
    exact hnone (herror op.swap hm') (herror op hm)
  | tuples id label xs id' label' ys ih =>
    intro hv hw op
    exact orderedList_swap op
      (fun x hx y hy => ⟨hconsistent (hv.part hx) (hw.part hy), hconsistent (hw.part hy) (hv.part hx)⟩)
      fun x hx y hy => ih x hx y hy (hv.part hx) (hw.part hy) op
  | lists id xs id' ys ih =>
    intro hv hw op
    exact orderedList_swap op
      (fun x hx y hy => ⟨hconsistent (hv.part hx) (hw.part hy), hconsistent (hw.part hy) (hv.part hx)⟩)
      fun x hx y hy => ih x hx y hy (hv.part hx) (hw.part hy) op
  | sets id xs id' ys _ =>
    intro _ _ op
    cases op <;> rfl
  | dicts | objects | sources => exact fun _ _ op => hnone ⟨_, rfl⟩ ⟨_, rfl⟩

end Value
end FlowRules
