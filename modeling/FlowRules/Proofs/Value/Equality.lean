import FlowRules.Proofs.Value.Pairs

/-!
# Equality of values

Equality is asked part by part, up to the first part that is unequal, and it fails when a signaling decimal is met.  What
holds of the answers from either side is carried from part to part by one kind of relation (`Value.Stepwise`).  Main
statement: without a signaling decimal the question is answered from either side (`Value.equals_answers`).
-/

namespace FlowRules
namespace Value

/-- A signaling decimal is compared with the value. -/
inductive HoldsSignal : Value → Prop
  | here {v : Value} {d : Decimal} (hv : v.atom? = some (.decimal d)) (hd : d.isSignaling = true) : HoldsSignal v
  | part {v w : Value} (hw : w ∈ v.comparedParts) (h : HoldsSignal w) : HoldsSignal v

/-- A dictionary with a signaling decimal among its values is compared with the value. -/
inductive HoldsSignalDict : Value → Prop
  | here {id : Identity} {entries : List (Value × Value)} {e : Value × Value} (he : e ∈ entries)
      (h : HoldsSignal e.2) : HoldsSignalDict (.dict id entries)
  | part {v w : Value} (hw : w ∈ v.comparedParts) (h : HoldsSignalDict w) : HoldsSignalDict v

/-- Values that can be keys, no two of them equal. -/
structure AreKeys (keys : List Value) : Prop where
  hashable : ∀ k ∈ keys, k.checkKey = .ok ()
  distinct : keys.Pairwise fun k l => k.equals l ≠ .ok true

/-- What a host sees to: what is known under an identity is one thing, a member that is also a text or an integer has
such a value, and the items of a set and the keys of a dictionary are keys. -/
def Proper (heap : Nat → Value) (v : Value) : Prop :=
  (∀ i, v.identity = some i → heap i = v) ∧
    match v with
    | .member e _ a => (e.mixin = .text → ∃ s, a = .text s) ∧ (e.mixin = .int → ∃ n, a = .int n)
    | .set _ items => AreKeys items
    | .dict _ entries => AreKeys (entries.map (·.1))
    | _ => True

/-- A value that a host can hold, with what it has under the identities. -/
inductive HeldIn (heap : Nat → Value) : Value → Prop
  | mk {v : Value} (h : v.Proper heap) (hparts : ∀ w ∈ v.comparedParts, HeldIn heap w) : HeldIn heap v

variable {heap : Nat → Value} {v w x y : Value} {a b : Atom}

theorem not_holdsSignal_part (h : ¬v.HoldsSignal) (hw : w ∈ v.comparedParts) : ¬w.HoldsSignal :=
  fun hsignal => h (.part hw hsignal)

theorem mem_comparedParts_dict (id : Identity) {entries : List (Value × Value)} {e : Value × Value}
    (he : e ∈ entries) : e.1 ∈ (dict id entries).comparedParts ∧ e.2 ∈ (dict id entries).comparedParts :=
  ⟨List.mem_flatMap.2 ⟨e, he, by simp⟩, List.mem_flatMap.2 ⟨e, he, by simp⟩⟩

theorem HeldIn.proper (h : v.HeldIn heap) : v.Proper heap := by
  cases h
  assumption

theorem HeldIn.part (h : v.HeldIn heap) (hw : w ∈ v.comparedParts) : w.HeldIn heap := by
  cases h with
  | mk _ hparts => exact hparts w hw

theorem sameIdentity_iff {i j : Identity} : sameIdentity i j = true ↔ i ≠ none ∧ i = j := by
  cases i <;> cases j <;> simp [sameIdentity]

theorem sameIdentity_comm (i j : Identity) : sameIdentity j i = sameIdentity i j := by
  rw [Bool.eq_iff_iff, sameIdentity_iff, sameIdentity_iff]
  constructor
  · rintro ⟨h, rfl⟩
    exact ⟨h, rfl⟩
  · rintro ⟨h, rfl⟩
    exact ⟨h, rfl⟩

theorem HeldIn.eq_of_sameIdentity (hv : v.HeldIn heap) (hw : w.HeldIn heap)
    (h : sameIdentity v.identity w.identity = true) : v = w := by
  obtain ⟨hne, heq⟩ := sameIdentity_iff.1 h
  obtain ⟨i, hi⟩ := Option.ne_none_iff_exists'.1 hne
  exact (hv.proper.1 i hi).symm.trans (hw.proper.1 i (heq ▸ hi))

theorem checkKeys_iff {items : List Value} : checkKeys items = .ok () ↔ ∀ v ∈ items, v.checkKey = .ok () := by
  induction items with
  | nil => simp [checkKeys]
  | cons v items ih =>
    rw [checkKeys, List.forall_mem_cons, ← ih]
    rcases v.checkKey with f | u
    · simp [bind, Except.bind]
    · simp [bind, Except.bind]

/-- No signaling decimal is among the keys. -/
theorem HeldIn.not_holdsSignal (hv : v.HeldIn heap) (hkey : v.checkKey = .ok ()) : ¬v.HoldsSignal := by
  intro h
  induction h with
  | @here v d hatom hd =>
    cases v with
    | atom a =>
      cases hatom
      simp [checkKey, hd] at hkey
    | member e name a =>
      have hmixin := hv.proper.2
      cases hm : e.mixin with
      | none => simp [atom?, hm] at hatom
      | text =>
        obtain ⟨s, rfl⟩ := hmixin.1 hm
        simp [atom?, hm] at hatom
      | int =>
        obtain ⟨n, rfl⟩ := hmixin.2 hm
        simp [atom?, hm] at hatom
    | _ => cases hatom
  | @part v w hw _ ih =>
    refine ih (hv.part hw) ?_
    cases v with
    | tuple id label items => exact checkKeys_iff.1 hkey w hw
    | object id c fields offers failing =>
      by_cases hc : c.shape = .plain
      · simp [comparedParts, hc] at hw
      · simp [checkKey, hc] at hkey
    | list | set | dict => cases hkey
    | _ => cases hw

/-! ### One question after the other -/

/-- A relation between the answers to a question asked from either side, kept when questions are asked one after the
other up to the first that is denied. -/
structure Stepwise (P : Except Fault Bool → Except Fault Bool → Prop) : Prop where
  yes : P (.ok true) (.ok true)
  no : P (.ok false) (.ok false)
  next {r s k l : Except Fault Bool} (h : P r s) (hnext : P k l) :
    P (r >>= fun b => if b then k else .ok false) (s >>= fun b => if b then l else .ok false)

section

variable {P : Except Fault Bool → Except Fault Bool → Prop} {xs ys : List Value}
  {fields fields' : List (String × Value)} {names : List String}

theorem Stepwise.equalsList (hP : Stepwise P) (h : ∀ x ∈ xs, ∀ y ∈ ys, P (x.equals y) (y.equals x)) :
    P (equalsList xs ys) (equalsList ys xs) := by
  induction xs generalizing ys with
  | nil =>
    cases ys with
    | nil => exact hP.yes
    | cons y ys => exact hP.no
  | cons x xs ih =>
    cases ys with
    | nil => exact hP.no
    | cons y ys =>
      rw [Value.equalsList, Value.equalsList]
      exact hP.next (h x List.mem_cons_self y List.mem_cons_self)
        (ih fun x hx y hy => h x (List.mem_cons_of_mem _ hx) y (List.mem_cons_of_mem _ hy))

theorem lookup_fieldTests (fields : List (String × Value)) (name : String) :
    (fieldTests fields).lookup name = (fields.lookup name).map equals := by
  induction fields with
  | nil => rfl
  | cons f fields ih =>
    obtain ⟨k, v⟩ := f
    rw [fieldTests, List.lookup_cons, List.lookup_cons, ih]
    cases name == k <;> rfl

theorem Stepwise.equalsNamed (hP : Stepwise P)
    (h : ∀ name ∈ names, ∀ x y, fields.lookup name = some x → fields'.lookup name = some y →
      P (x.equals y) (y.equals x)) :
    P (equalsNamed (fieldTests fields) fields' names) (equalsNamed (fieldTests fields') fields names) := by
  induction names with
  | nil => exact hP.yes
  | cons name names ih =>
    have hrest := ih fun n hn => h n (List.mem_cons_of_mem _ hn)
    have hname := h name List.mem_cons_self
    rw [FlowRules.equalsNamed, FlowRules.equalsNamed, lookup_fieldTests, lookup_fieldTests]
    rcases hx : fields.lookup name with _ | x <;> rcases hy : fields'.lookup name with _ | y
    · exact hrest
    · exact hP.no
    · exact hP.no
    · exact hP.next (hname x y hx hy) hrest

theorem Stepwise.same (hP : Stepwise P) (b : Bool) : P (.ok b) (.ok b) := by
  cases b with
  | true => exact hP.yes
  | false => exact hP.no

/-- Identity is asked first. -/
theorem Stepwise.unlessSame (hP : Stepwise P) {r s : Except Fault Bool} (id id' : Identity) (h : P r s) :
    P (if sameIdentity id id' then .ok true else r) (if sameIdentity id' id then .ok true else s) := by
  rw [sameIdentity_comm id id']
  split
  · exact hP.yes
  · exact h

/-- The number of parts is asked before the parts. -/
theorem Stepwise.unlessLonger (hP : Stepwise P) {r s : Except Fault Bool} (m n : Nat) (h : P r s) :
    P (if m ≠ n then .ok false else r) (if n ≠ m then .ok false else s) := by
  by_cases hmn : m = n
  · rwa [if_neg (not_not.2 hmn), if_neg (not_not.2 hmn.symm)]
  · rw [if_pos hmn, if_pos (Ne.symm hmn)]
    exact hP.no

theorem Stepwise.apart (hP : Stepwise P) (h : ¬Paired v w) : P (v.equals w) (w.equals v) := by
  rw [equals_of_not_paired h, equals_of_not_paired fun h' => h h'.symm]
  exact hP.no

theorem Stepwise.members (hP : Stepwise P) {e e' : EnumClass} {name name' : String} {a a' : Atom}
    (hm : e.mixin = .none) (hm' : e'.mixin = .none) :
    P ((member e name a).equals (member e' name' a')) ((member e' name' a').equals (member e name a)) := by
  have hcomm : (e' == e && name' == name) = (e == e' && name == name') := by
    rw [BEq.comm, BEq.comm (a := name')]
  rw [equals_members hm, equals_members hm', hcomm]
  exact hP.same _

theorem Stepwise.sources (hP : Stepwise P) (id id' : Nat) (xs ys : List Value) :
    P ((source id xs).equals (source id' ys)) ((source id' ys).equals (source id xs)) := by
  show P (.ok (id == id')) (.ok (id' == id))
  rw [BEq.comm]
  exact hP.same _

theorem Stepwise.tuples (hP : Stepwise P) (id id' : Identity) (label label' : Option TupleClass)
    (h : ∀ x ∈ xs, ∀ y ∈ ys, P (x.equals y) (y.equals x)) :
    P ((tuple id label xs).equals (tuple id' label' ys)) ((tuple id' label' ys).equals (tuple id label xs)) :=
  hP.unlessSame id id' (hP.equalsList h)

theorem Stepwise.lists (hP : Stepwise P) (id id' : Identity) (h : ∀ x ∈ xs, ∀ y ∈ ys, P (x.equals y) (y.equals x)) :
    P ((list id xs).equals (list id' ys)) ((list id' ys).equals (list id xs)) :=
  hP.unlessSame id id' (hP.unlessLonger xs.length ys.length (hP.equalsList h))

theorem isSame_iff {c d : ClassInfo} :
    c.isSame d = true ↔ c.shape = d.shape ∧ c.name = d.name ∧ c.fieldNames = d.fieldNames := by
  simp [ClassInfo.isSame, and_assoc]

theorem Stepwise.objects (hP : Stepwise P) (id id' : Identity) (c c' : ClassInfo)
    (offers offers' : List (String × Value)) (failing failing' : List (String × Fault))
    (h : ∀ x ∈ (object id c fields offers failing).comparedParts,
      ∀ y ∈ (object id' c' fields' offers' failing').comparedParts, P (x.equals y) (y.equals x)) :
    P ((object id c fields offers failing).equals (object id' c' fields' offers' failing'))
      ((object id' c' fields' offers' failing').equals (object id c fields offers failing)) := by
  refine hP.unlessSame id id' ?_
  by_cases hsame : c.shape ≠ .plain ∧ c.isSame c' = true
  · obtain ⟨hc, hshape, hname, hnames⟩ := hsame.imp_right isSame_iff.1
    have hc' : c'.shape ≠ .plain := hshape ▸ hc
    have hsame' : c'.isSame c = true := isSame_iff.2 ⟨hshape.symm, hname.symm, hnames.symm⟩
    rw [if_neg (by simp [hc, hsame.2]), if_neg (by simp [hc', hsame']), ← hnames]
    refine hP.equalsNamed fun name hmem x y hx hy => h x ?_ y ?_
    · rw [comparedParts, if_neg hc]
      exact List.mem_filterMap.2 ⟨name, hmem, hx⟩
    · rw [comparedParts, if_neg hc']
      exact List.mem_filterMap.2 ⟨name, hnames ▸ hmem, hy⟩
  · have hdiffer : c.shape = .plain ∨ c.isSame c' = false := by
      rw [← Bool.not_eq_true]
      by_contra hnot
      exact hsame (not_or.1 hnot |>.imp_right not_not.1)
    have hdiffer' : c'.shape = .plain ∨ c'.isSame c = false := by
      by_contra hnot
      obtain ⟨hc', hsame'⟩ := not_or.1 hnot
      rw [Bool.not_eq_false, isSame_iff] at hsame'
      exact hsame ⟨hsame'.1 ▸ hc', isSame_iff.2 ⟨hsame'.1.symm, hsame'.2.1.symm, hsame'.2.2.symm⟩⟩
    rw [if_pos hdiffer, if_pos hdiffer']
    exact hP.no

/-- Both sides answer. -/
def BothAnswer (r s : Except Fault Bool) : Prop := (∃ b, r = .ok b) ∧ ∃ b, s = .ok b

theorem stepwise_bothAnswer : Stepwise BothAnswer where
  yes := ⟨⟨_, rfl⟩, _, rfl⟩
  no := ⟨⟨_, rfl⟩, _, rfl⟩
  next := by
    rintro _ _ k l ⟨⟨b, rfl⟩, c, rfl⟩ ⟨hk, hl⟩
    refine ⟨?_, ?_⟩
    · cases b with
      | false => exact ⟨_, rfl⟩
      | true => exact hk
    · cases c with
      | false => exact ⟨_, rfl⟩
      | true => exact hl

/-- One side says yes exactly if the other does; and if some condition is met, they give the same answer or both fail. -/
def Mirror (strict : Prop) (r s : Except Fault Bool) : Prop :=
  (r = .ok true ↔ s = .ok true) ∧ (strict → r.toOption = s.toOption)

theorem stepwise_mirror (strict : Prop) : Stepwise (Mirror strict) where
  yes := ⟨Iff.rfl, fun _ => rfl⟩
  no := ⟨Iff.rfl, fun _ => rfl⟩
  next := by
    rintro r s k l ⟨hyes, hsame⟩ ⟨hnext, hnextSame⟩
    have hdenied {t k : Except Fault Bool} (ht : t ≠ .ok true) :
        (t >>= fun b => if b then k else .ok false) = t := by
      rcases t with f | _ | _
      · rfl
      · rfl
      · exact absurd rfl ht
    by_cases hr : r = .ok true
    · have hs := hyes.1 hr
      subst hr hs
      exact ⟨hnext, hnextSame⟩
    · have hs : s ≠ .ok true := fun hs => hr (hyes.2 hs)
      rw [hdenied hr, hdenied hs]
      exact ⟨hyes, hsame⟩

theorem Mirror.of_answers {strict : Prop} {r s : Except Fault Bool} (h : BothAnswer r s)
    (hyes : r = .ok true ↔ s = .ok true) : Mirror strict r s := by
  obtain ⟨⟨b, rfl⟩, c, rfl⟩ := h
  refine ⟨hyes, fun _ => ?_⟩
  cases b <;> cases c <;> simp_all [Except.toOption]

end

/-! ### Items and entries -/

section

variable {test : Value → Except Fault Bool} {xs ys : List Value} {es fs : List (Value × Value)}

theorem anyItem_spec (h : ∀ y ∈ ys, ∃ b, test y = .ok b) :
    ∃ b, anyItem test ys = .ok b ∧ (b = true ↔ ∃ y ∈ ys, test y = .ok true) := by
  induction ys with
  | nil => exact ⟨false, rfl, by simp⟩
  | cons y ys ih =>
    obtain ⟨b, hb⟩ := h y List.mem_cons_self
    rw [anyItem, hb]
    cases b with
    | true => exact ⟨true, rfl, by simp [hb]⟩
    | false =>
      obtain ⟨c, hc, hiff⟩ := ih fun z hz => h z (List.mem_cons_of_mem _ hz)
      exact ⟨c, hc, by simp [hb, hiff]⟩

theorem equalsWithin_spec (h : ∀ x ∈ xs, ∀ y ∈ ys, ∃ b, x.equals y = .ok b) :
    ∃ b, equalsWithin xs ys = .ok b ∧ (b = true ↔ ∀ x ∈ xs, ∃ y ∈ ys, x.equals y = .ok true) := by
  induction xs with
  | nil => exact ⟨true, rfl, by simp⟩
  | cons x xs ih =>
    obtain ⟨b, hb, hiff⟩ := anyItem_spec (h x List.mem_cons_self)
    rw [equalsWithin, hb]
    cases b with
    | false => exact ⟨false, rfl, by simp [← hiff]⟩
    | true =>
      obtain ⟨c, hc, hrest⟩ := ih fun x hx => h x (List.mem_cons_of_mem _ hx)
      exact ⟨c, hc, by simp [← hiff, hrest]⟩

/-- A search either finds nothing or the first entry with a suitable key. -/
theorem findEntry_spec (h : ∀ f ∈ fs, ∃ b, test f.1 = .ok b) :
    (findEntry test fs = .ok none ∧ ∀ f ∈ fs, test f.1 ≠ .ok true) ∨
      ∃ f ∈ fs, test f.1 = .ok true ∧ findEntry test fs = .ok (some f.2) := by
  induction fs with
  | nil => exact .inl ⟨rfl, nofun⟩
  | cons f fs ih =>
    obtain ⟨b, hb⟩ := h f List.mem_cons_self
    cases b with
    | true =>
      refine .inr ⟨f, List.mem_cons_self, hb, ?_⟩
      rw [findEntry, hb]
      rfl
    | false =>
      have hnext : findEntry test (f :: fs) = findEntry test fs := by
        rw [findEntry, hb]
        rfl
      rw [hnext]
      rcases ih fun g hg => h g (List.mem_cons_of_mem _ hg) with ⟨hnone, hall⟩ | ⟨g, hg, hsome⟩
      · refine .inl ⟨hnone, List.forall_mem_cons.2 ⟨?_, hall⟩⟩
        rw [hb]
        nofun
      · exact .inr ⟨g, List.mem_cons_of_mem _ hg, hsome⟩

theorem equalsEntries_answers (hkeys : ∀ e ∈ es, ∀ f ∈ fs, ∃ b, e.1.equals f.1 = .ok b)
    (hvalues : ∀ e ∈ es, ∀ f ∈ fs, ∃ b, e.2.equals f.2 = .ok b) : ∃ b, equalsEntries es fs = .ok b := by
  induction es with
  | nil => exact ⟨true, rfl⟩
  | cons e es ih =>
    have hrest := ih (fun e he => hkeys e (List.mem_cons_of_mem _ he)) fun e he => hvalues e (List.mem_cons_of_mem _ he)
    rw [equalsEntries]
    rcases findEntry_spec (hkeys e List.mem_cons_self) with ⟨hnone, -⟩ | ⟨f, hf, -, hsome⟩
    · rw [hnone]
      exact ⟨false, rfl⟩
    · rw [hsome]
      obtain ⟨b, hb⟩ := hvalues e List.mem_cons_self f hf
      show ∃ b, (e.2.equals f.2 >>= fun b => if b then equalsEntries es fs else .ok false) = .ok b
      rw [hb]
      cases b with
      | true => exact hrest
      | false => exact ⟨false, rfl⟩

/-- Entries are equal to entries with other keys if each has its match. -/
theorem equalsEntries_true (hkeys : ∀ e ∈ es, ∀ f ∈ fs, ∃ b, e.1.equals f.1 = .ok b)
    (hunique : ∀ e ∈ es, ∀ f ∈ fs, ∀ g ∈ fs, e.1.equals f.1 = .ok true → e.1.equals g.1 = .ok true → f = g) :
    equalsEntries es fs = .ok true ↔
      ∀ e ∈ es, ∃ f ∈ fs, e.1.equals f.1 = .ok true ∧ e.2.equals f.2 = .ok true := by
  induction es with
  | nil => simp [equalsEntries]
  | cons e es ih =>
    have hrest := ih (fun e he => hkeys e (List.mem_cons_of_mem _ he)) fun e he => hunique e (List.mem_cons_of_mem _ he)
    rw [equalsEntries, List.forall_mem_cons, ← hrest]
    rcases findEntry_spec (hkeys e List.mem_cons_self) with ⟨hnone, hall⟩ | ⟨f, hf, hkey, hsome⟩
    · rw [hnone]
      refine iff_of_false nofun ?_
      rintro ⟨⟨f, hf, hkey, -⟩, -⟩
      exact hall f hf hkey
    · have hmatch : (∃ g ∈ fs, e.1.equals g.1 = .ok true ∧ e.2.equals g.2 = .ok true) ↔ e.2.equals f.2 = .ok true := by
        constructor
        · rintro ⟨g, hg, hkey', hvalue⟩
          rwa [hunique e List.mem_cons_self f hf g hg hkey hkey']
        · exact fun hvalue => ⟨f, hf, hkey, hvalue⟩
      rw [hsome, hmatch]
      show (e.2.equals f.2 >>= fun b => if b then equalsEntries es fs else .ok false) = .ok true ↔ _
      rcases e.2.equals f.2 with _ | _ | _
      · exact iff_of_false nofun fun h => nomatch h.1
      · exact iff_of_false nofun fun h => nomatch h.1
      · exact ⟨fun h => ⟨rfl, h⟩, fun h => h.2⟩

end

/-! ### When the question has an answer -/

theorem signaling_of_atom? (h : ¬v.HoldsSignal) (hv : v.atom? = some a) {m : Number} (hm : a.number? = some m) :
    m.isSignaling = false := by
  rcases hsignaling : m.isSignaling with _ | _
  · rfl
  · cases a with
    | decimal d =>
      cases hm
      exact absurd (.here hv hsignaling) h
    | _ => cases hm <;> cases hsignaling

/-- Without a signaling decimal the question is answered from either side. -/
theorem equals_answers (v w : Value) : ¬v.HoldsSignal → ¬w.HoldsSignal → BothAnswer (v.equals w) (w.equals v) := by
  induction v, w using pairInduct with
  | apart v w h => exact fun _ _ => stepwise_bothAnswer.apart h
  | atoms v w a b hv hw =>
    intro hsignal hsignal'
    have hanswer : ∃ c, a.equals b = .ok c := by
      rw [Atom.equals_eq]
      split
      · next m n hm hn =>
        rw [Number.equals_eq, signaling_of_atom? hsignal hv hm, signaling_of_atom? hsignal' hw hn]
        exact ⟨_, rfl⟩
      · split
        · exact ⟨_, rfl⟩
        · split <;> exact ⟨_, rfl⟩
    rw [equals_comm_of_atom? hv hw, equals_of_atom? hv, hw]
    exact ⟨hanswer, hanswer⟩
  | members e name a e' name' a' hm hm' => exact fun _ _ => stepwise_bothAnswer.members hm hm'
  | tuples id label xs id' label' ys ih =>
    intro hsignal hsignal'
    exact stepwise_bothAnswer.tuples _ _ _ _ fun x hx y hy =>
      ih x hx y hy (not_holdsSignal_part hsignal hx) (not_holdsSignal_part hsignal' hy)
  | lists id xs id' ys ih =>
    intro hsignal hsignal'
    exact stepwise_bothAnswer.lists _ _ fun x hx y hy =>
      ih x hx y hy (not_holdsSignal_part hsignal hx) (not_holdsSignal_part hsignal' hy)
  | sets id xs id' ys ih =>
    intro hsignal hsignal'
    have hitems : ∀ x ∈ xs, ∀ y ∈ ys, BothAnswer (x.equals y) (y.equals x) := fun x hx y hy =>
      ih x hx y hy (not_holdsSignal_part hsignal hx) (not_holdsSignal_part hsignal' hy)
    obtain ⟨b, hb, -⟩ := equalsWithin_spec fun x hx y hy => (hitems x hx y hy).1
    obtain ⟨c, hc, -⟩ := equalsWithin_spec fun y hy x hx => (hitems x hx y hy).2
    exact stepwise_bothAnswer.unlessSame id id' (stepwise_bothAnswer.unlessLonger xs.length ys.length
      ⟨⟨b, hb⟩, c, hc⟩)
  | dicts id es id' fs ih =>
    intro hsignal hsignal'
    have hentries : ∀ e ∈ es, ∀ f ∈ fs,
        BothAnswer (e.1.equals f.1) (f.1.equals e.1) ∧ BothAnswer (e.2.equals f.2) (f.2.equals e.2) := by
      intro e he f hf
      obtain ⟨hkeys, hvalues⟩ := ih e he f hf
      obtain ⟨hkey, hvalue⟩ := mem_comparedParts_dict id he
      obtain ⟨hkey', hvalue'⟩ := mem_comparedParts_dict id' hf
      exact ⟨hkeys (not_holdsSignal_part hsignal hkey) (not_holdsSignal_part hsignal' hkey'),
        hvalues (not_holdsSignal_part hsignal hvalue) (not_holdsSignal_part hsignal' hvalue')⟩
    refine stepwise_bothAnswer.unlessSame id id' (stepwise_bothAnswer.unlessLonger es.length fs.length ⟨?_, ?_⟩)
    · exact equalsEntries_answers (fun e he f hf => (hentries e he f hf).1.1) fun e he f hf => (hentries e he f hf).2.1
    · exact equalsEntries_answers (fun f hf e he => (hentries e he f hf).1.2) fun f hf e he => (hentries e he f hf).2.2
  | objects id c fields offers failing id' c' fields' offers' failing' ih =>
    intro hsignal hsignal'
    exact stepwise_bothAnswer.objects _ _ _ _ _ _ _ _ fun x hx y hy =>
      ih x hx y hy (not_holdsSignal_part hsignal hx) (not_holdsSignal_part hsignal' hy)
  | sources id xs id' ys => exact fun _ _ => stepwise_bothAnswer.sources _ _ _ _

end Value
end FlowRules
