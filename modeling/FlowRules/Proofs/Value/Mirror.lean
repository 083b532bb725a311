import Mathlib.Data.List.Pairwise
import FlowRules.Proofs.Value.Equality

/-!
# Equality from either side

Sets and dictionaries are compared by searching for the items and keys of the one in the other, which finds the same from
either side as equality of keys is transitive (`Value.Key.trans`).  Main statement: that two values are equal does not
depend on which of them is asked; nor does it that they are unequal or that the question fails, unless a dictionary with
a signaling decimal among its values is compared, for each dictionary is gone through in its own order
(`Value.equals_mirrors`).
-/

namespace FlowRules
namespace Value

variable {heap : Nat → Value} {v w x y z : Value} {a : Atom}

/-! ### Keys -/

/-- A key that a host holds. -/
structure Key (heap : Nat → Value) (v : Value) : Prop where
  held : v.HeldIn heap
  hashable : v.checkKey = .ok ()

theorem Key.item {id : Identity} {label : Option TupleClass} {items : List Value}
    (h : (tuple id label items).Key heap) (hx : x ∈ items) : x.Key heap where
  held := h.held.part hx
  hashable := checkKeys_iff.1 h.hashable x hx

theorem Key.answers (hx : x.Key heap) (hy : y.Key heap) : ∃ b, x.equals y = .ok b :=
  (equals_answers x y (hx.held.not_holdsSignal hx.hashable) (hy.held.not_holdsSignal hy.hashable)).1

theorem equalsList_trans {xs ys zs : List Value}
    (h : ∀ x ∈ xs, ∀ y ∈ ys, ∀ z ∈ zs, x.equals y = .ok true → y.equals z = .ok true → x.equals z = .ok true)
    (hxy : equalsList xs ys = .ok true) (hyz : equalsList ys zs = .ok true) : equalsList xs zs = .ok true := by
  have hcons {x y : Value} {xs ys : List Value} (h : equalsList (x :: xs) (y :: ys) = .ok true) :
      x.equals y = .ok true ∧ equalsList xs ys = .ok true := by
    have hunfold : (x.equals y >>= fun b => if b then equalsList xs ys else .ok false) = .ok true := h
    rcases hhead : x.equals y with _ | _ | _
    · rw [hhead] at hunfold
      cases hunfold
    · rw [hhead] at hunfold
      cases hunfold
    · rw [hhead] at hunfold
      exact ⟨rfl, hunfold⟩
  induction xs generalizing ys zs with
  | nil =>
    cases ys with
    | nil => exact hyz
    | cons y ys => cases hxy
  | cons x xs ih =>
    cases ys with
    | nil => cases hxy
    | cons y ys =>
      cases zs with
      | nil => cases hyz
      | cons z zs =>
        obtain ⟨hhead, htail⟩ := hcons hxy
        obtain ⟨hhead', htail'⟩ := hcons hyz
        have hfirst := h x List.mem_cons_self y List.mem_cons_self z List.mem_cons_self hhead hhead'
        have hrest := ih (fun x hx y hy z hz => h x (List.mem_cons_of_mem _ hx) y (List.mem_cons_of_mem _ hy) z
          (List.mem_cons_of_mem _ hz)) htail htail'
        rw [equalsList, hfirst]
        exact hrest

theorem equals_trans_of_atom? (hx : x.atom? = some a) (hxy : x.equals y = .ok true) (hyz : y.equals z = .ok true) :
    x.equals z = .ok true := by
  obtain ⟨b, hb, hab⟩ := (equals_true_of_atom? hx).1 hxy
  obtain ⟨c, hc, hbc⟩ := (equals_true_of_atom? hb).1 hyz
  exact (equals_true_of_atom? hx).2 ⟨c, hc, Atom.equals_trans hab hbc⟩

section

variable {id id' : Identity} {label label' : Option TupleClass} {xs ys : List Value}

theorem equals_tuple_of_apart (h : ¬sameIdentity id id' = true) :
    (tuple id label xs).equals (tuple id' label' ys) = equalsList xs ys := if_neg h

theorem equals_tuple_of_items (h : equalsList xs ys = .ok true) :
    (tuple id label xs).equals (tuple id' label' ys) = .ok true := by
  show (if sameIdentity id id' then .ok true else equalsList xs ys) = _
  rw [h, ite_self]

end

theorem equals_plain {id id' : Identity} {c c' : ClassInfo} {fields fields' offers offers' : List (String × Value)}
    {failing failing' : List (String × Fault)} (hc : c.shape = .plain) (hid : ¬sameIdentity id id' = true) :
    (object id c fields offers failing).equals (object id' c' fields' offers' failing') = .ok false :=
  (if_neg hid).trans (if_pos (.inl hc))

/-- Equality of keys is transitive; what is known under one identity is the same. -/
theorem Key.trans (hx : x.Key heap) (hy : y.Key heap) (hz : z.Key heap) (hxy : x.equals y = .ok true)
    (hyz : y.equals z = .ok true) : x.equals z = .ok true := by
  have hpaired {v w : Value} (h : v.equals w = .ok true) : Paired v w := by
    by_contra hnot
    rw [equals_of_not_paired hnot] at h
    cases h
  have hsame {v w : Value} (hv : v.Key heap) (hw : w.Key heap) (h : sameIdentity v.identity w.identity = true) : v = w :=
    hv.held.eq_of_sameIdentity hw.held h
  induction x using induct generalizing y z with
  | atom a => exact equals_trans_of_atom? rfl hxy hyz
  | member e name a =>
    cases hpaired hxy with
    | atoms hv => exact equals_trans_of_atom? hv hxy hyz
    | members hm hm' =>
      rw [equals_members hm] at hxy
      have heq := Except.ok.inj hxy
      simp only [Bool.and_eq_true, beq_iff_eq] at heq
      obtain ⟨rfl, rfl⟩ := heq
      cases hpaired hyz with
      | atoms hw => simp [atom?, hm] at hw
      | members =>
        rw [equals_members hm] at hyz ⊢
        exact hyz
  | tuple id label xs ih =>
    cases hpaired hxy with
    | atoms hv => cases hv
    | @tuples _ id' _ _ _ ys =>
      cases hpaired hyz with
      | atoms hv => cases hv
      | @tuples _ id'' _ _ _ zs =>
        by_cases hid : sameIdentity id id' = true
        · rwa [hsame hx hy hid]
        · by_cases hid' : sameIdentity id' id'' = true
          · rwa [← hsame hy hz hid']
          · rw [equals_tuple_of_apart hid] at hxy
            rw [equals_tuple_of_apart hid'] at hyz
            refine equals_tuple_of_items ?_
            exact equalsList_trans (fun x hx' y hy' z hz' => ih x hx' (hx.item hx') (hy.item hy') (hz.item hz')) hxy hyz
  | list | set | dict => cases hx.hashable
  | object id c fields offers failing _ =>
    have hc : c.shape = .plain := by
      by_contra hc
      have hkey := hx.hashable
      simp [checkKey, hc] at hkey
    cases hpaired hxy with
    | atoms hv => cases hv
    | @objects _ id' =>
      by_cases hid : sameIdentity id id' = true
      · rwa [hsame hx hy hid]
      · rw [equals_plain hc hid] at hxy
        cases hxy
  | source id xs =>
    cases hpaired hxy with
    | atoms hv => cases hv
    | sources =>
      have hid := beq_iff_eq.1 (Except.ok.inj hxy)
      rwa [hsame hx hy (sameIdentity_iff.2 ⟨Option.some_ne_none id, congrArg some hid⟩)]
  | other type => cases hxy

/-- If each of some things has a match among as many others, and no two have the same, each of the others is one. -/
theorem matched_back {α β : Type} {R : α → β → Prop} {xs : List α} {ys : List β} (hlength : xs.length = ys.length)
    (hapart : xs.Pairwise fun x x' => ∀ y ∈ ys, R x y → ¬R x' y) (h : ∀ x ∈ xs, ∃ y ∈ ys, R x y) :
    ∀ y ∈ ys, ∃ x ∈ xs, R x y := by
  induction xs generalizing ys with
  | nil =>
    have hnil : ys = [] := List.eq_nil_of_length_eq_zero hlength.symm
    simp [hnil]
  | cons x xs ih =>
    obtain ⟨hfirst, hrest⟩ := List.pairwise_cons.1 hapart
    obtain ⟨y, hy, hxy⟩ := h x List.mem_cons_self
    obtain ⟨l, r, rfl⟩ := List.append_of_mem hy
    have hmem {z : β} : z ∈ l ++ y :: r ↔ z = y ∨ z ∈ l ++ r := by
      simp only [List.mem_append, List.mem_cons]
      exact or_left_comm
    -- the others find their matches when that of the first is taken out
    have hlength' : xs.length = (l ++ r).length := by
      simp only [List.length_cons, List.length_append] at hlength ⊢
      omega
    have hapart' : xs.Pairwise fun x x' => ∀ z ∈ l ++ r, R x z → ¬R x' z :=
      hrest.imp fun h z hz => h z (hmem.2 (.inr hz))
    have hmatch : ∀ x' ∈ xs, ∃ z ∈ l ++ r, R x' z := by
      intro x' hx'
      obtain ⟨z, hz, hxz⟩ := h x' (List.mem_cons_of_mem _ hx')
      rcases hmem.1 hz with rfl | hz
      · exact absurd hxz (hfirst x' hx' z hz hxy)
      · exact ⟨z, hz, hxz⟩
    intro z hz
    rcases hmem.1 hz with rfl | hz
    · exact ⟨x, List.mem_cons_self, hxy⟩
    · obtain ⟨x', hx', hxz⟩ := ih hlength' hapart' hmatch z hz
      exact ⟨x', List.mem_cons_of_mem _ hx', hxz⟩

/-! ### From either side -/

section

variable {xs ys : List Value} {es fs : List (Value × Value)} {id id' : Identity}

theorem HeldIn.keys_set (h : (set id xs).HeldIn heap) : AreKeys xs ∧ ∀ x ∈ xs, x.Key heap := by
  have hkeys : AreKeys xs := h.proper.2
  exact ⟨hkeys, fun x hx => ⟨h.part hx, hkeys.hashable x hx⟩⟩

theorem HeldIn.keys_dict (h : (dict id es).HeldIn heap) :
    (es.Pairwise fun e f => e.1.equals f.1 ≠ .ok true) ∧ (∀ e ∈ es, e.1.Key heap) ∧ ∀ e ∈ es, e.2.HeldIn heap := by
  have hkeys : AreKeys (es.map (·.1)) := h.proper.2
  refine ⟨List.pairwise_map.1 hkeys.distinct, fun e he => ?_, fun e he => h.part (mem_comparedParts_dict id he).2⟩
  exact ⟨h.part (mem_comparedParts_dict id he).1, hkeys.hashable e.1 (List.mem_map_of_mem he)⟩

/-- Sets with as many items as each other are contained in each other or neither is. -/
theorem equalsWithin_symm (hlength : xs.length = ys.length) (hxs : ∀ x ∈ xs, x.Key heap) (hys : ∀ y ∈ ys, y.Key heap)
    (hdistinct : xs.Pairwise fun x x' => x.equals x' ≠ .ok true)
    (hsymm : ∀ x ∈ xs, ∀ y ∈ ys, x.equals y = .ok true ↔ y.equals x = .ok true)
    (h : equalsWithin xs ys = .ok true) : equalsWithin ys xs = .ok true := by
  obtain ⟨b, hb, hiff⟩ := equalsWithin_spec fun x hx y hy => (hxs x hx).answers (hys y hy)
  obtain ⟨c, hc, hback⟩ := equalsWithin_spec fun y hy x hx => (hys y hy).answers (hxs x hx)
  rw [hb] at h
  cases h
  -- two items with the same match would be equal to each other
  have hapart : xs.Pairwise fun x x' => ∀ y ∈ ys, x.equals y = .ok true → ¬x'.equals y = .ok true := by
    refine hdistinct.imp_of_mem fun hx hx' hne y hy hxy hx'y => hne ?_
    exact (hxs _ hx).trans (hys y hy) (hxs _ hx') hxy ((hsymm _ hx' y hy).1 hx'y)
  have hall : c = true := by
    rw [hback]
    intro y hy
    obtain ⟨x, hx, hxy⟩ := matched_back hlength hapart (hiff.1 rfl) y hy
    exact ⟨x, hx, (hsymm x hx y hy).1 hxy⟩
  rw [hc, hall]

/-- At most one of the distinct keys of some entries equals a given one. -/
theorem unique_key (hfs : ∀ f ∈ fs, f.1.Key heap) (hdistinct : fs.Pairwise fun f g => f.1.equals g.1 ≠ .ok true)
    (hx : x.Key heap) (hsymm : ∀ f ∈ fs, x.equals f.1 = .ok true → f.1.equals x = .ok true) :
    ∀ f ∈ fs, ∀ g ∈ fs, x.equals f.1 = .ok true → x.equals g.1 = .ok true → f = g := by
  intro f hf g hg hxf hxg
  have hfg := (hfs f hf).trans hx (hfs g hg) (hsymm f hf hxf) hxg
  have hgf := (hfs g hg).trans hx (hfs f hf) (hsymm g hg hxg) hxf
  have hall := List.Pairwise.forall_of_forall_of_flip
    (R := fun f g : Value × Value => f.1.equals g.1 = .ok true → g.1.equals f.1 = .ok true → f = g)
    (fun _ _ _ _ => rfl) (hdistinct.imp fun hne h _ => absurd h hne) (hdistinct.imp fun hne _ h => absurd h hne)
  exact hall hf hg hfg hgf

/-- As many entries as others have their matches among these or the others have not. -/
theorem equalsEntries_symm (hlength : es.length = fs.length) (hes : ∀ e ∈ es, e.1.Key heap)
    (hfs : ∀ f ∈ fs, f.1.Key heap) (hdistinct : es.Pairwise fun e e' => e.1.equals e'.1 ≠ .ok true)
    (hdistinct' : fs.Pairwise fun f f' => f.1.equals f'.1 ≠ .ok true)
    (hsymm : ∀ e ∈ es, ∀ f ∈ fs, (e.1.equals f.1 = .ok true ↔ f.1.equals e.1 = .ok true) ∧
      (e.2.equals f.2 = .ok true ↔ f.2.equals e.2 = .ok true))
    (h : equalsEntries es fs = .ok true) : equalsEntries fs es = .ok true := by
  have hmatch := (equalsEntries_true (fun e he f hf => (hes e he).answers (hfs f hf)) fun e he =>
    unique_key hfs hdistinct' (hes e he) fun f hf => (hsymm e he f hf).1.1).1 h
  have hback := equalsEntries_true (fun f hf e he => (hfs f hf).answers (hes e he)) fun f hf =>
    unique_key hes hdistinct (hfs f hf) fun e he => (hsymm e he f hf).1.2
  have hapart : es.Pairwise fun e e' => ∀ f ∈ fs, e.1.equals f.1 = .ok true ∧ e.2.equals f.2 = .ok true →
      ¬(e'.1.equals f.1 = .ok true ∧ e'.2.equals f.2 = .ok true) := by
    refine hdistinct.imp_of_mem fun he he' hne f hf hef he'f => hne ?_
    exact (hes _ he).trans (hfs f hf) (hes _ he') hef.1 ((hsymm _ he' f hf).1.1 he'f.1)
  rw [hback]
  intro f hf
  obtain ⟨e, he, hkey, hvalue⟩ := matched_back hlength hapart hmatch f hf
  exact ⟨e, he, (hsymm e he f hf).1.1 hkey, (hsymm e he f hf).2.1 hvalue⟩

theorem mirror_sets {strict : Prop} (hv : (set id xs).HeldIn heap) (hw : (set id' ys).HeldIn heap)
    (hsymm : ∀ x ∈ xs, ∀ y ∈ ys, x.equals y = .ok true ↔ y.equals x = .ok true) :
    Mirror strict ((set id xs).equals (set id' ys)) ((set id' ys).equals (set id xs)) := by
  obtain ⟨hkeys, hxs⟩ := hv.keys_set
  obtain ⟨hkeys', hys⟩ := hw.keys_set
  refine (stepwise_mirror strict).unlessSame id id' ?_
  by_cases hlength : xs.length = ys.length
  · rw [if_neg (not_not.2 hlength), if_neg (not_not.2 hlength.symm)]
    obtain ⟨b, hb, -⟩ := equalsWithin_spec fun x hx y hy => (hxs x hx).answers (hys y hy)
    obtain ⟨c, hc, -⟩ := equalsWithin_spec fun y hy x hx => (hys y hy).answers (hxs x hx)
    refine Mirror.of_answers ⟨⟨b, hb⟩, c, hc⟩ ⟨?_, ?_⟩
    · exact equalsWithin_symm hlength hxs hys hkeys.distinct hsymm
    · exact equalsWithin_symm hlength.symm hys hxs hkeys'.distinct fun y hy x hx => (hsymm x hx y hy).symm
  · rw [if_pos hlength, if_pos (Ne.symm hlength)]
    exact (stepwise_mirror strict).no

/-- Without a signaling decimal among the values, dictionaries are compared to the end. -/
theorem mirror_dicts (hv : (dict id es).HeldIn heap) (hw : (dict id' fs).HeldIn heap)
    (hsymm : ∀ e ∈ es, ∀ f ∈ fs, (e.1.equals f.1 = .ok true ↔ f.1.equals e.1 = .ok true) ∧
      (e.2.equals f.2 = .ok true ↔ f.2.equals e.2 = .ok true)) :
    Mirror (¬(dict id es).HoldsSignalDict ∧ ¬(dict id' fs).HoldsSignalDict) ((dict id es).equals (dict id' fs))
      ((dict id' fs).equals (dict id es)) := by
  obtain ⟨hdistinct, hes, -⟩ := hv.keys_dict
  obtain ⟨hdistinct', hfs, -⟩ := hw.keys_dict
  refine (stepwise_mirror _).unlessSame id id' ?_
  by_cases hlength : es.length = fs.length
  · rw [if_neg (not_not.2 hlength), if_neg (not_not.2 hlength.symm)]
    have hyes : equalsEntries es fs = .ok true ↔ equalsEntries fs es = .ok true := by
      constructor
      · exact equalsEntries_symm hlength hes hfs hdistinct hdistinct' hsymm
      · exact equalsEntries_symm hlength.symm hfs hes hdistinct' hdistinct fun f hf e he =>
          ⟨(hsymm e he f hf).1.symm, (hsymm e he f hf).2.symm⟩
    refine ⟨hyes, fun ⟨hquiet, hquiet'⟩ => ?_⟩
    have hvalues : ∀ e ∈ es, ∀ f ∈ fs, BothAnswer (e.2.equals f.2) (f.2.equals e.2) := fun e he f hf =>
      equals_answers e.2 f.2 (fun h => hquiet (.here he h)) fun h => hquiet' (.here hf h)
    obtain ⟨b, hb⟩ := equalsEntries_answers (fun e he f hf => (hes e he).answers (hfs f hf)) fun e he f hf =>
      (hvalues e he f hf).1
    obtain ⟨c, hc⟩ := equalsEntries_answers (fun f hf e he => (hfs f hf).answers (hes e he)) fun f hf e he =>
      (hvalues e he f hf).2
    exact (@Mirror.of_answers True _ _ ⟨⟨b, hb⟩, c, hc⟩ hyes).2 trivial
  · rw [if_pos hlength, if_pos (Ne.symm hlength)]
    exact (stepwise_mirror _).no

end

/-- Two values that a host holds are equal or not whichever of them is asked.  Whether they are unequal or the question
fails depends on this only if a dictionary with a signaling decimal among its values is compared. -/
theorem equals_mirrors (v w : Value) : v.HeldIn heap → w.HeldIn heap →
    Mirror (¬v.HoldsSignalDict ∧ ¬w.HoldsSignalDict) (v.equals w) (w.equals v) := by
  have hmono {P Q : Prop} {r s : Except Fault Bool} (hPQ : Q → P) (h : Mirror P r s) : Mirror Q r s :=
    ⟨h.1, fun hQ => h.2 (hPQ hQ)⟩
  have hparts {v w x y : Value} (hx : x ∈ v.comparedParts) (hy : y ∈ w.comparedParts) :
      ¬v.HoldsSignalDict ∧ ¬w.HoldsSignalDict → ¬x.HoldsSignalDict ∧ ¬y.HoldsSignalDict :=
    fun h => ⟨fun hx' => h.1 (.part hx hx'), fun hy' => h.2 (.part hy hy')⟩
  induction v, w using pairInduct with
  | apart v w h => exact fun _ _ => (stepwise_mirror _).apart h
  | atoms v w a b hv hw =>
    intro _ _
    rw [equals_comm_of_atom? hv hw]
    exact ⟨Iff.rfl, fun _ => rfl⟩
  | members e name a e' name' a' hm hm' => exact fun _ _ => (stepwise_mirror _).members hm hm'
  | tuples id label xs id' label' ys ih =>
    intro hv hw
    exact (stepwise_mirror _).tuples _ _ _ _ fun x hx y hy =>
      hmono (hparts hx hy) (ih x hx y hy (hv.part hx) (hw.part hy))
  | lists id xs id' ys ih =>
    intro hv hw
    exact (stepwise_mirror _).lists _ _ fun x hx y hy =>
      hmono (hparts hx hy) (ih x hx y hy (hv.part hx) (hw.part hy))
  | sets id xs id' ys ih =>
    intro hv hw
    exact mirror_sets hv hw fun x hx y hy => (ih x hx y hy (hv.part hx) (hw.part hy)).1
  | dicts id es id' fs ih =>
    intro hv hw
    obtain ⟨-, hes, hvalues⟩ := hv.keys_dict
    obtain ⟨-, hfs, hvalues'⟩ := hw.keys_dict
    exact mirror_dicts hv hw fun e he f hf =>
      ⟨((ih e he f hf).1 (hes e he).held (hfs f hf).held).1, ((ih e he f hf).2 (hvalues e he) (hvalues' f hf)).1⟩
  | objects id c fields offers failing id' c' fields' offers' failing' ih =>
    intro hv hw
    exact (stepwise_mirror _).objects _ _ _ _ _ _ _ _ fun x hx y hy =>
      hmono (hparts hx hy) (ih x hx y hy (hv.part hx) (hw.part hy))
  | sources id xs id' ys => exact fun _ _ => (stepwise_mirror _).sources _ _ _ _

end Value
end FlowRules
