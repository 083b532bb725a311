import FlowRules.Proofs.Entries
import FlowRules.Proofs.Number.Order

/-!
# Pairs of values

What is asked of two values, such as whether they are equal, comes to no where they are of different kinds, and to
questions about their parts where they are of one kind.  So what holds of all pairs is proved by one induction
(`Value.pairInduct`).
-/

namespace FlowRules

/-! ### Atoms -/

namespace DateTime

variable {t u : DateTime}

/-- Whether a point in time has an offset, and where it stands among those that do or do not. -/
def reading (t : DateTime) : Bool × Int :=
  match t.offset with
  | none => (false, t.wallMicros)
  | some o => (true, t.instantWith o)

theorem compare?_eq (t u : DateTime) :
    compare? t u = if t.reading.1 = u.reading.1 then some (compare t.reading.2 u.reading.2) else none := by
  unfold compare? reading
  cases t.offset <;> cases u.offset <;> rfl

theorem compare?_swap (t u : DateTime) : compare? u t = (compare? t u).map Ordering.swap := by
  rw [compare?_eq, compare?_eq]
  by_cases h : t.reading.1 = u.reading.1
  · rw [if_pos h, if_pos h.symm, Option.map_some, Int.compare_swap]
  · rw [if_neg h, if_neg (Ne.symm h), Option.map_none]

theorem compare?_eq_iff : compare? t u = some .eq ↔ t.reading = u.reading := by
  rw [compare?_eq, Prod.ext_iff]
  by_cases h : t.reading.1 = u.reading.1
  · simp [h]
  · simp [h]

end DateTime

namespace Atom

variable {a b c : Atom} {m n : Number} {t u : DateTime}

def moment? : Atom → Option DateTime
  | .dateTime t => some t
  | _ => none

/-- Numbers are compared by their values, bytes of both kinds byte by byte, points in time as such, and all other atoms
are equal if they are the same. -/
theorem equals_eq (a b : Atom) :
    a.equals b =
      match a.number?, b.number? with
      | some m, some n => Fault.ofDecimal (m.equals n)
      | _, _ =>
        match a.bytes?, b.bytes? with
        | some s, some t => .ok (s == t)
        | _, _ =>
          match a.moment?, b.moment? with
          | some t, some u => .ok (t.compare? u == some .eq)
          | _, _ => .ok (a == b) := by
  cases a <;> cases b <;> rfl

theorem equals_comm (a b : Atom) : b.equals a = a.equals b := by
  have hsame : (b == a) = (a == b) := BEq.comm
  rw [equals_eq, equals_eq, hsame]
  rcases a.number? with _ | m <;> rcases b.number? with _ | n
  case some.some => exact congrArg Fault.ofDecimal (Number.equals_comm m n)
  all_goals
    rcases a.bytes? with _ | s <;> rcases b.bytes? with _ | s'
    case some.some => exact congrArg Except.ok BEq.comm
    all_goals
      rcases a.moment? with _ | t <;> rcases b.moment? with _ | u
      case some.some =>
        show Except.ok (u.compare? t == some .eq) = .ok (t.compare? u == some .eq)
        rw [DateTime.compare?_swap t u]
        rcases DateTime.compare? t u with _ | _ | _ | _ <;> rfl
      all_goals rfl

/-- Equal atoms are numbers of the same value, the same bytes, the same point in time, or the same. -/
theorem equals_true (h : a.equals b = .ok true) :
    (∃ m n, a.number? = some m ∧ b.number? = some n ∧ m.equals n = .ok true) ∨
      (∃ s, a.bytes? = some s ∧ b.bytes? = some s) ∨
      (∃ t u, a = .dateTime t ∧ b = .dateTime u ∧ t.compare? u = some .eq) ∨ a = b := by
  rw [equals_eq] at h
  have hmoment {c : Atom} {t : DateTime} (hc : c.moment? = some t) : c = .dateTime t := by
    cases c <;> cases hc
    rfl
  split at h
  · next m n hm hn =>
    rcases hequals : m.equals n with f | e
    · rw [hequals] at h
      cases h
    · rw [hequals] at h
      cases h
      exact .inl ⟨m, n, hm, hn, hequals⟩
  · split at h
    · next s s' hs hs' =>
      obtain rfl : s = s' := by simpa using h
      exact .inr (.inl ⟨s, hs, hs'⟩)
    · split at h
      · next t u ht hu =>
        refine .inr (.inr (.inl ⟨t, u, hmoment ht, hmoment hu, ?_⟩))
        simpa using h
      · refine .inr (.inr (.inr ?_))
        simpa using h

theorem equals_of_numbers (hm : a.number? = some m) (hn : b.number? = some n) (h : m.equals n = .ok true) :
    a.equals b = .ok true := by
  rw [equals_eq, hm, hn]
  show Fault.ofDecimal (m.equals n) = _
  rw [h]
  rfl

theorem number?_of_bytes {s : List UInt8} (hs : a.bytes? = some s) : a.number? = none := by
  cases a <;> first | rfl | cases hs

theorem equals_of_bytes {s : List UInt8} (ha : a.bytes? = some s) (hb : b.bytes? = some s) : a.equals b = .ok true := by
  rw [equals_eq, number?_of_bytes ha, ha, hb]
  exact congrArg Except.ok (beq_self_eq_true s)

theorem equals_trans (hab : a.equals b = .ok true) (hbc : b.equals c = .ok true) : a.equals c = .ok true := by
  rcases equals_true hab with ⟨m, k, hm, hk, hmk⟩ | ⟨s, ha, hb⟩ | ⟨t, u, rfl, rfl, htu⟩ | rfl
  · rcases equals_true hbc with ⟨k', n, hk', hn, hkn⟩ | ⟨s, hb, -⟩ | ⟨u, x, rfl, rfl, hux⟩ | rfl
    · rw [hk] at hk'
      cases hk'
      exact equals_of_numbers hm hn (Number.equals_trans hmk hkn)
    · rw [number?_of_bytes hb] at hk
      cases hk
    · cases hk
    · exact hab
  · rcases equals_true hbc with ⟨k, n, hk, -⟩ | ⟨s', hb', hc⟩ | ⟨u, x, rfl, -⟩ | rfl
    · rw [number?_of_bytes hb] at hk
      cases hk
    · obtain rfl : s = s' := Option.some.inj (hb.symm.trans hb')
      exact equals_of_bytes ha hc
    · cases hb
    · exact hab
  · rcases equals_true hbc with ⟨k, n, hk, hn, hkn⟩ | ⟨s, hb, -⟩ | ⟨u', x, hu, rfl, hux⟩ | rfl
    · cases hk
    · cases hb
    · cases hu
      have htx := DateTime.compare?_eq_iff.2 ((DateTime.compare?_eq_iff.1 htu).trans (DateTime.compare?_eq_iff.1 hux))
      rw [equals_eq]
      simp [number?, bytes?, moment?, htx]
    · exact hab
  · exact hbc

end Atom

/-! ### Parts -/

namespace Value

/-- What holds of a value when it holds of its parts, holds of every value. -/
theorem induct {P : Value → Prop} (atom : ∀ a, P (.atom a)) (member : ∀ e name a, P (.member e name a))
    (tuple : ∀ id label items, (∀ v ∈ items, P v) → P (.tuple id label items))
    (list : ∀ id items, (∀ v ∈ items, P v) → P (.list id items))
    (set : ∀ id items, (∀ v ∈ items, P v) → P (.set id items))
    (dict : ∀ id entries, (∀ e ∈ entries, P e.1 ∧ P e.2) → P (.dict id entries))
    (object : ∀ id c fields offers failing, (∀ f ∈ fields, P f.2) → P (.object id c fields offers failing))
    (source : ∀ id items, P (.source id items)) (other : ∀ type, P (.other type)) (v : Value) : P v := by
  refine @Value.rec P (fun items => ∀ v ∈ items, P v) (fun entries => ∀ e ∈ entries, P e.1 ∧ P e.2)
    (fun fields => ∀ f ∈ fields, P f.2) (fun e => P e.1 ∧ P e.2) (fun f => P f.2) atom member tuple list set dict
    (fun id c fields offers failing hfields _ => object id c fields offers failing hfields)
    (fun id items _ => source id items) other ?_ ?_ ?_ ?_ ?_ ?_ ?_ ?_ v
  · nofun
  · exact fun v items hv hitems => List.forall_mem_cons.2 ⟨hv, hitems⟩
  · nofun
  · exact fun e entries he hentries => List.forall_mem_cons.2 ⟨he, hentries⟩
  · nofun
  · exact fun f fields hf hfields => List.forall_mem_cons.2 ⟨hf, hfields⟩
  · exact fun k v hk hv => ⟨hk, hv⟩
  · exact fun _ v hv => hv

/-- The values that are compared when a value is. -/
def comparedParts : Value → List Value
  | .tuple _ _ items => items
  | .list _ items => items
  | .set _ items => items
  | .dict _ entries => entries.flatMap fun e => [e.1, e.2]
  | .object _ c fields _ _ => if c.shape = .plain then [] else c.fieldNames.filterMap fun name => fields.lookup name
  | _ => []

variable {v w : Value} {a b : Atom}

/-! ### Kinds of values -/

theorem equals_members {e e' : EnumClass} {name name' : String} {a' : Atom} (hm : e.mixin = .none) :
    (member e name a).equals (member e' name' a') = .ok (e == e' && name == name') := if_pos hm

theorem equals_mixed {e : EnumClass} {name : String} (hm : e.mixin ≠ .none) :
    (member e name a).equals w = w.atom?.elim (.ok false) a.equals := by
  refine (if_neg hm).trans ?_
  cases w.atom? <;> rfl

theorem equals_of_atom? (hv : v.atom? = some a) (w : Value) : v.equals w = w.atom?.elim (.ok false) a.equals := by
  cases v with
  | atom b =>
    cases hv
    rw [equals]
    cases w.atom? <;> rfl
  | member e name b =>
    by_cases hm : e.mixin = .none
    · simp [atom?, hm] at hv
    · simp only [atom?, if_neg hm, Option.some.injEq] at hv
      rw [equals_mixed hm, hv]
  | _ => cases hv

/-- Values that are atoms or also atoms are compared as such. -/
theorem equals_comm_of_atom? (hv : v.atom? = some a) (hw : w.atom? = some b) : w.equals v = v.equals w := by
  rw [equals_of_atom? hv, equals_of_atom? hw, hv, hw]
  exact Atom.equals_comm a b

theorem equals_true_of_atom? (hv : v.atom? = some a) :
    v.equals w = .ok true ↔ ∃ b, w.atom? = some b ∧ a.equals b = .ok true := by
  rw [equals_of_atom? hv]
  rcases w.atom? with _ | b <;> simp

/-- Values of one kind. -/
inductive Paired : Value → Value → Prop
  | atoms {v w : Value} {a b : Atom} (hv : v.atom? = some a) (hw : w.atom? = some b) : Paired v w
  | members {e e' : EnumClass} {name name' : String} {a a' : Atom} (hm : e.mixin = .none) (hm' : e'.mixin = .none) :
      Paired (.member e name a) (.member e' name' a')
  | tuples {id id' : Identity} {label label' : Option TupleClass} {xs ys : List Value} :
      Paired (.tuple id label xs) (.tuple id' label' ys)
  | lists {id id' : Identity} {xs ys : List Value} : Paired (.list id xs) (.list id' ys)
  | sets {id id' : Identity} {xs ys : List Value} : Paired (.set id xs) (.set id' ys)
  | dicts {id id' : Identity} {es fs : List (Value × Value)} : Paired (.dict id es) (.dict id' fs)
  | objects {id id' : Identity} {c c' : ClassInfo} {fields fields' offers offers' : List (String × Value)}
      {failing failing' : List (String × Fault)} :
      Paired (.object id c fields offers failing) (.object id' c' fields' offers' failing')
  | sources {id id' : Nat} {xs ys : List Value} : Paired (.source id xs) (.source id' ys)

theorem Paired.symm (h : Paired v w) : Paired w v := by
  cases h with
  | atoms hv hw => exact .atoms hw hv
  | members hm hm' => exact .members hm' hm
  | tuples => exact .tuples
  | lists => exact .lists
  | sets => exact .sets
  | dicts => exact .dicts
  | objects => exact .objects
  | sources => exact .sources

theorem mixin_of_atom?_eq_none {e : EnumClass} {name : String} (h : (member e name a).atom? = none) : e.mixin = .none := by
  by_contra hm
  simp [atom?, hm] at h

theorem equals_of_not_paired (h : ¬Paired v w) : v.equals w = .ok false := by
  rcases hv : v.atom? with _ | a
  · cases v with
    | atom => cases hv
    | member e name a =>
      have hm := mixin_of_atom?_eq_none hv
      cases w with
      | member e' name' b =>
        have hne : e ≠ e' := fun heq => h (.members hm (heq ▸ hm))
        rw [equals_members hm]
        simp [hne]
      | _ => exact if_pos hm
    | tuple =>
      cases w with
      | tuple => exact absurd .tuples h
      | _ => rfl
    | list =>
      cases w with
      | list => exact absurd .lists h
      | _ => rfl
    | set =>
      cases w with
      | set => exact absurd .sets h
      | _ => rfl
    | dict =>
      cases w with
      | dict => exact absurd .dicts h
      | _ => rfl
    | object =>
      cases w with
      | object => exact absurd .objects h
      | _ => rfl
    | source =>
      cases w with
      | source => exact absurd .sources h
      | _ => rfl
    | other => rfl
  · rcases hw : w.atom? with _ | b
    · rw [equals_of_atom? hv, hw]
      rfl
    · exact absurd (.atoms hv hw) h

/-- What holds of any two values of different kinds, of atoms, and of two values of one kind when it holds of any part of
the one and any part of the other, holds of any two values. -/
theorem pairInduct {P : Value → Value → Prop} (apart : ∀ v w, ¬Paired v w → P v w)
    (atoms : ∀ v w a b, v.atom? = some a → w.atom? = some b → P v w)
    (members : ∀ e name a e' name' a', e.mixin = .none → e'.mixin = .none →
      P (.member e name a) (.member e' name' a'))
    (tuples : ∀ id label xs id' label' ys, (∀ x ∈ xs, ∀ y ∈ ys, P x y) → P (.tuple id label xs) (.tuple id' label' ys))
    (lists : ∀ id xs id' ys, (∀ x ∈ xs, ∀ y ∈ ys, P x y) → P (.list id xs) (.list id' ys))
    (sets : ∀ id xs id' ys, (∀ x ∈ xs, ∀ y ∈ ys, P x y) → P (.set id xs) (.set id' ys))
    (dicts : ∀ id es id' fs, (∀ e ∈ es, ∀ f ∈ fs, P e.1 f.1 ∧ P e.2 f.2) → P (.dict id es) (.dict id' fs))
    (objects : ∀ id c fields offers failing id' c' fields' offers' failing',
      (∀ x ∈ (object id c fields offers failing).comparedParts,
        ∀ y ∈ (object id' c' fields' offers' failing').comparedParts, P x y) →
        P (.object id c fields offers failing) (.object id' c' fields' offers' failing'))
    (sources : ∀ id xs id' ys, P (.source id xs) (.source id' ys)) (v w : Value) : P v w := by
  have hsplit {x y : Value} (h : Paired x y → P x y) : P x y := by
    by_cases hxy : Paired x y
    · exact h hxy
    · exact apart x y hxy
  refine hsplit fun h => ?_
  induction v using induct generalizing w with
  | atom a =>
    cases h with
    | atoms hv hw => exact atoms _ _ _ _ hv hw
  | member e name a =>
    cases h with
    | atoms hv hw => exact atoms _ _ _ _ hv hw
    | members hm hm' => exact members _ _ _ _ _ _ hm hm'
  | tuple id label xs ih =>
    cases h with
    | atoms hv => cases hv
    | tuples => exact tuples _ _ _ _ _ _ fun x hx y _ => hsplit (ih x hx y)
  | list id xs ih =>
    cases h with
    | atoms hv => cases hv
    | lists => exact lists _ _ _ _ fun x hx y _ => hsplit (ih x hx y)
  | set id xs ih =>
    cases h with
    | atoms hv => cases hv
    | sets => exact sets _ _ _ _ fun x hx y _ => hsplit (ih x hx y)
  | dict id es ih =>
    cases h with
    | atoms hv => cases hv
    | dicts => exact dicts _ _ _ _ fun e he f _ => ⟨hsplit ((ih e he).1 f.1), hsplit ((ih e he).2 f.2)⟩
  | object id c fields offers failing ih =>
    cases h with
    | atoms hv => cases hv
    | objects =>
      refine objects _ _ _ _ _ _ _ _ _ _ fun x hx y _ => hsplit ?_
      by_cases hc : c.shape = .plain
      · simp [comparedParts, hc] at hx
      · simp only [comparedParts, if_neg hc, List.mem_filterMap] at hx
        obtain ⟨name, -, hname⟩ := hx
        exact ih (name, x) (mem_of_lookup hname) y
  | source id xs =>
    cases h with
    | atoms hv => cases hv
    | sources => exact sources _ _ _ _
  | other type =>
    cases h with
    | atoms hv => cases hv

end Value
end FlowRules
