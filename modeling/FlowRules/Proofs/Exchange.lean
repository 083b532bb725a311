import FlowRules.Exchange.Values
import FlowRules.Proofs.Store.Storage

/-!
# Documents in exchange

A document without tags is exchanged as it stands.  Main statement: it is read as a value that stands for it, whose
containers have got identities of their own, counted from the next one that is free, and this value is written as the
document again (`Exchange.read_untagged`).
-/

namespace FlowRules

/-! ### Documents without tags -/

namespace Json

mutual

/-- Whether a document needs no tag: no name of a member begins as a tag does, and there is no floating-point number, as
these are written under a tag. -/
def isUntagged : Json → Bool
  | .float _ => false
  | .array items => areUntagged items
  | .object members => membersUntagged members
  | _ => true
termination_by structural j => j

def areUntagged : List Json → Bool
  | [] => true
  | j :: js => isUntagged j && areUntagged js
termination_by structural js => js

def membersUntagged : List (String × Json) → Bool
  | [] => true
  | (k, j) :: ms => !Text.startsWith k "$" && isUntagged j && membersUntagged ms
termination_by structural ms => ms

end

end Json

namespace Value

mutual

/-- The identities of the containers in a value, the outer ones first. -/
def containers : Value → List Identity
  | .tuple id _ items => id :: containersOfList items
  | .list id items => id :: containersOfList items
  | .set id items => id :: containersOfList items
  | .dict id entries => id :: containersOfEntries entries
  | .object id _ fields _ _ => id :: containersOfFields fields
  | .source _ items => containersOfList items
  | _ => []
termination_by structural v => v

def containersOfList : List Value → List Identity
  | [] => []
  | v :: vs => containers v ++ containersOfList vs
termination_by structural vs => vs

def containersOfEntries : List (Value × Value) → List Identity
  | [] => []
  | (k, v) :: es => containers k ++ containers v ++ containersOfEntries es
termination_by structural es => es

def containersOfFields : List (String × Value) → List Identity
  | [] => []
  | (_, v) :: fs => containers v ++ containersOfFields fs
termination_by structural fs => fs

end

end Value

namespace Exchange

variable {host : Host} {j : Json}

/-! ### Writing -/

mutual

/-- A value that stands for a document without tags is written as the document. -/
theorem write_of_stands : (j : Json) → {v : Value} → j.isUntagged → j.Stands v → write v = j
  | .null, _, _, rfl | .bool _, _, _, rfl | .int _, _, _, rfl | .text _, _, _, rfl => rfl
  | .array items, _, hj, ⟨_, vs, rfl, hvs⟩ => by
    rw [write, writeList_of_stands items hj hvs]
  | .object members, _, hj, ⟨_, es, rfl, hes⟩ => by
    obtain ⟨hplain, hwritten⟩ := writeEntries_of_stands members hj hes
    have hnames : (members.map fun m => (Json.text m.1, m.2)).filterMap
        (fun e => match e.1 with | .text s => some (s, e.2) | _ => none) = members := by
      rw [List.filterMap_map]
      exact List.filterMap_some
    simp only [write, hplain, if_true, hwritten]
    exact congrArg Json.object hnames

theorem writeList_of_stands : (items : List Json) → {vs : List Value} → Json.areUntagged items →
    Json.StandAll items vs → writeList vs = items
  | [], _, _, rfl => rfl
  | j :: items, _, hj, ⟨w, ws, rfl, hw, hws⟩ => by
    obtain ⟨hhead, htail⟩ := Bool.and_eq_true_iff.1 hj
    rw [writeList, write_of_stands j hhead hw, writeList_of_stands items htail hws]

theorem writeEntries_of_stands : (members : List (String × Json)) → {es : List (Value × Value)} →
    Json.membersUntagged members → Json.StandUnder members es →
      isPlain es ∧ writeEntries es = members.map fun m => (.text m.1, m.2)
  | [], _, _, rfl => ⟨rfl, rfl⟩
  | (k, j) :: members, _, hj, ⟨w, ws, rfl, hw, hws⟩ => by
    simp only [Json.membersUntagged, Bool.and_eq_true, Bool.not_eq_true'] at hj
    obtain ⟨⟨hk, hhead⟩, htail⟩ := hj
    obtain ⟨hplain, hwritten⟩ := writeEntries_of_stands members htail hws
    refine ⟨?_, by rw [writeEntries, write_of_stands j hhead hw, hwritten, List.map_cons]; rfl⟩
    rw [isPlain, List.all_cons, ← isPlain, hplain, Bool.and_true, Value.text]
    exact Bool.not_eq_true' _ ▸ hk

end

/-! ### Reading -/

private theorem run_bind {α β : Type} {x : Intake α} {f : α → Intake β} {a : α} {m n : Nat}
    (h : x.run n = .ok (a, m)) : (x >>= f).run n = (f a).run m := by
  rw [StateT.run_bind, h]
  rfl

/-- An object without tags is read member by member, also one with a single member. -/
private theorem read_object {members : List (String × Json)} (h : Json.membersUntagged members) :
    read host (.object members) = (do
      let id ← fresh
      let fs ← readMembers host members
      return .dict id (fs.map fun f => (.text f.1, f.2))) := by
  match members with
  | [] => rfl
  | _ :: _ :: _ => simp only [read]
  | [(k, j)] =>
    simp only [Json.membersUntagged, Bool.and_true, Bool.and_eq_true, Bool.not_eq_true'] at h
    have htag : ∀ tag, Text.startsWith tag "$" → k ≠ tag := by
      rintro tag htag rfl
      exact Bool.false_ne_true (h.1.symm.trans htag)
    rw [read, if_neg]
    · rw [readMembers, readMembers]
      simp only [bind_assoc, pure_bind]
      rfl
    · intro hmem
      have hstarts : ∀ tag ∈ ["$float", "$decimal", "$date", "$datetime", "$bytes"], Text.startsWith tag "$" := by
        decide
      exact htag k (hstarts k hmem) rfl
    -- What is left are the forms with a tag, which are tried before.
    all_goals
      intros
      refine htag _ ?_ ‹k = _›
      decide

mutual

/-- A document without tags is read as a value that stands for it, and every container gets the next identity. -/
private theorem read_stands (host : Host) : (j : Json) → j.isUntagged → ∀ n, ∃ v k,
    (read host j).run n = .ok (v, n + k) ∧ j.Stands v ∧ v.containers = (List.range' n k).map some
  | .null, _, n | .bool _, _, n | .int _, _, n | .text _, _, n => ⟨_, 0, rfl, rfl, rfl⟩
  | .array items, hj, n => by
    obtain ⟨vs, k, hread, hstands, hids⟩ := readList_stand host items hj (n + 1)
    refine ⟨.list (some n) vs, k + 1, ?_, ⟨_, vs, rfl, hstands⟩, ?_⟩
    · rw [read, run_bind rfl, run_bind hread, Nat.add_right_comm]
      rfl
    · rw [Value.containers, hids, List.range'_succ, List.map_cons]
  | .object members, hj, n => by
    obtain ⟨fs, k, hread, hstands, hids⟩ := readMembers_stand host members hj (n + 1)
    refine ⟨.dict (some n) (fs.map fun f => (.text f.1, f.2)), k + 1, ?_, ⟨_, _, rfl, hstands⟩, ?_⟩
    · rw [read_object hj, run_bind rfl, run_bind hread, Nat.add_right_comm]
      rfl
    · rw [Value.containers, hids, List.range'_succ, List.map_cons]

private theorem readList_stand (host : Host) : (items : List Json) → Json.areUntagged items → ∀ n, ∃ vs k,
    (readList host items).run n = .ok (vs, n + k) ∧ Json.StandAll items vs ∧
      Value.containersOfList vs = (List.range' n k).map some
  | [], _, n => ⟨[], 0, rfl, rfl, rfl⟩
  | j :: items, hj, n => by
    obtain ⟨hhead, htail⟩ := Bool.and_eq_true_iff.1 hj
    obtain ⟨v, k, hread, hstands, hids⟩ := read_stands host j hhead n
    obtain ⟨vs, l, hreads, hstand, hidss⟩ := readList_stand host items htail (n + k)
    refine ⟨v :: vs, k + l, ?_, ⟨v, vs, rfl, hstands, hstand⟩, ?_⟩
    · rw [readList, run_bind hread, run_bind hreads, Nat.add_assoc]
      rfl
    · rw [Value.containersOfList, hids, hidss, ← List.map_append, List.range'_append_1]

private theorem readMembers_stand (host : Host) : (members : List (String × Json)) → Json.membersUntagged members →
    ∀ n, ∃ fs k, (readMembers host members).run n = .ok (fs, n + k) ∧
      Json.StandUnder members (fs.map fun f => (.text f.1, f.2)) ∧
      Value.containersOfEntries (fs.map fun f => (.text f.1, f.2)) = (List.range' n k).map some
  | [], _, n => ⟨[], 0, rfl, rfl, rfl⟩
  | (name, j) :: members, hj, n => by
    simp only [Json.membersUntagged, Bool.and_eq_true] at hj
    obtain ⟨⟨-, hhead⟩, htail⟩ := hj
    obtain ⟨v, k, hread, hstands, hids⟩ := read_stands host j hhead n
    obtain ⟨fs, l, hreads, hstand, hidss⟩ := readMembers_stand host members htail (n + k)
    refine ⟨(name, v) :: fs, k + l, ?_, ⟨v, _, rfl, hstands, hstand⟩, ?_⟩
    · rw [readMembers, run_bind hread, run_bind hreads, Nat.add_assoc]
      rfl
    · rw [List.map_cons, Value.containersOfEntries, hids, hidss, ← List.range'_append_1, List.map_append]
      rfl

end

/-- A document without tags is read as a value that stands for it and is written as the document; the identities of the
containers in the value are those from the next free one on. -/
theorem read_untagged (host : Host) (h : j.isUntagged) (n : Nat) :
    ∃ v k, (read host j).run n = .ok (v, n + k) ∧ j.Stands v ∧ v.containers = (List.range' n k).map some ∧
      write v = j := by
  obtain ⟨v, k, hread, hstands, hids⟩ := read_stands host j h n
  exact ⟨v, k, hread, hstands, hids, write_of_stands j h hstands⟩

end Exchange
end FlowRules
