import FlowRules.Proofs.Value.Path

/-!
# Paths behind paths

A path can be followed in two parts: first up to one of its points, and then, in what is found there, from behind that
point.  Main statement: at a path that goes on behind another one there is what is found at the second in what is found
at the first, looking fails where one of the two lookups fails, and the declared type is that of the last segment in
what is found before it (`Value.field_composes`).
-/

namespace FlowRules

/-! ### Joined paths -/

section

variable {path behind : String}

theorem joined_ne_empty (path behind : String) : path ++ "." ++ behind ≠ "" := by
  intro h
  have hchars := congrArg String.toList h
  simp at hchars

theorem split_joined (path behind : String) :
    Text.split '.' (path ++ "." ++ behind) = Text.split '.' path ++ Text.split '.' behind := by
  have hchars : (path ++ "." ++ behind).toList = path.toList ++ '.' :: behind.toList := by
    simp only [String.toList_append, List.append_assoc]
    rfl
  rw [Text.split, hchars, Text.splitChars_append_sep, List.map_append]
  rfl

/-- A path is cut where nothing behind it has a point. -/
theorem cutLast_joined (path : String) (hbehind : '.' ∉ behind.toList) :
    cutLast (path ++ "." ++ behind) = (path, behind) := by
  have hback : (path ++ "." ++ behind).toList.reverse = behind.toList.reverse ++ '.' :: path.toList.reverse := by
    simp only [String.toList_append, List.reverse_append]
    rfl
  have hpoint : ∀ c ∈ behind.toList.reverse, decide (c ≠ '.') = true := by
    intro c hc
    exact decide_eq_true fun h => hbehind (h ▸ List.mem_reverse.1 hc)
  have hleaf : ((path ++ "." ++ behind).toList.reverse.takeWhile (· ≠ '.')).reverse = behind.toList := by
    rw [hback, List.takeWhile_append_of_pos hpoint, List.takeWhile_cons_of_neg (by simp), List.append_nil,
      List.reverse_reverse]
  have howner : (((path ++ "." ++ behind).toList.reverse.dropWhile (· ≠ '.')).drop 1).reverse = path.toList := by
    rw [hback, List.dropWhile_append_of_pos hpoint, List.dropWhile_cons_of_neg (by simp), List.drop_succ_cons,
      List.drop_zero, List.reverse_reverse]
  simp only [cutLast, hleaf, howner, String.ofList_toList]

end

namespace Value

/-! ### Asking what was found -/

section

variable {α : Type} {r : Except Fault (Option Value)} {ask : Value → Except Fault (Option α)} {a : α} {f : Fault}

/-- Ask something of what was found; where nothing was found there is no answer. -/
def ofFound (r : Except Fault (Option Value)) (ask : Value → Except Fault (Option α)) : Except Fault (Option α) := do
  match ← r with
  | some w => ask w
  | none => .ok none

theorem ofFound_eq_some_iff : ofFound r ask = .ok (some a) ↔ ∃ w, r = .ok (some w) ∧ ask w = .ok (some a) := by
  constructor
  · intro h
    rcases r with g | _ | w
    · cases h
    · cases h
    · exact ⟨w, rfl, h⟩
  · rintro ⟨w, rfl, h⟩
    exact h

theorem ofFound_eq_none_iff :
    ofFound r ask = .ok none ↔ r = .ok none ∨ ∃ w, r = .ok (some w) ∧ ask w = .ok none := by
  constructor
  · intro h
    rcases r with g | _ | w
    · cases h
    · exact .inl rfl
    · exact .inr ⟨w, rfl, h⟩
  · rintro (rfl | ⟨w, rfl, h⟩)
    · rfl
    · exact h

theorem ofFound_eq_error_iff :
    ofFound r ask = .error f ↔ r = .error f ∨ ∃ w, r = .ok (some w) ∧ ask w = .error f := by
  constructor
  · intro h
    rcases r with g | _ | w
    · cases h
      exact .inl rfl
    · cases h
    · exact .inr ⟨w, rfl, h⟩
  · rintro (rfl | ⟨w, rfl, h⟩)
    · rfl
    · exact h

end

/-! ### Following both parts -/

variable {path behind : String}

theorem follow_append (v : Value) (names rest : List String) :
    v.follow? (names ++ rest) = ofFound (v.follow? names) (·.follow? rest) := by
  induction names generalizing v with
  | nil => rfl
  | cons name names ih =>
    rw [List.cons_append, follow?, follow?]
    rcases v.segment? name with f | _ | w
    · rfl
    · rfl
    · exact ih w

theorem field_joined (v : Value) (hpath : path ≠ "") (behind : String) :
    v.field? (path ++ "." ++ behind) = ofFound (v.field? path) (·.follow? (Text.split '.' behind)) := by
  rw [field?, if_neg (joined_ne_empty path behind), split_joined, follow_append, field?, if_neg hpath]

theorem declaredType_joined (v : Value) (hpath : path ≠ "") (hbehind : '.' ∉ behind.toList) :
    v.declaredType? (path ++ "." ++ behind) = ofFound (v.field? path) fun w => .ok (w.ownType? behind) := by
  rw [declaredType?, if_neg (joined_ne_empty path behind), cutLast_joined path hbehind]
  simp only [if_neg hpath]
  rcases v.field? path with f | _ | w <;> rfl

theorem declaredType_single (v : Value) (hempty : path ≠ "") (hpoint : '.' ∉ path.toList) :
    v.declaredType? path = .ok (v.ownType? path) := by
  rw [declaredType?, if_neg hempty, cutLast_single hpoint]
  rfl

/-- At a path that goes on behind another one there is what is found at the second in what is found at the first.
Looking fails if either of the two lookups fails.  The declared type of the last segment is that in what is found before
it, and where nothing is found there is none. -/
theorem field_composes (v : Value) {path behind : String} (hpath : path ≠ "") (hbehind : behind ≠ "") :
    (∀ u, v.field? (path ++ "." ++ behind) = .ok (some u) ↔
        ∃ w, v.field? path = .ok (some w) ∧ w.field? behind = .ok (some u)) ∧
      (v.field? (path ++ "." ++ behind) = .ok none ↔
        v.field? path = .ok none ∨ ∃ w, v.field? path = .ok (some w) ∧ w.field? behind = .ok none) ∧
      (∀ f, v.field? (path ++ "." ++ behind) = .error f ↔
        v.field? path = .error f ∨ ∃ w, v.field? path = .ok (some w) ∧ w.field? behind = .error f) ∧
      ('.' ∉ behind.toList →
        (∀ w, v.field? path = .ok (some w) → v.declaredType? (path ++ "." ++ behind) = w.declaredType? behind) ∧
          (v.field? path = .ok none → v.declaredType? (path ++ "." ++ behind) = .ok none) ∧
          ∀ f, v.field? path = .error f → v.declaredType? (path ++ "." ++ behind) = .error f) := by
  have hfield : v.field? (path ++ "." ++ behind) = ofFound (v.field? path) (·.field? behind) := by
    rw [field_joined v hpath]
    congr 1
    funext w
    rw [field?, if_neg hbehind]
  refine ⟨fun u => ?_, ?_, fun f => ?_, fun hpoint => ?_⟩
  · rw [hfield, ofFound_eq_some_iff]
  · rw [hfield, ofFound_eq_none_iff]
  · rw [hfield, ofFound_eq_error_iff]
  · rw [declaredType_joined v hpath hpoint]
    refine ⟨fun w hw => ?_, fun hnone => ?_, fun f hf => ?_⟩
    · rw [hw, declaredType_single w hbehind hpoint]
      rfl
    · rw [hnone]
      rfl
    · rw [hf]
      rfl

private def shipment : Value :=
  .object none ⟨"Shipment", .record, [("weights", .generic .list), ("label", .type .text)]⟩
    [("weights", .list none [.int 3, .int 5]), ("label", .text "A-7")] [] []

private def shipments : Value := .list none [shipment, .null]

private def parcels : Value := .dict none [(.text "first", shipments)]

/-- The weights of the first shipment, and the type of its label. -/
theorem field_composes_shipment :
    parcels.field? "FIRST.0.weights" = .ok (some (.list none [.int 3, .int 5])) ∧
      parcels.declaredType? "FIRST.0.Label" = shipment.declaredType? "Label" ∧
      shipment.declaredType? "Label" = .ok (some .text) := by
  have hitem : shipments.segment? (Numeral.text 0) = .ok (some shipment) := by
    have hitems : shipments.sequenceItems? = some [shipment, .null] := rfl
    rw [segment_place hitems (by decide)]
    rfl
  have hshipments : parcels.segment? "FIRST" = .ok (some shipments) := rfl
  have hshipment : parcels.field? "FIRST.0" = .ok (some shipment) := by
    show parcels.follow? ["FIRST", Numeral.text 0] = _
    rw [follow_cons hshipments, follow_singleton, hitem]
  have hweights : shipment.field? "weights" = .ok (some (.list none [.int 3, .int 5])) := rfl
  have hfirst : "FIRST.0" ≠ "" := by decide
  have hcomposes := field_composes parcels hfirst (show "weights" ≠ "" by decide)
  have hlabel := field_composes parcels hfirst (show "Label" ≠ "" by decide)
  exact ⟨(hcomposes.1 _).2 ⟨shipment, hshipment, hweights⟩, (hlabel.2.2.2 (by decide)).1 shipment hshipment, by decide⟩

end Value
end FlowRules
