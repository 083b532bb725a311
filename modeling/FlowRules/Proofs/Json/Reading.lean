import FlowRules.Json.Reader
import FlowRules.Proofs.Check.Writing
import FlowRules.Proofs.Number.Digits

/-!
# What is read of a JSON document

A reader goes forward in its document and does not leave it.  Main statement: reading stops at a number only where the
document has more digits in a row than are read, and the integers of a document that is read have no more digits than
are written (`Json.read_spec`), so that everything in it can be written (`Json.Short.plainText`).
-/

namespace FlowRules

namespace Json

/-! ### Documents that can be written -/

/-- No integer in a document has more digits than are written. -/
def Short (j : Json) : Prop := ¬ j.toValue.Oversized

theorem toValues_eq_map (items : List Json) : toValues items = items.map toValue := by
  induction items with
  | nil => rfl
  | cons j items ih => rw [toValues, ih, List.map_cons]

theorem toEntries_eq_map (members : List (String × Json)) :
    toEntries members = members.map fun m => (.text m.1, m.2.toValue) := by
  induction members with
  | nil => rfl
  | cons m members ih => rw [toEntries, ih, List.map_cons]

theorem short_array {items : List Json} (h : ∀ j ∈ items, j.Short) : (array items).Short := by
  intro hover
  change (Value.list none (toValues items)).Oversized at hover
  obtain ⟨w, hw, hover⟩ := (Value.oversized_iff (v := .list none (toValues items)) nofun).1 hover
  rw [Value.shownParts, toValues_eq_map] at hw
  obtain ⟨j, hj, rfl⟩ := List.mem_map.1 hw
  exact h j hj hover

theorem short_object {members : List (String × Json)} (h : ∀ m ∈ members, m.2.Short) : (object members).Short := by
  intro hover
  change (Value.dict none (toEntries members)).Oversized at hover
  obtain ⟨w, hw, hover⟩ := (Value.oversized_iff (v := .dict none (toEntries members)) nofun).1 hover
  rw [Value.shownParts, toEntries_eq_map, List.flatMap_map] at hw
  obtain ⟨m, hm, hw⟩ := List.mem_flatMap.1 hw
  simp only [List.mem_cons, List.not_mem_nil, or_false] at hw
  rcases hw with rfl | rfl
  · exact Value.not_oversized_atom (a := .text m.1) nofun hover
  · exact h m hm hover

theorem mem_of_short {members : List (String × Json)} (h : (object members).Short) {m : String × Json}
    (hm : m ∈ members) : m.2.Short := by
  intro hover
  refine h (.part (w := m.2.toValue) ?_ hover)
  change m.2.toValue ∈ (Value.dict none (toEntries members)).shownParts
  rw [Value.shownParts, toEntries_eq_map, List.flatMap_map]
  exact List.mem_flatMap.2 ⟨m, hm, by simp⟩

/-- A document without integers that are too long has a text. -/
theorem Short.plainText {j : Json} (h : j.Short) : ∃ s, j.toValue.plainText = .ok s := by
  cases j with
  | null => exact ⟨_, rfl⟩
  | bool b => exact ⟨_, rfl⟩
  | float x => exact ⟨_, rfl⟩
  | text s => exact ⟨_, rfl⟩
  | int n => exact Value.display_ok h
  | array items => exact Value.display_ok h
  | object members => exact Value.display_ok h

theorem mem_setMember {key : String} {v : Json} {members : List (String × Json)} {m : String × Json}
    (h : m ∈ setMember key v members) : m.2 = v ∨ m ∈ members := by
  induction members with
  | nil =>
    rw [setMember, List.mem_singleton] at h
    exact .inl (congrArg Prod.snd h)
  | cons e members ih =>
    obtain ⟨k, w⟩ := e
    rw [setMember] at h
    split at h
    · rcases List.mem_cons.1 h with rfl | h
      · exact .inl rfl
      · exact .inr (List.mem_cons_of_mem _ h)
    · rcases List.mem_cons.1 h with rfl | h
      · exact .inr List.mem_cons_self
      · exact (ih h).imp id (List.mem_cons_of_mem _)

/-! ### Reading forward -/

/-- Somewhere there are more digits in a row than are read, and a fault tells how many. -/
def TooManyDigits (cs : List Char) (f : NumeralFault) : Prop :=
  ∃ digits, digits <:+: cs ∧ (∀ c ∈ digits, isDigit c = true) ∧ Numeral.maxDigits < digits.length ∧
    f = .tooLongToRead digits.length

/-- What is read has a property, and what is left is the end of `doc`; or reading stops at a number, and `doc` has more
digits in a row than are read; or it stops at something else. -/
def Within {α : Type} (doc : List Char) (P : α → Prop) : Reads α → Prop
  | .ok (a, next) => P a ∧ next.rest <:+ doc
  | .error (.numeral f) => TooManyDigits doc f
  | .error _ => True

variable {α β : Type} {doc cs : List Char} {P : α → Prop} {r : Reads α} {c : Cursor}

theorem Within.mono (h : Within cs P r) (hcs : cs <:+ doc) : Within doc P r := by
  rcases r with (_ | _ | f) | ⟨a, next⟩
  · trivial
  · trivial
  · obtain ⟨digits, hdigits, h⟩ := h
    exact ⟨digits, hdigits.trans hcs.isInfix, h⟩
  · exact ⟨h.1, h.2.trans hcs⟩

theorem drop_suffix (c : Cursor) (n : Nat) : (c.drop n).rest <:+ c.rest := List.drop_suffix n c.rest

theorem skipBlanks_suffix (c : Cursor) : c.skipBlanks.rest <:+ c.rest := drop_suffix c _

/-! ### Texts -/

theorem codePoint_within (c : Cursor) : Within c.rest (fun _ => True) (codePoint c) := by
  unfold codePoint
  dsimp only
  split
  · trivial
  · split
    · trivial
    · split
      · split
        · trivial
        · split
          · exact ⟨trivial, (drop_suffix _ 6).trans (drop_suffix c 5)⟩
          · exact ⟨trivial, drop_suffix c 5⟩
      · exact ⟨trivial, drop_suffix c 5⟩

theorem textFrom_within (start : Nat) (read : List Char) (fuel : Nat) (c : Cursor) :
    Within c.rest (fun _ => True) (textFrom start read fuel c) := by
  induction fuel generalizing read c with
  | zero => trivial
  | succ fuel ih =>
    rw [textFrom]
    split
    · trivial
    · exact ⟨trivial, drop_suffix c 1⟩
    · split
      · have hpoint := codePoint_within (c.drop 1)
        split
        · next stop hstop =>
          rw [hstop] at hpoint
          cases stop with
          | numeral f => exact hpoint.mono (drop_suffix c 1)
          | _ => trivial
        · next ch next hnext =>
          rw [hnext] at hpoint
          exact (ih _ next).mono (hpoint.2.trans (drop_suffix c 1))
      · split
        · trivial
        · exact (ih _ _).mono (drop_suffix c 2)
    · trivial
    · split
      · trivial
      · exact (ih _ _).mono (drop_suffix c 1)

theorem readText_within (c : Cursor) : Within c.rest (fun _ => True) (readText c) :=
  (textFrom_within _ _ _ _).mono (drop_suffix c 1)

/-! ### Numbers -/

theorem isDecimalDigit_of_isDigit {d : Char} (h : isDigit d = true) : Text.isDecimalDigit d = true := by
  refine Text.isDecimalDigit_of_isDigit (Char.isDigit_iff_toNat.2 ?_)
  simpa [isDigit, Char.le_def, UInt32.le_iff_toNat_le] using h

/-- The integer part of a number are digits behind a sign or none. -/
theorem numberParts_spec {whole fraction exponent : List Char} (h : numberParts? cs = some (whole, fraction, exponent)) :
    ∃ negative digits, whole = Numeral.signed negative digits ∧ digits ≠ [] ∧ (∀ d ∈ digits, isDigit d = true) ∧
      digits <:+: cs := by
  unfold numberParts? at h
  split at h
  next sign body hsign =>
    obtain ⟨negative, rfl, rfl⟩ : ∃ negative, sign = Numeral.signed negative [] ∧ cs = Numeral.signed negative body := by
      split at hsign <;> cases hsign
      · exact ⟨true, rfl, rfl⟩
      · exact ⟨false, rfl, rfl⟩
    have hbody : body <:+: Numeral.signed negative body := (List.suffix_append _ body).isInfix
    have hsigned (digits : List Char) : Numeral.signed negative [] ++ digits = Numeral.signed negative digits := by
      rw [Numeral.signed, List.append_nil, ← Numeral.signed]
    dsimp only at h
    split at h
    · cases h
      exact ⟨negative, ['0'], hsigned _, List.cons_ne_nil _ _, List.forall_mem_singleton.2 rfl,
        (List.prefix_append ['0'] _).isInfix.trans hbody⟩
    · split at h
      · cases h
      · next hne =>
        cases h
        refine ⟨negative, _, hsigned _, by simpa using hne, fun d hd => List.mem_takeWhile_imp hd, ?_⟩
        exact (List.takeWhile_prefix isDigit).isInfix.trans hbody

/-- An integer that is read is not too long. -/
theorem readNumber_within (c : Cursor) : Within c.rest Short (readNumber c) := by
  unfold readNumber
  split
  · trivial
  · next whole fraction exponent hparts =>
    obtain ⟨negative, digits, rfl, hne, hdigits, hpart⟩ := numberParts_spec hparts
    dsimp only
    split
    · have hread := Numeral.read_signed negative hne fun d hd => isDecimalDigit_of_isDigit (hdigits d hd)
      split
      · next n hn =>
        refine ⟨?_, drop_suffix c _⟩
        rw [hn] at hread
        split at hread
        · cases hread
        · next hshort =>
          cases hread
          refine fun hover => hshort (Nat.lt_of_lt_of_le (Value.oversized_int.1 hover) ?_)
          refine (Nat.length_toDigits_le_iff (by decide) (List.length_pos_iff.2 hne)).2 ?_
          have hlt := Text.digitsValue_lt digits
          split <;> omega
      · next f hf =>
        rw [hf] at hread
        split at hread
        · next hlong =>
          cases hread
          exact ⟨digits, hpart, hdigits, hlong, rfl⟩
        · cases hread
    · split
      · exact ⟨Value.not_oversized_atom nofun, drop_suffix c _⟩
      · trivial

/-! ### Values -/

theorem readWord_within {j : Json} {next : Cursor} (h : readWord? c = some (j, next)) :
    j.Short ∧ next.rest <:+ c.rest := by
  obtain ⟨w, hw, hnext⟩ := Option.map_eq_some_iff.1 h
  have hwords : ∀ w ∈ words, w.2.Short := by
    intro w hw
    simp only [words, List.mem_cons, List.not_mem_nil, or_false] at hw
    rcases hw with rfl | rfl | rfl | rfl | rfl | rfl <;> exact Value.not_oversized_atom nofun
  cases hnext
  exact ⟨hwords w (List.mem_of_find?_eq_some hw), drop_suffix c _⟩

section

variable {item : Cursor → Reads Json} (hitem : ∀ c, Within c.rest Short (item c))

include hitem

theorem elements_within {read : List Json} (hread : ∀ j ∈ read, j.Short) (fuel : Nat) (c : Cursor) :
    Within c.rest Short (elements item read fuel c) := by
  induction fuel generalizing read c with
  | zero => trivial
  | succ fuel ih =>
    have h := hitem c
    rw [elements]
    split
    · next stop hstop =>
      rw [hstop] at h
      exact h
    · next v next hv =>
      rw [hv] at h
      have hnext : next.skipBlanks.rest <:+ c.rest := (skipBlanks_suffix next).trans h.2
      have hread' : ∀ j ∈ v :: read, j.Short := List.forall_mem_cons.2 ⟨h.1, hread⟩
      dsimp only
      split
      · refine ⟨short_array fun j hj => hread' j (List.mem_reverse.1 hj), (drop_suffix _ 1).trans hnext⟩
      · exact (ih hread' _).mono (((skipBlanks_suffix _).trans (drop_suffix _ 1)).trans hnext)
      · trivial

theorem members_within {read : List (String × Json)} (hread : ∀ m ∈ read, m.2.Short) (fuel : Nat) (c : Cursor) :
    Within c.rest Short (members item read fuel c) := by
  induction fuel generalizing read c with
  | zero => trivial
  | succ fuel ih =>
    rw [members]
    split
    · have hkey := readText_within c
      split
      · next stop hstop =>
        rw [hstop] at hkey
        cases stop with
        | numeral f => exact hkey
        | _ => trivial
      · next key next hnext =>
        rw [hnext] at hkey
        dsimp only
        split
        · have hvalue := (hitem (next.skipBlanks.drop 1).skipBlanks).mono
            (((skipBlanks_suffix _).trans (drop_suffix _ 1)).trans ((skipBlanks_suffix next).trans hkey.2))
          split
          · next stop hstop =>
            rw [hstop] at hvalue
            exact hvalue
          · next v behind hbehind =>
            rw [hbehind] at hvalue
            have hset : ∀ m ∈ setMember key v read, m.2.Short := by
              intro m hm
              rcases mem_setMember hm with h | h
              · exact h ▸ hvalue.1
              · exact hread m h
            have hrest : behind.skipBlanks.rest <:+ c.rest := (skipBlanks_suffix behind).trans hvalue.2
            split
            · exact ⟨short_object hset, (drop_suffix _ 1).trans hrest⟩
            · exact (ih hset _).mono (((skipBlanks_suffix _).trans (drop_suffix _ 1)).trans hrest)
            · trivial
        · trivial
    · trivial

end

private theorem textValue_within (c : Cursor) :
    Within c.rest Short ((readText c).map fun (s, next) => (.text s, next)) := by
  have htext := readText_within c
  rcases hread : readText c with stop | ⟨s, next⟩ <;> rw [hread] at htext
  · cases stop with
    | numeral f => exact htext
    | _ => trivial
  · exact ⟨Value.not_oversized_atom (a := .text s) nofun, htext.2⟩

private theorem plainValue_within (c : Cursor) :
    Within c.rest Short
      (match readWord? c with
        | some r => .ok r
        | none => readNumber c) := by
  split
  · next r hr => exact readWord_within hr
  · exact readNumber_within c

theorem readValue_within (depth : Nat) (c : Cursor) : Within c.rest Short (readValue depth c) := by
  induction depth generalizing c with
  | zero =>
    rw [readValue]
    split
    · exact textValue_within c
    · trivial
    · trivial
    · exact plainValue_within c
  | succ depth ih =>
    have hbehind : (c.drop 1).skipBlanks.rest <:+ c.rest := (skipBlanks_suffix _).trans (drop_suffix c 1)
    rw [readValue]
    split
    · exact textValue_within c
    · dsimp only
      split
      · exact ⟨short_array (List.forall_mem_nil _), (drop_suffix _ 1).trans hbehind⟩
      · exact (elements_within ih (List.forall_mem_nil _) _ _).mono hbehind
    · dsimp only
      split
      · exact ⟨short_object (List.forall_mem_nil _), (drop_suffix _ 1).trans hbehind⟩
      · exact (members_within ih (List.forall_mem_nil _) _ _).mono hbehind
    · exact plainValue_within c

/-! ### Documents -/

/-- A document that is read holds no integer that is too long; where a number stops the reader, the document has more
digits in a row than are read. -/
theorem read_spec (s : String) :
    (∀ j, read s = .ok j → j.Short) ∧ ∀ f, read s = .error (.numeral f) → TooManyDigits s.toList f := by
  have hvalue := (readValue_within maxDepth (Cursor.skipBlanks ⟨s.toList, 0⟩)).mono (skipBlanks_suffix _)
  unfold read
  dsimp only
  split
  · exact ⟨nofun, nofun⟩
  · split
    · exact ⟨nofun, nofun⟩
    · exact ⟨nofun, nofun⟩
    · next f hf =>
      rw [hf] at hvalue
      refine ⟨nofun, fun g hg => ?_⟩
      cases hg
      exact hvalue
    · next j next hj =>
      rw [hj] at hvalue
      split
      · refine ⟨fun k hk => ?_, nofun⟩
        cases hk
        exact hvalue.1
      · exact ⟨nofun, nofun⟩

end Json
end FlowRules
