import FlowRules.Proofs.Condition.Lexemes
import FlowRules.Value.Display
import FlowRules.Value.Field

/-!
# Field paths by their segments

A path is made of names and places, with points between them.  It is split at its points into just these segments, and
they are followed one after the other (`Value.field_path`).  A place is read as the integer that it is, so in a sequence
it names the item there (`Value.segment_place`).
-/

namespace FlowRules

/-! ### Splitting what was joined -/

namespace Text

variable {c sep : Char} {cs rest : List Char} {parts : List (List Char)}

theorem splitChars_of_notMem (h : sep ∉ cs) : splitChars sep cs = [cs] := by
  induction cs with
  | nil => rfl
  | cons c cs ih =>
    have hc : c ≠ sep := fun hc => h (hc ▸ List.mem_cons_self)
    rw [splitChars, if_neg hc, ih fun hmem => h (List.mem_cons_of_mem c hmem)]

theorem splitChars_cons (hc : c ≠ sep) (cs : List Char) :
    ∃ p ps, splitChars sep cs = p :: ps ∧ splitChars sep (c :: cs) = (c :: p) :: ps := by
  obtain ⟨p, ps, h⟩ := List.exists_cons_of_ne_nil (splitChars_ne_nil sep cs)
  exact ⟨p, ps, h, by rw [splitChars, if_neg hc, h]⟩

theorem splitChars_append_sep (cs rest : List Char) :
    splitChars sep (cs ++ sep :: rest) = splitChars sep cs ++ splitChars sep rest := by
  induction cs with
  | nil => exact if_pos rfl
  | cons c cs ih =>
    by_cases hc : c = sep
    · rw [List.cons_append, splitChars, splitChars, if_pos hc, if_pos hc, ih, List.cons_append]
    · obtain ⟨p, ps, h, hcons⟩ := splitChars_cons hc cs
      rw [hcons, List.cons_append, splitChars, if_neg hc, ih, h, List.cons_append, List.cons_append]

theorem splitChars_append (h : sep ∉ cs) : splitChars sep (cs ++ sep :: rest) = cs :: splitChars sep rest := by
  rw [splitChars_append_sep, splitChars_of_notMem h, List.singleton_append]

/-- Parts without the separator come back from the text that joins them. -/
theorem splitChars_intercalate (hne : parts ≠ []) (h : ∀ p ∈ parts, sep ∉ p) :
    splitChars sep ([sep].intercalate parts) = parts := by
  induction parts with
  | nil => exact absurd rfl hne
  | cons p parts ih =>
    obtain ⟨hp, hparts⟩ := List.forall_mem_cons.1 h
    rcases parts with _ | ⟨q, parts⟩
    · rw [List.intercalate_singleton]
      exact splitChars_of_notMem hp
    · rw [List.intercalate_cons_cons, List.append_assoc, List.singleton_append, splitChars_append hp,
        ih (List.cons_ne_nil q parts) hparts]

theorem split_of_notMem {s : String} (h : sep ∉ s.toList) : split sep s = [s] := by
  rw [split, splitChars_of_notMem h, List.map_singleton, String.ofList_toList]

theorem split_join {parts : List String} (hne : parts ≠ []) (h : ∀ p ∈ parts, sep ∉ p.toList) :
    split sep (join (String.singleton sep) parts) = parts := by
  have hchars : (join (String.singleton sep) parts).toList = [sep].intercalate (parts.map String.toList) := by
    rw [join, String.toList_intercalate, String.toList_singleton]
  have hparts : ∀ p ∈ parts.map String.toList, sep ∉ p := by
    intro p hp
    obtain ⟨s, hs, rfl⟩ := List.mem_map.1 hp
    exact h s hs
  rw [split, hchars, splitChars_intercalate (by simpa using hne) hparts, List.map_map]
  simp [Function.comp_def]

end Text

theorem writeInt_eq_text {n : Int} (hn : Decimal.digitCount n.natAbs ≤ Numeral.maxDigits) :
    writeInt n = .ok (Numeral.text n) := by
  rw [writeInt, Numeral.write_eq_text hn]

/-! ### Segments -/

/-- A segment of a path: the name of a field, or a place in a sequence. -/
inductive Segment where
  | name (s : String)
  | place (n : Int)
  deriving DecidableEq, Repr

namespace Segment

def text : Segment → String
  | name s => s
  | place n => Numeral.text n

/-- Names are names and no keywords, and places have no more digits than are read. -/
def Valid : Segment → Prop
  | name s => Text.IsName s.toList ∧ Token.small s.toList ∉ Token.keywords
  | place n => Decimal.digitCount n.natAbs ≤ Numeral.maxDigits

/-- The path with these segments. -/
def path (segments : List Segment) : String := Text.join "." (segments.map text)

end Segment

namespace Numeral

open Text

variable {c : Char}

private theorem isNumeral_among : ∀ n < 58, 48 ≤ n → inBands n numeralBounds false = true := by decide

theorem isNumeral_of_mem_natDigits {n : Nat} (h : c ∈ natDigits n) : isNumeral c = true := by
  obtain ⟨hlow, hhigh⟩ : 48 ≤ c.toNat ∧ c.toNat ≤ 57 := Char.isDigit_iff_toNat.1 (isDigit_of_mem_natDigits h)
  exact isNumeral_among c.toNat (by omega) hlow

theorem ne_of_mem_natDigits {n : Nat} {d : Char} (hd : d.isDigit = false) (h : c ∈ natDigits n) : c ≠ d := by
  rintro rfl
  rw [isDigit_of_mem_natDigits h] at hd
  cases hd

theorem point_notMem_text (n : Int) : '.' ∉ (text n).toList := by
  rw [toList_text]
  intro h
  rcases mem_signed h with h | h
  · cases h
  · exact ne_of_mem_natDigits rfl h rfl

end Numeral

namespace Segment

theorem point_notMem_text {s : Segment} (hs : s.Valid) : '.' ∉ s.text.toList := by
  cases s with
  | place n => exact Numeral.point_notMem_text n
  | name s =>
    intro h
    cases hs.1.chars '.' h

theorem text_ne_empty {s : Segment} (hs : s.Valid) : s.text ≠ "" := by
  intro h
  have hchars : s.text.toList = [] := congrArg String.toList h
  cases s with
  | name s => exact hs.1.ne_nil hchars
  | place n =>
    have hdigits : Text.natDigits n.natAbs ≠ [] := Nat.toDigits_ne_nil
    rw [text, Numeral.toList_text] at hchars
    exact hdigits (List.append_eq_nil_iff.1 hchars).2

end Segment

/-! ### Following a path -/

namespace Value

variable {v w : Value} {name : String} {n : Int}

theorem isPlace_text (n : Int) : isPlace (Numeral.text n) = true := by
  have hdrop : (Text.natDigits n.natAbs).dropWhile (· = '-') = Text.natDigits n.natAbs := by
    rw [List.dropWhile_eq_self_iff]
    intro hlength hsign
    exact @Numeral.ne_of_mem_natDigits _ _ '-' rfl (List.getElem_mem hlength) (of_decide_eq_true hsign)
  have hdigits : (Numeral.text n).toList.dropWhile (· = '-') = Text.natDigits n.natAbs := by
    rw [Numeral.toList_text, Numeral.signed]
    split
    · exact hdrop
    · exact hdrop
  have hne : Text.natDigits n.natAbs ≠ [] := Nat.toDigits_ne_nil
  have hall : (Text.natDigits n.natAbs).all Text.isNumeral = true :=
    List.all_eq_true.2 fun _ => Numeral.isNumeral_of_mem_natDigits
  simp only [isPlace, hdigits, hall, Bool.and_true, Bool.not_eq_true', List.isEmpty_eq_false_iff]
  exact hne

/-- In a sequence a place names the item there. -/
theorem segment_place {items : List Value} (hv : v.sequenceItems? = some items)
    (hn : Decimal.digitCount n.natAbs ≤ Numeral.maxDigits) : v.segment? (Numeral.text n) = .ok (itemAt? items n) := by
  cases v with
  | list | tuple =>
    cases hv
    simp only [segment?, sequenceItems?, isPlace_text, Numeral.read_text hn, if_true]
  | _ => cases hv

/-- A path of one segment. -/
theorem follow_singleton (v : Value) (name : String) : v.follow? [name] = v.segment? name := by
  rw [follow?]
  rcases v.segment? name with f | _ | w <;> rfl

theorem follow_cons (h : v.segment? name = .ok (some w)) (names : List String) :
    v.follow? (name :: names) = w.follow? names := by
  rw [follow?, h]
  rfl

/-- What is missing is null. -/
def orNull (r : Except Fault (Option Value)) : Except Fault Value := r.map (·.getD .null)

theorem field_orNull (v : Value) (path : String) : v.field path (some .null) = orNull (v.field? path) := by
  rw [field]
  rcases v.field? path with f | _ | w <;> rfl

/-- In null everything is missing. -/
theorem follow_null (names : List String) : orNull (Value.null.follow? names) = .ok .null := by
  cases names <;> rfl

theorem field_null (path : String) : Value.null.field path (some .null) = .ok .null := by
  rw [field_orNull, field?]
  split
  · rfl
  · exact follow_null _

/-- The segments of a path are followed one after the other. -/
theorem field_path (v : Value) {segments : List Segment} (hne : segments ≠ []) (h : ∀ s ∈ segments, s.Valid) :
    v.field? (Segment.path segments) = v.follow? (segments.map Segment.text) := by
  have hpoint : ∀ p ∈ segments.map Segment.text, '.' ∉ p.toList := by
    intro p hp
    obtain ⟨s, hs, rfl⟩ := List.mem_map.1 hp
    exact Segment.point_notMem_text (h s hs)
  have hsplit : Text.split '.' (Segment.path segments) = segments.map Segment.text :=
    Text.split_join (by simpa using hne) hpoint
  have hnonempty : Segment.path segments ≠ "" := by
    intro hempty
    rw [hempty] at hsplit
    -- splitting the empty text gives one empty segment
    obtain ⟨s, hs, htext⟩ := List.mem_map.1 (hsplit ▸ List.mem_singleton_self "" : "" ∈ segments.map Segment.text)
    exact Segment.text_ne_empty (h s hs) htext
  rw [field?, if_neg hnonempty, hsplit]

/-- A path without points that is not empty is one segment. -/
theorem field_single (hempty : name ≠ "") (hpoint : '.' ∉ name.toList) (flow : Value) :
    flow.field? name = flow.segment? name := by
  rw [field?, if_neg hempty, Text.split_of_notMem hpoint, follow_singleton]

theorem cutLast_single (hpoint : '.' ∉ name.toList) : cutLast name = ("", name) := by
  have hback : ∀ c ∈ name.toList.reverse, decide (c ≠ '.') = true := by
    intro c hc
    exact decide_eq_true fun h => hpoint (h ▸ List.mem_reverse.1 hc)
  simp only [cutLast, List.takeWhile_eq_self_iff.2 hback, List.dropWhile_eq_nil_iff.2 hback, List.drop_nil,
    List.reverse_nil, List.reverse_reverse, String.ofList_toList]

end Value
end FlowRules
