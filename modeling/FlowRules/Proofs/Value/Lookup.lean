import FlowRules.Proofs.Check.Reading
import FlowRules.Proofs.Value.Path

/-!
# Looking for what is not there

Data is made of null, truth values, numbers and texts, in lists and in dictionaries with texts for keys.  A path through
data that names nothing finds nothing, and that is no error, but for one kind of segment: at a list, a text can pass for
a place and not be read as one, such as `--1`, `²`, or more digits than are read (`Value.Misread`).  Main statement: a
path through data fails exactly where it meets such a segment at a list (`data_lookup_total_iff`).
-/

namespace FlowRules

namespace Value

/-! ### Places that are not read -/

/-- The digits of a place, behind all its signs. -/
def placeDigits (name : String) : List Char := name.toList.dropWhile (· = '-')

/-- A segment that passes for a place and is not read as a number: it has more than one sign, a numeral that is no
decimal digit, or more digits than are read. -/
def Misread (name : String) : Prop :=
  isPlace name = true ∧
    (['-', '-'] <+: name.toList ∨ (∃ c ∈ placeDigits name, Text.isDecimalDigit c = false) ∨
      Numeral.maxDigits < (placeDigits name).length)

end Value

namespace Numeral

open Text

variable {c : Char} {cs : List Char} {s : String} {n : Int}

/-- The code points of white space. -/
private def blankPoints : List Nat := [
  9, 10, 11, 12, 13, 28, 29, 30, 31, 32, 133, 160, 5760, 8192, 8193, 8194, 8195, 8196, 8197, 8198, 8199, 8200, 8201,
  8202, 8232, 8233, 8239, 8287, 12288]

private theorem blankPoints_not_numerals : ∀ n ∈ blankPoints, inBands n numeralBounds false = false := by decide

private theorem mem_blankPoints {n : Nat} (h : inBands n blankBounds false = true) : n ∈ blankPoints := by
  simp [inBands, blankBounds] at h
  simp only [blankPoints, List.mem_cons, List.not_mem_nil, or_false]
  omega

private theorem ascii_numerals : ∀ n < 128, inBands n numeralBounds false = true → 48 ≤ n ∧ n ≤ 57 := by
  decide

theorem isBlank_of_isNumeral (h : isNumeral c = true) : isBlank c = false := by
  by_contra hblank
  have hpoint : c.toNat ∈ blankPoints := mem_blankPoints (by simpa [isBlank] using hblank)
  rw [isNumeral, blankPoints_not_numerals c.toNat hpoint] at h
  cases h

/-- What is read as a number has nothing but digits and separators behind its sign. -/
theorem chars_of_read (h : read s = .ok n)
    (hc : c ∈ (Decimal.splitSign ((Decimal.unpadded s.toList).map Decimal.plainDigit)).2) :
    c = '_' ∨ (digitValue? 10 c).isSome = true := by
  unfold read readIn at h
  simp only [dropMark_ten] at h
  set body := (Decimal.splitSign ((Decimal.unpadded s.toList).map Decimal.plainDigit)).2
  set inside : Char → Bool := fun c => c = '_' || (digitValue? 10 c).isSome with hinside
  split at h
  · cases h
  · split at h
    · cases h
    · split at h
      · cases h
      · next hshort =>
        have hprefix : body.takeWhile inside <+: body := List.takeWhile_prefix inside
        have hall : body.takeWhile inside = body := hprefix.eq_of_length_le (Nat.not_lt.1 hshort)
        have hin : inside c = true := List.takeWhile_eq_self_iff.1 hall c hc
        simpa [hinside] using hin

/-- A numeral that is no decimal digit is none to a reader of numbers, nor a separator or a sign. -/
theorem plainDigit_of_isNumeral (h : isNumeral c = true) (hc : isDecimalDigit c = false) :
    Decimal.plainDigit c = '?' := by
  have hlarge : ¬ c.toNat < 128 := by
    intro hsmall
    have hdigit : 48 ≤ c.toNat ∧ c.toNat ≤ 57 := ascii_numerals c.toNat hsmall h
    rw [isDecimalDigit_of_isDigit (Char.isDigit_iff_toNat.2 hdigit)] at hc
    cases hc
  have hnone : Text.digitValue? c = none := Option.isSome_eq_false_iff.1 hc |> Option.isNone_iff_eq_none.1
  simp only [Decimal.plainDigit, if_neg hlarge, hnone, isBlank_of_isNumeral h, Bool.false_eq_true, if_false]

end Numeral

namespace Value

open Text

variable {v w : Value} {name : String} {f : Fault}

theorem isPlace_iff : isPlace name = true ↔ placeDigits name ≠ [] ∧ ∀ c ∈ placeDigits name, isNumeral c = true := by
  simp [isPlace, placeDigits]

/-- A place is read without anything being trimmed off it. -/
theorem unpadded_place (h : isPlace name = true) : Decimal.unpadded name.toList = name.toList := by
  refine Numeral.unpadded_eq_self fun c hc => ?_
  rw [← List.takeWhile_append_dropWhile (p := (· = '-')) (l := name.toList)] at hc
  rcases List.mem_append.1 hc with hc | hc
  · have hsign : c = '-' := by simpa using List.mem_takeWhile_imp hc
    rw [hsign]
    rfl
  · exact Numeral.isBlank_of_isNumeral ((isPlace_iff.1 h).2 c hc)

/-- Behind at most one sign there is nothing but the digits. -/
theorem chars_of_one_sign (h : ¬['-', '-'] <+: name.toList) :
    ∃ negative, name.toList = Numeral.signed negative (placeDigits name) := by
  unfold placeDigits
  rcases hchars : name.toList with _ | ⟨c, cs⟩
  · exact ⟨false, rfl⟩
  · by_cases hc : c = '-'
    · refine ⟨true, ?_⟩
      subst hc
      rw [List.dropWhile_cons_of_pos (by simp)]
      rcases cs with _ | ⟨d, ds⟩
      · rfl
      · have hd : d ≠ '-' := by
          rintro rfl
          exact h ⟨ds, hchars.symm⟩
        rw [List.dropWhile_cons_of_neg (by simp [hd])]
        rfl
    · refine ⟨false, ?_⟩
      rw [List.dropWhile_cons_of_neg (by simp [hc])]
      rfl

section

variable {n : Int} (hplace : isPlace name = true) (hread : Numeral.read name = .ok n)

include hplace hread

/-- A second sign would be neither a digit nor a separator. -/
theorem one_sign_of_read : ¬['-', '-'] <+: name.toList := by
  rintro ⟨cs, hcs⟩
  have hchars := @Numeral.chars_of_read '-' name n hread
  rw [unpadded_place hplace, ← hcs] at hchars
  rcases hchars List.mem_cons_self with hsign | hsign
  · cases hsign
  · cases hsign

theorem isDecimalDigit_of_read {c : Char} (hc : c ∈ placeDigits name) : isDecimalDigit c = true := by
  by_contra hdigit
  have hdigit : isDecimalDigit c = false := Bool.eq_false_iff.2 hdigit
  obtain ⟨negative, hsigned⟩ := chars_of_one_sign (one_sign_of_read hplace hread)
  have hnumerals := (isPlace_iff.1 hplace).2
  have hmark : ∀ d ∈ ((placeDigits name).map Decimal.plainDigit).head?, d ∉ ['_', '-', '+'] := by
    intro d hd
    obtain ⟨b, hb, rfl⟩ := List.mem_map.1 (List.mem_of_mem_head? hd)
    by_cases hdecimal : isDecimalDigit b = true
    · obtain ⟨k, hk, hplain⟩ := Numeral.exists_plainDigit hdecimal
      rw [hplain]
      exact Numeral.decimalDigit_ne_mark hk
    · rw [Numeral.plainDigit_of_isNumeral (hnumerals b hb) (Bool.eq_false_iff.2 hdecimal)]
      decide
  -- the numeral is read as a question mark, which stands in no number
  have hquestion : '?' ∈ (placeDigits name).map Decimal.plainDigit :=
    List.mem_map.2 ⟨c, hc, Numeral.plainDigit_of_isNumeral (hnumerals c hc) hdigit⟩
  have hchars := @Numeral.chars_of_read '?' name n hread
  rw [unpadded_place hplace, hsigned, Numeral.map_plainDigit_signed, Numeral.splitSign_signed negative hmark] at hchars
  rcases hchars hquestion with hnone | hnone
  · cases hnone
  · cases hnone

end

/-- What passes for a place is read as a number but for the three kinds that are misread. -/
theorem read_place_iff (h : isPlace name = true) : (∃ n, Numeral.read name = .ok n) ↔ ¬Misread name := by
  -- digits of one sign at most are read, if they are not too many
  have hsigned : ¬['-', '-'] <+: name.toList → (∀ c ∈ placeDigits name, isDecimalDigit c = true) →
      ((∃ n, Numeral.read name = .ok n) ↔ ¬Numeral.maxDigits < (placeDigits name).length) := by
    intro hsigns hdigits
    obtain ⟨negative, hchars⟩ := chars_of_one_sign hsigns
    have hread := Numeral.read_signed negative (isPlace_iff.1 h).1 hdigits
    rw [← hchars, String.ofList_toList] at hread
    by_cases hlong : Numeral.maxDigits < (placeDigits name).length
    · simp [hread, hlong]
    · simp [hread, hlong]
  constructor
  · rintro ⟨n, hn⟩ ⟨-, hsigns | ⟨c, hc, hdigit⟩ | hlong⟩
    · exact one_sign_of_read h hn hsigns
    · rw [isDecimalDigit_of_read h hn hc] at hdigit
      cases hdigit
    · exact (hsigned (one_sign_of_read h hn) fun _ => isDecimalDigit_of_read h hn).1 ⟨n, hn⟩ hlong
  · intro hmisread
    have hsigns : ¬['-', '-'] <+: name.toList := fun hsigns => hmisread ⟨h, .inl hsigns⟩
    have hdigits : ∀ c ∈ placeDigits name, isDecimalDigit c = true := by
      intro c hc
      by_contra hdigit
      exact hmisread ⟨h, .inr (.inl ⟨c, hc, Bool.eq_false_iff.2 hdigit⟩)⟩
    exact (hsigned hsigns hdigits).2 fun hlong => hmisread ⟨h, .inr (.inr hlong)⟩

/-! ### Data -/

/-- A value made of null, truth values, numbers and texts, in lists and in dictionaries with texts for keys. -/
inductive IsData : Value → Prop where
  | null : IsData .null
  | bool (b : Bool) : IsData (.bool b)
  | int (n : Int) : IsData (.int n)
  | float (x : Binary64) : IsData (.float x)
  | decimal (d : Decimal) : IsData (.decimal d)
  | text (s : String) : IsData (.text s)
  | list {id : Identity} {items : List Value} (h : ∀ w ∈ items, IsData w) : IsData (.list id items)
  | dict {id : Identity} {entries : List (Value × Value)} (hkeys : ∀ e ∈ entries, ∃ k, e.1 = .text k)
    (hvalues : ∀ e ∈ entries, IsData e.2) : IsData (.dict id entries)

/-- Data, or what data offers besides: an operation, or another part of a number. -/
def IsFound (v : Value) : Prop := v.IsData ∨ v.IsPlain

theorem IsPlain.attribute (hv : v.IsPlain) (h : v.attribute? name = .ok (some w)) : w.IsPlain := by
  cases v with
  | atom a => exact Atom.attribute_plain (Except.ok.inj h)
  | other type => cases h
  | _ => cases hv

/-- Whatever is found in data is data or has no parts. -/
theorem IsFound.offers (h : v.Offers w) (hv : v.IsFound) : w.IsFound := by
  rcases hv with hv | hv
  · rcases h with h | ⟨hitems, hw⟩ | hentry
    · right
      cases hv with
      | list => exact Atom.operation_plain (Except.ok.inj h)
      | dict => cases h
      | _ => exact Atom.attribute_plain (Except.ok.inj h)
    · cases hv with
      | list hv =>
        cases hitems
        exact .inl (hv w hw)
      | _ => cases hitems
    · cases hv with
      | dict _ hvalues => exact .inl (hvalues _ hentry)
  · rcases h with h | ⟨hitems, -⟩ | -
    · exact .inr (hv.attribute h)
    · cases v with
      | atom | other => cases hitems
      | _ => cases hv
    · cases hv

/-- Nothing in data raises a fault when it is looked at. -/
theorem IsFound.not_raises (hv : v.IsFound) : ¬v.Raises f := by
  intro h
  induction h
  · rcases hv with hv | hv
    · cases hv
    · cases hv
  · next h _ ih => exact ih (hv.offers (.attribute h))
  · next hi h _ ih => exact ih (hv.offers (.item hi h))
  · next h _ ih => exact ih (hv.offers (.entry h))

/-! ### Paths through data -/

theorem IsFound.namedField (hv : v.IsFound) (name : String) : ∃ found, v.namedField? name = .ok found := by
  rcases h : v.namedField? name with f | found
  · exact absurd ((namedField_spec v name).1 f h) hv.not_raises
  · exact ⟨found, rfl⟩

theorem IsFound.looseField (hv : v.IsFound) (name : String) : ∃ found, v.looseField? name = .ok found := by
  rcases h : v.looseField? name with f | found
  · exact absurd ((looseField_spec v name).1 f h) hv.not_raises
  · exact ⟨found, rfl⟩

/-- A segment fails only at a list, where it is misread. -/
theorem IsFound.segment_iff (hv : v.IsFound) (name : String) :
    (∃ found, v.segment? name = .ok found) ↔ ¬((∃ id items, v = .list id items) ∧ Misread name) := by
  cases v with
  | list id items =>
    by_cases hplace : isPlace name = true
    · have hread := read_place_iff hplace
      rcases hname : Numeral.read name with f | n
      · have hsegment : (Value.list id items).segment? name = .error (.value (.numeral f)) := by
          simp only [segment?, sequenceItems?, hplace, if_true, hname]
        rw [hname] at hread
        rw [hsegment]
        refine iff_of_false ?_ fun h => h ⟨⟨id, items, rfl⟩, ?_⟩
        · rintro ⟨found, hfound⟩
          cases hfound
        · by_contra hmisread
          obtain ⟨n, hn⟩ := hread.2 hmisread
          cases hn
      · have hsegment : (Value.list id items).segment? name = .ok (itemAt? items n) := by
          simp only [segment?, sequenceItems?, hplace, if_true, hname]
        refine iff_of_true ⟨_, hsegment⟩ ?_
        rintro ⟨-, hmisread⟩
        exact hread.1 ⟨n, hname⟩ hmisread
    · have hsegment : (Value.list id items).segment? name = (Value.list id items).namedField? name := if_neg hplace
      rw [hsegment]
      exact iff_of_true (hv.namedField name) fun h => hplace h.2.1
  | dict id entries =>
    refine iff_of_true ?_ (by rintro ⟨⟨_, _, ⟨⟩⟩, -⟩)
    obtain ⟨found, hfound⟩ := lookup_text name entries
    rw [segment?, hfound]
    rcases found with _ | w
    · exact hv.looseField name
    · exact ⟨some w, rfl⟩
  | atom a =>
    refine iff_of_true ?_ (by rintro ⟨⟨_, _, ⟨⟩⟩, -⟩)
    cases a with
    | null => exact ⟨none, rfl⟩
    | _ => exact hv.namedField name
  | other type => exact iff_of_true (hv.namedField name) (by rintro ⟨⟨_, _, ⟨⟩⟩, -⟩)
  | _ =>
    rcases hv with hv | hv
    · cases hv
    · cases hv

/-- Following these segments comes to a list where the next one is misread. -/
def StopsAt (v : Value) (names : List String) : Prop :=
  ∃ before name after id items, names = before ++ name :: after ∧ v.follow? before = .ok (some (.list id items)) ∧
    Misread name

theorem IsFound.follow_iff (hv : v.IsFound) (names : List String) :
    (∃ found, v.follow? names = .ok found) ↔ ¬v.StopsAt names := by
  induction names generalizing v with
  | nil =>
    refine iff_of_true ⟨some v, rfl⟩ ?_
    rintro ⟨before, name, after, id, items, hnames, -⟩
    simp at hnames
  | cons name names ih =>
    have hsegment := hv.segment_iff name
    rcases h : v.segment? name with f | found
    · -- a misread segment stops at once
      rw [h] at hsegment
      have hstop : (∃ id items, v = .list id items) ∧ Misread name := by
        by_contra hgoes
        obtain ⟨found, hfound⟩ := hsegment.2 hgoes
        cases hfound
      obtain ⟨⟨id, items, rfl⟩, hmisread⟩ := hstop
      refine iff_of_false ?_ fun hgoes => hgoes ⟨[], name, names, id, items, rfl, rfl, hmisread⟩
      rintro ⟨found, hfound⟩
      rw [follow?, h] at hfound
      cases hfound
    · have hgoes := hsegment.1 ⟨found, h⟩
      rcases found with _ | w
      · refine iff_of_true ⟨none, by rw [follow?, h]; rfl⟩ ?_
        rintro ⟨_ | ⟨first, before⟩, name', after, id, items, hnames, hbefore, hmisread⟩
        · cases hnames
          cases hbefore
          exact hgoes ⟨⟨id, items, rfl⟩, hmisread⟩
        · cases hnames
          rw [follow?, h] at hbefore
          cases hbefore
      · rw [follow_cons h, ih (hv.offers ((segment_spec v name).2 w h))]
        refine not_congr ⟨?_, ?_⟩
        · rintro ⟨before, name', after, id, items, rfl, hbefore, hmisread⟩
          exact ⟨name :: before, name', after, id, items, rfl, by rwa [follow_cons h], hmisread⟩
        · rintro ⟨_ | ⟨first, before⟩, name', after, id, items, hnames, hbefore, hmisread⟩
          · cases hnames
            cases hbefore
            exact absurd ⟨⟨id, items, rfl⟩, hmisread⟩ hgoes
          · cases hnames
            rw [follow_cons h] at hbefore
            exact ⟨before, name', after, id, items, rfl, hbefore, hmisread⟩

end Value

/-- Looking up a path in data finds something or nothing, and fails exactly where the path comes to a list with a
segment that is misread as a place. -/
theorem data_lookup_total_iff {v : Value} (hv : v.IsData) (path : String) :
    (∃ found, v.field? path = .ok found) ↔ ¬v.StopsAt (Text.split '.' path) := by
  rw [Value.field?]
  split
  · next hempty =>
    refine iff_of_true ⟨none, rfl⟩ ?_
    rintro ⟨before, name, after, id, items, hnames, -, hmisread⟩
    have hsplit : Text.split '.' path = [""] := by
      rw [hempty]
      rfl
    have hname : name ∈ [""] := by
      rw [← hsplit, hnames]
      exact List.mem_append_right before List.mem_cons_self
    rw [List.mem_singleton.1 hname] at hmisread
    exact Bool.false_ne_true hmisread.1
  · exact Value.IsFound.follow_iff (.inl hv) _

/-- A place beyond the end of a list in a dictionary in a list. -/
theorem data_lookup_total_beyond :
    (Value.list none [.dict none [(.text "a", .list none [.int 1])]]).IsData ∧
      ((∃ found, (Value.list none [.dict none [(.text "a", .list none [.int 1])]]).field? "0.a.9" = .ok found) ↔
        ¬(Value.list none [.dict none [(.text "a", .list none [.int 1])]]).StopsAt (Text.split '.' "0.a.9")) := by
  have hitems : (Value.list none [.int 1]).IsData := .list (List.forall_mem_singleton.2 (.int 1))
  have hentries : (Value.dict none [(.text "a", .list none [.int 1])]).IsData :=
    .dict (List.forall_mem_singleton.2 ⟨"a", rfl⟩) (List.forall_mem_singleton.2 hitems)
  have hdata : (Value.list none [.dict none [(.text "a", .list none [.int 1])]]).IsData :=
    .list (List.forall_mem_singleton.2 hentries)
  exact ⟨hdata, data_lookup_total_iff hdata "0.a.9"⟩

/-- In a list two signs are no missing place but an error. -/
theorem lookup_fails_at_two_signs :
    (Value.list none [.int 1]).IsData ∧
      (Value.list none [.int 1]).field? "--1" = .error (.value (.numeral (.malformed 10 "--1"))) :=
  ⟨.list (List.forall_mem_singleton.2 (.int 1)), by cbv⟩

end FlowRules
