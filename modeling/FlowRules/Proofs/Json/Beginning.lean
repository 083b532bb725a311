import FlowRules.Proofs.Condition.Lexemes
import FlowRules.Proofs.Json.Reading

/-!
# How values begin

A value begins with a quote, a bracket, the first letter of a word, a sign or a digit (`Json.begins_of_readValue`).  A
number in front of a comma or a bracket is taken apart into its integer part, its fraction and its exponent part
(`Json.numberParts?_signed`).
-/

namespace FlowRules.Json

open Numeral (signed)

variable {cs ds whole fraction exponent rest : List Char} {d : Char} {depth : Nat}

/-! ### What begins no text, array, object or word -/

/-- The characters that texts, arrays, objects and the words of the grammar begin with. -/
def openings : List Char := ['"', '[', '\x7b', 'n', 't', 'f', 'N', 'I', '-']

-- each of these tests a list: there are too many characters to go through all of them
private theorem words_begin : (words.all fun w => w.1.head?.any openings.contains) = true := by decide

private theorem openings_not_digits : (openings.all fun ch => !isDigit ch) = true := by decide

theorem isDigit_of_mem_openings {ch : Char} (h : ch ∈ openings) : isDigit ch = false := by
  simpa using List.all_eq_true.1 openings_not_digits ch h

private theorem readWord?_eq_none {c : Cursor} (h : ∀ ch ∈ c.rest.head?, ch ∉ openings) : readWord? c = none := by
  rw [readWord?, Option.map_eq_none_iff, List.find?_eq_none]
  intro w hw hprefix
  obtain ⟨ch, hch, hopening⟩ := (Option.any_eq_true _ _).1 (List.all_eq_true.1 words_begin w hw)
  obtain ⟨rest, hrest⟩ := List.isPrefixOf_iff_prefix.1 hprefix
  refine h ch ?_ (List.contains_iff_mem.1 hopening)
  rw [← hrest, List.head?_append, hch]
  rfl

theorem readValue_eq_readNumber (depth : Nat) {c : Cursor} (h : ∀ ch ∈ c.rest.head?, ch ∉ openings) :
    readValue depth c = readNumber c := by
  cases depth <;>
  · rw [readValue]
    split
    · next hrest => exact absurd (h '"' (by rw [hrest]; rfl)) (by decide)
    · next hrest => exact absurd (h '[' (by rw [hrest]; rfl)) (by decide)
    · next hrest => exact absurd (h '\x7b' (by rw [hrest]; rfl)) (by decide)
    · rw [readWord?_eq_none h]

/-- What begins with a digit behind a sign or none is read as a number. -/
theorem readValue_signed (depth : Nat) (negative : Bool) {d : Char} (hd : isDigit d = true) (i : Nat) :
    readValue depth ⟨signed negative (d :: ds), i⟩ = readNumber ⟨signed negative (d :: ds), i⟩ := by
  cases negative with
  | false =>
    refine readValue_eq_readNumber depth fun c hc hopening => ?_
    cases hc
    exact Bool.false_ne_true ((isDigit_of_mem_openings hopening).symm.trans hd)
  | true =>
    have hword : readWord? ⟨signed true (d :: ds), i⟩ = none := by
      have hI : d ≠ 'I' := by
        rintro rfl
        exact absurd hd (by decide)
      rw [readWord?, Option.map_eq_none_iff, List.find?_eq_none]
      intro w hw hprefix
      simp only [words, List.mem_cons, List.not_mem_nil, or_false] at hw
      rcases hw with rfl | rfl | rfl | rfl | rfl | rfl <;> simp [signed] at hprefix
      exact hI hprefix.1.symm
    cases depth <;>
    · rw [readValue]
      split
      · next hrest => cases hrest
      · next hrest => cases hrest
      · next hrest => cases hrest
      · rw [hword]

/-! ### The parts of a number -/

/-- What stands behind a value in a document: nothing, or what separates and closes. -/
def Closes (rest : List Char) : Prop := ∀ c ∈ rest.head?, c = ',' ∨ c = ']' ∨ c = '\x7d'

/-- A zero alone, or digits that begin with another one. -/
inductive IsWhole : List Char → Prop where
  | zero : IsWhole ['0']
  | digits {d : Char} {ds : List Char} (hd : d ≠ '0') (hds : ∀ c ∈ d :: ds, isDigit c = true) : IsWhole (d :: ds)

/-- Nothing, or a point and digits. -/
inductive IsFraction : List Char → Prop where
  | none : IsFraction []
  | digits {ds : List Char} (hne : ds ≠ []) (hds : ∀ c ∈ ds, isDigit c = true) : IsFraction ('.' :: ds)

/-- Nothing, or the mark of an exponent, a sign or none, and digits. -/
inductive IsExponent : List Char → Prop where
  | none : IsExponent []
  | digits {mark : Char} {sign ds : List Char} (hmark : mark = 'e' ∨ mark = 'E')
    (hsign : sign = [] ∨ sign = ['+'] ∨ sign = ['-']) (hne : ds ≠ []) (hds : ∀ c ∈ ds, isDigit c = true) :
    IsExponent (mark :: (sign ++ ds))

private def wholePart (body : List Char) : List Char :=
  match body with
  | '0' :: _ => ['0']
  | r => r.takeWhile isDigit

private def fractionPart (r : List Char) : List Char :=
  match r with
  | '.' :: ds => if (ds.takeWhile isDigit).isEmpty then [] else '.' :: ds.takeWhile isDigit
  | _ => []

private def exponentPart (r : List Char) : List Char :=
  match r with
  | e :: s :: ds =>
    if e = 'e' ∨ e = 'E' then
      if s = '+' ∨ s = '-' then
        (if (ds.takeWhile isDigit).isEmpty then [] else e :: s :: ds.takeWhile isDigit)
      else (if isDigit s then e :: (s :: ds).takeWhile isDigit else [])
    else []
  | _ => []

private theorem numberParts?_eq (negative : Bool) (hsign : ∀ c ∈ cs.head?, c ≠ '-') (hne : wholePart cs ≠ []) :
    numberParts? (signed negative cs) =
      let r := cs.drop (wholePart cs).length
      some (signed negative (wholePart cs), fractionPart r, exponentPart (r.drop (fractionPart r).length)) := by
  have hempty : (wholePart cs).isEmpty = false := List.isEmpty_eq_false_iff.2 hne
  cases negative with
  | true =>
    show (if (wholePart cs).isEmpty then none else some _) = _
    rw [hempty]
    rfl
  | false =>
    show numberParts? cs = _
    unfold numberParts?
    split
    next sign body hbody =>
      split at hbody
      · exact absurd rfl (hsign '-' rfl)
      · cases hbody
        show (if (wholePart cs).isEmpty then none else some _) = _
        rw [hempty]
        rfl

/-- A number begins with a sign or a digit. -/
theorem numberParts?_eq_none (h : ∀ c ∈ cs.head?, c ≠ '-' ∧ isDigit c = false) : numberParts? cs = none := by
  have hwhole : wholePart cs = [] := by
    unfold wholePart
    split
    · exact absurd (h '0' rfl).2 (by decide)
    · rw [List.takeWhile_eq_nil_iff]
      intro hpos hdigit
      have hhead := (h _ (List.head?_eq_getElem? ▸ List.getElem?_eq_getElem hpos)).2
      exact Bool.false_ne_true (hhead.symm.trans hdigit)
  unfold numberParts?
  split
  next sign body hbody =>
    split at hbody
    · exact absurd rfl (h '-' rfl).1
    · cases hbody
      show (if (wholePart cs).isEmpty then none else some _) = none
      rw [hwhole]
      rfl

private theorem wholePart_append (hw : IsWhole whole) (hrest : ∀ c ∈ rest.head?, isDigit c = false) :
    wholePart (whole ++ rest) = whole := by
  cases hw with
  | zero => rfl
  | @digits d ds hd hds =>
    unfold wholePart
    split
    · next hzero => exact absurd (List.cons.inj hzero).1 hd
    · exact Token.takeWhile_append hds hrest

private theorem fractionPart_append (hf : IsFraction fraction)
    (hrest : ∀ c ∈ rest.head?, isDigit c = false ∧ c ≠ '.') : fractionPart (fraction ++ rest) = fraction := by
  cases hf with
  | none =>
    unfold fractionPart
    split
    · next hpoint =>
      rw [List.nil_append] at hpoint
      exact absurd rfl (hrest '.' (by rw [hpoint]; rfl)).2
    · rfl
  | @digits ds hne hds =>
    show (if ((ds ++ rest).takeWhile isDigit).isEmpty then [] else '.' :: (ds ++ rest).takeWhile isDigit) = _
    rw [Token.takeWhile_append hds fun c hc => (hrest c hc).1, List.isEmpty_eq_false_iff.2 hne]
    rfl

private theorem exponentPart_append (he : IsExponent exponent)
    (hrest : ∀ c ∈ rest.head?, isDigit c = false ∧ c ≠ 'e' ∧ c ≠ 'E') : exponentPart (exponent ++ rest) = exponent := by
  cases he with
  | none =>
    unfold exponentPart
    split
    · next e s ds hmark =>
      rw [List.nil_append] at hmark
      obtain ⟨-, he, hE⟩ := hrest e (by rw [hmark]; rfl)
      rw [if_neg (not_or.2 ⟨he, hE⟩)]
    · rfl
  | @digits mark sign ds hmark hsign hne hds =>
    have hrun : (ds ++ rest).takeWhile isDigit = ds := Token.takeWhile_append hds fun c hc => (hrest c hc).1
    have hsigned {s : Char} (hs : s = '+' ∨ s = '-') : exponentPart (mark :: s :: ds ++ rest) = mark :: s :: ds := by
      rw [List.cons_append, List.cons_append, exponentPart, if_pos hmark, if_pos hs, hrun,
        List.isEmpty_eq_false_iff.2 hne]
      rfl
    rcases hsign with rfl | rfl | rfl
    · obtain ⟨d, ds, rfl⟩ := List.exists_cons_of_ne_nil hne
      have hd : isDigit d = true := hds d List.mem_cons_self
      have hplain : ¬(d = '+' ∨ d = '-') := by
        rintro (rfl | rfl) <;> exact absurd hd (by decide)
      rw [List.nil_append, List.cons_append, List.cons_append, exponentPart, if_pos hmark, if_neg hplain, if_pos hd,
        ← List.cons_append, hrun]
    · exact hsigned (.inl rfl)
    · exact hsigned (.inr rfl)

private theorem closes_stops (hr : Closes rest) :
    ∀ c ∈ rest.head?, isDigit c = false ∧ c ≠ '.' ∧ c ≠ 'e' ∧ c ≠ 'E' := by
  intro c hc
  rcases hr c hc with rfl | rfl | rfl <;> decide

/-- A number in front of what closes is taken apart. -/
theorem numberParts?_signed (negative : Bool) (hw : IsWhole whole) (hf : IsFraction fraction)
    (he : IsExponent exponent) (hr : Closes rest) :
    numberParts? (signed negative (whole ++ (fraction ++ (exponent ++ rest)))) =
      some (signed negative whole, fraction, exponent) := by
  have hexponent : ∀ c ∈ (exponent ++ rest).head?, isDigit c = false ∧ c ≠ '.' := by
    cases he with
    | none => exact fun c hc => ⟨(closes_stops hr c hc).1, (closes_stops hr c hc).2.1⟩
    | digits hmark =>
      intro c hc
      cases hc
      rcases hmark with rfl | rfl <;> decide
  have hfraction : ∀ c ∈ (fraction ++ (exponent ++ rest)).head?, isDigit c = false := by
    cases hf with
    | none => exact fun c hc => (hexponent c hc).1
    | digits =>
      intro c hc
      cases hc
      rfl
  have hwhole := wholePart_append hw hfraction
  have hsign : ∀ c ∈ (whole ++ (fraction ++ (exponent ++ rest))).head?, c ≠ '-' := by
    cases hw with
    | zero =>
      intro c hc
      cases hc
      decide
    | digits hd hds =>
      intro c hc
      cases hc
      rintro rfl
      exact absurd (hds '-' List.mem_cons_self) (by decide)
  have hne : wholePart (whole ++ (fraction ++ (exponent ++ rest))) ≠ [] := by
    rw [hwhole]
    cases hw <;> exact List.cons_ne_nil _ _
  rw [numberParts?_eq negative hsign hne]
  dsimp only
  rw [hwhole, List.drop_left, fractionPart_append hf hexponent, List.drop_left,
    exponentPart_append he fun c hc => ⟨(closes_stops hr c hc).1, (closes_stops hr c hc).2.2⟩]

/-! ### The first character -/

/-- The first character of a value that is read. -/
def Begins (cs : List Char) : Prop := ∃ d ds, cs = d :: ds ∧ (d ∈ openings ∨ isDigit d = true)

/-- A value that is read begins a text, an array, an object or a word, or is a number. -/
theorem begins_of_readValue {c next : Cursor} {j : Json} (h : readValue depth c = .ok (j, next)) : Begins c.rest := by
  by_contra hbegins
  have hstart (b : Char) (hb : b ∈ c.rest.head?) : b ∉ openings ∧ isDigit b = false := by
    obtain ⟨ds, hds⟩ := List.head?_eq_some_iff.1 hb
    exact ⟨fun h => hbegins ⟨b, ds, hds, .inl h⟩, Bool.eq_false_iff.2 fun h => hbegins ⟨b, ds, hds, .inr h⟩⟩
  have hnumber : numberParts? c.rest = none := by
    refine numberParts?_eq_none fun b hb => ⟨?_, (hstart b hb).2⟩
    rintro rfl
    exact (hstart '-' hb).1 (by decide)
  rw [readValue_eq_readNumber depth fun b hb => (hstart b hb).1, readNumber, hnumber] at h
  cases h

private theorem openings_apart : (openings.all fun d =>
    !Text.isBlank d && !Cursor.isBlank d && d != ']' && d != '\x7d' && d != '\ufeff') = true := by decide

/-- What begins a value is neither white space nor what closes. -/
theorem Begins.head (h : Begins cs) : ∃ d ds, cs = d :: ds ∧ Text.isBlank d = false ∧ Cursor.isBlank d = false ∧
    d ≠ ']' ∧ d ≠ '\x7d' ∧ d ≠ '\ufeff' := by
  obtain ⟨d, ds, rfl, hd⟩ := h
  refine ⟨d, ds, rfl, ?_⟩
  rcases hd with hopening | hdigit
  · simpa [and_assoc] using List.all_eq_true.1 openings_apart d hopening
  · have hother (b : Char) (hb : isDigit b = false) : d ≠ b := by
      rintro rfl
      exact Bool.false_ne_true (hb.symm.trans hdigit)
    refine ⟨Text.isBlank_of_digit (isDecimalDigit_of_isDigit hdigit), ?_, hother _ rfl, hother _ rfl, hother _ rfl⟩
    rw [Cursor.isBlank, decide_eq_false (hother ' ' rfl), decide_eq_false (hother '\t' rfl),
      decide_eq_false (hother '\n' rfl), decide_eq_false (hother '\r' rfl)]
    rfl

theorem Begins.length_pos (h : Begins cs) : 0 < cs.length := by
  obtain ⟨d, ds, rfl, -⟩ := h
  exact Nat.succ_pos _

theorem Begins.append (h : Begins cs) (rest : List Char) : Begins (cs ++ rest) := by
  obtain ⟨d, ds, rfl, hd⟩ := h
  exact ⟨d, ds ++ rest, rfl, hd⟩

theorem skipBlanks_cons (hd : Cursor.isBlank d = false) (rest : List Char) (i : Nat) :
    Cursor.skipBlanks ⟨d :: rest, i⟩ = ⟨d :: rest, i⟩ := by
  rw [Cursor.skipBlanks, List.takeWhile_cons_of_neg (Bool.eq_false_iff.1 hd)]
  rfl

theorem skipBlanks_begins (h : Begins cs) (i : Nat) : Cursor.skipBlanks ⟨cs, i⟩ = ⟨cs, i⟩ := by
  obtain ⟨d, ds, rfl, -, hd, -⟩ := h.head
  exact skipBlanks_cons hd ds i

/-- The blank in front of a value is skipped. -/
theorem skipBlanks_blank (h : Begins cs) (i : Nat) : Cursor.skipBlanks ⟨' ' :: cs, i⟩ = ⟨cs, i + 1⟩ := by
  obtain ⟨d, ds, rfl, -, hd, -⟩ := h.head
  rw [Cursor.skipBlanks, List.takeWhile_cons_of_pos rfl, List.takeWhile_cons_of_neg (Bool.eq_false_iff.1 hd)]
  rfl

end FlowRules.Json
