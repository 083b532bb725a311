import Mathlib.Data.List.TakeDrop
import FlowRules.Condition.Parser
import FlowRules.Proofs.Number.Digits

/-!
# The tokens of a text

Each token but the last is made of a lexeme of the text (`Token.exists_lexemes`), so the characters of a number are
digits, with more digits behind a point if there is one, and those of a name are letters, digits and underscores.  The
value of a number is read off its digits.
-/

namespace FlowRules

namespace Text

variable {cs ds : List Char}

def IsDigits (cs : List Char) : Prop := cs ≠ [] ∧ ∀ c ∈ cs, isDecimalDigit c = true

/-- The characters of a number. -/
inductive IsNumber : List Char → Prop
  | whole {cs : List Char} : IsDigits cs → IsNumber cs
  | fraction {cs ds : List Char} : IsDigits cs → IsDigits ds → IsNumber (cs ++ '.' :: ds)

/-- The characters of a name. -/
def IsName (cs : List Char) : Prop := ∃ c ds, cs = c :: ds ∧ isNameStart c = true ∧ ∀ d ∈ ds, isNameChar d = true

theorem isName_of_all {c : Char} (hc : isNameStart c = true) (hds : ds.all isNameChar = true) : IsName (c :: ds) :=
  ⟨c, ds, rfl, hc, List.all_eq_true.1 hds⟩

theorem IsName.ne_nil (h : IsName cs) : cs ≠ [] := by
  obtain ⟨c, ds, rfl, -⟩ := h
  exact List.cons_ne_nil c ds

theorem IsName.chars (h : IsName cs) : ∀ d ∈ cs, isNameChar d = true := by
  obtain ⟨c, ds, rfl, hc, hds⟩ := h
  refine List.forall_mem_cons.2 ⟨?_, hds⟩
  rw [isNameChar, hc, Bool.true_or]

end Text

namespace Token

open Text

variable {cs : List Char} {t : Token} {ts : List Token} {kind : TokenKind} {n p k : Nat}

/-! ### Lexemes -/

/-- A token is made of what stands in front of some characters. -/
def Lexed (t : Token) : Prop :=
  ∃ cs kind n p, lexeme? cs = some (some kind, n) ∧ t = ofLexeme kind (cs.take n) p

/-- The tokens of a text are made of lexemes, and the end. -/
theorem exists_lexemes (h : scan p k cs = .ok ts) : ∃ body q, ts = body ++ [⟨.finish, "", q⟩] ∧ ∀ t ∈ body, t.Lexed := by
  induction cs generalizing p k ts with
  | nil =>
    cases k <;> cases h <;> exact ⟨[], p, rfl, nofun⟩
  | cons c cs ih =>
    cases k with
    | succ k => exact ih h
    | zero =>
      rw [scan] at h
      split at h
      · cases h
      · exact ih h
      · next kind n hlexeme =>
        rcases hrest : scan (p + 1) (n - 1) cs with e | rest
        · rw [hrest] at h
          cases h
        · rw [hrest] at h
          cases h
          obtain ⟨body, q, rfl, hbody⟩ := ih hrest
          exact ⟨_ :: body, q, rfl, List.forall_mem_cons.2 ⟨⟨_, _, _, _, hlexeme, rfl⟩, hbody⟩⟩

/-- How far a lexeme of a kind goes; keywords are names, and there is none at the end. -/
def lengthOf : TokenKind → List Char → Nat
  | .number => numberLength
  | .text => textLength
  | .name => nameLength
  | .operator => operatorLength
  | .keyword | .finish => fun _ => 0

theorem lexeme?_lengthOf (h : lexeme? cs = some (some kind, n)) : n = lengthOf kind cs ∧ 0 < lengthOf kind cs := by
  unfold lexeme? at h
  repeat' split at h
  all_goals cases h
  all_goals exact ⟨rfl, by assumption⟩

theorem lexeme?_kind (h : lexeme? cs = some (some kind, n)) : kind ≠ .keyword ∧ kind ≠ .finish := by
  have hpos := (lexeme?_lengthOf h).2
  constructor <;> rintro rfl <;> exact absurd hpos (Nat.lt_irrefl 0)

/-! ### Lengths -/

theorem takeWhile_append {f : Char → Bool} (hcs : ∀ c ∈ cs, f c = true) (hds : ∀ c ∈ ds.head?, f c = false) :
    (cs ++ ds).takeWhile f = cs := by
  rw [List.takeWhile_append_of_pos hcs]
  rcases ds with _ | ⟨d, ds⟩
  · simp
  · rw [List.takeWhile_cons_of_neg (by simp [hds d rfl]), List.append_nil]

theorem dropWhile_append {f : Char → Bool} (hcs : ∀ c ∈ cs, f c = true) (hds : ∀ c ∈ ds.head?, f c = false) :
    (cs ++ ds).dropWhile f = ds := by
  rw [List.dropWhile_append_of_pos hcs]
  rcases ds with _ | ⟨d, ds⟩
  · rfl
  · rw [List.dropWhile_cons_of_neg (by simp [hds d rfl])]

theorem head?_dropWhile {f : Char → Bool} (cs : List Char) : ∀ c ∈ (cs.dropWhile f).head?, f c = false := by
  intro c hc
  have hnot := List.head?_dropWhile_not f cs
  rw [Option.mem_def.1 hc] at hnot
  simpa using hnot

/-- Digits with no point behind them are a number. -/
theorem numberLength_whole (hcs : IsDigits cs) (hds : ∀ c ∈ ds.head?, isDecimalDigit c = false)
    (hpoint : ∀ es, ds = '.' :: es → ∀ c ∈ es.head?, isDecimalDigit c = false) :
    numberLength (cs ++ ds) = cs.length := by
  have hlength : cs.length ≠ 0 := fun h => hcs.1 (List.eq_nil_of_length_eq_zero h)
  simp only [numberLength, takeWhile_append hcs.2 hds, if_neg hlength, List.drop_left]
  split
  · next es =>
    have hnone : es.takeWhile isDecimalDigit = [] := @takeWhile_append [] es _ nofun (hpoint es rfl)
    rw [hnone]
    rfl
  · rfl

/-- Digits, a point and digits are one. -/
theorem numberLength_fraction {es : List Char} (hcs : IsDigits cs) (hds : IsDigits ds)
    (hes : ∀ c ∈ es.head?, isDecimalDigit c = false) :
    numberLength (cs ++ '.' :: (ds ++ es)) = cs.length + 1 + ds.length := by
  have hlength : cs.length ≠ 0 := fun h => hcs.1 (List.eq_nil_of_length_eq_zero h)
  have hfraction : ds.length ≠ 0 := fun h => hds.1 (List.eq_nil_of_length_eq_zero h)
  have hpoint : ∀ c ∈ ('.' :: (ds ++ es)).head?, isDecimalDigit c = false := by
    intro c hc
    cases hc
    decide
  simp only [numberLength, takeWhile_append hcs.2 hpoint, if_neg hlength, List.drop_left, takeWhile_append hds.2 hes,
    if_neg hfraction]

theorem isNumber_take (h : 0 < numberLength cs) : IsNumber (cs.take (numberLength cs)) := by
  have hsplit : cs.takeWhile isDecimalDigit ++ cs.dropWhile isDecimalDigit = cs := List.takeWhile_append_dropWhile
  have hdigits : ∀ c ∈ cs.takeWhile isDecimalDigit, isDecimalDigit c = true := fun c hc => List.mem_takeWhile_imp hc
  have hstop := head?_dropWhile (f := isDecimalDigit) cs
  have hne : cs.takeWhile isDecimalDigit ≠ [] := by
    intro hnil
    simp [numberLength, hnil] at h
  generalize cs.takeWhile isDecimalDigit = w at *
  generalize cs.dropWhile isDecimalDigit = r at *
  subst hsplit
  by_cases hpoint : ∃ es, r = '.' :: es ∧ es.takeWhile isDecimalDigit ≠ []
  · obtain ⟨es, rfl, hes⟩ := hpoint
    have hfraction : IsDigits (es.takeWhile isDecimalDigit) := ⟨hes, fun c hc => List.mem_takeWhile_imp hc⟩
    have hlength := numberLength_fraction ⟨hne, hdigits⟩ hfraction (head?_dropWhile es)
    rw [List.takeWhile_append_dropWhile] at hlength
    have htake : (w ++ '.' :: es).take (w.length + 1 + (es.takeWhile isDecimalDigit).length) =
        w ++ '.' :: es.takeWhile isDecimalDigit := by
      rw [Nat.add_assoc, List.take_length_add_append, Nat.add_comm 1, List.take_succ_cons,
        ← List.prefix_iff_eq_take.1 (List.takeWhile_prefix _)]
    rw [hlength, htake]
    exact .fraction ⟨hne, hdigits⟩ hfraction
  · have hnone : ∀ es, r = '.' :: es → ∀ c ∈ es.head?, isDecimalDigit c = false := by
      intro es hr c hc
      rcases es with _ | ⟨e, es⟩
      · cases hc
      · cases hc
        rw [Bool.eq_false_iff]
        exact fun hdigit => hpoint ⟨_, hr, by simp [hdigit]⟩
    rw [numberLength_whole ⟨hne, hdigits⟩ hstop hnone, List.take_left]
    exact .whole ⟨hne, hdigits⟩

theorem isName_take (h : 0 < nameLength cs) : IsName (cs.take (nameLength cs)) := by
  rcases cs with _ | ⟨c, cs⟩
  · cases h
  · unfold nameLength at h ⊢
    dsimp only at h ⊢
    split at h
    · next hc =>
      rw [if_pos hc, Nat.add_comm, List.take_succ_cons]
      refine ⟨c, _, rfl, hc, fun d hd => ?_⟩
      rw [← List.prefix_iff_eq_take.1 (List.takeWhile_prefix _)] at hd
      exact List.mem_takeWhile_imp hd
    · cases h

/-! ### The characters of a token -/

/-- The value of a token is its lexeme, unless it is a keyword. -/
theorem Lexed.value (h : t.Lexed) (hkind : t.kind ≠ .keyword) :
    ∃ cs, 0 < lengthOf t.kind cs ∧ t.value = String.ofList (cs.take (lengthOf t.kind cs)) := by
  obtain ⟨cs, kind, n, p, hlexeme, rfl⟩ := h
  obtain ⟨rfl, hpos⟩ := lexeme?_lengthOf hlexeme
  unfold ofLexeme at hkind ⊢
  split at hkind
  · exact absurd rfl hkind
  · next hname =>
    rw [if_neg hname]
    exact ⟨cs, hpos, rfl⟩

theorem Lexed.number (h : t.Lexed) (hkind : t.kind = .number) : IsNumber t.value.toList := by
  obtain ⟨cs, hpos, hvalue⟩ := h.value (hkind ▸ nofun)
  rw [hkind] at hpos hvalue
  rw [hvalue, String.toList_ofList]
  exact isNumber_take hpos

theorem Lexed.name (h : t.Lexed) (hkind : t.kind = .name) : IsName t.value.toList ∧ small t.value.toList ∉ keywords := by
  refine ⟨?_, ?_⟩
  · obtain ⟨cs, hpos, hvalue⟩ := h.value (hkind ▸ nofun)
    rw [hkind] at hpos hvalue
    rw [hvalue, String.toList_ofList]
    exact isName_take hpos
  · obtain ⟨cs, kind, n, p, -, rfl⟩ := h
    unfold ofLexeme at hkind ⊢
    split at hkind
    · cases hkind
    · next hname =>
      rw [if_neg hname, String.toList_ofList]
      exact fun hsmall => hname ⟨hkind, hsmall⟩

theorem Lexed.keyword (h : t.Lexed) (hkind : t.kind = .keyword) : t.value ∈ keywords := by
  obtain ⟨cs, kind, n, p, hlexeme, rfl⟩ := h
  unfold ofLexeme at hkind ⊢
  split at hkind
  · next hname =>
    rw [if_pos hname]
    exact hname.2
  · cases hkind
    exact absurd rfl (lexeme?_kind hlexeme).1

theorem Lexed.kind_ne_finish (h : t.Lexed) : t.kind ≠ .finish := by
  obtain ⟨cs, kind, n, p, hlexeme, rfl⟩ := h
  unfold ofLexeme
  split
  · exact nofun
  · exact (lexeme?_kind hlexeme).2

end Token

/-! ### The value of a number -/

section

open Text

variable {cs ds : List Char} {c : Char}

theorem Text.cutAt?_eq_none (hcs : c ∉ cs) : cutAt? c (String.ofList cs) = none := by
  have hne : ∀ d ∈ cs, decide (d ≠ c) = true := by
    rintro d hd
    exact decide_eq_true fun h => hcs (h ▸ hd)
  have htake : cs.takeWhile (fun d => decide (d ≠ c)) = cs := List.takeWhile_eq_self_iff.2 hne
  have hdrop : cs.dropWhile (fun d => decide (d ≠ c)) = [] := List.dropWhile_eq_nil_iff.2 hne
  simp only [cutAt?, String.toList_ofList, List.span_eq_takeWhile_dropWhile, hdrop]

theorem Text.cutAt?_append (hcs : c ∉ cs) :
    cutAt? c (String.ofList (cs ++ c :: ds)) = some (String.ofList cs, String.ofList ds) := by
  have hne : ∀ d ∈ cs, decide (d ≠ c) = true := by
    rintro d hd
    exact decide_eq_true fun h => hcs (h ▸ hd)
  have htake : (cs ++ c :: ds).takeWhile (fun d => decide (d ≠ c)) = cs := by
    rw [List.takeWhile_append_of_pos hne, List.takeWhile_cons_of_neg (by simp), List.append_nil]
  have hdrop : (cs ++ c :: ds).dropWhile (fun d => decide (d ≠ c)) = c :: ds := by
    rw [List.dropWhile_append_of_pos hne, List.dropWhile_cons_of_neg (by simp)]
  simp only [cutAt?, String.toList_ofList, List.span_eq_takeWhile_dropWhile, htake, hdrop]

theorem Text.IsDigits.point_notMem (h : IsDigits cs) : '.' ∉ cs := by
  intro hmem
  have hdigit := h.2 '.' hmem
  revert hdigit
  decide

theorem Parser.number_whole (h : IsDigits cs) :
    Parser.number (String.ofList cs) =
      if Numeral.maxDigits < cs.length then .error (.numeral (.tooLongToRead cs.length))
      else .ok (.int (digitsValue cs)) := by
  rw [Parser.number, cutAt?_eq_none h.point_notMem]
  dsimp only
  rw [Numeral.read_digits h.1 h.2]
  by_cases hlong : Numeral.maxDigits < cs.length
  · rw [if_pos hlong, if_pos hlong]
  · rw [if_neg hlong, if_neg hlong]

theorem Parser.number_fraction (hcs : IsDigits cs) :
    Parser.number (String.ofList (cs ++ '.' :: ds)) =
      .ok (.decimal (.finite false (digitsValue (cs ++ ds)) (-ds.length))) := by
  rw [Parser.number, cutAt?_append hcs.point_notMem]
  simp only [String.toList_ofList, String.length_ofList]

end

end FlowRules
