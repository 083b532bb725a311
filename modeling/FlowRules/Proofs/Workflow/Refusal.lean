import FlowRules.Proofs.Entries
import FlowRules.Proofs.Json.Beginning
import FlowRules.Workflow.Definition

/-!
# Definitions that are refused

A definition that does not describe a workflow is refused as a definition, with two kinds of problems: the text is no
JSON, or what it holds is no workflow.  Main statement: the only other way in which reading a definition ends is at a
number with more digits than are read (`Definition.read_or_refused`); such a number alone does end it
(`Definition.read_longInteger`).
-/

namespace FlowRules

namespace Json

/-! ### Blank documents -/

/-- There is a value in a document that is read. -/
theorem not_blank_of_read {s : String} {j : Json} (h : read s = .ok j) : Text.isBlankText s = false := by
  unfold read at h
  dsimp only at h
  split at h
  · cases h
  · rcases hvalue : readValue maxDepth (Cursor.skipBlanks ⟨s.toList, 0⟩) with stop | ⟨v, next⟩
    · rw [hvalue] at h
      cases stop <;> cases h
    · obtain ⟨d, ds, hrest, hblank, -⟩ := (begins_of_readValue hvalue).head
      have hd : d ∈ s.toList := (skipBlanks_suffix ⟨s.toList, 0⟩).subset (hrest ▸ List.mem_cons_self)
      exact List.all_eq_false.2 ⟨d, hd, Bool.eq_false_iff.1 hblank⟩

/-! ### Digits alone -/

/-- A run of digits without a leading zero that is too long to be read stops the reader. -/
theorem read_longInteger {d : Char} {ds : List Char} (hd : d ≠ '0') (hds : ∀ c ∈ d :: ds, isDigit c = true)
    (hlong : Numeral.maxDigits < (d :: ds).length) :
    read (String.ofList (d :: ds)) = .error (.numeral (.tooLongToRead (d :: ds).length)) := by
  have hdigit : isDigit d = true := hds d List.mem_cons_self
  have hbegins : Begins (d :: ds) := ⟨d, ds, rfl, .inr hdigit⟩
  have hvalue : readValue maxDepth ⟨d :: ds, 0⟩ = readNumber ⟨d :: ds, 0⟩ := readValue_signed maxDepth false hdigit 0
  have hread : Numeral.read (String.ofList (d :: ds)) = .error (.tooLongToRead (d :: ds).length) := by
    rw [Numeral.read_digits (List.cons_ne_nil d ds) fun c hc => isDecimalDigit_of_isDigit (hds c hc), if_pos hlong]
  have hparts : numberParts? (d :: ds) = some (d :: ds, [], []) := by
    have hsigned := @numberParts?_signed _ _ _ [] false (.digits hd hds) .none .none nofun
    simpa [Numeral.signed] using hsigned
  rw [readNumber, hparts] at hvalue
  simp only [List.isEmpty_nil, Bool.and_self, if_true, hread] at hvalue
  unfold read
  rw [String.toList_ofList]
  dsimp only
  split
  · next hmark => exact absurd ((List.cons.inj hmark).1 ▸ hdigit) (by decide)
  · rw [skipBlanks_begins hbegins, hvalue]

end Json

namespace Definition

/-- An invalid workflow has a name in its report. -/
theorem exists_reportedName {members : List (String × Json)} (h : (Json.object members).Short) :
    ∃ name, reportedName members = .ok name := by
  unfold reportedName
  dsimp only
  split
  · exact ⟨_, rfl⟩
  · next j _ hnamed =>
    obtain ⟨key, -, hkey⟩ := List.mem_filterMap.1 (hnamed ▸ List.mem_cons_self (a := j))
    obtain ⟨i, hlookup, hi⟩ := Option.bind_eq_some_iff.1 hkey
    obtain rfl : i = j := by
      split at hi <;> cases hi
      rfl
    exact (Json.mem_of_short h (mem_of_lookup hlookup)).plainText

/-- A definition gives a workflow or none, or is refused, or there is a number in it that has more digits than are
read. -/
theorem read_or_refused (text : String) :
    (∃ w, read text = .ok w) ∨ (∃ problem, read text = .error (.workflowDefinition problem)) ∨
      ∃ digits, digits <:+: text.toList ∧ (∀ c ∈ digits, Json.isDigit c = true) ∧
        Numeral.maxDigits < digits.length ∧
        read text = .error (.value (.numeral (.tooLongToRead digits.length))) := by
  -- what the reader gives holds no long number, so that only the reader itself can stop at one
  obtain ⟨hshort, hnumeral⟩ := Json.read_spec text
  unfold read readBy
  split
  · exact .inr (.inl ⟨_, rfl⟩)
  · split
    · exact .inr (.inl ⟨_, rfl⟩)
    · exact .inr (.inl ⟨_, rfl⟩)
    · next f hf =>
      obtain ⟨digits, hpart, hdigits, hlong, rfl⟩ := hnumeral f hf
      exact .inr (.inr ⟨digits, hpart, hdigits, hlong, rfl⟩)
    · exact .inl ⟨_, rfl⟩
    · next members hmembers =>
      split
      · exact .inl ⟨_, rfl⟩
      · next problems _ =>
        obtain ⟨name, hname⟩ := exists_reportedName (hshort _ hmembers)
        refine .inr (.inl ⟨.invalid name problems, ?_⟩)
        rw [hname]
        rfl
    · exact .inr (.inl ⟨_, rfl⟩)

/-- Digits alone that are too many to be read are not refused as a definition. -/
theorem read_longInteger {d : Char} {ds : List Char} (hd : d ≠ '0') (hds : ∀ c ∈ d :: ds, Json.isDigit c = true)
    (hlong : Numeral.maxDigits < (d :: ds).length) :
    read (String.ofList (d :: ds)) = .error (.value (.numeral (.tooLongToRead (d :: ds).length))) := by
  have hblank : Text.isBlankText (String.ofList (d :: ds)) = false := by
    rw [Text.isBlankText, String.toList_ofList, List.all_cons,
      Text.isBlank_of_digit (Json.isDecimalDigit_of_isDigit (hds d List.mem_cons_self)), Bool.false_and]
  rw [read, readBy, hblank, Json.read_longInteger hd hds hlong]
  rfl

/-- A document of 4301 ones is not refused as a definition. -/
theorem longNumber_escapes :
    read (String.ofList (List.replicate 4301 '1')) = .error (.value (.numeral (.tooLongToRead 4301))) := by
  have hds : ∀ c ∈ '1' :: List.replicate 4300 '1', Json.isDigit c = true := fun c hc => by
    rw [List.eq_of_mem_replicate (n := 4301) hc]
    decide
  have h := read_longInteger (by decide) hds (by rw [List.length_cons, List.length_replicate]; decide)
  rwa [List.length_cons, List.length_replicate] at h

end Definition
end FlowRules
