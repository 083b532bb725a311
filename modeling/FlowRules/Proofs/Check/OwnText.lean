import FlowRules.Proofs.Calendar.RoundTrip
import FlowRules.Proofs.Check.MemberName
import FlowRules.Proofs.Check.Numeric
import FlowRules.Proofs.Number.Decimal

/-!
# Values and their own texts

The check for equality reads its target as a value of the kind that is checked.  So a value equals its own text form, be
it a text, a truth value, a number, a date or a member of an enumeration.  The one exception are points in time with an
offset of less than a second, as nothing of such an offset is read (`own_text_accepted_iff`).
-/

namespace FlowRules

/-! ### Members of enumerations -/

namespace EnumClass

variable {e : EnumClass} {name shown : String} {a : Atom}

/-- An enumeration as hosts declare them: its names differ and have no white space around them, and members that are
also texts or integers have such values. -/
structure Declared (e : EnumClass) : Prop where
  distinct : (e.declared.map (·.1)).Nodup
  trimmed : ∀ p ∈ e.declared, Text.trim p.1 = p.1
  texts : e.mixin = .text → ∀ p ∈ e.declared, ∃ s, p.2 = .text s
  integers : e.mixin = .int → ∀ p ∈ e.declared, ∃ n, p.2 = .int n

/-- A member is declared by its canonical name, whatever name it is reached by. -/
theorem mem_of_member? (h : e.member? name = some (.member e shown a)) :
    (shown, a) ∈ e.declared ∧ e.canonicalName? a = some shown := by
  obtain ⟨b, hb, hmember⟩ := Option.bind_eq_some_iff.1 h
  obtain ⟨canonical, hcanonical, hmember⟩ := Option.bind_eq_some_iff.1 hmember
  cases hmember
  refine ⟨?_, hcanonical⟩
  obtain ⟨p, hp, rfl⟩ := Option.map_eq_some_iff.1 hcanonical
  have hvalue : p.2 = a := by simpa using List.find?_some hp
  rw [← hvalue]
  exact List.mem_of_find?_eq_some hp

/-- A member is read from its canonical name. -/
theorem Declared.read (he : e.Declared) (h : e.member? name = some (.member e shown a)) :
    e.read shown = .ok (.member e shown a) := by
  obtain ⟨hmem, hcanonical⟩ := mem_of_member? h
  rw [EnumClass.read, he.trimmed (shown, a) hmem, member_of_mem he.distinct hmem hcanonical]

/-- A member equals itself. -/
theorem Declared.equals_self (he : e.Declared) (h : e.member? name = some (.member e shown a)) :
    (Value.member e shown a).equals (.member e shown a) = .ok true := by
  obtain ⟨hmem, -⟩ := mem_of_member? h
  cases hm : e.mixin with
  | none => simp [Value.equals, hm]
  | text =>
    obtain ⟨s, rfl⟩ : ∃ s, a = .text s := he.texts hm (shown, a) hmem
    simp [Value.equals, Value.atom?, hm, Atom.equals, Atom.number?, Atom.bytes?]
  | int =>
    obtain ⟨n, rfl⟩ : ∃ n, a = .int n := he.integers hm (shown, a) hmem
    simp [Value.equals, Value.atom?, hm, Atom.equals, Atom.number?, Number.equals, Fault.ofDecimal]

end EnumClass

/-! ### Scalars -/

namespace Value

/-- A text, a truth value, a number that can be written, a date, a point in time, or a member of an enumeration, by
whatever name it is reached. -/
inductive IsScalar : Value → Prop
  | text (s : String) : IsScalar (.text s)
  | bool (b : Bool) : IsScalar (.bool b)
  | int {n : Int} (hn : Decimal.digitCount n.natAbs ≤ Numeral.maxDigits) : IsScalar (.int n)
  | float {x : Binary64} (hx : x.isNaN = false) : IsScalar (.float x)
  | decimal {d : Decimal} (hd : d.isNaN = false) (hrange : d.InRange) : IsScalar (.decimal d)
  | date (x : Date) : IsScalar (.date x)
  | dateTime (t : DateTime) : IsScalar (.dateTime t)
  | member {e : EnumClass} {name shown : String} {a : Atom} (he : e.Declared)
    (hname : e.member? name = some (.member e shown a)) : IsScalar (.member e shown a)

/-- If the value is a point in time with an offset, the offset is zero or at least a second. -/
def KeepsOffset : Value → Prop
  | .dateTime t => ∀ o ∈ t.offset, o.micros = 0 ∨ 1000000 ≤ o.micros.natAbs
  | _ => True

end Value

section

variable {make : Constructors} {v : Value} {s : String} {b : Bool}

theorem answers_of_equalsTarget (hdisplay : ∃ shown, v.display = .ok shown)
    (hequals : Operator.equalsTarget make v (some s) none = .ok b) : Operator.equals.Answers make v s none b := by
  refine answers_of_apply hdisplay (by decide) rfl ?_
  rw [hequals]
  rfl

/-- A number equals a text that is read as the decimal for which it is taken. -/
theorem answers_of_countsAs {x : Decimal} (hnumeric : v.IsNumeric) (hv : v.CountsAs x) (hs : Decimal.read? s = some x) :
    Operator.equals.Answers make v s none true := by
  obtain ⟨hx, -, hdecimal⟩ := hv
  have hequal : standing? v s = some .eq := by
    simp only [standing?, hdecimal, hs, Decimal.compare?_eq]
    rcases hvalue : x.value? with _ | p
    · rw [Decimal.value?_eq_none.1 hvalue] at hx
      cases hx
    · simp
  have hanswers : Operator.equals.Answers make v s none (standing? v s == some .eq) :=
    equals_answers hnumeric (by simp [numericTypes])
  rw [hequal] at hanswers
  exact hanswers

theorem float_countsAs_own_text {x : Binary64} (hx : x.isNaN = false) :
    ∃ d, (Value.float x).CountsAs d ∧ Decimal.read? x.toText = some d := by
  obtain ⟨d, hread, -⟩ := Binary64.read_toText hx
  obtain ⟨d', hcounts⟩ := (Value.IsNumber.float hx).countsAs
  have hdecimal : toDecimal (.float x) = .ok d := toDecimal_of_text rfl hread nofun nofun
  have hsame : d' = d := Except.ok.inj (hcounts.2.2.symm.trans hdecimal)
  exact ⟨d, hsame ▸ hcounts, hread⟩

/-! ### What is read from the text of a value -/

variable (make : Constructors)

theorem equalsTarget_own_bool (b : Bool) :
    Operator.equalsTarget make (.bool b) (some (if b then "true" else "false")) none = .ok true := by
  have hread : readBool (if b then "true" else "false") = .ok b := by cases b <;> rfl
  have hcoerce : coerceText make (if b then "true" else "false") .bool = .ok (.bool b) := by
    rw [coerceText, hread]
    rfl
  show (coerceText make (if b then "true" else "false") .bool >>= fun w => (Value.bool b).equals w) = _
  rw [hcoerce]
  cases b <;> rfl

theorem equalsTarget_own_date (x : Date) : Operator.equalsTarget make (.date x) (some x.toText) none = .ok true := by
  have hread : Iso.date (Text.trim x.toText) = .ok x := by rw [Iso.trim_date, Iso.date_toText]
  have hcoerce : coerceText make x.toText .date = .ok (.date x) := by
    rw [coerceText, hread]
    rfl
  show (coerceText make x.toText .date >>= fun w => (Value.date x).equals w) = _
  rw [hcoerce]
  show Except.ok (Atom.date x == .date x) = _
  rw [beq_self_eq_true]

/-- A point in time is compared with itself, with what is kept of its offset. -/
theorem equalsTarget_own_dateTime (t : DateTime) :
    Operator.equalsTarget make (.dateTime t) (some t.toText) none =
      .ok (t.compare? { t with offset := t.offset.map Iso.keptOffset } == some .eq) := by
  have hread : Iso.dateTime (Text.trim t.toText) = .ok { t with offset := t.offset.map Iso.keptOffset } := by
    rw [DateTime.toText, Iso.trim_dateTime, Iso.dateTime_ofList (by decide)]
  have hcoerce : coerceText make t.toText .dateTime =
      .ok (.dateTime { t with offset := t.offset.map Iso.keptOffset }) := by
    rw [coerceText, hread]
    rfl
  show (coerceText make t.toText .dateTime >>= fun w => (Value.dateTime t).equals w) = _
  rw [hcoerce]
  rfl

theorem equalsTarget_own_member {e : EnumClass} {name shown : String} {a : Atom} (he : e.Declared)
    (hname : e.member? name = some (.member e shown a)) :
    Operator.equalsTarget make (.member e shown a) (some shown) none = .ok true := by
  show (e.read shown >>= fun w => (Value.member e shown a).equals w) = _
  rw [he.read hname]
  exact he.equals_self hname

/-- A point in time and what is read from its text are one instant exactly if the offset is kept. -/
theorem compare?_kept (t : DateTime) :
    (t.compare? { t with offset := t.offset.map Iso.keptOffset } == some .eq) = true ↔
      (Value.dateTime t).KeepsOffset := by
  have hself (i : Int) : (some (compare i i) == some .eq) = true := by simp
  rcases hoffset : t.offset with _ | o
  · simp only [DateTime.compare?, hoffset, Option.map_none]
    refine iff_of_true (hself _) ?_
    rw [Value.KeepsOffset, hoffset]
    intro o ho
    cases ho
  · have hkept : (Value.dateTime t).KeepsOffset ↔ o.micros = 0 ∨ 1000000 ≤ o.micros.natAbs := by
      simp [Value.KeepsOffset, hoffset]
    rw [hkept]
    simp only [DateTime.compare?, hoffset, Option.map_some, DateTime.instantWith, DateTime.wallMicros, Iso.keptOffset]
    by_cases hshort : o.micros.natAbs < 1000000
    · simp only [if_pos hshort, Offset.utc, beq_iff_eq, Option.some.injEq, compare_eq_iff_eq]
      omega
    · simp only [if_neg hshort]
      refine iff_of_true (hself _) (.inr (by omega))

end

/-- Every scalar is written, and it equals what is written exactly if its offset is kept and it can be shown, as all but
members with values that are too long can. -/
theorem own_text_accepted_iff (make : Constructors) {v : Value} (hv : v.IsScalar) :
    ∃ s, v.textForm = .ok s ∧ (Operator.equals.Answers make v s none true ↔ v.KeepsOffset ∧ ¬v.Oversized) := by
  have hatom {a : Atom} (ha : ∀ n, a ≠ .int n) : ¬(Value.atom a).Oversized := Value.not_oversized_atom ha
  cases hv with
  | text s =>
    have hequals : Operator.equalsTarget make (.text s) (some s) none = .ok true := by
      show Except.ok (Atom.text s == .text s) = _
      rw [beq_self_eq_true]
    exact ⟨s, rfl, iff_of_true (answers_of_equalsTarget ⟨_, rfl⟩ hequals) ⟨trivial, hatom nofun⟩⟩
  | bool b =>
    have hanswers := answers_of_equalsTarget ⟨_, rfl⟩ (equalsTarget_own_bool make b)
    exact ⟨_, rfl, iff_of_true hanswers ⟨trivial, hatom nofun⟩⟩
  | @int n hn =>
    have htext : (Value.int n).textForm = .ok (Numeral.text n) := writeInt_eq_text hn
    have hanswers : Operator.equals.Answers make (.int n) (Numeral.text n) none true :=
      answers_of_countsAs (.int hn) (countsAs_int hn) (read_decimalText n)
    exact ⟨_, htext, iff_of_true hanswers ⟨trivial, fun h => Nat.not_lt.2 hn (Value.oversized_int.1 h)⟩⟩
  | @float x hx =>
    obtain ⟨d, hcounts, hread⟩ := float_countsAs_own_text hx
    have hanswers : Operator.equals.Answers make (.float x) x.toText none true :=
      answers_of_countsAs (.float x) hcounts hread
    exact ⟨x.toText, rfl, iff_of_true hanswers ⟨trivial, hatom nofun⟩⟩
  | @decimal d hd hrange =>
    have hanswers : Operator.equals.Answers make (.decimal d) d.toText none true :=
      answers_of_countsAs (.decimal d) (countsAs_decimal hd) (Decimal.read_toText hd hrange)
    exact ⟨d.toText, rfl, iff_of_true hanswers ⟨trivial, hatom nofun⟩⟩
  | date x =>
    have hanswers := answers_of_equalsTarget ⟨_, rfl⟩ (equalsTarget_own_date make x)
    exact ⟨_, rfl, iff_of_true hanswers ⟨trivial, hatom nofun⟩⟩
  | dateTime t =>
    have hanswers := answers_of_equalsTarget ⟨_, rfl⟩ (equalsTarget_own_dateTime make t)
    have hshown : ¬(Value.dateTime t).Oversized := hatom nofun
    refine ⟨t.toText, rfl, ?_⟩
    rw [← compare?_kept t, and_iff_left hshown]
    constructor
    · intro htrue
      exact hanswers.unique htrue
    · intro hsame
      rwa [hsame] at hanswers
  | @member e name shown a he hname =>
    refine ⟨shown, rfl, ⟨fun htrue => ⟨trivial, htrue.not_oversized (by decide)⟩, ?_⟩⟩
    rintro ⟨-, hshown⟩
    exact answers_of_equalsTarget (Value.display_ok hshown) (equalsTarget_own_member make he hname)

/-- Two names for one text. -/
def EnumClass.shades : EnumClass := ⟨"Shade", .text, false, [("RED", .text "red"), ("CRIMSON", .text "red")]⟩

/-- A member that is also a text, reached by its second name. -/
theorem own_text_accepted_alias :
    EnumClass.shades.member? "CRIMSON" = some (.member .shades "RED" (.text "red")) ∧
      (Value.member .shades "RED" (.text "red")).IsScalar ∧
      (Value.member .shades "RED" (.text "red")).textForm = .ok "RED" ∧
      Operator.equals.Answers default (.member .shades "RED" (.text "red")) "RED" none true := by
  have hname : EnumClass.shades.member? "CRIMSON" = some (.member .shades "RED" (.text "red")) := rfl
  have hdeclared : EnumClass.shades.Declared := {
    distinct := by decide
    trimmed := by decide
    texts := by simp [EnumClass.shades]
    integers := by simp [EnumClass.shades] }
  have hscalar : (Value.member .shades "RED" (.text "red")).IsScalar := .member hdeclared hname
  have htext : (Value.member .shades "RED" (.text "red")).textForm = .ok "RED" := rfl
  have hshown : ¬(Value.member .shades "RED" (.text "red")).Oversized := by
    have hpart : ¬(Value.text "red").Oversized := Value.not_oversized_atom nofun
    have hmember : ∀ n, Value.member .shades "RED" (.text "red") ≠ .int n := nofun
    rw [Value.oversized_iff hmember]
    simpa [Value.shownParts] using hpart
  obtain ⟨s, hs, haccepted⟩ := own_text_accepted_iff default hscalar
  obtain rfl : s = "RED" := Except.ok.inj (hs.symm.trans htext)
  exact ⟨hname, hscalar, htext, haccepted.2 ⟨trivial, hshown⟩⟩

/-- A point in time with an offset of a microsecond. -/
def DateTime.sliver : DateTime :=
  { date := { year := 2024, month := 2, day := 5 }, hour := 9, minute := 30, second := 45, micro := 250000,
    offset := some { micros := 1 } }

/-- Of an offset of a microsecond nothing is read. -/
theorem own_text_refused_offset :
    (Value.dateTime .sliver).IsScalar ∧ (Value.dateTime .sliver).textForm = .ok "2024-02-05 09:30:45.250000+00:00:00.000001" ∧
      Operator.equals.Answers default (.dateTime .sliver) "2024-02-05 09:30:45.250000+00:00:00.000001" none false := by
  have htext : DateTime.sliver.toText = "2024-02-05 09:30:45.250000+00:00:00.000001" := by decide
  have hcompare : (DateTime.sliver.compare?
      { DateTime.sliver with offset := DateTime.sliver.offset.map Iso.keptOffset } == some .eq) = false := by decide
  have hanswers := answers_of_equalsTarget ⟨_, rfl⟩ (equalsTarget_own_dateTime default DateTime.sliver)
  rw [hcompare, htext] at hanswers
  exact ⟨.dateTime .sliver, congrArg Except.ok htext, hanswers⟩

end FlowRules
