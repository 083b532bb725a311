import FlowRules.Calendar.Iso
import FlowRules.Proofs.Number.Reading

/-!
# Dates and points in time, written and read back

The text of a date is read as the date (`Iso.date_toText`).  The text of a point in time, whatever basic character
stands between date and time, is read as the point in time but for an offset of less than a second, of which nothing is
kept (`Iso.dateTime_ofList`, `Iso.keptOffset`).
-/

namespace FlowRules

namespace Iso

open Text

variable {cs rest : List Char} {k n : Nat}

/-! ### Basic characters -/

/-- A character of the basic alphabet that is no white space. -/
def IsBasic (c : Char) : Prop := c.toNat < 128 ∧ isBlank c = false

private theorem toList_loop (bs : ByteArray) (i : Nat) (got : List UInt8) :
    ByteArray.toList.loop bs i got = got.reverse ++ bs.data.toList.drop i := by
  fun_induction ByteArray.toList.loop bs i got with
  | case1 i got hi ih =>
    have hlength : i < bs.data.toList.length := by simpa using hi
    have hget : bs.get! i = bs.data.toList[i] := by
      simp only [ByteArray.get!, Array.getElem_toList]
      exact getElem!_pos bs.data i (by simpa using hi)
    rw [ih, List.drop_eq_getElem_cons hlength, hget, List.reverse_cons, List.append_assoc, List.singleton_append]
  | case2 i got hi =>
    have hlength : bs.data.toList.length ≤ i := by simpa using hi
    rw [List.drop_eq_nil_of_le hlength, List.append_nil]

/-- Basic characters are their own bytes. -/
theorem units_ofList (h : ∀ c ∈ cs, c.toNat < 128) : units (String.ofList cs) = cs := by
  have hbytes : (String.ofList cs).toUTF8.toList = cs.flatMap String.utf8EncodeChar := by
    rw [ByteArray.toList, toList_loop, List.reverse_nil, List.nil_append, List.drop_zero]
    show ((cs.flatMap String.utf8EncodeChar).toByteArray).data.toList = _
    rw [List.data_toByteArray]
  rw [units, hbytes]
  clear hbytes
  induction cs with
  | nil => rfl
  | cons c cs ih =>
    obtain ⟨hc, hcs⟩ := List.forall_mem_cons.1 h
    have hsize : c.toNat ≤ 127 := by omega
    have hencode : String.utf8EncodeChar c = [UInt8.ofNat c.toNat] := if_pos hsize
    have hbyte : (UInt8.ofNat c.toNat).toNat = c.toNat := by
      simp only [UInt8.toNat_ofNat']
      omega
    rw [List.flatMap_cons, hencode, List.map_append, ih hcs, List.map_singleton, hbyte, Char.ofNat_toNat]
    rfl

/-! ### Digits -/

/-- Padded digits are read as the number that they were made of. -/
theorem digits?_paddedDigits (hn : n < 10 ^ k) (rest : List Char) :
    digits? k (paddedDigits k n ++ rest) = some (n, rest) := by
  have hlength : (paddedDigits k n).length = k := length_paddedDigits k n
  have htake : (paddedDigits k n ++ rest).take k = paddedDigits k n := List.take_left' hlength
  have hdrop : (paddedDigits k n ++ rest).drop k = rest := List.drop_left' hlength
  have hall : (paddedDigits k n).all isDigit = true := List.all_eq_true.2 fun _ => isDigit_of_mem_paddedDigits
  have hplain : (paddedDigits k n).map Decimal.plainDigit = paddedDigits k n :=
    Decimal.map_plainDigit_eq_self fun _ hc => Decimal.plainDigit_of_isDigit (isDigit_of_mem_paddedDigits hc)
  have hvalue : Decimal.plainValue (paddedDigits k n) = n := by
    have hdigits := @Decimal.plainValue_map (paddedDigits k n) fun _ => isDecimalDigit_of_mem_paddedDigits
    rw [hplain, digitsValue_paddedDigits, Nat.mod_eq_of_lt hn] at hdigits
    exact hdigits
  simp only [digits?, htake, hdrop, hall, hlength, and_self, if_true]
  exact congrArg (fun v => some (v, rest)) hvalue

theorem isDigit_front (hk : 0 < k) (n : Nat) (rest : List Char) :
    isDigit (front (paddedDigits k n ++ rest)) = true := by
  have hne : paddedDigits k n ≠ [] := by
    intro hnil
    have hlength := length_paddedDigits k n
    rw [hnil] at hlength
    exact Nat.ne_of_lt hk hlength
  obtain ⟨c, cs, hchars⟩ := List.exists_cons_of_ne_nil hne
  have hdigit : c.isDigit = true := isDigit_of_mem_paddedDigits (hchars ▸ List.mem_cons_self)
  rw [hchars]
  exact hdigit

/-! ### Dates -/

theorem date_bounds (x : Date) : x.year < 10 ^ 4 ∧ x.month < 10 ^ 2 ∧ x.day < 10 ^ 2 := by
  have hmonth : daysInMonth x.year x.month ≤ 31 := by
    unfold daysInMonth
    split
    · split <;> omega
    · split <;> omega
  have hyear := x.year_le
  have hmonths := x.month_le
  have hday := x.day_le
  omega

theorem ofFields_date (x : Date) : Date.ofFields x.year x.month x.day = .ok x := by
  rw [Date.ofFields, dif_pos ⟨x.year_pos, x.year_le⟩, dif_pos ⟨x.month_pos, x.month_le⟩, dif_pos ⟨x.day_pos, x.day_le⟩]

/-- A date in front is read whatever follows it. -/
theorem dateFields?_toChars (x : Date) (rest : List Char) (len : Nat) :
    dateFields? (x.toChars ++ rest) len = some (x.year, x.month, x.day) := by
  obtain ⟨hyear, hmonth, hday⟩ := date_bounds x
  have hchars : x.toChars ++ rest =
      paddedDigits 4 x.year ++ '-' :: (paddedDigits 2 x.month ++ '-' :: (paddedDigits 2 x.day ++ rest)) := by
    simp [Date.toChars]
  have hweek : front (paddedDigits 2 x.month ++ '-' :: (paddedDigits 2 x.day ++ rest)) ≠ 'W' := by
    intro hw
    have hdigit := isDigit_front (k := 2) (by decide) x.month ('-' :: (paddedDigits 2 x.day ++ rest))
    rw [hw] at hdigit
    cases hdigit
  have hfront (cs : List Char) : front ('-' :: cs) = '-' := rfl
  rw [hchars, dateFields?, digits?_paddedDigits hyear]
  simp only [bind, Option.bind, hfront, if_true, List.drop_one, List.tail_cons, if_neg hweek,
    digits?_paddedDigits hmonth, digits?_paddedDigits hday, dash?, decide_true]

theorem basic_paddedDigits (k n : Nat) : ∀ c ∈ paddedDigits k n, IsBasic c := by
  intro c hc
  have hle : c.toNat ≤ 57 := (Char.isDigit_iff_toNat.1 (isDigit_of_mem_paddedDigits hc)).2
  exact ⟨by omega, isBlank_of_digit (isDecimalDigit_of_mem_paddedDigits hc)⟩

theorem basic_date (x : Date) : ∀ c ∈ x.toChars, IsBasic c := by
  have hdash : IsBasic '-' := ⟨by decide, rfl⟩
  simp only [Date.toChars, List.forall_mem_append, List.forall_mem_cons]
  exact ⟨basic_paddedDigits 4 _, hdash, basic_paddedDigits 2 _, hdash, basic_paddedDigits 2 _⟩

/-- The text of a date is read as the date. -/
theorem date_toText (x : Date) : date x.toText = .ok x := by
  have hlength : x.toChars.length = 10 := by simp [Date.toChars]
  have hfields := dateFields?_toChars x [] 10
  rw [List.append_nil] at hfields
  rw [date, Date.toText, units_ofList fun c hc => (basic_date x c hc).1]
  simp only [hlength, hfields, or_true, if_true, ofFields_date]

/-! ### Times of day -/

section

variable {after : List Char} {got : List Nat} {left u : Nat} (hn : n < 10 ^ 2)

include hn

/-- Two digits and a colon are a field of a time, and the next field stands behind the colon. -/
theorem clockFrom_colon (hrest : rest ≠ []) :
    clockFrom (paddedDigits 2 n ++ ':' :: rest) after true got (left + 1) =
      clockFrom rest after true (got ++ [n]) left := by
  have hdigits : digits? 2 (paddedDigits 2 n ++ ':' :: rest ++ after) = some (n, ':' :: rest ++ after) := by
    rw [List.append_assoc, digits?_paddedDigits hn]
  have hdrop : (paddedDigits 2 n ++ ':' :: rest).drop 2 = ':' :: rest := List.drop_left' (length_paddedDigits 2 n)
  have hlong : ¬(':' :: rest).length ≤ 1 := by
    have hpos := List.length_pos_iff.2 hrest
    rw [List.length_cons]
    omega
  have hcolon (cs : List Char) : front (':' :: cs) = ':' := rfl
  rw [clockFrom, hdigits]
  simp only [bind, Option.bind, hdrop, List.cons_append, hcolon, if_neg hlong, decide_true, ite_self, Bool.and_self,
    if_true, List.drop_one, List.tail_cons]

/-- Two digits at the end are the last field. -/
theorem clockFrom_end (colons : Bool) :
    clockFrom (paddedDigits 2 n) after colons got (left + 1) =
      some ⟨(got ++ [n]).getD 0 0, (got ++ [n]).getD 1 0, (got ++ [n]).getD 2 0, 0, front after ≠ '\x00'⟩ := by
  have hdrop : (paddedDigits 2 n).drop 2 = [] := List.drop_eq_nil_of_le (Nat.le_of_eq (length_paddedDigits 2 n))
  rw [clockFrom, digits?_paddedDigits hn]
  simp only [bind, Option.bind, hdrop, List.length_nil, List.nil_append, Nat.zero_le, if_true]

/-- A fraction behind a point ends a time, and what follows must begin with no digit. -/
theorem clockFrom_point (hu : u < 10 ^ 6) (hafter : isDigit (front after) = false) (colons : Bool) :
    clockFrom (paddedDigits 2 n ++ '.' :: paddedDigits 6 u) after colons got (left + 1) =
      some ⟨(got ++ [n]).getD 0 0, (got ++ [n]).getD 1 0, (got ++ [n]).getD 2 0, u, front after ≠ '\x00'⟩ := by
  have hdigits : digits? 2 (paddedDigits 2 n ++ '.' :: paddedDigits 6 u ++ after) =
      some (n, '.' :: paddedDigits 6 u ++ after) := by
    rw [List.append_assoc, digits?_paddedDigits hn]
  have hdrop : (paddedDigits 2 n ++ '.' :: paddedDigits 6 u).drop 2 = '.' :: paddedDigits 6 u :=
    List.drop_left' (length_paddedDigits 2 n)
  have hlong : ¬('.' :: paddedDigits 6 u).length ≤ 1 := by simp
  have hpoint (cs : List Char) : front ('.' :: cs) = '.' := rfl
  have hcolon : ('.' = ':') = False := by simp
  have hfraction := digits?_paddedDigits hu []
  rw [List.append_nil] at hfraction
  have hskip : after.dropWhile isDigit = after := by
    rcases after with _ | ⟨c, cs⟩
    · rfl
    · rw [List.dropWhile_cons_of_neg (by simpa [front] using hafter)]
  rw [clockFrom, hdigits]
  simp only [bind, Option.bind, hdrop, List.cons_append, hpoint, hcolon, if_neg hlong, decide_false, Bool.and_false,
    Bool.false_eq_true, if_false, true_or, if_true, List.drop_one, List.tail_cons, fraction?, length_paddedDigits,
    Nat.min_self, hfraction, List.nil_append, hskip]
  simp

end

/-- Hours, minutes and seconds, and a fraction where it is not zero. -/
def clockChars (hour minute second micro : Nat) : List Char :=
  paddedDigits 2 hour ++ ':' :: (paddedDigits 2 minute ++ ':' :: (paddedDigits 2 second ++
    (if micro = 0 then [] else '.' :: paddedDigits 6 micro)))

variable {h m u : Nat} {after : List Char}

theorem clock?_minutes (hh : h < 10 ^ 2) (hm : m < 10 ^ 2) (after : List Char) :
    clock? (paddedDigits 2 h ++ ':' :: paddedDigits 2 m) after = some ⟨h, m, 0, 0, front after ≠ '\x00'⟩ := by
  have hne : paddedDigits 2 m ≠ [] := List.ne_nil_of_length_eq_add_one (length_paddedDigits 2 m)
  rw [clock?, clockFrom_colon hh hne, clockFrom_end hm]
  rfl

theorem clock?_clockChars (hh : h < 10 ^ 2) (hm : m < 10 ^ 2) (hn : n < 10 ^ 2) (hu : u < 10 ^ 6)
    (hafter : isDigit (front after) = false) :
    clock? (clockChars h m n u) after = some ⟨h, m, n, u, front after ≠ '\x00'⟩ := by
  have hne (k : Nat) (rest : List Char) : paddedDigits 2 k ++ rest ≠ [] :=
    List.append_ne_nil_of_left_ne_nil (List.ne_nil_of_length_eq_add_one (length_paddedDigits 2 k)) _
  rw [clock?, clockChars, clockFrom_colon hh (hne m _), clockFrom_colon hm (hne n _)]
  by_cases hzero : u = 0
  · rw [if_pos hzero, List.append_nil, clockFrom_end hn, hzero]
    rfl
  · rw [if_neg hzero, clockFrom_point hn hu hafter]
    rfl

/-- A time of day has basic characters, none of which begins an offset. -/
theorem clockChars_basic (h m n u : Nat) : ∀ c ∈ clockChars h m n u, IsBasic c ∧ startsOffset c = false := by
  have hdigits (k n : Nat) : ∀ c ∈ paddedDigits k n, IsBasic c ∧ startsOffset c = false := by
    intro c hc
    refine ⟨basic_paddedDigits k n c hc, ?_⟩
    have hdigit : c.isDigit = true := isDigit_of_mem_paddedDigits hc
    have hne : c ≠ '+' ∧ c ≠ '-' ∧ c ≠ 'Z' := by
      refine ⟨?_, ?_, ?_⟩
      all_goals
        rintro rfl
        cases hdigit
    simp [startsOffset, hne]
  have hcolon : IsBasic ':' ∧ startsOffset ':' = false := ⟨⟨by decide, rfl⟩, rfl⟩
  have hpoint : IsBasic '.' ∧ startsOffset '.' = false := ⟨⟨by decide, rfl⟩, rfl⟩
  have hfraction : ∀ c ∈ (if u = 0 then [] else '.' :: paddedDigits 6 u), IsBasic c ∧ startsOffset c = false := by
    split
    · exact nofun
    · exact List.forall_mem_cons.2 ⟨hpoint, hdigits 6 u⟩
  simp only [clockChars, List.forall_mem_append, List.forall_mem_cons]
  exact ⟨hdigits 2 h, hcolon, hdigits 2 m, hcolon, hdigits 2 n, hfraction⟩

/-! ### Offsets -/

/-- The sign of an offset. -/
def offsetSign (o : Offset) : Char := if o.micros < 0 then '-' else '+'

theorem offsetSign_eq (o : Offset) : offsetSign o = '+' ∨ offsetSign o = '-' := by
  unfold offsetSign
  split
  · exact .inr rfl
  · exact .inl rfl

/-- An offset without its sign is a time of day, without the seconds if it has none. -/
def offsetClock (o : Offset) : List Char :=
  let seconds := o.micros.natAbs / 1000000
  let micros := o.micros.natAbs % 1000000
  if seconds % 60 = 0 ∧ micros = 0 then paddedDigits 2 (seconds / 3600) ++ ':' :: paddedDigits 2 (seconds / 60 % 60)
  else clockChars (seconds / 3600) (seconds / 60 % 60) (seconds % 60) micros

theorem offset_toChars (o : Offset) : o.toChars = offsetSign o :: offsetClock o := by
  rw [Offset.toChars, offsetClock, offsetSign]
  by_cases hwhole : o.micros.natAbs / 1000000 % 60 = 0 ∧ o.micros.natAbs % 1000000 = 0
  · rw [if_pos hwhole, if_pos hwhole, if_pos hwhole.2]
    simp
  · rw [if_neg hwhole, if_neg hwhole, clockChars]
    simp

/-- An offset is read as its seconds and microseconds. -/
theorem clock?_offsetClock (o : Offset) :
    ∃ clock, clock? (offsetClock o) [] = some clock ∧ clock.more = false ∧
      clock.hour * 3600 + clock.minute * 60 + clock.second = o.micros.natAbs / 1000000 ∧
      clock.micro = o.micros.natAbs % 1000000 := by
  have hlower := o.lower
  have hupper := o.upper
  have hday : o.micros.natAbs / 1000000 < 86400 := by omega
  have hhour : o.micros.natAbs / 1000000 / 3600 < 10 ^ 2 := by omega
  have hminute : o.micros.natAbs / 1000000 / 60 % 60 < 10 ^ 2 := by omega
  have hsecond : o.micros.natAbs / 1000000 % 60 < 10 ^ 2 := by omega
  have hmicro : o.micros.natAbs % 1000000 < 10 ^ 6 := by omega
  unfold offsetClock
  dsimp only
  split
  · next hwhole =>
    refine ⟨_, clock?_minutes hhour hminute [], rfl, ?_, hwhole.2.symm⟩
    dsimp only
    omega
  · refine ⟨_, clock?_clockChars hhour hminute hsecond hmicro rfl, rfl, ?_, rfl⟩
    dsimp only
    omega

/-- The seconds and the microseconds of an offset, both with its sign. -/
def offsetParts (o : Offset) : Int × Int :=
  if offsetSign o = '-' then (-(o.micros.natAbs / 1000000 : Nat), -(o.micros.natAbs % 1000000 : Nat))
  else ((o.micros.natAbs / 1000000 : Nat), (o.micros.natAbs % 1000000 : Nat))

theorem offsetParts_spec (o : Offset) :
    (offsetParts o).1 * 1000000 + (offsetParts o).2 = o.micros ∧
      ((offsetParts o).1 = 0 ↔ o.micros.natAbs < 1000000) := by
  unfold offsetParts offsetSign
  by_cases hneg : o.micros < 0
  · simp only [if_pos hneg, if_true]
    omega
  · simp only [if_neg hneg, Char.reduceEq, if_false]
    omega

section

variable (hh : h < 10 ^ 2) (hm : m < 10 ^ 2) (hn : n < 10 ^ 2) (hu : u < 10 ^ 6)

include hh hm hn hu

/-- A time of day alone is read, and nothing behind it. -/
theorem time?_clockChars : time? (clockChars h m n u) = some (⟨h, m, n, u, false⟩, none) := by
  have hall : ∀ c ∈ clockChars h m n u, (!startsOffset c) = true := by
    intro c hc
    rw [(clockChars_basic h m n u c hc).2]
    rfl
  have htake : (clockChars h m n u).takeWhile (!startsOffset ·) = clockChars h m n u :=
    List.takeWhile_eq_self_iff.2 hall
  have hdrop : (clockChars h m n u).dropWhile (!startsOffset ·) = [] := List.dropWhile_eq_nil_iff.2 hall
  have hclock : clock? (clockChars h m n u) [] = some ⟨h, m, n, u, false⟩ := clock?_clockChars hh hm hn hu rfl
  simp only [time?, htake, hdrop, hclock, bind, Option.bind]
  rfl

/-- An offset behind the time of day is read as its parts. -/
theorem time?_offset (o : Offset) :
    time? (clockChars h m n u ++ o.toChars) = some (⟨h, m, n, u, true⟩, some (offsetParts o)) := by
  obtain ⟨clock, hoffset, hend, hseconds, hmicros⟩ := clock?_offsetClock o
  have hsign := offsetSign_eq o
  have hparts : (if offsetSign o = '-' then
      (-(clock.hour * 3600 + clock.minute * 60 + clock.second : Int), -(clock.micro : Int))
      else (clock.hour * 3600 + clock.minute * 60 + clock.second, clock.micro)) = offsetParts o := by
    rw [offsetParts, ← hseconds, ← hmicros]
    simp only [Int.natCast_add, Int.natCast_mul, Int.cast_ofNat_Int]
  rw [offset_toChars, ← hparts]
  generalize offsetSign o = sign at hsign
  have hall : ∀ c ∈ clockChars h m n u, (!startsOffset c) = true := by
    intro c hc
    rw [(clockChars_basic h m n u c hc).2]
    rfl
  have hstart : ∀ c ∈ (sign :: offsetClock o).head?, (!startsOffset c) = false := by
    intro c hc
    cases hc
    rcases hsign with rfl | rfl <;> rfl
  have htake := Token.takeWhile_append hall hstart
  have hdrop := Token.dropWhile_append hall hstart
  have hclock : clock? (clockChars h m n u) (sign :: offsetClock o) = some ⟨h, m, n, u, true⟩ := by
    rcases hsign with rfl | rfl
    · exact clock?_clockChars hh hm hn hu rfl
    · exact clock?_clockChars hh hm hn hu rfl
  simp only [time?, htake, hdrop, hclock, bind, Option.bind]
  split
  · next hnil => cases hnil
  · next hz =>
    -- the letter for no offset is no sign
    cases hz
    rcases hsign with hz | hz
    · cases hz
    · cases hz
  · next hcons =>
    cases hcons
    simp only [hoffset, hend, Bool.false_eq_true, if_false]

end

/-! ### Points in time -/

/-- What is kept of an offset when it is read from its text: nothing, if it is less than a second. -/
def keptOffset (o : Offset) : Offset := if o.micros.natAbs < 1000000 then Offset.utc else o

theorem ofFields_dateTime (x : DateTime) (offset : Option Offset) :
    DateTime.ofFields x.date.year x.date.month x.date.day x.hour x.minute x.second x.micro offset =
      .ok { x with offset := offset } := by
  rw [DateTime.ofFields, ofFields_date]
  simp only [bind, Except.bind, dif_pos x.hour_lt, dif_pos x.minute_lt, dif_pos x.second_lt, dif_pos x.micro_lt]

theorem dateTime_toChars (sep : Char) (x : DateTime) :
    x.toChars sep = x.date.toChars ++ sep :: (clockChars x.hour x.minute x.second x.micro ++
      x.offset.elim [] Offset.toChars) := by
  rcases h : x.offset with _ | o
  · simp [DateTime.toChars, clockChars, h]
  · simp [DateTime.toChars, clockChars, h]

theorem basic_offset (o : Offset) : ∀ c ∈ o.toChars, IsBasic c := by
  rw [offset_toChars]
  refine List.forall_mem_cons.2 ⟨?_, ?_⟩
  · rcases offsetSign_eq o with hsign | hsign
    · rw [hsign]
      exact ⟨by decide, rfl⟩
    · rw [hsign]
      exact ⟨by decide, rfl⟩
  · unfold offsetClock
    dsimp only
    split
    · have hcolon : IsBasic ':' := ⟨by decide, rfl⟩
      exact List.forall_mem_append.2 ⟨basic_paddedDigits 2 _, List.forall_mem_cons.2 ⟨hcolon, basic_paddedDigits 2 _⟩⟩
    · exact fun c hc => (clockChars_basic _ _ _ _ c hc).1

/-- Behind the date and one character there are basic characters only. -/
theorem basic_time (x : DateTime) :
    ∀ c ∈ clockChars x.hour x.minute x.second x.micro ++ x.offset.elim [] Offset.toChars, IsBasic c := by
  refine List.forall_mem_append.2 ⟨fun c hc => (clockChars_basic _ _ _ _ c hc).1, ?_⟩
  rcases x.offset with _ | o
  · exact nofun
  · exact basic_offset o

/-- The date of a text that begins with one ends behind its tenth character. -/
theorem dateLength?_toChars (x : Date) (sep : Char) (rest : List Char) :
    dateLength? (x.toChars ++ sep :: rest) = some 10 := by
  have hlength : 11 ≤ (x.toChars ++ sep :: rest).length := by
    simp [Date.toChars]
    omega
  have hdash : (x.toChars ++ sep :: rest).getD 4 '\x00' = '-' := by
    simp [Date.toChars, List.getD_eq_getElem?_getD]
  have hdigit : isDigit ((x.toChars ++ sep :: rest).getD 5 '\x00') = true := by
    have hfront := isDigit_front (k := 2) (by decide) x.month ('-' :: (paddedDigits 2 x.day ++ sep :: rest))
    rw [front, List.headD_eq_head?_getD, List.head?_eq_getElem?] at hfront
    simpa [Date.toChars, List.getD_eq_getElem?_getD, List.getElem?_append_right] using hfront
  have hweek : (x.toChars ++ sep :: rest).getD 5 '\x00' ≠ 'W' := by
    intro hw
    rw [hw] at hdigit
    cases hdigit
  have hshort : ¬(x.toChars ++ sep :: rest).length < 7 := by omega
  have hseven : ¬(x.toChars ++ sep :: rest).length = 7 := by omega
  simp only [dateLength?, if_neg hshort, if_neg hseven, if_pos hdash, if_neg hweek]

/-- The text of a point in time is read as the point in time, with what is kept of its offset. -/
theorem dateTime_ofList {sep : Char} (hsep : sep.toNat < 128) (x : DateTime) :
    dateTime (String.ofList (x.toChars sep)) = .ok { x with offset := x.offset.map keptOffset } := by
  have hh : x.hour < 10 ^ 2 := by have := x.hour_lt; omega
  have hm : x.minute < 10 ^ 2 := by have := x.minute_lt; omega
  have hn : x.second < 10 ^ 2 := by have := x.second_lt; omega
  have hu : x.micro < 10 ^ 6 := x.micro_lt
  have hdrop (rest : List Char) : (x.date.toChars ++ rest).drop 10 = rest := List.drop_left' (by simp [Date.toChars])
  have hlong (rest : List Char) : ¬(x.date.toChars ++ sep :: rest).length ≤ 10 := by
    simp [Date.toChars]
    omega
  have hfront (rest : List Char) : frontLength (sep :: rest) = 1 := if_pos hsep
  have hbasic : ∀ c ∈ x.toChars sep, c.toNat < 128 := by
    rw [dateTime_toChars]
    simp only [List.forall_mem_append, List.forall_mem_cons]
    exact ⟨fun c hc => (basic_date x.date c hc).1, hsep,
      List.forall_mem_append.1 fun c hc => (basic_time x c hc).1⟩
  rw [dateTime, units_ofList hbasic, dateTime_toChars]
  simp only [dateLength?_toChars, dateFields?_toChars, if_neg (hlong _), hdrop, hfront, List.drop_one, List.tail_cons]
  rcases hx : x.offset with _ | o
  · simp only [Option.elim_none, List.append_nil, time?_clockChars hh hm hn hu, ofFields_dateTime]
    rfl
  · obtain ⟨hsum, hzero⟩ := offsetParts_spec o
    simp only [Option.elim_some, time?_offset hh hm hn hu, hsum]
    by_cases hshort : o.micros.natAbs < 1000000
    · rw [if_pos (hzero.2 hshort), ofFields_dateTime, Option.map_some, keptOffset, if_pos hshort]
    · have hmade : Offset.ofMicros o.micros = .ok o := dif_pos ⟨o.lower, o.upper⟩
      rw [if_neg fun h => hshort (hzero.1 h), hmade, Option.map_some, keptOffset, if_neg hshort]
      exact ofFields_dateTime x (some o)

/-! ### White space around -/

theorem trim_date (x : Date) : trim x.toText = x.toText := by
  rw [trim, Date.toText, String.toList_ofList, trimChars_eq_self fun c hc => (basic_date x c hc).2]

/-- A blank may stand between date and time, and is not trimmed there. -/
theorem trim_dateTime (sep : Char) (x : DateTime) :
    trim (String.ofList (x.toChars sep)) = String.ofList (x.toChars sep) := by
  have hdate : x.date.toChars ≠ [] := List.append_ne_nil_of_right_ne_nil _ (List.cons_ne_nil _ _)
  have htime : clockChars x.hour x.minute x.second x.micro ++ x.offset.elim [] Offset.toChars ≠ [] :=
    List.append_ne_nil_of_left_ne_nil (List.append_ne_nil_of_right_ne_nil _ (List.cons_ne_nil _ _)) _
  rw [trim, String.toList_ofList, dateTime_toChars, trimChars_of_ends]
  · intro c hc
    rw [List.head?_append_of_ne_nil _ hdate] at hc
    exact (basic_date x.date c (List.mem_of_mem_head? hc)).2
  · intro c hc
    rw [List.append_cons, List.getLast?_append_of_ne_nil _ htime] at hc
    exact (basic_time x c (List.mem_of_getLast? hc)).2

end Iso
end FlowRules
