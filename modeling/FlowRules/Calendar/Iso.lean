import FlowRules.Calendar.Basic

/-!
# Reading dates and points in time

The texts `YYYY-MM-DD`, `YYYYMMDD` and week dates such as `2024-W01-5`, and for a point in time any one character
and a time `HH[:MM[:SS[.ffffff]]]`, with or without the colons, and an offset.  The reader works on the bytes of
the text; past its end it sees a zero.
-/

namespace FlowRules.Iso

/-- The bytes of a text, each as the character with its number. -/
def units (s : String) : List Char := s.toUTF8.toList.map fun b => Char.ofNat b.toNat

def isDigit (c : Char) : Bool := '0' ≤ c && c ≤ '9'

/-- The character in front, or a zero at the end. -/
def front (cs : List Char) : Char := cs.headD '\x00'

/-- The number that the next `n` digits denote, and the rest. -/
def digits? (n : Nat) (cs : List Char) : Option (Nat × List Char) :=
  let ds := cs.take n
  if ds.length = n ∧ ds.all isDigit then
    some (ds.foldl (fun v c => 10 * v + (c.toNat - 48)) 0, cs.drop n)
  else none

/-- The weekday of a day number, Monday being zero. -/
def weekday (ordinal : Nat) : Nat := (ordinal + 6) % 7

/-- The number of the Monday of the first week of a year, the week of its first Thursday; year 1 starts with it. -/
def firstMonday (y : Nat) : Int :=
  let first := Date.ordinalOf y 1 1
  let back := weekday first
  (first : Int) - back + (if 3 < back then 7 else 0)

/-- The fields of a day given by year, week and weekday.  The weeks of year zero have a month that is none. -/
def ofWeek? (y week day : Nat) : Option (Nat × Nat × Nat) :=
  let start := weekday (Date.ordinalOf y 1 1)
  let longYear := y ≠ 0 ∧ (start = 3 ∨ (start = 2 ∧ isLeapYear y = true))
  if week = 0 ∨ 53 < week ∨ (week = 53 ∧ ¬ longYear) then none
  else if day = 0 ∨ 7 < day then none
  else if y = 0 then some (1, 0, 1)
  else
    let n := firstMonday y + ((week - 1) * 7 + (day - 1) : Nat)
    if n ≤ 0 then none else some (Date.fieldsOfOrdinal n.toNat)

/-- Drop a dash in front if one is asked for. -/
def dash? (wanted : Bool) (cs : List Char) : Option (List Char) :=
  if wanted then (if front cs = '-' then some (cs.drop 1) else none) else some cs

/-- The date in the first `len` units of a text; what follows a day of the month is not looked at. -/
def dateFields? (cs : List Char) (len : Nat) : Option (Nat × Nat × Nat) := do
  let (year, rest) ← digits? 4 cs
  let dashed := front rest = '-'
  let rest := if dashed then rest.drop 1 else rest
  if front rest = 'W' then
    let (week, rest) ← digits? 2 (rest.drop 1)
    if cs.length - rest.length < len then
      let rest ← dash? dashed rest
      let (day, _) ← digits? 1 rest
      ofWeek? year week day
    else ofWeek? year week 1
  else
    let (month, rest) ← digits? 2 rest
    let rest ← dash? dashed rest
    let (day, _) ← digits? 2 rest
    some (year, month, day)

/-- Read a date. -/
def date (s : String) : Except CalendarFault Date :=
  let cs := units s
  if cs.length = 7 ∨ cs.length = 8 ∨ cs.length = 10 then
    match dateFields? cs cs.length with
    | some (y, m, d) => Date.ofFields y m d
    | none => .error (.malformed s)
  else .error (.malformed s)

/-- A time of day, and whether something follows it. -/
structure Clock where
  hour : Nat
  minute : Nat
  second : Nat
  micro : Nat
  more : Bool

/-- The fraction of a second after its separator: six digits count, further ones are skipped.  `here` is the text
up to the offset and `after` what follows. -/
def fraction? (hms : Nat × Nat × Nat) (here after : List Char) : Option Clock := do
  let wanted := min 6 here.length
  if wanted = 0 then none
  else
    let (n, rest) ← digits? wanted here
    let more := (rest ++ after).dropWhile isDigit
    some ⟨hms.1, hms.2.1, hms.2.2, n * 10 ^ (6 - wanted), front more ≠ '\x00'⟩

/-- The fields of a time from field number `i` on: after each come the end, a colon, a fraction or, in the form
without colons, the next field. -/
def clockFrom (here after : List Char) (colons : Bool) (got : List Nat) : Nat → Option Clock
  | 0 => fraction? (got.getD 0 0, got.getD 1 0, got.getD 2 0) here after
  | left + 1 => do
    let (n, _) ← digits? 2 (here ++ after)
    let rest := here.drop 2
    let got := got ++ [n]
    let c := front (rest ++ after)
    let colons := if got.length = 1 then c = ':' else colons
    if rest.length ≤ 1 then
      some ⟨got.getD 0 0, got.getD 1 0, got.getD 2 0, 0, c ≠ '\x00'⟩
    else if colons && c = ':' then clockFrom (rest.drop 1) after colons got left
    else if c = '.' ∨ c = ',' then
      fraction? (got.getD 0 0, got.getD 1 0, got.getD 2 0) (rest.drop 1) after
    else if !colons then clockFrom rest after colons got left
    else none

def clock? (here after : List Char) : Option Clock := clockFrom here after true [] 3

/-- Whether a character starts an offset. -/
def startsOffset (c : Char) : Bool := c = '+' || c = '-' || c = 'Z'

/-- A time of day and the offset behind it, in seconds and microseconds. -/
def time? (cs : List Char) : Option (Clock × Option (Int × Int)) := do
  let here := cs.takeWhile (!startsOffset ·)
  let after := cs.dropWhile (!startsOffset ·)
  let clock ← clock? here after
  match after with
  | [] => if clock.more then none else some (clock, none)
  | 'Z' :: rest => if front rest = '\x00' then some (clock, some (0, 0)) else none
  | sign :: rest =>
    let o ← clock? rest []
    if o.more then none
    else
      let seconds : Int := o.hour * 3600 + o.minute * 60 + o.second
      some (clock, some (if sign = '-' then (-seconds, -(o.micro : Int)) else (seconds, o.micro)))

/-- Where the date ends. -/
def dateLength? (cs : List Char) : Option Nat :=
  let len := cs.length
  let at_ := fun (i : Nat) => cs.getD i '\x00'
  if len < 7 then none
  else if len = 7 then some 7
  else if at_ 4 = '-' then
    if at_ 5 = 'W' then
      if 8 < len ∧ at_ 8 = '-' then
        if len = 9 then none
        else if 10 < len ∧ isDigit (at_ 10) then some 8
        else some 10
      else some 8
    else some 10
  else if at_ 4 = 'W' then
    let stop := 7 + ((cs.drop 7).takeWhile isDigit).length
    if stop < 9 then some stop else if stop % 2 = 0 then some 7 else some 8
  else some 8

/-- The length of the character in front, in units. -/
def frontLength (cs : List Char) : Nat :=
  let n := (front cs).toNat
  if n < 0x80 then 1 else if n &&& 0xf0 = 0xe0 then 3 else if n &&& 0xf0 = 0xf0 then 4 else 2

/-- Read a point in time. -/
def dateTime (s : String) : Except CalendarFault DateTime :=
  let cs := units s
  let bad : Except CalendarFault DateTime := .error (.malformed s)
  match dateLength? cs with
  | none => bad
  | some n =>
    match dateFields? cs n with
    | none => bad
    | some (y, m, d) =>
      if cs.length ≤ n then DateTime.ofFields y m d 0 0 0 0 none
      else
        let rest := cs.drop n
        match time? (rest.drop (frontLength rest)) with
        | none => bad
        | some (c, none) => DateTime.ofFields y m d c.hour c.minute c.second c.micro none
        | some (c, some (seconds, micros)) =>
          if seconds = 0 then DateTime.ofFields y m d c.hour c.minute c.second c.micro (some Offset.utc)
          else do
            let o ← Offset.ofMicros (seconds * 1000000 + micros)
            DateTime.ofFields y m d c.hour c.minute c.second c.micro (some o)

end FlowRules.Iso
