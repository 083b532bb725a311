import FlowRules.Text.Quoted

/-!
# Dates and points in time

Dates of the years 1 to 9999, and points in time with an optional offset from universal time.  Two points in time
that both have an offset are compared as instants; without offsets they are compared field by field; one with and
one without an offset cannot be ordered.
-/

namespace FlowRules

def isLeapYear (y : Nat) : Bool := (y % 4 == 0 && y % 100 != 0) || y % 400 == 0

def daysInMonth (y m : Nat) : Nat :=
  if m = 2 then (if isLeapYear y then 29 else 28)
  else if m = 4 ∨ m = 6 ∨ m = 9 ∨ m = 11 then 30
  else 31

/-- Why fields make no date or point in time. -/
inductive CalendarFault where
  | malformed (text : String)
  | year (y : Nat)
  | month
  | day
  | hour
  | minute
  | second
  /-- The offset, in microseconds, is a day or more. -/
  | offset (micros : Int)
  deriving DecidableEq, Repr

structure Date where
  year : Nat
  month : Nat
  day : Nat
  year_pos : 1 ≤ year := by decide
  year_le : year ≤ 9999 := by decide
  month_pos : 1 ≤ month := by decide
  month_le : month ≤ 12 := by decide
  day_pos : 1 ≤ day := by decide
  day_le : day ≤ daysInMonth year month := by decide
  deriving DecidableEq, Repr

namespace Date

instance : Inhabited Date := ⟨{ year := 1, month := 1, day := 1 }⟩

def least : Date := { year := 1, month := 1, day := 1 }

def greatest : Date := { year := 9999, month := 12, day := 31 }

/-- The date with the given fields; the first field out of its range is reported. -/
def ofFields (y m d : Nat) : Except CalendarFault Date :=
  if hy : 1 ≤ y ∧ y ≤ 9999 then
    if hm : 1 ≤ m ∧ m ≤ 12 then
      if hd : 1 ≤ d ∧ d ≤ daysInMonth y m then .ok ⟨y, m, d, hy.1, hy.2, hm.1, hm.2, hd.1, hd.2⟩
      else .error .day
    else .error .month
  else .error (.year y)

/-- The days in the years before `y`. -/
def daysBeforeYear (y : Nat) : Nat := let p := y - 1; p * 365 + p / 4 - p / 100 + p / 400

/-- The days in the months of year `y` before month `m`. -/
def daysBeforeMonth (y m : Nat) : Nat := ((List.range (m - 1)).map fun i => daysInMonth y (i + 1)).sum

/-- The number of a day, counted from the first of January of year 1. -/
def ordinalOf (y m d : Nat) : Nat := daysBeforeYear y + daysBeforeMonth y m + d

def ordinal (x : Date) : Nat := ordinalOf x.year x.month x.day

/-- The month and day of the `n`-th day of year `y`, looking from month `m` on. -/
def monthAndDay (y m : Nat) : Nat → Nat → Nat × Nat
  | _, 0 => (m, 1)
  | n, fuel + 1 => if n ≤ daysInMonth y m then (m, n) else monthAndDay y (m + 1) (n - daysInMonth y m) fuel

/-- The fields of the day with a number; the year may be past the last. -/
def fieldsOfOrdinal (n : Nat) : Nat × Nat × Nat :=
  let guess := n / 366 + 1
  let y := (List.range 30).foldl (fun y _ => if daysBeforeYear (y + 1) < n then y + 1 else y) guess
  let (m, d) := monthAndDay y 1 (n - daysBeforeYear y) 12
  (y, m, d)

def toChars (x : Date) : List Char :=
  Text.paddedDigits 4 x.year ++ '-' :: (Text.paddedDigits 2 x.month ++ '-' :: Text.paddedDigits 2 x.day)

/-- The text `YYYY-MM-DD`. -/
def toText (x : Date) : String := String.ofList x.toChars

/-- How a date is shown inside a container. -/
def toDisplay (x : Date) : String :=
  "datetime.date(" ++ ", ".intercalate [toString x.year, toString x.month, toString x.day] ++ ")"

end Date

/-- An offset from universal time in microseconds, less than a day either way. -/
structure Offset where
  micros : Int
  lower : -86400000000 < micros := by decide
  upper : micros < 86400000000 := by decide
  deriving DecidableEq, Repr

namespace Offset

def utc : Offset := { micros := 0 }

def ofMicros (n : Int) : Except CalendarFault Offset :=
  if h : -86400000000 < n ∧ n < 86400000000 then .ok ⟨n, h.1, h.2⟩ else .error (.offset n)

/-- The text `+HH:MM`, with seconds and microseconds where they are not zero. -/
def toChars (x : Offset) : List Char :=
  let n := x.micros.natAbs
  let seconds := n / 1000000
  (if x.micros < 0 then '-' else '+') ::
    (Text.paddedDigits 2 (seconds / 3600) ++ ':' :: Text.paddedDigits 2 (seconds / 60 % 60) ++
      (if seconds % 60 = 0 ∧ n % 1000000 = 0 then [] else ':' :: Text.paddedDigits 2 (seconds % 60)) ++
      (if n % 1000000 = 0 then [] else '.' :: Text.paddedDigits 6 (n % 1000000)))

/-- A span of time as days, seconds and microseconds, the last two not negative. -/
def spanDisplay (micros : Int) : String :=
  let days := Int.fdiv micros 86400000000
  let rest := (Int.fmod micros 86400000000).toNat
  let parts :=
    (if days = 0 then [] else ["days=" ++ toString days]) ++
    (if rest / 1000000 = 0 then [] else ["seconds=" ++ toString (rest / 1000000)]) ++
    (if rest % 1000000 = 0 then [] else ["microseconds=" ++ toString (rest % 1000000)])
  "datetime.timedelta(" ++ (if parts.isEmpty then "0" else ", ".intercalate parts) ++ ")"

/-- A span of time in words: days, if there are any, and a time of day. -/
def spanText (micros : Int) : String :=
  let days := Int.fdiv micros 86400000000
  let rest := (Int.fmod micros 86400000000).toNat
  let seconds := rest / 1000000
  (if days = 0 then "" else toString days ++ (if days.natAbs = 1 then " day, " else " days, ")) ++
    toString (seconds / 3600) ++
    String.ofList (':' :: Text.paddedDigits 2 (seconds / 60 % 60) ++ ':' :: Text.paddedDigits 2 (seconds % 60) ++
      (if rest % 1000000 = 0 then [] else '.' :: Text.paddedDigits 6 (rest % 1000000)))

def toText (x : Offset) : String := if x.micros = 0 then "UTC" else "UTC" ++ String.ofList x.toChars

def toDisplay (x : Offset) : String :=
  if x.micros = 0 then "datetime.timezone.utc" else "datetime.timezone(" ++ spanDisplay x.micros ++ ")"

end Offset

structure DateTime where
  date : Date
  hour : Nat
  minute : Nat
  second : Nat
  micro : Nat
  offset : Option Offset
  hour_lt : hour < 24 := by decide
  minute_lt : minute < 60 := by decide
  second_lt : second < 60 := by decide
  micro_lt : micro < 1000000 := by decide
  deriving DecidableEq, Repr

namespace DateTime

/-- The point in time with the given fields; the first field out of its range is reported. -/
def ofFields (y m d hh mm ss : Nat) (us : Nat) (offset : Option Offset) : Except CalendarFault DateTime := do
  let date ← Date.ofFields y m d
  if h1 : hh < 24 then
    if h2 : mm < 60 then
      if h3 : ss < 60 then
        if h4 : us < 1000000 then .ok ⟨date, hh, mm, ss, us, offset, h1, h2, h3, h4⟩
        else .error .second
      else .error .second
    else .error .minute
  else .error .hour

/-- Microseconds since the first of January of year 1, by the fields alone. -/
def wallMicros (x : DateTime) : Int :=
  (((x.date.ordinal * 24 + x.hour) * 60 + x.minute) * 60 + x.second : Nat) * 1000000 + x.micro

/-- The instant of a point in time that has an offset. -/
def instantWith (x : DateTime) (o : Offset) : Int := x.wallMicros - o.micros

/-- The order of two points in time; there is none if only one has an offset. -/
def compare? (x y : DateTime) : Option Ordering :=
  match x.offset, y.offset with
  | none, none => some (compare x.wallMicros y.wallMicros)
  | some o, some p => some (compare (x.instantWith o) (y.instantWith p))
  | _, _ => none

/-- The text of a point in time with `sep` between date and time. -/
def toChars (sep : Char) (x : DateTime) : List Char :=
  x.date.toChars ++ sep :: (Text.paddedDigits 2 x.hour ++ ':' :: (Text.paddedDigits 2 x.minute ++
    ':' :: (Text.paddedDigits 2 x.second ++ ((if x.micro = 0 then [] else '.' :: Text.paddedDigits 6 x.micro) ++
      match x.offset with
      | none => []
      | some o => o.toChars))))

/-- The text with a blank between date and time. -/
def toText (x : DateTime) : String := String.ofList (x.toChars ' ')

/-- The text with the letter `T` between date and time. -/
def toIsoText (x : DateTime) : String := String.ofList (x.toChars 'T')

/-- How a point in time is shown inside a container. -/
def toDisplay (x : DateTime) : String :=
  let fields := [x.date.year, x.date.month, x.date.day, x.hour, x.minute] ++
    (if x.second = 0 ∧ x.micro = 0 then [] else [x.second]) ++ (if x.micro = 0 then [] else [x.micro])
  "datetime.datetime(" ++ ", ".intercalate (fields.map toString ++
    match x.offset with
    | none => []
    | some o => ["tzinfo=" ++ o.toDisplay]) ++ ")"

end DateTime

namespace CalendarFault

def message : CalendarFault → String
  | malformed text => "Invalid isoformat string: " ++ Text.quoted text
  | year y => "year " ++ toString y ++ " is out of range"
  | month => "month must be in 1..12"
  | day => "day is out of range for month"
  | hour => "hour must be in 0..23"
  | minute => "minute must be in 0..59"
  | second => "second must be in 0..59"
  | offset n =>
    "offset must be a timedelta strictly between -timedelta(hours=24) and timedelta(hours=24), not " ++
      Offset.spanDisplay n ++ "."

end CalendarFault
end FlowRules
