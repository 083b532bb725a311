import FlowRules.Value.Basic

/-!
# What values offer by name

Attributes are looked up by their exact names.  Numbers offer their parts, dates their fields, members of
enumerations their name and value and the other members; the operations of a type are there too, but can only be
told from nothing.
-/

namespace FlowRules

private def words (s : String) : List String := Text.split ' ' s

/-- The operations of texts. -/
def textOperations : List String := words <|
  "capitalize casefold center count encode endswith expandtabs find format format_map index isalnum isalpha " ++
  "isascii isdecimal isdigit isidentifier islower isnumeric isprintable isspace istitle isupper join ljust lower " ++
  "lstrip maketrans partition removeprefix removesuffix replace rfind rindex rjust rpartition rsplit rstrip split " ++
  "splitlines startswith strip swapcase title translate upper zfill"

def bytesOperations : List String := [
  "capitalize", "center", "count", "decode", "endswith", "expandtabs", "find", "fromhex", "hex", "index",
  "isalnum", "isalpha", "isascii", "isdigit", "islower", "isspace", "istitle", "isupper", "join", "ljust", "lower",
  "lstrip", "maketrans", "partition", "removeprefix", "removesuffix", "replace", "rfind", "rindex", "rjust",
  "rpartition", "rsplit", "rstrip", "split", "splitlines", "startswith", "strip", "swapcase", "title", "translate",
  "upper", "zfill"]

def byteArrayOperations : List String :=
  ["append", "clear", "copy", "extend", "insert", "pop", "remove", "reverse"] ++ bytesOperations

def intOperations : List String := words "as_integer_ratio bit_count bit_length conjugate from_bytes to_bytes"

def floatOperations : List String := words "as_integer_ratio conjugate fromhex hex is_integer"

def decimalOperations : List String := words <|
  "adjusted as_integer_ratio as_tuple canonical compare compare_signal compare_total compare_total_mag conjugate " ++
  "copy_abs copy_negate copy_sign exp fma from_float is_canonical is_finite is_infinite is_nan is_normal is_qnan " ++
  "is_signed is_snan is_subnormal is_zero ln log10 logb logical_and logical_invert logical_or logical_xor max " ++
  "max_mag min min_mag next_minus next_plus next_toward normalize number_class quantize radix remainder_near " ++
  "rotate same_quantum scaleb shift sqrt to_eng_string to_integral to_integral_exact to_integral_value"

def dateOperations : List String := words <|
  "ctime fromisocalendar fromisoformat fromordinal fromtimestamp isocalendar isoformat isoweekday replace strftime " ++
  "timetuple today toordinal weekday"

def dateTimeOperations : List String := words <|
  "astimezone combine ctime date dst fromisocalendar fromisoformat fromordinal fromtimestamp isocalendar isoformat " ++
  "isoweekday now replace strftime strptime time timestamp timetuple timetz today toordinal tzname " ++
  "utcfromtimestamp utcnow utcoffset utctimetuple weekday"

def zoneOperations : List String := words "dst fromutc tzname utcoffset"

def listOperations : List String := words "append clear copy count extend index insert pop remove reverse sort"

def setOperations : List String := words <|
  "add clear copy difference difference_update discard intersection intersection_update isdisjoint issubset " ++
  "issuperset pop remove symmetric_difference symmetric_difference_update union update"

private def operation? (names : List String) (name : String) : Option Value :=
  if names.contains name then some (.other "builtin_function_or_method") else none

namespace DateTime

def least : DateTime := { date := Date.least, hour := 0, minute := 0, second := 0, micro := 0, offset := none }

def greatest : DateTime :=
  { date := Date.greatest, hour := 23, minute := 59, second := 59, micro := 999999, offset := none }

end DateTime

/-- A value without parts that is no member of an enumeration and no source. -/
def Value.IsPlain : Value → Prop
  | .atom _ => True
  | .other _ => True
  | _ => False

namespace Atom

private def intAttribute? (n : Int) (name : String) : Option Value :=
  match name with
  | "real" => some (.int n)
  | "numerator" => some (.int n)
  | "imag" => some (.int 0)
  | "denominator" => some (.int 1)
  | _ => operation? intOperations name

private def dateAttribute? (d : Date) (name : String) : Option Value :=
  match name with
  | "year" => some (.int d.year)
  | "month" => some (.int d.month)
  | "day" => some (.int d.day)
  | _ => none

/-- The microseconds of a day. -/
private def dayMicros : Int := 86400000000

/-- The least span of time there is. -/
def leastSpan : Int := -999999999 * dayMicros

private def spanAttribute? (n : Int) (name : String) : Option Value :=
  match name with
  | "days" => some (.int (Int.fdiv n dayMicros))
  | "seconds" => some (.int (Int.fmod n dayMicros / 1000000))
  | "microseconds" => some (.int (Int.fmod n 1000000))
  | "min" => some (.span leastSpan)
  | "max" => some (.span (1000000000 * dayMicros - 1))
  | "resolution" => some (.span 1)
  | _ => operation? ["total_seconds"] name

private def zoneAttribute? (name : String) : Option Value :=
  match name with
  | "utc" => some (.zone Offset.utc)
  | "min" => some (.zone { micros := -86340000000 })
  | "max" => some (.zone { micros := 86340000000 })
  | _ => operation? zoneOperations name

def attribute? (a : Atom) (name : String) : Option Value :=
  match a with
  | .null => none
  | .bool b => intAttribute? (if b then 1 else 0) name
  | .int n => intAttribute? n name
  | .float x =>
    match name with
    | "real" => some (.float x)
    | "imag" => some (.float (Binary64.zero false))
    | _ => operation? floatOperations name
  | .decimal d =>
    match name with
    | "real" => some (.decimal d)
    | "imag" => some (.decimal Decimal.zero)
    | _ => operation? decimalOperations name
  | .text _ => operation? textOperations name
  | .bytes _ => operation? bytesOperations name
  | .byteArray _ => operation? byteArrayOperations name
  | .date d =>
    match name with
    | "min" => some (.date Date.least)
    | "max" => some (.date Date.greatest)
    | "resolution" => some (.span dayMicros)
    | _ => (dateAttribute? d name).or (operation? dateOperations name)
  | .dateTime t =>
    match name with
    | "hour" => some (.int t.hour)
    | "minute" => some (.int t.minute)
    | "second" => some (.int t.second)
    | "microsecond" => some (.int t.micro)
    | "fold" => some (.int 0)
    | "tzinfo" => some (match t.offset with
      | some x => .zone x
      | none => .null)
    | "min" => some (.dateTime DateTime.least)
    | "max" => some (.dateTime DateTime.greatest)
    | "resolution" => some (.span 1)
    | _ => (dateAttribute? t.date name).or (operation? dateTimeOperations name)
  | .span n => spanAttribute? n name
  | .zone _ => zoneAttribute? name

/-! ### What atoms offer -/

theorem operation_of_notMem {names : List String} {name : String} (h : name ∉ names) : operation? names name = none :=
  if_neg (by simpa using h)

theorem operation_plain {names : List String} {name : String} {v : Value}
    (h : operation? names name = some v) : v.IsPlain := by
  unfold operation? at h
  split at h <;> cases h
  trivial

private theorem intAttribute_plain {n : Int} {name : String} {v : Value} (h : intAttribute? n name = some v) :
    v.IsPlain := by
  unfold intAttribute? at h
  split at h
  case h_5 => exact operation_plain h
  all_goals
    cases h
    trivial

private theorem dateAttribute_plain {d : Date} {name : String} {v : Value} (h : dateAttribute? d name = some v) :
    v.IsPlain := by
  unfold dateAttribute? at h
  split at h <;> cases h <;> trivial

private theorem spanAttribute_plain {n : Int} {name : String} {v : Value} (h : spanAttribute? n name = some v) :
    v.IsPlain := by
  unfold spanAttribute? at h
  split at h
  case h_7 => exact operation_plain h
  all_goals
    cases h
    trivial

private theorem zoneAttribute_plain {name : String} {v : Value} (h : zoneAttribute? name = some v) : v.IsPlain := by
  unfold zoneAttribute? at h
  split at h
  case h_4 => exact operation_plain h
  all_goals
    cases h
    trivial

private theorem dateOr_plain {d : Date} {names : List String} {name : String} {v : Value}
    (h : (dateAttribute? d name).or (operation? names name) = some v) : v.IsPlain := by
  rcases Option.or_eq_some_iff.1 h with h | ⟨-, h⟩
  · exact dateAttribute_plain h
  · exact operation_plain h

/-- What an atom offers has no parts. -/
theorem attribute_plain {a : Atom} {name : String} {v : Value} (h : a.attribute? name = some v) : v.IsPlain := by
  unfold attribute? at h
  cases a with
  | null => cases h
  | bool b => exact intAttribute_plain h
  | int n => exact intAttribute_plain h
  | float x =>
    dsimp only at h
    split at h
    case h_3 => exact operation_plain h
    all_goals
      cases h
      trivial
  | decimal d =>
    dsimp only at h
    split at h
    case h_3 => exact operation_plain h
    all_goals
      cases h
      trivial
  | text s => exact operation_plain h
  | bytes bs => exact operation_plain h
  | byteArray bs => exact operation_plain h
  | date d =>
    dsimp only at h
    split at h
    case h_4 => exact dateOr_plain h
    all_goals
      cases h
      trivial
  | dateTime t =>
    dsimp only at h
    split at h
    case h_6 =>
      cases h
      split <;> trivial
    case h_10 => exact dateOr_plain h
    all_goals
      cases h
      trivial
  | span n => exact spanAttribute_plain h
  | zone x => exact zoneAttribute_plain h

end Atom

namespace Value

/-- The attribute of a value with exactly this name; looking for it may fail. -/
def attribute? (v : Value) (name : String) : Except Fault (Option Value) :=
  match v with
  | .atom a => .ok (a.attribute? name)
  | .member e own a =>
    match name with
    | "name" => .ok (some (.text own))
    | "value" => .ok (some (.atom a))
    | _ =>
      match e.member? name with
      | some m => .ok (some m)
      | none => .ok (if e.mixin = .none then none else a.attribute? name)
  | .tuple _ label items =>
    match label with
    | some c =>
      .ok (((c.fields.zip items).lookup name).or (operation? ["count", "index"] name))
    | none => .ok (operation? ["count", "index"] name)
  | .list .. => .ok (operation? listOperations name)
  | .set .. => .ok (operation? setOperations name)
  | .dict .. => .ok none
  | .object _ _ fields offers failing =>
    match failing.lookup name with
    | some f => .error f
    | none => .ok ((fields.lookup name).or (offers.lookup name))
  | .source .. =>
    match name with
    | "gi_code" => .ok (some (.other "code"))
    | "gi_frame" => .ok (some (.other "frame"))
    | "gi_running" => .ok (some (.bool false))
    | "gi_suspended" => .ok (some (.bool false))
    | "gi_yieldfrom" => .ok (some .null)
    | _ => .ok (operation? ["close", "send", "throw"] name)
  | .other _ => .ok none

/-- Like `attribute?`, but an attribute that reports itself missing counts as missing. -/
def present? (v : Value) (name : String) : Except Fault (Option Value) :=
  match v.attribute? name with
  | .error f => if f.isA "AttributeError" then .ok none else .error f
  | r => r

end Value
end FlowRules
