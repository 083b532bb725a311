import FlowRules.Text.CharClass
import FlowRules.Text.CharName.Aliases
import FlowRules.Text.CharName.Alphabets
import FlowRules.Text.CharName.Ancient
import FlowRules.Text.CharName.Pictures
import FlowRules.Text.CharName.Syllables
import FlowRules.Text.CharName.Symbols

/-!
# Characters by name

The tables list names in the order of their code points.  An entry `@` with a code point says where the next name
belongs; any other entry names the next code point.  It starts with a digit, the number of words the name shares
with the name before it, and goes on with the other words.  Names that end in the code point, and those of the
syllables of Hangul, are built by rule.
-/

namespace FlowRules.Text

/-- The value of hexadecimal digits with large letters. -/
def hexNumber? : List Char → Nat → Option Nat
  | [], n => some n
  | c :: cs, n =>
    if '0' ≤ c ∧ c ≤ '9' then hexNumber? cs (16 * n + (c.toNat - 48))
    else if 'A' ≤ c ∧ c ≤ 'F' then hexNumber? cs (16 * n + (c.toNat - 55))
    else none

/-- The code point of a name among entries, the next of which belongs to `code` and follows the name `last`. -/
def findName (name : List String) : List String → Nat → List String → Option Nat
  | [], _, _ => none
  | entry :: entries, code, last =>
    match entry.toList.dropWhile fun c => c = ' ' || c = '\n' with
    | [] => findName name entries code last
    | '@' :: digits => findName name entries ((hexNumber? digits 0).getD 0) last
    | shared :: rest =>
      let words := last.take (shared.toNat - 48) ++ (if rest.isEmpty then [] else (String.ofList rest).splitOn " ")
      if words = name then some code else findName name entries (code + 1) words

/-- The code point of a name in the tables, in their order. -/
def listedName? (name : List String) (tables : List String) : Option Nat :=
  tables.findSome? fun table => findName name (table.splitOn ";") 0 []

def nameTables : List String :=
  [alphabetNames, symbolNames, syllableNames, ancientNames, pictureNames, aliasNames]

/-! ### Names by rule -/

/-- The number and the rest of a text behind the longest of some beginnings; of equals the first counts. -/
def longestStart (cs : List Char) : List String → Nat → Option (Nat × List Char) → Option (Nat × List Char)
  | [], _, found => found
  | s :: rest, i, found =>
    let better := s.toList.isPrefixOf cs && (match found with
      | some (_, left) => decide (cs.length < s.length + left.length)
      | none => true)
    longestStart cs rest (i + 1) (if better then some (i, cs.drop s.length) else found)

def hangulInitials : List String :=
  ["G", "GG", "N", "D", "DD", "R", "M", "B", "BB", "S", "SS", "", "J", "JJ", "C", "K", "T", "P", "H"]

def hangulMedials : List String :=
  ["A", "AE", "YA", "YAE", "EO", "E", "YEO", "YE", "O", "WA", "WAE", "OE", "YO", "U", "WEO", "WE", "WI", "YU",
    "EU", "YI", "I"]

def hangulFinals : List String :=
  ["", "G", "GG", "GS", "N", "NJ", "NH", "D", "L", "LG", "LM", "LB", "LS", "LT", "LP", "LH", "M", "B", "BS", "S",
    "SS", "NG", "J", "C", "K", "T", "P", "H"]

/-- A syllable of Hangul from the names of its letters. -/
def hangulSyllable? (cs : List Char) : Option Nat := do
  let (initial, cs) ← longestStart cs hangulInitials 0 none
  let (medial, cs) ← longestStart cs hangulMedials 0 none
  let (final, cs) ← longestStart cs hangulFinals 0 none
  if cs.isEmpty then some (44032 + (initial * 21 + medial) * 28 + final) else none

/-- Names that end in the code point, with the bands of these code points. -/
def numberedNames : List (String × List Nat) := [
  ("CJK COMPATIBILITY IDEOGRAPH-", [63744, 64110, 64112, 64218, 194560, 195102]),
  ("KHITAN SMALL SCRIPT CHARACTER-", [101120, 101590]),
  ("NUSHU CHARACTER-", [110960, 111356])]

/-- The bands of the unified ideographs. -/
def ideographBounds : List Nat :=
  [13312, 19904, 19968, 40960, 131072, 173792, 173824, 177977, 177984, 178206, 178208, 183970, 183984, 191457,
    196608, 201547]

/-- What follows a beginning. -/
def behind? (start : String) (cs : List Char) : Option (List Char) :=
  if start.toList.isPrefixOf cs then some (cs.drop start.length) else none

/-- A code point that ends a name, written with as few digits as it needs but at least four. -/
def numberedName? (cs : List Char) : List (String × List Nat) → Option Nat
  | [] => none
  | (start, bounds) :: rest =>
    match behind? start cs with
    | some digits =>
      match hexNumber? digits 0 with
      | some n => if inBands n bounds false && digits.length = (if n < 65536 then 4 else 5) then some n else none
      | none => none
    | none => numberedName? cs rest

/-- An ideograph by the four or five digits of its code point. -/
def ideograph? (digits : List Char) : Option Nat :=
  match hexNumber? digits 0 with
  | some n => if inBands n ideographBounds false && (digits.length = 4 || digits.length = 5) then some n else none
  | none => none

/-- The code point of the character with a name.  Small letters are as good as large ones, except in the names of
syllables of Hangul and of unified ideographs. -/
def charNamed? (name : String) : Option Nat :=
  let cs := name.toList
  match behind? "HANGUL SYLLABLE " cs with
  | some letters => hangulSyllable? letters
  | none =>
    match behind? "CJK UNIFIED IDEOGRAPH-" cs with
    | some digits => ideograph? digits
    | none =>
      let cs := cs.map Char.toUpper
      match numberedName? cs numberedNames with
      | some n => some n
      | none => listedName? ((String.ofList cs).splitOn " ") nameTables

end FlowRules.Text
