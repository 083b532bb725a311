import FlowRules.Text.CharClass

/-!
# Trimming, splitting and searching

The operations on texts that the rules are written with.  Each works on the list of characters; a version for
strings stands beside it where one is needed.
-/

-- powers and sums of numbers are the ones that every module knows, also where a library of algebra is at hand
attribute [instance (high)] instPowNat Zero.ofOfNat0
attribute [default_instance high] instPowNat

namespace FlowRules.Text

/-! ### Trimming -/

def trimLeft (cs : List Char) : List Char := cs.dropWhile isBlank

def trimRight (cs : List Char) : List Char := (cs.reverse.dropWhile isBlank).reverse

def trimChars (cs : List Char) : List Char := trimRight (trimLeft cs)

/-- The text without the white space around it. -/
def trim (s : String) : String := String.ofList (trimChars s.toList)

/-- The text before a line feed at its end. -/
def beforeFinalNewline (cs : List Char) : List Char := if cs.getLast? = some '\n' then cs.dropLast else cs

/-- Nothing but white space. -/
def isBlankText (s : String) : Bool := s.toList.all isBlank

/-! ### Splitting and joining -/

/-- The pieces between the occurrences of `sep`; there is always at least one. -/
def splitChars (sep : Char) : List Char → List (List Char)
  | [] => [[]]
  | c :: cs =>
    if c = sep then [] :: splitChars sep cs
    else
      match splitChars sep cs with
      | [] => [[c]]
      | p :: ps => (c :: p) :: ps

def split (sep : Char) (s : String) : List String := (splitChars sep s.toList).map String.ofList

theorem splitChars_ne_nil (sep : Char) (cs : List Char) : splitChars sep cs ≠ [] := by
  cases cs with
  | nil => simp [splitChars]
  | cons c cs =>
    rw [splitChars]
    split
    · simp
    · split <;> simp

def join (sep : String) (parts : List String) : String := sep.intercalate parts

/-! ### Searching -/

/-- Whether `needle` stands somewhere in the text. -/
def occursIn (needle : List Char) : List Char → Bool
  | [] => needle.isEmpty
  | c :: cs => needle.isPrefixOf (c :: cs) || occursIn needle cs

def contains (s needle : String) : Bool := occursIn needle.toList s.toList

def startsWith (s start : String) : Bool := start.toList.isPrefixOf s.toList

def endsWith (s ending : String) : Bool := ending.toList.isSuffixOf s.toList

/-- The text before and after the first occurrence of a character. -/
def cutAt? (sep : Char) (s : String) : Option (String × String) :=
  let (before, rest) := s.toList.span (· ≠ sep)
  match rest with
  | [] => none
  | _ :: after => some (String.ofList before, String.ofList after)

/-- Replace every occurrence of a character by a text. -/
def replaceChar (c : Char) (new : String) (s : String) : String :=
  String.ofList (s.toList.flatMap fun d => if d = c then new.toList else [d])

/-- Letters of the basic alphabet in small. -/
def lowerAscii (c : Char) : Char := if 'A' ≤ c ∧ c ≤ 'Z' then Char.ofNat (c.toNat + 32) else c

/-! ### Numerals -/

def hexDigit (n : Nat) : Char := if n < 10 then Char.ofNat (48 + n) else Char.ofNat (87 + n)

/-- The last `width` hexadecimal digits of `n`. -/
def hexDigits : Nat → Nat → List Char
  | 0, _ => []
  | width + 1, n => hexDigits width (n / 16) ++ [hexDigit (n % 16)]

def decimalDigit (n : Nat) : Char := Char.ofNat (48 + n % 10)

/-- The last `width` decimal digits of `n`. -/
def paddedDigits : Nat → Nat → List Char
  | 0, _ => []
  | width + 1, n => paddedDigits width (n / 10) ++ [decimalDigit n]

/-- The decimal digits of `n`, the first of them not zero unless `n` is. -/
def natDigits (n : Nat) : List Char := Nat.toDigits 10 n

/-- The number that a list of decimal digits of any script denotes. -/
def digitsValue (cs : List Char) : Nat := cs.foldl (fun n c => 10 * n + (digitValue? c).getD 0) 0

end FlowRules.Text
