import FlowRules.Console.Emoji
import FlowRules.Fault

/-!
# Marked-up text

A tag in square brackets begins or ends a style and is not shown.  A tag with a slash ends the style it names, or
the last one that was begun; if there is none, the text cannot be shown.  A backslash in front of a tag makes it
plain text, and two of them stand for one.  Codes of pictures are replaced between the tags.
-/

namespace FlowRules.Markup

/-! ### Tags -/

/-- The characters that the inside of a tag can begin with. -/
def startsTag (c : Char) : Bool := ('a' ≤ c && c ≤ 'z') || c = '#' || c = '/' || c = '@'

/-- The inside of a tag whose opening bracket has been read, and what follows the tag. -/
def tagBody? : List Char → Option (List Char × List Char)
  | [] => none
  | c :: cs =>
    if !startsTag c then none
    else
      let body := cs.takeWhile fun d => d ≠ ']' && d ≠ '['
      match cs.drop body.length with
      | ']' :: rest => some (c :: body, rest)
      | _ => none

/-- A tag and the backslashes in front of it. -/
structure Found where
  backslashes : Nat
  body : List Char
  rest : List Char

def tagHere? (cs : List Char) : Option Found :=
  let n := (cs.takeWhile (· = '\\')).length
  match cs.drop n with
  | '[' :: rest => (tagBody? rest).map fun t => ⟨n, t.1, t.2⟩
  | _ => none

/-- The text before the first tag, and that tag. -/
def firstTag : List Char → List Char × Option Found
  | [] => ([], none)
  | c :: cs =>
    match tagHere? (c :: cs) with
    | some found => ([], some found)
    | none =>
      let (before, found) := firstTag cs
      (c :: before, found)

/-- A bracket that is no tag loses the backslash in front of it. -/
def unescape : List Char → List Char
  | '\\' :: '[' :: cs => '[' :: unescape cs
  | c :: cs => c :: unescape cs
  | [] => []

/-! ### Styles -/

/-- Other names of styles. -/
def styleNames : List (String × String) :=
  [("b", "bold"), ("d", "dim"), ("i", "italic"), ("u", "underline"), ("r", "reverse"), ("c", "conceal"),
    ("s", "strike"), ("uu", "underline2"), ("o", "overline")]

/-- The styles of a text that is not a colour, in the order in which they are listed. -/
def styleOrder : List String :=
  ["bold", "dim", "italic", "underline", "blink", "blink2", "reverse", "conceal", "strike", "underline2", "frame",
    "encircle", "overline"]

/-- The colours that are told from other words of a style; there are more, which are known where they stand alone. -/
def colours : List String :=
  "default" :: ["black", "red", "green", "yellow", "blue", "magenta", "cyan", "white"].flatMap fun c =>
    [c, "bright_" ++ c]

private def small (s : String) : String := String.ofList (s.toList.map Char.toLower)

/-- The rank of an attribute and its first name. -/
def attribute? (word : String) : Option (Nat × String) :=
  let name := (styleNames.lookup word).getD word
  (styleOrder.idxOf? name).map (·, name)

def colour? (word : String) : Option String := if colours.contains (small word) then some (small word) else none

/-- What the words of a style say, each with its rank: attributes, then the colour, that of the ground, and a link. -/
def styleParts? : List String → Option (List (Nat × String))
  | [] => some []
  | word :: words =>
    match small word, words with
    | "on", ground :: words => do
      let colour ← colour? ground
      return (styleOrder.length + 1, "on " ++ colour) :: (← styleParts? words)
    | "not", given :: words => do
      let (rank, name) ← attribute? given
      return (rank, "not " ++ name) :: (← styleParts? words)
    | "link", target :: words => do
      return (styleOrder.length + 2, "link " ++ target) :: (← styleParts? words)
    | word, words => do
      let part ← attribute? word <|> (colour? word).map (styleOrder.length, ·)
      return part :: (← styleParts? words)

/-- The spelling under which a style is known: what its words say, by rank, where the last word of a rank counts.  A
style with a word that says nothing is known as it is written. -/
def canonical (style : String) : String :=
  match styleParts? ((Text.split ' ' style).filter (· ≠ "")) with
  | some parts => " ".intercalate ((List.range (styleOrder.length + 3)).filterMap fun r => parts.reverse.lookup r)
  | none => Text.trim (small style)

/-! ### Showing -/

/-- Characters that are left out when a text is shown. -/
def isDropped (c : Char) : Bool := [7, 8, 11, 12, 13].contains c.toNat

private def fault (text : String) : Fault := .raised "MarkupError" text

/-- Remove the last begun style of a name. -/
def close? (style : String) : List String → Option (List String)
  | [] => none
  | s :: more => if s = style then some more else (close? style more).map (s :: ·)

/-- The styles that are still open behind a tag at some position.  A tag with an `@` counts as one that begins a style,
whatever its argument is. -/
def afterTag (position : Nat) (body : List Char) (styles : List String) : Except Fault (List String) :=
  let name := String.ofList (body.takeWhile (· ≠ '='))
  match name.toList with
  | '/' :: closing =>
    let style := Text.trim (String.ofList closing)
    if style = "" then
      match styles with
      | _ :: more => .ok more
      | [] => .error (fault ("closing tag '[/]' at position " ++ toString position ++ " has nothing to close"))
    else
      match close? (canonical style) styles with
      | some more => .ok more
      | none =>
        .error (fault ("closing tag '[" ++ String.ofList body ++ "]' at position " ++ toString position ++
          " doesn't match any open tag"))
  | _ => .ok (canonical name :: styles)

/-- The characters that are shown, from a position on, where some styles are open. -/
def shownChars (position : Nat) (styles : List String) (cs : List Char) : Nat → Except Fault (List Char)
  | 0 => .ok []
  | fuel + 1 => do
    let (before, found) := firstTag cs
    match found with
    | none => .ok (pictured (unescape before))
    | some tag => do
      let start := position + before.length
      let stop := start + tag.backslashes + tag.body.length + 2
      let literal := List.replicate (tag.backslashes / 2) '\\'
      let (shown, styles) ←
        if tag.backslashes % 2 = 1 then .ok (pictured ('[' :: tag.body ++ [']']), styles)
        else (afterTag (start + tag.backslashes) tag.body styles).map fun styles => ([], styles)
      let rest ← shownChars stop styles tag.rest fuel
      .ok (pictured (unescape before) ++ literal ++ shown ++ rest)

/-- The text that is shown for a marked-up one. -/
def shown (s : String) : Except Fault String := do
  let cs ← shownChars 0 [] s.toList (s.length + 1)
  .ok (String.ofList (cs.filter fun c => !isDropped c))

end FlowRules.Markup
