import FlowRules.Console.EmojiCodes
import FlowRules.Text.LetterCase

/-!
# Pictures in texts

A code between colons is shown as the picture it stands for.  The code may say how the picture is drawn, by `-text`
or `-emoji` at its end.  What stands between colons without being a code is shown as it is, with both colons.
-/

namespace FlowRules.Markup

/-- The picture of a code among entries. -/
def pictureAmong (code : List Char) : List String → Option (List Char)
  | [] => none
  | entry :: entries =>
    let cs := entry.toList.dropWhile fun c => c = ' ' || c = '\n'
    if cs.takeWhile (· ≠ ' ') = code then some ((cs.dropWhile (· ≠ ' ')).drop 1) else pictureAmong code entries

/-- The picture of a code, in letters of either case. -/
def picture? (code : List Char) : Option (List Char) :=
  pictureAmong (Text.lowerChars code) (emojiCodes.splitOn ";")

/-- How a picture is drawn, and the character behind it that says so. -/
def drawings : List (List Char × Char) := [("-emoji".toList, '\ufe0f'), ("-text".toList, '\ufe0e')]

/-- A code without its ending, and the character that the ending stands for. -/
def splitDrawing (code : List Char) : List Char × List Char :=
  match drawings.find? fun d => d.1.isSuffixOf code with
  | some d => (code.take (code.length - d.1.length), [d.2])
  | none => (code, [])

/-- A text whose opening colon has been read, up to the closing one, and what follows. -/
def codeBody? (cs : List Char) : Option (List Char × List Char) :=
  let code := cs.takeWhile fun c => c ≠ ':' && !Text.isBlank c
  match cs.drop code.length with
  | ':' :: rest => some (code, rest)
  | _ => none

/-- A text with pictures for its codes. -/
def withPictures : List Char → Nat → List Char
  | cs, 0 => cs
  | [], _ => []
  | ':' :: cs, fuel + 1 =>
    match codeBody? cs with
    | some (code, rest) =>
      let (name, drawing) := splitDrawing code
      (match picture? name with
        | some picture => picture ++ drawing
        | none => ':' :: code ++ [':']) ++ withPictures rest fuel
    | none => ':' :: withPictures cs fuel
  | c :: cs, fuel + 1 => c :: withPictures cs fuel

/-- A text as it is shown, its codes replaced by pictures. -/
def pictured (cs : List Char) : List Char := withPictures cs cs.length

end FlowRules.Markup
