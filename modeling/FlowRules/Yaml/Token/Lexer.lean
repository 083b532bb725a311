import FlowRules.Text.Utf8
import FlowRules.Yaml.Token.Scalar

/-!
# Cutting a text into tokens

The text is cut token by token.  A reader of the tokens must not see a token that may still turn out to begin a key,
so a fault takes back the tokens from the first such one on: what is left is what a reader could have seen.
-/

namespace FlowRules.Yaml.Lex

/-! ### Directives -/

private def directiveSetting : String := "while scanning a directive"

private def versionNumber (start : Mark) : Lex Nat := do
  let digits ← takeWhile isDigit
  if digits.isEmpty then failFound directiveSetting start "expected a digit" (← peek)
  else return Decimal.plainValue digits

private def version (start : Mark) : Lex Directive := do
  skipSpaces
  let major ← versionNumber start
  let point ← peek
  if point ≠ '.' then failFound directiveSetting start "expected a digit or '.'" point
  else
    forward 1
    let minor ← versionNumber start
    let c ← peek
    if !isSpaceOrEnd c then failFound directiveSetting start "expected a digit or ' '" c
    else return .version major minor

/-- The handle of a tag: an exclamation mark, or a name between two. -/
private def tagHandle (what : String) (start : Mark) : Lex String := do
  let setting := "while scanning a " ++ what
  let c ← peek
  if c ≠ '!' then failFound setting start "expected '!'" c
  else if (← peekAt 1) = ' ' then
    forward 1
    return "!"
  else
    let name := ((← get).rest.drop 1).takeWhile isNameChar
    forward (name.length + 1)
    let c ← peek
    if c ≠ '!' then failFound setting start "expected '!'" c
    else
      forward 1
      return String.ofList ('!' :: name ++ ['!'])

private def isUriChar (c : Char) : Bool :=
  isNameChar c || ";/?:@&=+$,.!~*'()[]".toList.contains c

/-- Escaped bytes of a tag. -/
private def uriBytes (setting : String) (start : Mark) (bytes : List UInt8) : Nat → Lex (List UInt8)
  | 0 => return bytes
  | fuel + 1 => do
    if (← peek) ≠ '%' then return bytes
    else
      forward 1
      let a ← peek
      let b ← peekAt 1
      if !Numeral.isHexDigit a then
        failFound setting start "expected URI escape sequence of 2 hexadecimal numbers" a
      else if !Numeral.isHexDigit b then
        failFound setting start "expected URI escape sequence of 2 hexadecimal numbers" b
      else
        forward 2
        let byte := UInt8.ofNat ((Numeral.hexValue? a).getD 0 * 16 + (Numeral.hexValue? b).getD 0)
        uriBytes setting start (bytes ++ [byte]) fuel

/-- The text of a tag with its escapes resolved. -/
private def uriText (what : String) (start : Mark) (text : String) : Nat → Lex String
  | 0 => return text
  | fuel + 1 => do
    let run ← takeWhile isUriChar
    let text := text ++ String.ofList run
    if (← peek) ≠ '%' then return text
    else
      let place ← here
      let bytes ← uriBytes ("while scanning a " ++ what) start [] fuel
      match Text.ofUtf8 bytes with
      | .ok more => uriText what start (text ++ more) fuel
      | .error f => failAt (some ⟨"while scanning a " ++ what, some start⟩) f.message place

private def tagUri (what : String) (start : Mark) : Lex String := do
  let c ← peek
  if !isUriChar c && c ≠ '%' then failFound ("while parsing a " ++ what) start "expected URI" c
  else uriText what start "" ((← get).rest.length + 1)

private def handleDirective (start : Mark) : Lex Directive := do
  skipSpaces
  let handle ← tagHandle "directive" start
  let c ← peek
  if c ≠ ' ' then failFound directiveSetting start "expected ' '" c
  else
    skipSpaces
    let stands ← tagUri "directive" start
    let c ← peek
    if !isSpaceOrEnd c then failFound directiveSetting start "expected ' '" c
    else return .handle handle stands

private def scanDirective : Lex Unit := do
  let start ← here
  forward 1
  let name ← takeWhile isNameChar
  let c ← peek
  if name.isEmpty || !isSpaceOrEnd c then
    failFound directiveSetting start "expected alphabetic or numeric character" c
  else
    let d ←
      if name = "YAML".toList then version start
      else if name = "TAG".toList then handleDirective start
      else do
        let _ ← takeWhile fun c => !isBreakOrEnd c
        pure .other
    let stop ← here
    ignoredLine directiveSetting start
    emit (.directive d) start stop

/-! ### Anchors, aliases and tags -/

private def scanName (what : String) (make : String → Lexeme) : Lex Unit := do
  let start ← here
  forward 1
  let name ← takeWhile isNameChar
  let c ← peek
  if name.isEmpty || !(isBlankOrEnd c || ['?', ':', ',', ']', '}', '%', '@', '\x60'].contains c) then
    failFound ("while scanning an " ++ what) start "expected alphabetic or numeric character" c
  else emit (make (String.ofList name)) start (← here)

private def scanTag : Lex Unit := do
  let start ← here
  let next ← peekAt 1
  let lexeme ←
    if next = '<' then do
      forward 2
      let suffix ← tagUri "tag" start
      let c ← peek
      if c ≠ '>' then failFound "while parsing a tag" start "expected '>'" c
      else
        forward 1
        pure (.tag none suffix)
    else if isBlankOrEnd next then do
      forward 1
      pure (.tag none "!")
    else do
      let body := ((← get).rest.drop 1).takeWhile fun c => !isSpaceOrEnd c
      let handle ← if body.contains '!' then tagHandle "tag" start else do
        forward 1
        pure "!"
      let suffix ← tagUri "tag" start
      pure (.tag (some handle) suffix)
  let c ← peek
  if !isSpaceOrEnd c then failFound "while scanning a tag" start "expected ' '" c
  else emit lexeme start (← here)

/-! ### Structure -/

/-- A token of some length, which stands here. -/
private def scanMark (lexeme : Lexeme) (length : Nat) : Lex Unit := do
  let start ← here
  forward length
  emit lexeme start (← here)

/-- Leave all block collections and begin anew at the left margin. -/
private def leaveBlocks : Lex Unit := do
  unwind (-1)
  dropKey
  allowKey false

private def openFlow (lexeme : Lexeme) : Lex Unit := do
  mayStartKey
  modify fun s => { s with level := s.level + 1 }
  allowKey true
  scanMark lexeme 1

private def closeFlow (lexeme : Lexeme) : Lex Unit := do
  dropKey
  modify fun s => { s with level := s.level - 1 }
  allowKey false
  scanMark lexeme 1

/-- Open a block collection at this column, where an entry of it stands. -/
private def openBlock (lexeme : Lexeme) (what : String) : Lex Unit := do
  let s ← get
  if s.level = 0 then
    if !s.keyAllowed then fail none (what ++ " are not allowed here")
    else if ← indentTo s.mark.column then emit lexeme s.mark s.mark

private def scanEntry : Lex Unit := do
  openBlock .blockSequenceStart "sequence entries"
  allowKey true
  dropKey
  scanMark .blockEntry 1

private def scanKey : Lex Unit := do
  openBlock .blockMappingStart "mapping keys"
  allowKey ((← get).level = 0)
  dropKey
  scanMark .key 1

/-- The colon behind a key.  If the key was a simple one, its beginning gets its token only now. -/
private def scanValue : Lex Unit := do
  let s ← get
  match s.keys.lookup s.level with
  | some k => do
    set { s with keys := s.keys.filter fun e => e.1 ≠ s.level }
    insert k.number .key k.mark
    if s.level = 0 then
      if ← indentTo k.mark.column then insert k.number .blockMappingStart k.mark
    allowKey false
  | none => do
    openBlock .blockMappingStart "mapping values"
    allowKey (s.level = 0)
    dropKey
  scanMark .value 1

/-- Skip blanks, comments and ends of lines up to the next token. -/
private def skipToToken : Nat → Lex Unit
  | 0 => return ()
  | fuel + 1 => do
    skipSpaces
    skipComment
    let b ← lineBreak
    if b.isEmpty then return ()
    else
      if (← get).level = 0 then allowKey true
      skipToToken fuel

private def scanScalar (scan : Lex Unit) : Lex Unit := do
  mayStartKey
  allowKey false
  scan

private def scanBlockScalar (folded : Bool) : Lex Unit := do
  allowKey true
  dropKey
  scanBlock folded

/-- Whether a plain scalar can begin with a character. -/
private def startsPlain (inFlow : Bool) (c next : Char) : Bool :=
  !(isBlankOrEnd c || "-?:,[]\x7b\x7d#&*!|>'\"%@\x60".toList.contains c) ||
    (!isBlankOrEnd next && (c = '-' || (!inFlow && (c = '?' || c = ':'))))

/-- Cut the next token; false if the text has ended. -/
def step : Lex Bool := do
  let s ← get
  if s.mark.index = 0 && (← peek) = '\ufeff' then forward 1
  skipToToken (s.rest.length + 1)
  dropStaleKeys
  let m ← here
  unwind m.column
  let s ← get
  let inFlow := s.level ≠ 0
  let c ← peek
  let next ← peekAt 1
  if c = finish then
    leaveBlocks
    modify fun s => { s with keys := [] }
    emit .streamEnd m m
    return false
  else
    if c = '%' && m.column = 0 then
      leaveBlocks
      scanDirective
    else if c = '-' && m.column = 0 && (← atSeparator) then
      leaveBlocks
      scanMark .documentStart 3
    else if c = '.' && m.column = 0 && (← atSeparator) then
      leaveBlocks
      scanMark .documentEnd 3
    else if c = '[' then openFlow .flowSequenceStart
    else if c = '{' then openFlow .flowMappingStart
    else if c = ']' then closeFlow .flowSequenceEnd
    else if c = '}' then closeFlow .flowMappingEnd
    else if c = ',' then
      allowKey true
      dropKey
      scanMark .flowEntry 1
    else if c = '-' && isBlankOrEnd next then scanEntry
    else if c = '?' && (inFlow || isBlankOrEnd next) then scanKey
    else if c = ':' && (inFlow || isBlankOrEnd next) then scanValue
    else if c = '*' then scanScalar (scanName "alias" .reference)
    else if c = '&' then scanScalar (scanName "anchor" .anchor)
    else if c = '!' then scanScalar scanTag
    else if c = '|' && !inFlow then scanBlockScalar false
    else if c = '>' && !inFlow then scanBlockScalar true
    else if c = '\'' then scanScalar (scanQuoted false)
    else if c = '"' then scanScalar (scanQuoted true)
    else if startsPlain inFlow c next then scanScalar scanPlain
    else
      fail (some ⟨"while scanning for the next token", none⟩)
        ("found character " ++ shown c ++ " that cannot start any token")
    dropStaleKeys
    return true

/-- How many tokens can be seen: all before the first that may begin a key. -/
def visible (s : Lexer) : Nat := s.keys.foldl (fun n e => min n e.2.number) s.tokens.size

/-- Cut all tokens. -/
def cut (s : Lexer) : Nat → List Token × Option Trouble
  | 0 => (s.tokens.toList, none)
  | fuel + 1 =>
    match StateT.run step s with
    | .error t => (s.tokens.toList.take (visible s), some t)
    | .ok (false, s) => (s.tokens.toList, none)
    | .ok (true, s) => cut s fuel

end Lex

/-- The tokens of a text, and the trouble behind the last one if not the whole text could be cut. -/
def tokens (source : List Char) : List Token × Option Trouble :=
  Lex.cut { rest := source } (source.length + 1)

end FlowRules.Yaml
