/-
  Tokens that structure YAML text: directives and document marks, brackets, entries, keys and values,
  anchors and tags.
-/
import BackupConsole.Yaml.Lexer.State

namespace BackupConsole.Yaml

namespace Lexer

/-! ### Directives and document marks -/

/-- The handle of a tag: an exclamation mark and the word behind it, with a closing mark if there is one.
In a directive a word needs the closing mark. -/
def readTagHandle (directive : Bool) (c : Cursor) : Except SyntaxError (List Char × Cursor) :=
  if c.peek = '!' then
    let (word, c) := c.skip.takeWhile isWordChar
    if c.peek = '!' then .ok ('!' :: word ++ ['!'], c.skip)
    else if directive ∧ !word.isEmpty then .error .directive
    else .ok ('!' :: word, c)
  else .error .malformedTag

/-- The byte written as a percent sign and two hexadecimal digits. -/
def escapedByte? (c : Cursor) : Option Nat :=
  if c.peek = '%' then
    match hexValue? (c.peekAt 1), hexValue? (c.peekAt 2) with
    | some high, some low => some (high * 16 + low)
    | _, _ => none
  else none

/-- How many bytes an escaped character takes, by its first byte; 0 if no character begins so. -/
def escapeWidth (first : Nat) : Nat :=
  if first < 128 then 1
  else if first / 32 = 6 then 2
  else if first / 16 = 14 then 3
  else if first / 8 = 30 then 4
  else 0

/-- The further bytes of an escaped character, set behind the bytes before them. -/
def readEscapedBytes (c : Cursor) (number : Nat) : Nat → Except SyntaxError (Nat × Cursor)
  | 0 => .ok (number, c)
  | n + 1 =>
    match escapedByte? c with
    | some b =>
      if b / 64 = 2 then readEscapedBytes (c.skipMany 3) (number * 256 + b) n
      else .error .malformedTag
    | none => .error .malformedTag

/-- A character written as percent signs and hexadecimal digits. Its bytes side by side are its
number, so those of three and four bytes lie beyond all characters. -/
def readUriEscape (c : Cursor) : Except SyntaxError (Char × Cursor) :=
  match escapedByte? c with
  | none => .error .malformedTag
  | some first =>
    if escapeWidth first = 0 then .error .malformedTag
    else do
      let (number, c) ← readEscapedBytes (c.skipMany 3) first (escapeWidth first - 1)
      if number.isValidChar then .ok (Char.ofNat number, c) else .error .malformedTag

/-- Characters of a class, of which percent signs begin escapes. -/
def readUri (belongs : Char → Bool) : Nat → Cursor → Except SyntaxError (List Char × Cursor)
  | 0, c => .ok ([], c)
  | fuel + 1, c =>
    if !c.rest.isEmpty && belongs c.peek then
      if c.peek = '%' then do
        let (x, c) ← readUriEscape c
        let (text, c) ← readUri belongs fuel c
        .ok (x :: text, c)
      else do
        let (text, c') ← readUri belongs fuel c.skip
        .ok (c.peek :: text, c')
    else .ok ([], c)

/-- One of the two numbers of a version. Its value does not matter. -/
def readVersionNumber (c : Cursor) : Except SyntaxError Cursor :=
  let (digits, c) := c.takeWhile fun x => decide ('0' ≤ x) && decide (x ≤ '9')
  if digits.isEmpty ∨ 9 < digits.length then .error .directive else .ok c

/-- A directive's line. One of an unknown name is passed over, but leaves a token. -/
def readDirective (l : Lexer) : Except SyntaxError Lexer := do
  let l ← (l.closeBlocks (-1)).dropKey
  let l := l.forbidKey
  let (name, c) := l.cursor.skip.takeWhile isWordChar
  if name.isEmpty ∨ !isBlankOrEnd c.peek then .error .directive
  else
    let (token, c) ←
      if name = "YAML".toList then do
        let c ← readVersionNumber (c.skipBlanks c.bound)
        if c.peek = '.' then do
          let c ← readVersionNumber c.skip
          pure (Token.versionDirective, c)
        else .error .directive
      else if name = "TAG".toList then do
        let (handle, c) ← readTagHandle true (c.skipBlanks c.bound)
        let c := c.skipBlanks c.bound
        if c.peek ≠ '!' ∧ !isTagChar c.peek then .error .directive
        else do
          let (start, c) ← readUri isUriChar c.bound c
          if !isBlankOrEnd c.peek then .error .directive
          else pure (Token.tagDirective (String.ofList handle) (String.ofList start), c)
      else pure (Token.tagDirective "" "", c.skipLineText)
    let (_, c) ← c.skipGap true
    if isBreakOrEnd c.peek then .ok ((l.moveTo c.skipBreak).push token) else .error .directive

/-- The mark that begins or ends a document closes all blocks. -/
def readDocumentMark (l : Lexer) (token : Token) : Except SyntaxError Lexer := do
  let l ← (l.closeBlocks (-1)).dropKey
  .ok ((l.forbidKey.moveTo (l.cursor.skipMany 3)).push token)

/-! ### Brackets -/

/-- Ends the mapping of one pair that is open in the innermost square bracket. -/
def endPairMapping (l : Lexer) : Lexer :=
  match l.pairMappings with
  | true :: outer =>
    let l := { l with flowMapping := false, pairMappings := false :: outer }
    l.push .flowMappingEnd
  | _ => l

/-- Opens a bracket; brackets nest up to a limit. What stands within may be a key. -/
def openBracket (l : Lexer) (token : Token) : Except SyntaxError Lexer := do
  let l ← l.saveKey
  let l := l.openInner
  if 255 ≤ l.flowDepth then .error .tooDeep
  else
    let l := { l with keys := noKey :: l.keys, flowDepth := l.flowDepth + 1, keyAllowed := true }
    let l :=
      if token = .flowMappingStart then { l with flowMapping := true }
      else { l with pairMappings := false :: l.pairMappings }
    let (_, c) ← l.cursor.skip.skipGap true
    .ok ((l.moveTo c).push token)

/-- Closes a bracket, and with a square one the mapping of one pair that may be open in it. -/
def closeBracket (l : Lexer) (token : Token) : Except SyntaxError Lexer := do
  let l ← l.dropKey
  let l :=
    if l.flowDepth = 0 then l
    else { l with flowDepth := l.flowDepth - 1, keys := l.keys.drop 1 }
  let l := l.forbidKey
  let l :=
    if token = .flowSequenceEnd then
      let l := l.endPairMapping
      { l with pairMappings := l.pairMappings.drop 1 }
    else l
  let (_, c) ← l.cursor.skip.skipGap true
  let l := l.moveTo c
  let l := if l.flowDepth = 0 then l else { l with adjacentAt := c.index }
  .ok (l.push token)

/-- A comma in brackets ends what stood before it. -/
def readFlowEntry (l : Lexer) : Except SyntaxError Lexer := do
  let l ← l.dropKey
  let l := l.allowKey.endPairMapping
  let (_, c) ← l.cursor.skip.skipGap true
  .ok ((l.moveTo c).push .flowEntry)

/-! ### Entries, keys and values -/

/-- A dash opens a sequence where none is open at its column, and begins an entry. -/
def readBlockEntry (l : Lexer) : Except SyntaxError Lexer := do
  if l.flowDepth ≠ 0 ∨ !l.keyAllowed then .error .misplacedEntry
  else
    let column := l.cursor.column
    let l := (l.moveTo l.cursor.skip).openBlock column none .blockSequenceStart
    let (gap, c) ← l.cursor.skipGap true
    if gap.tab && c.peek == '-' && isBlankOrEnd (c.peekAt 1) then .error .misplacedEntry
    else
      let (_, c) ← c.skipGap false
      let l := l.moveTo c
      let l := if isBreak c.peek || isFlowMark c.peek then l.openInner else l
      let l ← l.dropKey
      .ok (l.allowKey.push .blockEntry)

/-- A question mark begins a key. Outside brackets it opens a mapping where none is open. -/
def readKey (l : Lexer) : Except SyntaxError Lexer := do
  let l ←
    if l.flowDepth = 0 then
      if l.keyAllowed then pure (l.openBlock l.cursor.column none .blockMappingStart)
      else .error .misplacedKey
    else pure { l with flowMapping := true }
  let l := (← l.dropKey).allowKeyInBlock
  let l := l.moveTo l.cursor.skip
  let l ← skipSpaceFrom l.cursor.bound false l
  if l.cursor.peek = '\t' then .error .tabIndentation else .ok (l.push .key)

/-- A colon begins a value. Where a key may have begun before it, that key's tokens are set in behind the
tokens that came before the key; else the key is empty. -/
def readValue (l : Lexer) : Except SyntaxError Lexer := do
  let mark := l.cursor
  let k := l.keys.headD noKey
  let pair := !l.pairMappings.isEmpty && !l.flowMapping
  let l := if pair then { l with pairMappings := true :: l.pairMappings.drop 1 } else l
  let c := mark.skip
  let c ←
    if c.peek = '\t' then do
      let (gap, c) ← c.skipGap true
      if !gap.space && (c.peek == '-' || isWordChar c.peek) then .error .misplacedValue else pure c
    else pure c
  let l := l.moveTo c
  if k.possible then
    let l := l.insertAt k.tokensBefore .key
    if pair ∧ k.line < mark.line then .error .misplacedValue
    else
      let l := if pair then l.insertAt k.tokensBefore .flowMappingStart else l
      let l := (l.openBlock k.column (some k.tokensBefore) .blockMappingStart).openInner
      let l := { l with keys := k.dropped :: l.keys.drop 1 }
      .ok (l.forbidKey.push .value)
  else
    let l := if pair then l.push .flowMappingStart else l
    let l ←
      if l.flowDepth = 0 then
        if l.keyAllowed then pure (l.openBlock mark.column none .blockMappingStart)
        else .error .misplacedValue
      else pure l
    .ok (l.openInner.allowKeyInBlock.push .value)

/-! ### Anchors and tags -/

/-- The name of an anchor, or a reference to one. -/
def readAnchor (l : Lexer) (isReference : Bool) : Except SyntaxError Lexer := do
  let l := (← l.saveKey).forbidKey
  let (name, c) := l.cursor.skip.takeWhile isAnchorChar
  if name.isEmpty then .error .emptyAnchor
  else
    let name := String.ofList name
    .ok ((l.moveTo c).push (if isReference then .reference name else .anchor name))

/-- A tag, with its address in angle brackets or behind a handle. -/
def readTag (l : Lexer) : Except SyntaxError Lexer := do
  let l := (← l.saveKey).forbidKey
  let c := l.cursor
  let (handle, suffix, c) ←
    if c.peekAt 1 = '<' then do
      let c := c.skipMany 2
      let (uri, c) ← readUri isUriChar c.bound c
      if c.peek = '>' then pure ([], uri, c.skip) else .error .malformedTag
    else do
      let (handle, c) ← readTagHandle false c
      if 2 ≤ handle.length ∧ handle.getLast? = some '!' then do
        let (suffix, c) ← readUri isTagChar c.bound c
        if suffix.isEmpty then .error .malformedTag else pure (handle, suffix, c)
      else do
        let (more, c) ← readUri isTagChar c.bound c
        let suffix := handle.drop 1 ++ more
        if suffix.isEmpty then pure ([], ['!'], c) else pure (['!'], suffix, c)
  if isBlankOrEnd c.peek || (l.flowDepth != 0 && isFlowMark c.peek) then
    .ok ((l.moveTo c).push (.tag (String.ofList handle) (String.ofList suffix)))
  else .error .malformedTag

end Lexer

end BackupConsole.Yaml
