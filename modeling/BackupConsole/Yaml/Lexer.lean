/-
  From YAML text to tokens.

  `tokenize` reads one token after another: it passes over what stands between tokens, closes the
  blocks that the next token's column ends, and lets the token's first characters say what it is.
-/
import BackupConsole.Yaml.Lexer.Marks
import BackupConsole.Yaml.Lexer.Scalars

namespace BackupConsole.Yaml

namespace Lexer

/-- The end of the text closes all blocks, and a key that still waits for its colon is an error. -/
def readStreamEnd (l : Lexer) : Except SyntaxError Lexer := do
  if l.keys.any fun k => k.required && k.possible then .error .keyWithoutColon
  else
    let l := { l with keys := l.keys.map PossibleKey.dropped }
    let l ← (l.closeBlocks (-1)).dropKey
    .ok (l.forbidKey.push .streamEnd)

/-- Reads the token that begins at the cursor. -/
def readToken (l : Lexer) : Except SyntaxError Lexer :=
  let c := l.cursor
  let x := c.peek
  let next := c.peekAt 1
  let flow := l.flowDepth != 0
  if x = '[' then l.openBracket .flowSequenceStart
  else if x = '\x7b' then l.openBracket .flowMappingStart
  else if x = ']' then l.closeBracket .flowSequenceEnd
  else if x = '\x7d' then l.closeBracket .flowMappingEnd
  else if x = ',' then l.readFlowEntry
  else if x == '-' && isBlankOrEnd next then l.readBlockEntry
  else if x == '?' && isBlankOrEnd next then l.readKey
  else if x == ':' && (isBlankOrEnd next || (flow && (isFlowMark next || c.index == l.adjacentAt))) then
    l.readValue
  else if x = '*' then l.readAnchor true
  else if x = '&' then l.readAnchor false
  else if x = '!' then l.readTag
  else if x == '|' && !flow then l.readBlockScalar true
  else if x == '>' && !flow then l.readBlockScalar false
  else if x = '\'' then l.readQuoted true
  else if x = '"' then l.readQuoted false
  else if x == '%' || x == '@' || x.toNat == 0x60 then .error .reservedCharacter
  else l.readPlain

/-- Reads tokens until the text has ended. -/
def run : Nat → Lexer → Except SyntaxError Lexer
  | 0, l => .ok l
  | fuel + 1, l => do
    let l ← l.toNextToken
    let l ← l.dropStaleKeys
    let l := l.closeBlocks l.cursor.column
    let c := l.cursor
    if isEnd c.peek then l.readStreamEnd
    else if c.column = 0 ∧ c.peek = '%' then do run fuel (← l.readDirective)
    else if c.column = 0 ∧ c.atIndicator '-' then do run fuel (← l.readDocumentMark .documentStart)
    else if c.column = 0 ∧ c.atIndicator '.' then do
      let l ← l.readDocumentMark .documentEnd
      let (_, c) ← l.cursor.skipGap true
      if isBreakOrEnd c.peek then run fuel (l.moveTo c) else .error .afterDocumentEnd
    else if (c.column : Int) < l.indent then .error .misplacedIndentation
    else do run fuel (← l.readToken)

end Lexer

/-- The tokens of a text; a NUL ends the text. -/
def tokenize (text : List Char) : Except SyntaxError (List Token) :=
  let text := text.takeWhile fun c => !isEnd c
  (Lexer.run (text.length + 2) (Lexer.start text)).map fun l => l.tokens.reverse

end BackupConsole.Yaml
