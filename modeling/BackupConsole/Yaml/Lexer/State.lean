/-
  What earlier YAML text means for later text.

  1. **Program** — a `Lexer` holds a place in the text, the tokens before it, the open blocks, the
     open brackets, and the places where a mapping key may have begun.

  2. **Specification** — a block ends where a line is indented less than the block is. A key without
     a question mark lies on one line and takes at most 1024 characters. Inside brackets indentation
     means nothing, except that all of it lies deeper than the block around it.
-/
import BackupConsole.Yaml.Cursor

namespace BackupConsole.Yaml

/-! ## The state of the lexer -/

/-- A place where a mapping key may have begun. -/
structure PossibleKey where
  possible : Bool
  /-- Whether the place can be nothing but a key. -/
  required : Bool
  /-- Tokens before the place. -/
  tokensBefore : Nat
  index : Nat
  line : Nat
  column : Nat

/-- The place, given up. -/
def PossibleKey.dropped (k : PossibleKey) : PossibleKey := { k with possible := false }

/-- An open block: the indentation around it, and whether its end is a token. -/
structure OpenBlock where
  outer : Int
  ends : Bool

/-- All that earlier text means for later text. -/
structure Lexer where
  cursor : Cursor
  /-- Tokens so far, latest first. -/
  tokens : List Token
  keyAllowed : Bool
  /-- One possible key for each open bracket and one for the text around them, innermost first. -/
  keys : List PossibleKey
  indent : Int
  blocks : List OpenBlock
  flowDepth : Nat
  /-- Where a colon may stand with no blank after it. -/
  adjacentAt : Nat
  /-- Whether the innermost mapping in braces has been announced. -/
  flowMapping : Bool
  /-- For each open square bracket whether a mapping of one pair is open in it. -/
  pairMappings : List Bool

namespace Lexer

/-- No key can have begun. -/
def noKey : PossibleKey := ⟨false, false, 0, 0, 0, 0⟩

/-- The lexer before the first character. -/
def start (text : List Char) : Lexer :=
  ⟨Cursor.start text, [], true, [noKey], -1, [], 0, 0, false, []⟩

/-- Puts a token behind those so far. -/
def push (l : Lexer) (t : Token) : Lexer := { l with tokens := t :: l.tokens }

/-- Puts a token behind the first `n` tokens. -/
def insertAt (l : Lexer) (n : Nat) (t : Token) : Lexer :=
  let later := l.tokens.length - n
  { l with tokens := l.tokens.take later ++ t :: l.tokens.drop later }

/-- Goes on from another place in the text. -/
def moveTo (l : Lexer) (c : Cursor) : Lexer := { l with cursor := c }

/-- Lets a key begin here. -/
def allowKey (l : Lexer) : Lexer := { l with keyAllowed := true }

/-- Keeps a key from beginning here. -/
def forbidKey (l : Lexer) : Lexer := { l with keyAllowed := false }

/-- Allows a key where the text is not in brackets, and forbids it where it is. -/
def allowKeyInBlock (l : Lexer) : Lexer := { l with keyAllowed := l.flowDepth == 0 }

/-- Whether the innermost block ends with a token. -/
def lastBlockEnds (l : Lexer) : Bool :=
  match l.blocks with
  | block :: _ => block.ends
  | [] => false

/-! ### Possible keys -/

/-- Gives up keys that have become too long. -/
def dropStaleKeys (l : Lexer) : Except SyntaxError Lexer :=
  let stale (k : PossibleKey) : Bool :=
    k.possible && l.flowDepth == 0
      && (decide (k.line < l.cursor.line) || decide (k.index + 1024 < l.cursor.index))
  if l.keys.any fun k => stale k && k.required then .error .keyWithoutColon
  else .ok { l with keys := l.keys.map fun k => if stale k then k.dropped else k }

/-- Gives up the innermost possible key. -/
def dropKey (l : Lexer) : Except SyntaxError Lexer :=
  match l.keys with
  | [] => .ok l
  | k :: outer =>
    if k.possible && k.required then .error .keyWithoutColon
    else .ok { l with keys := k.dropped :: outer }

/-- Remembers that a key may begin here. -/
def saveKey (l : Lexer) : Except SyntaxError Lexer :=
  if l.keyAllowed then do
    let c := l.cursor
    let required := l.flowDepth == 0 && l.indent == (c.column : Int) && l.lastBlockEnds
    let l ← l.dropKey
    .ok { l with keys :=
      ⟨true, required, l.tokens.length, c.index, c.line, c.column⟩ :: l.keys.drop 1 }
  else .ok l

/-! ### Indentation -/

/-- Closes blocks that are indented deeper than the given column. -/
def closeBlocksFrom (column : Int) : List OpenBlock → Lexer → Lexer
  | [], l => l
  | block :: outer, l =>
    if column < l.indent then
      let l := { l with indent := block.outer, blocks := outer }
      closeBlocksFrom column outer (if block.ends then l.push .blockEnd else l)
    else l

/-- Closes the blocks that a column ends; inside brackets indentation ends none. -/
def closeBlocks (l : Lexer) (column : Int) : Lexer :=
  if l.flowDepth = 0 then closeBlocksFrom column l.blocks l else l

/-- Opens a block at a column, unless one is open there; its token goes behind the first `n`
tokens, or to the end. -/
def openBlock (l : Lexer) (column : Nat) (n : Option Nat) (t : Token) : Lexer :=
  if l.flowDepth = 0 then
    let l :=
      if l.indent ≤ (column : Int) then
        match l.blocks with
        | block :: outer => if block.ends then l else { l with indent := block.outer, blocks := outer }
        | [] => l
      else l
    if l.indent < (column : Int) then
      let opened := { l with blocks := ⟨l.indent, true⟩ :: l.blocks, indent := column }
      match n with
      | some n => opened.insertAt n t
      | none => opened.push t
    else l
  else l

/-- Demands that what follows lies one column deeper than the open block. -/
def openInner (l : Lexer) : Lexer :=
  if l.flowDepth = 0 && l.lastBlockEnds then
    { l with blocks := ⟨l.indent, false⟩ :: l.blocks, indent := l.indent + 1 }
  else l

/-- Takes back demands up to the innermost block that ends with a token. -/
def closeInnerFrom : List OpenBlock → Lexer → Lexer
  | [], l => l
  | block :: outer, l =>
    if block.ends then l
    else closeInnerFrom outer { l with indent := block.outer, blocks := outer }

/-- Takes such demands back. -/
def closeInner (l : Lexer) : Lexer := closeInnerFrom l.blocks l

/-! ### Between tokens -/

/-- Passes over blanks, breaks and comments. -/
def toNextTokenFrom : Nat → Lexer → Except SyntaxError Lexer
  | 0, l => .ok l
  | fuel + 1, l =>
    let c := l.cursor
    let x := c.peek
    if x = '\t' ∧ !l.blocks.isEmpty ∧ c.indenting ∧ (c.column : Int) < l.indent then do
      let (_, c) ← c.skipGap true
      if isBreakOrEnd c.peek then toNextTokenFrom fuel (l.moveTo c) else .error .tabIndentation
    else if isBlank x then toNextTokenFrom fuel (l.moveTo c.skipBlank)
    else if isBreak x then
      let l := l.moveTo c.skipBreak
      toNextTokenFrom fuel (if l.flowDepth = 0 then l.allowKey else l)
    else if x = '#' then toNextTokenFrom fuel (l.moveTo c.skipLineText)
    else .ok l

/-- Passes over everything up to the next token. -/
def toNextToken (l : Lexer) : Except SyntaxError Lexer := toNextTokenFrom (2 * l.cursor.bound) l

/-- Passes over spaces, breaks and comments behind a question mark, of which there must be some. -/
def skipSpaceFrom : Nat → Bool → Lexer → Except SyntaxError Lexer
  | 0, _, l => .ok l
  | fuel + 1, found, l =>
    let c := l.cursor
    let x := c.peek
    if x = ' ' then skipSpaceFrom fuel true (l.moveTo c.skipBlank)
    else if isBreak x then
      let l := l.moveTo c.skipBreak
      skipSpaceFrom fuel true (if l.flowDepth = 0 then l.allowKey else l)
    else if x = '#' then skipSpaceFrom fuel found (l.moveTo c.skipLineText)
    else if found then .ok l
    else .error .misplacedKey

end Lexer

end BackupConsole.Yaml
