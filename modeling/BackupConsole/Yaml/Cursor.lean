/-
  Places in YAML text.

  1. **Program** — a `Cursor` is a place in a text with its line and column; its operations look at
     the characters that follow and pass over them.

  2. **Specification** — a line ends at a line feed, a carriage return, or both in that order. A
     comment begins at a number sign that has a blank before it and lasts to the end of its line.

  Every step of a loop below takes at least one character, so the number of characters that follow
  bounds it; that bound is its first argument.
-/
import BackupConsole.Yaml.Token

namespace BackupConsole.Yaml

/-! ## Characters -/

/-- Whether a character ends a line. -/
def isBreak (c : Char) : Bool := c == '\n' || c == '\r'

/-- The cursor shows a NUL where the text has ended. -/
def isEnd (c : Char) : Bool := c == '\x00'

/-- Whether a character parts words on a line. -/
def isBlank (c : Char) : Bool := c == ' ' || c == '\t'

/-- Whether a line has no more characters. -/
def isBreakOrEnd (c : Char) : Bool := isBreak c || isEnd c

/-- Whether a word has no more characters. -/
def isBlankOrEnd (c : Char) : Bool := isBlank c || isBreakOrEnd c

/-- Whether a character means something of its own inside brackets. -/
def isFlowMark (c : Char) : Bool := c == ',' || c == '[' || c == ']' || c == '\x7b' || c == '\x7d'

/-- Whether a character may stand in a directive's name or a tag's handle. -/
def isWordChar (c : Char) : Bool :=
  ('0' ≤ c && c ≤ '9') || ('a' ≤ c && c ≤ 'z') || ('A' ≤ c && c ≤ 'Z') || c == '_' || c == '-'

/-- Whether a character may stand in the name of an anchor. -/
def isAnchorChar (c : Char) : Bool :=
  !isBlankOrEnd c && c != '\uFEFF' && !isFlowMark c

/-- Whether a character may stand in a tag's address; the percent sign begins an escape there. -/
def isUriChar (c : Char) : Bool :=
  (isWordChar c && c != '_') || "#;/?:@&=+$,_.!~*'()[]%".toList.contains c

/-- Whether a character may stand in a tag that is written short. -/
def isTagChar (c : Char) : Bool := isUriChar c && !isFlowMark c && c != '!'

/-- The value of a hexadecimal digit. -/
def hexValue? (c : Char) : Option Nat :=
  if '0' ≤ c ∧ c ≤ '9' then some (c.toNat - 48)
  else if 'a' ≤ c ∧ c ≤ 'f' then some (c.toNat - 87)
  else if 'A' ≤ c ∧ c ≤ 'F' then some (c.toNat - 55)
  else none

/-! ## The cursor -/

/-- A place in the text. -/
structure Cursor where
  rest : List Char
  /-- Characters before the place. -/
  index : Nat
  line : Nat
  column : Nat
  /-- Whether the line has held nothing but blanks so far. -/
  indenting : Bool

namespace Cursor

/-- The beginning of a text. -/
def start (text : List Char) : Cursor := ⟨text, 0, 1, 0, true⟩

/-- The character that follows. -/
def peek (c : Cursor) : Char := c.rest.headD '\x00'

/-- The character that follows some others. -/
def peekAt (c : Cursor) (n : Nat) : Char := c.rest.getD n '\x00'

/-- Bound for a loop that takes a character in every step. -/
def bound (c : Cursor) : Nat := c.rest.length + 1

/-- Passes over a blank. The line's indentation goes on. -/
def skipBlank (c : Cursor) : Cursor :=
  { c with rest := c.rest.drop 1, index := c.index + 1, column := c.column + 1 }

/-- Passes over a character that ends the line's indentation. -/
def skip (c : Cursor) : Cursor := { c.skipBlank with indenting := false }

/-- Passes over several characters that are no line breaks. -/
def skipMany (c : Cursor) : Nat → Cursor
  | 0 => c
  | n + 1 => c.skip.skipMany n

/-- Passes over a line break, if there is one. -/
def skipBreak (c : Cursor) : Cursor :=
  match c.rest with
  | '\r' :: '\n' :: rest => ⟨rest, c.index + 2, c.line + 1, 0, true⟩
  | '\n' :: rest => ⟨rest, c.index + 1, c.line + 1, 0, true⟩
  | '\r' :: rest => ⟨rest, c.index + 1, c.line + 1, 0, true⟩
  | _ => c

/-- Passes over characters of a class and returns them. -/
def takeClass (belongs : Char → Bool) : Nat → Cursor → List Char × Cursor
  | 0, c => ([], c)
  | fuel + 1, c =>
    if !c.rest.isEmpty && belongs c.peek then
      let (text, c') := takeClass belongs fuel c.skip
      (c.peek :: text, c')
    else ([], c)

/-- Passes over all characters of a class that follow, and returns them. -/
def takeWhile (belongs : Char → Bool) (c : Cursor) : List Char × Cursor :=
  takeClass belongs c.bound c

/-- Passes over the blanks that follow. -/
def skipBlanks : Nat → Cursor → Cursor
  | 0, c => c
  | fuel + 1, c => if isBlank c.peek then skipBlanks fuel c.skipBlank else c

/-- Passes over the rest of the line. -/
def skipLineText (c : Cursor) : Cursor := (c.takeWhile fun x => !isBreakOrEnd x).2

/-- What was passed over before the end of a line or the next token on it. -/
structure Gap where
  tab : Bool
  space : Bool

/-- Passes over blanks and a comment; a comment needs a blank before it. -/
def skipGapFrom (tabs : Bool) : Nat → Gap → Cursor → Except SyntaxError (Gap × Cursor)
  | 0, gap, c => .ok (gap, c)
  | fuel + 1, gap, c =>
    let x := c.peek
    if x = ' ' then skipGapFrom tabs fuel { gap with space := true } c.skipBlank
    else if x = '\t' ∧ tabs then skipGapFrom tabs fuel { gap with tab := true } c.skipBlank
    else if x = '#' then
      if gap.tab || gap.space then skipGapFrom tabs fuel gap c.skipLineText
      else .error .commentWithoutSpace
    else .ok (gap, c)

/-- Passes over blanks and a comment; tabs count as blanks only where they may stand. -/
def skipGap (tabs : Bool) (c : Cursor) : Except SyntaxError (Gap × Cursor) :=
  skipGapFrom tabs c.bound ⟨false, false⟩ c

/-- Whether a line of three equal characters stands here, as those that part documents. -/
def atIndicator (mark : Char) (c : Cursor) : Bool :=
  c.peek == mark && c.peekAt 1 == mark && c.peekAt 2 == mark && isBlankOrEnd (c.peekAt 3)

/-- Whether a line that parts documents stands here. -/
def atDocumentMark (c : Cursor) : Bool := c.atIndicator '-' || c.atIndicator '.'

end Cursor

end BackupConsole.Yaml
