/-
  Scalars of YAML text: by indentation, in quotes, and plain.

  A scalar may run over several lines. A single line break within a quoted, plain or folded scalar
  stands for a space, further ones for themselves; blanks beside a line break stand for nothing.
-/
import BackupConsole.Yaml.Lexer.State

namespace BackupConsole.Yaml

namespace Lexer

/-! ### Block scalars -/

/-- What becomes of the line breaks at the end of a block scalar. -/
inductive Chomping where
  | strip
  | clip
  | keep
  deriving DecidableEq

/-- Passes over empty lines and the spaces before a column; gives back the breaks. -/
def skipBlockIndent (indent : Nat) : Nat → Cursor → List Char × Cursor
  | 0, c => ([], c)
  | fuel + 1, c =>
    if c.column < indent ∧ c.peek = ' ' then skipBlockIndent indent fuel c.skipBlank
    else if isBreak c.peek then
      let (breaks, c) := skipBlockIndent indent fuel c.skipBreak
      ('\n' :: breaks, c)
    else ([], c)

/-- Passes over empty lines and the spaces of the first line that is not empty; gives back the
breaks and the greatest column reached. -/
def skipFirstIndent : Nat → Nat → Cursor → List Char × Nat × Cursor
  | 0, deepest, c => ([], deepest, c)
  | fuel + 1, deepest, c =>
    if c.peek = ' ' then skipFirstIndent fuel deepest c.skipBlank
    else
      let deepest := max deepest c.column
      if isBreak c.peek then
        let (breaks, deepest, c) := skipFirstIndent fuel deepest c.skipBreak
        ('\n' :: breaks, deepest, c)
      else ([], deepest, c)

/-- The breaks around the lines of a block scalar: the one that ended the last line, those of the
empty lines after it, and whether the last line began with a blank. -/
structure BlockBreaks where
  leading : List Char
  trailing : List Char
  blank : Bool

/-- The lines of a block scalar that stand at its column. -/
def readBlockLines (literal : Bool) (indent : Nat) :
    Nat → List Char → BlockBreaks → Cursor → List Char × BlockBreaks × Cursor
  | 0, text, breaks, c => (text, breaks, c)
  | fuel + 1, text, breaks, c =>
    if c.column ≠ indent ∨ isEnd c.peek ∨ (indent = 0 ∧ c.atIndicator '.') then (text, breaks, c)
    else
      let blank := isBlank c.peek
      let joint :=
        if !literal && !breaks.leading.isEmpty && !breaks.blank && !blank then
          if breaks.trailing.isEmpty then [' '] else breaks.trailing
        else breaks.leading ++ breaks.trailing
      let (line, c) := c.takeWhile fun x => !isBreakOrEnd x
      let text := text ++ joint ++ line
      if isEnd c.peek then (text, ⟨[], [], blank⟩, c)
      else
        let c := c.skipBreak
        let (trailing, c) := skipBlockIndent indent c.bound c
        readBlockLines literal indent fuel text ⟨['\n'], trailing, blank⟩ c

/-- The signs behind the mark of a block scalar: what to do at its end, and how much deeper than its
surroundings it lies (0 if its first line says so). -/
def readBlockHeader (c : Cursor) : Except SyntaxError (Chomping × Nat × Cursor) :=
  let sign? (c : Cursor) : Option Chomping :=
    if c.peek = '+' then some .keep else if c.peek = '-' then some .strip else none
  let digit? (c : Cursor) : Option Nat :=
    if '0' ≤ c.peek ∧ c.peek ≤ '9' then some (c.peek.toNat - 48) else none
  match sign? c, digit? c with
  | some chomping, _ =>
    match digit? c.skip with
    | some 0 => .error .blockScalarHeader
    | some n => .ok (chomping, n, c.skip.skip)
    | none => .ok (chomping, 0, c.skip)
  | none, some 0 => .error .blockScalarHeader
  | none, some n =>
    match sign? c.skip with
    | some chomping => .ok (chomping, n, c.skip.skip)
    | none => .ok (.clip, n, c.skip)
  | none, none => .ok (.clip, 0, c)

/-- A scalar whose lines are held together by their indentation. -/
def readBlockScalar (l : Lexer) (literal : Bool) : Except SyntaxError Lexer := do
  let l := (← l.saveKey).allowKey
  let firstLine := l.cursor.line
  let l := (l.moveTo l.cursor.skip).closeInner
  let (chomping, increment, c) ← readBlockHeader l.cursor
  let (_, c) ← c.skipGap true
  if !isBreakOrEnd c.peek then .error .blockScalarHeader
  else
    let headBreak : List Char := if isBreak c.peek then ['\n'] else []
    let c := c.skipBreak
    if c.peek = '\t' then .error .blockScalarIndentation
    else
      let (breaks, indent, c) :=
        if increment = 0 then
          let (breaks, deepest, c) := skipFirstIndent c.bound 0 c
          let indent := max deepest (l.indent + 1).toNat
          (breaks, (if 0 < l.indent then max indent 1 else indent), c)
        else
          let indent := if 0 ≤ l.indent then (l.indent + increment).toNat else increment
          let (breaks, c) := skipBlockIndent indent c.bound c
          (breaks, indent, c)
      let finish (text : List Char) (c : Cursor) : Lexer :=
        (l.moveTo c).push (.scalar .quoted (String.ofList text))
      if isEnd c.peek then
        let text : List Char :=
          if chomping = .strip ∨ c.line = firstLine then []
          else if chomping = .clip ∨ breaks.isEmpty then headBreak
          else breaks
        .ok (finish text c)
      else if c.column < indent ∧ l.indent < (c.column : Int) then .error .blockScalarIndentation
      else
        let (text, last, c) := readBlockLines literal indent c.bound [] ⟨[], breaks, false⟩ c
        let text :=
          if chomping = .strip then text
          else
            text ++ last.leading
              ++ if isEnd c.peek ∧ max indent 1 ≤ c.column then ['\n'] else []
        let text := if chomping = .keep then text ++ last.trailing else text
        .ok (finish text c)

/-! ### Quoted scalars -/

/-- The character a letter stands for behind a backslash. -/
def escapeLetter? (c : Char) : Option Char :=
  match c with
  | '0' => some '\x00'
  | 'a' => some '\x07'
  | 'b' => some '\x08'
  | 't' => some '\t'
  | '\t' => some '\t'
  | 'n' => some '\n'
  | 'v' => some '\x0b'
  | 'f' => some '\x0c'
  | 'r' => some '\r'
  | 'e' => some '\x1b'
  | ' ' => some ' '
  | '"' => some '"'
  | '/' => some '/'
  | '\\' => some '\\'
  | 'N' => some '\u0085'
  | '_' => some '\u00a0'
  | 'L' => some '\u2028'
  | 'P' => some '\u2029'
  | _ => none

/-- The value of some hexadecimal digits on top of a value. -/
def readHex (c : Cursor) (value : Nat) : Nat → Option (Nat × Cursor)
  | 0 => some (value, c)
  | n + 1 =>
    match hexValue? c.peek with
    | some d => readHex c.skip (value * 16 + d) n
    | none => none

/-- The character that an escape stands for: a letter's own, or one given by its number. -/
def readEscape (c : Cursor) : Except SyntaxError (Char × Cursor) :=
  let letter := c.peekAt 1
  let digits := if letter = 'x' then 2 else if letter = 'u' then 4 else if letter = 'U' then 8 else 0
  if digits = 0 then
    match escapeLetter? letter with
    | some x => .ok (x, c.skipMany 2)
    | none => .error .escapeSequence
  else
    match readHex (c.skipMany 2) 0 digits with
    | some (n, c) => if n.isValidChar then .ok (Char.ofNat n, c) else .error .escapeSequence
    | none => .error .escapeSequence

/-- The part of a quoted scalar up to a blank, a break or the closing quote; the truth value says
whether it ended in an escaped break. -/
def readQuotedPart (single : Bool) : Nat → Cursor → Except SyntaxError (List Char × Bool × Cursor)
  | 0, c => .ok ([], false, c)
  | fuel + 1, c =>
    let x := c.peek
    if isBlankOrEnd x then .ok ([], false, c)
    else if single && x == '\'' && c.peekAt 1 == '\'' then do
      let (text, folded, c) ← readQuotedPart single fuel (c.skipMany 2)
      .ok ('\'' :: text, folded, c)
    else if x == (if single then '\'' else '"') then .ok ([], false, c)
    else if !single && x == '\\' then
      if isBreak (c.peekAt 1) then .ok ([], true, c.skip.skipBreak)
      else do
        let (y, c) ← readEscape c
        let (text, folded, c) ← readQuotedPart single fuel c
        .ok (y :: text, folded, c)
    else do
      let (text, folded, c) ← readQuotedPart single fuel c.skip
      .ok (x :: text, folded, c)

/-- Blanks and breaks within a scalar: blanks before the first break, the first break, later
breaks, and whether there was a break at all. -/
structure Folds where
  blanks : List Char
  first : List Char
  later : List Char
  broken : Bool

/-- What blanks and breaks within a scalar stand for: blanks alone for themselves, one break for a
space, further breaks for themselves. -/
def Folds.text (f : Folds) : List Char :=
  if f.broken then
    if f.first.isEmpty then f.later else if f.later.isEmpty then [' '] else f.later
  else f.blanks

/-- The blanks and breaks up to the next character of a quoted scalar. -/
def readQuotedFolds (indent : Int) : Nat → Folds → Cursor → Except SyntaxError (Folds × Cursor)
  | 0, folds, c => .ok (folds, c)
  | fuel + 1, folds, c =>
    let x := c.peek
    if isBlank x then
      if folds.broken then
        if x = '\t' ∧ (c.column : Int) < indent then .error .tabIndentation
        else readQuotedFolds indent fuel folds c.skipBlank
      else readQuotedFolds indent fuel { folds with blanks := folds.blanks ++ [x] } c.skipBlank
    else if isBreak x then
      if folds.broken then
        readQuotedFolds indent fuel { folds with later := folds.later ++ ['\n'] } c.skipBreak
      else readQuotedFolds indent fuel ⟨[], ['\n'], folds.later, true⟩ c.skipBreak
    else .ok (folds, c)

/-- A quoted scalar up to its closing quote, part by part. -/
def readQuotedText (single : Bool) (indent : Int) :
    Nat → List Char → Cursor → Except SyntaxError (List Char × Cursor)
  | 0, _, _ => .error .unterminatedQuote
  | fuel + 1, text, c =>
    if (c.column = 0 ∧ c.atDocumentMark) ∨ isEnd c.peek then .error .unterminatedQuote
    else if (c.column : Int) < indent then .error .misplacedIndentation
    else do
      let (part, folded, c) ← readQuotedPart single c.bound c
      let text := text ++ part
      if c.peek = (if single then '\'' else '"') then .ok (text, c)
      else do
        let (folds, c) ← readQuotedFolds indent c.bound ⟨[], [], [], folded⟩ c
        readQuotedText single indent fuel (text ++ folds.text) c

/-- A quoted scalar, with a look at what follows its closing quote. -/
def readQuoted (l : Lexer) (single : Bool) : Except SyntaxError Lexer := do
  let l := (← l.saveKey).forbidKey
  let firstLine := l.cursor.line
  let (text, c) ← readQuotedText single l.indent (2 * l.cursor.bound) [] l.cursor.skip
  let (_, c) ← c.skip.skipGap true
  let x := c.peek
  let allowed :=
    isBreakOrEnd x
      || (l.flowDepth != 0 && (x == ',' || x == '\x7d' || x == ']' || x == ':'))
      || (l.flowDepth == 0 && x == ':' && firstLine == c.line)
  if allowed then do
    let l ← (l.moveTo c).toNextToken
    let l := { l with adjacentAt := l.cursor.index }
    .ok (l.push (.scalar .quoted (String.ofList text)))
  else .error .afterQuote

/-! ### Plain scalars -/

/-- Whether a plain scalar can go on with the character at the cursor. -/
def continuesPlain (flow : Bool) (c : Cursor) : Bool :=
  if c.peek = ':' ∧ (isBlankOrEnd (c.peekAt 1) ∨ (flow ∧ isFlowMark (c.peekAt 1))) then false
  else !(flow && isFlowMark c.peek)

/-- The part of a plain scalar up to a blank or a break. -/
def readPlainPart (flow : Bool) : Nat → Cursor → List Char × Cursor
  | 0, c => ([], c)
  | fuel + 1, c =>
    if isBlankOrEnd c.peek || !continuesPlain flow c then ([], c)
    else
      let (text, c') := readPlainPart flow fuel c.skip
      (c.peek :: text, c')

/-- The blanks and breaks behind a part of a plain scalar, which may turn out not to belong to it. -/
def readPlainFolds (indent : Int) : Nat → Folds → Cursor → Except SyntaxError (Folds × Cursor)
  | 0, folds, c => .ok (folds, c)
  | fuel + 1, folds, c =>
    let x := c.peek
    if isBlank x then
      if !folds.broken then
        readPlainFolds indent fuel { folds with blanks := folds.blanks ++ [x] } c.skipBlank
      else if (c.column : Int) < indent ∧ x = '\t' then do
        let (_, c) ← c.skipGap true
        if isBreakOrEnd c.peek then readPlainFolds indent fuel folds c else .error .tabIndentation
      else readPlainFolds indent fuel folds c.skipBlank
    else if isBreak x then
      if folds.broken then
        readPlainFolds indent fuel { folds with later := folds.later ++ ['\n'] } c.skipBreak
      else readPlainFolds indent fuel ⟨[], ['\n'], folds.later, true⟩ c.skipBreak
    else .ok (folds, c)

/-- The text of a plain scalar, and whether a line break came after it. -/
def readPlainText (flow : Bool) (indent : Int) :
    Nat → List Char → Folds → Cursor → Except SyntaxError (List Char × Bool × Cursor)
  | 0, text, folds, c => .ok (text, folds.broken, c)
  | fuel + 1, text, folds, c =>
    if c.atDocumentMark || c.peek == '#' then .ok (text, folds.broken, c)
    else if flow && c.peek == '-' && isFlowMark (c.peekAt 1) then .error .misplacedEntry
    else
      let (part, c') := readPlainPart flow c.bound c
      let (text, folds) :=
        if part.isEmpty then (text, folds) else (text ++ folds.text ++ part, ⟨[], [], [], false⟩)
      if isBlank c'.peek || isBreak c'.peek then do
        let (folds, c) ← readPlainFolds indent c'.bound folds c'
        if !flow && decide ((c.column : Int) < indent) then .ok (text, folds.broken, c)
        else readPlainText flow indent fuel text folds c
      else .ok (text, folds.broken, c')

/-- A plain scalar. After a line break behind it a key may begin. -/
def readPlain (l : Lexer) : Except SyntaxError Lexer := do
  let l := (← l.saveKey).forbidKey.closeInner
  let flow := l.flowDepth != 0
  let indent := l.indent + 1
  if flow && decide ((l.cursor.column : Int) < indent) then .error .misplacedIndentation
  else
    let (text, broken, c) ←
      readPlainText flow indent l.cursor.bound [] ⟨[], [], [], false⟩ l.cursor
    let l := l.moveTo c
    let l := if broken then l.allowKey else l
    if text.isEmpty then .error .emptyPlainScalar
    else .ok (l.push (.scalar .plain (String.ofList text)))

end Lexer

end BackupConsole.Yaml
