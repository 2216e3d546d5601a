/-
  Keys of a configuration file as paths.

  1. **Program** — a key such as `a.b` or `a[0]` names a place inside a setting. `KeyPath.ofKey` takes
     a key apart as far as it matters here: the setting it begins with, and the first step inside.

  2. **Specification** — a path is an identifier and any number of steps: a dot and an identifier, or
     brackets around a whole number with blanks beside it. A key that is no path stands for itself.
     Neither the number in the brackets nor the name behind a dot is kept, nor any further step. Whatever
     they are, a step inside makes a list or a table of the setting that it leads into, and of these no
     setting can be had (`Held.toBool`, `Held.toText`).

  Reading is by states: `KeyState.next` says what a character means after those before it.
-/
import BackupConsole.Text.Decimal

namespace BackupConsole.Settings

open Text

/-- The first step of a path inside a setting. -/
inductive KeyStep where
  /-- There is none: the path ends at the setting. -/
  | whole
  /-- By a name, as into a table. -/
  | field
  /-- By a number, as into a list; which one does not matter. -/
  | item
  deriving DecidableEq, Repr

/-- A key as far as it matters: the setting, and the first step inside it. -/
structure KeyPath where
  setting : String
  step : KeyStep
  deriving DecidableEq, Repr

/-- Whether a character may stand in an identifier. -/
def isIdentifierChar (c : Char) : Bool :=
  ('a' ≤ c && c ≤ 'z') || ('A' ≤ c && c ≤ 'Z') || isDecimalDigit c || c == '_' || c == '-'

/-- What has been read of a path so far. -/
inductive KeyState where
  /-- An identifier has to begin here. -/
  | start
  | identifier
  /-- A bracket has been opened. -/
  | opened
  /-- A minus sign stands before the number. -/
  | minus
  | number (negative : Bool) (value : Nat)
  /-- Blanks follow the number. -/
  | spaced
  | closed
  deriving DecidableEq, Repr

namespace KeyState

/-- Whether a character may stand beside the number in brackets. -/
def isKeyBlank (c : Char) : Bool := c == ' ' || c == '\t'

/-- Whether a number fits in 64 bits. -/
def fits (negative : Bool) (value : Nat) : Bool :=
  if negative then decide (Int64.minValue.toInt ≤ -(value : Int))
  else decide ((value : Int) ≤ Int64.maxValue.toInt)

/-- The state behind another character; without one, the key is no path. -/
def next : KeyState → Char → Option KeyState
  | start, c => if isIdentifierChar c then some identifier else none
  | identifier, c =>
    if isIdentifierChar c then some identifier
    else if c = '.' then some start
    else if c = '[' then some opened
    else none
  | opened, c =>
    if isKeyBlank c then some opened
    else if c = '-' then some minus
    else if isDecimalDigit c then some (number false (c.toNat - 48))
    else none
  | minus, c => if isDecimalDigit c then some (number true (c.toNat - 48)) else none
  | number negative value, c =>
    if isDecimalDigit c then some (number negative (value * 10 + (c.toNat - 48)))
    else if !fits negative value then none
    else if isKeyBlank c then some spaced
    else if c = ']' then some closed
    else none
  | spaced, c =>
    if isKeyBlank c then some spaced else if c = ']' then some closed else none
  | closed, c =>
    if c = '.' then some start else if c = '[' then some opened else none

/-- Whether a path can end here. -/
def isDone : KeyState → Bool
  | identifier => true
  | closed => true
  | _ => false

/-- Whether the rest of a key completes a path. -/
def completes : KeyState → List Char → Bool
  | s, [] => s.isDone
  | s, c :: rest =>
    match s.next c with
    | some s => completes s rest
    | none => false

end KeyState

namespace KeyPath

/-- A key taken apart. -/
def ofKey (key : String) : KeyPath :=
  if KeyState.start.completes key.toList then
    let setting := String.ofList (key.toList.takeWhile isIdentifierChar)
    match key.toList.dropWhile isIdentifierChar with
    | '.' :: _ => ⟨setting, .field⟩
    | '[' :: _ => ⟨setting, .item⟩
    | _ => ⟨setting, .whole⟩
  else ⟨key, .whole⟩

end KeyPath

end BackupConsole.Settings
