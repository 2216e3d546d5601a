/-
  Which events of the log are shown.

  1. **Program** — a filter is written as directives with commas between them. `LogFilter.read` reads
     it, `LogFilter.shows` asks it about an event.

  2. **Specification** — a directive is a level for everything, a level for a part of a program, or a
     part alone, of which everything is shown. The directive with the longest fitting part decides; of
     two for the same part, the later one. What no directive fits is not shown.
-/
import BackupConsole.Log
import BackupConsole.Text.Blank
import BackupConsole.Text.Decimal

namespace BackupConsole

open Text

/-- What a directive is about. -/
inductive LogScope where
  | everything
  | part (name : String)
  /-- Something inside of a part, to which no event of this log belongs. -/
  | inside
  deriving DecidableEq, Repr

/-- A scope and the rank up to which its events are shown. -/
structure LogDirective where
  scope : LogScope
  rank : Nat
  deriving DecidableEq, Repr

/-- A filter is a list of directives, of which one decides. -/
abbrev LogFilter := List LogDirective

namespace LogFilter

/-- The level names in the order of their ranks. -/
def levelNames : List String := ["off", "error", "warn", "info", "debug", "trace"]

/-- The rank that shows everything. -/
def traceRank : Nat := 5

/-- The place of an event's level among the level names. -/
def rankOf : LogLevel → Nat
  | .error => 1
  | .warn => 2
  | .info => 3

/-- A capital of the English alphabet as its small letter; level names are read in any case. -/
def asciiSmall (c : Char) : Char := if 'A' ≤ c ∧ c ≤ 'Z' then Char.ofNat (c.toNat + 32) else c

/-- The rank that a level's name or number stands for. -/
def readRank (text : List Char) : Option Nat :=
  let digits := match text with
    | '+' :: rest => rest
    | rest => rest
  match (if digits.all isDecimalDigit then readDigits 10 digits else none) with
  | some n => if n ≤ traceRank then some n else none
  | none => levelNames.findIdx? fun name => name == String.ofList (text.map asciiSmall)

/-- The text without white space at its ends. -/
def trim (text : List Char) : List Char :=
  ((text.dropWhile isBlankChar).reverse.dropWhile isBlankChar).reverse

/-- Whether a directive can begin with a character. -/
def canBegin (c : Char) : Bool := c.isAlphanum || c == '-' || c == ':' || c == '_' || 0x80 ≤ c.toNat

/-- Reads a directive. -/
def readDirective (text : List Char) : Option LogDirective :=
  match trim text with
  | [] => none
  | '[' :: rest => if rest.contains ']' then some ⟨.inside, traceRank⟩ else none
  | c :: rest =>
    if !canBegin c then none
    else
      let text := c :: rest
      let name := text.takeWhile fun c => c != '=' && c != '['
      match text.dropWhile fun c => c != '=' && c != '[' with
      | [] =>
        match readRank text with
        | some rank => some ⟨.everything, rank⟩
        | none => some ⟨.part (String.ofList name), traceRank⟩
      | '=' :: [] => some ⟨.part (String.ofList name), traceRank⟩
      | '=' :: level => (readRank level).map fun rank => ⟨.part (String.ofList name), rank⟩
      | _ :: rest => if rest.contains ']' then some ⟨.inside, traceRank⟩ else none

/-- A text cut at its commas. -/
def cutFrom (piece : List Char) : List Char → List (List Char)
  | [] => [piece.reverse]
  | c :: rest => if c = ',' then piece.reverse :: cutFrom [] rest else cutFrom (c :: piece) rest

/-- Reads a filter; all of its directives have to be readable. -/
def read (text : String) : Option LogFilter :=
  ((cutFrom [] text.toList).filter fun piece => !piece.isEmpty).mapM readDirective

/-- The part of programs that all events of this log belong to. -/
def program : String := "pmb_admin"

/-- How well a scope fits: the length of its part, if the events belong to it at all. -/
def fit : LogScope → Option Nat
  | .everything => some 0
  | .part name =>
    if name.toList.isPrefixOf program.toList then some (name.length + 1) else none
  | .inside => none

/-- The best fit so far and the rank of its directive. -/
def bestFit (best : Option (Nat × Nat)) : LogFilter → Option (Nat × Nat)
  | [] => best
  | d :: rest =>
    match fit d.scope, best with
    | none, _ => bestFit best rest
    | some n, none => bestFit (some (n, d.rank)) rest
    | some n, some (m, rank) => bestFit (if m ≤ n then some (n, d.rank) else some (m, rank)) rest

/-- Whether a filter lets an event through: by the rank of the directive that fits best. -/
def shows (f : LogFilter) (e : LogEvent) : Bool :=
  match bestFit none f with
  | some (_, rank) => rankOf e.level ≤ rank
  | none => false

/-- The filter of a run: by the environment if that can be read, else by the level that was asked
for, else warnings. Parts that log much besides are held to warnings. -/
def ofSettings (environment level : Option String) : LogFilter :=
  match environment.bind read with
  | some f => f
  | none =>
    match read (level.getD "warn" ++ ",h2=warn,tower=warn,hyper_util=warn") with
    | some f => f
    | none => [⟨.everything, 2⟩]

end LogFilter

end BackupConsole
