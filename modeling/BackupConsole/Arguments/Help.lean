/-
  Help texts.

  1. **Program** — `helpText` writes what a level does, how it is called, its command words and its
     options; `helpOfHelp` does so for the word `help`, `versionText` names the version.

  2. **Specification** — a table has one row for each entry. Descriptions stand in a column of their
     own beside the entries, or, where the entries take up too much of a line, below them. The program
     itself has a longer help too, with an empty line between options.
-/
import BackupConsole.Arguments.Level

namespace BackupConsole.Arguments

/-- A text filled up with spaces to a width. -/
def spread (width : Nat) (text : String) : String :=
  text ++ String.ofList (List.replicate (width - text.length) ' ')

/-- The width a line of help is laid out for. -/
def lineWidth : Nat := 100

/-- The length of the longest of some texts; zero if there are none. -/
def widest (texts : List String) : Nat := (texts.map String.length).foldl max 0

/-! ## Tables -/

/-- A table of two columns, each row with two spaces before it. -/
def columns (rows : List (String × String)) : String :=
  let width := widest (rows.map Prod.fst)
  String.join (rows.map fun row =>
    if row.2 = "" then "  " ++ row.1 ++ "\n" else "  " ++ spread width row.1 ++ "  " ++ row.2 ++ "\n")

/-- A table with its second column below the first. -/
def stacked (rows : List (String × String)) : String :=
  String.join (rows.map fun row => "  " ++ row.1 ++ "\n          " ++ row.2 ++ "\n")

/-- What the help notes behind a description. -/
def notes (s : Slot) : List String :=
  let default := match s.default? with
    | some value => ["[default: " ++ value ++ "]"]
    | none => []
  let words := if s.words.isEmpty then []
    else ["[possible values: " ++ String.intercalate ", " s.words ++ "]"]
  default ++ words

/-- The description of a slot with its notes. -/
def described (s : Slot) : String :=
  String.intercalate " " ((s.about :: notes s).filter fun text => text != "")

/-- An option as the help lists it, with room for its letter. -/
def optionEntry (s : Slot) : String :=
  match s.letter with
  | some c => String.ofList ['-', c, ',', ' '] ++ s.text
  | none => "    " ++ s.text

/-- Whether the options of a table leave too little room for a description beside them. -/
def isCrowded (options : List Slot) : Bool :=
  let taken := widest (options.map Slot.text) + 12
  decide (40 < taken) && options.any fun s => decide (lineWidth - taken < (described s).length)

/-! ## The parts of a help text -/

/-- The table of a level's command words; a leaf has none. -/
def commandsPart (l : Level) : String :=
  match l with
  | .group g => "Commands:\n" ++ columns (g.words.map fun w => (w.1, w.2.about)) ++ "\n"
  | .leaf _ => ""

/-- What the help says of a level's plain word, where it takes one. -/
def placePart (l : Level) : String :=
  match l.place? with
  | some s => "Arguments:\n" ++ columns [(s.text, described s)] ++ "\n"
  | none => ""

/-- What follows the path on the line that says how a level is called. -/
def callText (l : Level) : String :=
  match l with
  | .group _ => " [OPTIONS] <COMMAND>"
  | .leaf _ => " [OPTIONS]" ++ String.join (l.needs.map fun s => " " ++ s.text)

/-- The description of an option; the program's help refers to its longer or shorter form. -/
def optionAbout (l : Level) (long : Bool) (s : Slot) : String :=
  if s = .help ∧ l = Level.program then
    if long then "Print help (see a summary with '-h')" else "Print help (see more with '--help')"
  else described s

/-- The table of a level's options, stacked where they leave no room for a column beside them. -/
def optionsPart (l : Level) : String :=
  let rows := l.options.map fun s => (optionEntry s, optionAbout l false s)
  "Options:\n" ++ if isCrowded l.options then stacked rows else columns rows

/-- An option in the longer help of the program: description and notes with a line between them. -/
def longEntry (s : Slot) : String :=
  let below := fun (text : String) => "          " ++ text ++ "\n"
  let about := if s = .help then optionAbout Level.program true s else s.about
  "  " ++ optionEntry s ++ "\n"
    ++ String.intercalate (below "") (below about :: (notes s).map below)

/-- The program's options as its longer help lists them, with an empty line between two. -/
def longOptionsPart : String :=
  "Options:\n" ++ String.intercalate "\n" (Level.program.options.map longEntry)

/-- What the program says of itself at the head of its longer help. -/
def programAbout : String :=
  "Administrative client for the backup coordinator: start backups and restores, "
    ++ "list connected agents and the backup catalog."

/-- The calls that the program's help ends with. -/
def examplesPart : String :=
  "\nEXAMPLES:\n"
    ++ "        pmb-admin list nodes --verbose\n"
    ++ "        pmb-admin run backup --backup-type=logical --description='before upgrade'\n"
    ++ "        pmb-admin --server-addr=10.0.0.5:10001 run restore 2024-01-01T00:00:00Z.json\n"
    ++ "        pmb-admin completions bash > /etc/bash_completion.d/pmb-admin\n"
    ++ "        source <(COMPLETE=bash pmb-admin)\n"

/-! ## Help texts -/

/-- The help of a level, in the longer form if there is one and it is wanted. -/
def helpText (l : Level) (long : Bool) : String :=
  let isLong := long && l == Level.program
  (if isLong then programAbout else l.about) ++ "\n\n"
    ++ "Usage: " ++ l.path ++ callText l ++ "\n\n"
    ++ commandsPart l ++ placePart l
    ++ (if isLong then longOptionsPart else optionsPart l)
    ++ (if l = Level.program then examplesPart else "")

/-- The help of the word `help` in a group. -/
def helpOfHelp (g : Group) : String :=
  aboutHelp ++ "\n\nUsage: " ++ (Level.group g).path ++ " help [COMMAND]...\n\n"
    ++ "Arguments:\n  [COMMAND]...  Print help for the subcommand(s)\n"

/-- What the program prints when it is asked for its version. -/
def versionText : String := "pmb-admin 1.0.0-unstable\n"

end BackupConsole.Arguments
