/-
  The reading of a command line.

  1. **Program** — `read` goes through the arguments once. At each level it fills the level's slots;
     a command word leads to the next level.

  2. **Specification** — an option written without its value waits for the next argument, which is then
     its value even if it is a command word, but not if it looks like an option. After `--` all
     arguments are plain words. A slot that has its value still waits until the next one is filled or
     the level ends; only then is the value looked at. No slot is filled twice at one level. Deeper
     levels are checked before the levels around them.

  An unknown option or a surplus word is reported before what is wrong with the slot that waits.
-/
import BackupConsole.Arguments.Help

namespace BackupConsole.Arguments

/-! ## Errors -/

/-- Why a command line is not carried out; a request for help is among the reasons. -/
inductive ArgumentError where
  | help (level : Level) (long : Bool)
  | helpOfHelp (group : Group)
  /-- A level that needs more arguments was given none. -/
  | helpInstead (level : Level)
  | version
  | unknownArgument (text : String)
  | unknownCommand (word : String)
  | missingCommand (level : Level)
  | missingValue (slot : Slot)
  | badValue (slot : Slot) (value : String)
  | surplusValue (slot : Slot) (value : String)
  | repeated (slot : Slot)
  | missingSlots (slots : List Slot)
  deriving DecidableEq, Repr

namespace ArgumentError

/-- What is shown: a help text as it is, any other reason behind the word `error`. -/
def message : ArgumentError → String
  | help level long => helpText level long
  | helpOfHelp group => Arguments.helpOfHelp group
  | helpInstead level => helpText level false
  | version => versionText
  | unknownArgument text => "error: unexpected argument '" ++ text ++ "' found"
  | unknownCommand word => "error: unrecognized subcommand '" ++ word ++ "'"
  | missingCommand level =>
    "error: '" ++ level.path ++ "' requires a subcommand but one was not provided"
  | missingValue slot => "error: a value is required for '" ++ slot.text ++ "' but none was supplied"
  | badValue slot value => "error: invalid value '" ++ value ++ "' for '" ++ slot.text ++ "'"
  | surplusValue slot value =>
    "error: unexpected value '" ++ value ++ "' for '" ++ slot.text ++ "' found; no more were expected"
  | repeated slot => "error: the argument '" ++ slot.text ++ "' cannot be used multiple times"
  | missingSlots slots =>
    "error: the following required arguments were not provided:"
      ++ String.join (slots.map fun s => "\n  " ++ s.text)

/-- Whether the operator asked for what is shown. -/
def isAnswer : ArgumentError → Bool
  | help _ _ => true
  | helpOfHelp _ => true
  | version => true
  | _ => false

end ArgumentError

/-! ## Arguments one by one -/

/-- What an argument looks like. -/
inductive Shape where
  /-- Two dashes and no more. -/
  | divider
  /-- Two dashes and a name, with or without a value behind an equals sign. -/
  | long (name : String) (value : Option String)
  /-- One dash and a letter. -/
  | short (letter : Char)
  | plain
  deriving DecidableEq, Repr

/-- A name and what stands behind the first equals sign. -/
def splitAtEquals : List Char → List Char × Option (List Char)
  | [] => ([], none)
  | c :: rest =>
    if c = '=' then ([], some rest)
    else
      let (name, value) := splitAtEquals rest
      (c :: name, value)

/-- The shape of an argument, told by its dashes alone. A single dash is a plain word. -/
def shapeOf (argument : String) : Shape :=
  match argument.toList with
  | ['-', '-'] => .divider
  | '-' :: '-' :: rest =>
    let (name, value) := splitAtEquals rest
    .long (String.ofList name) (value.map String.ofList)
  | '-' :: c :: _ => .short c
  | _ => .plain

/-! ## The state of a level -/

/-- A slot with the value it was given. -/
abbrev Filled := Slot × String

/-- How far a level has been read. -/
structure Progress where
  /-- The slots filled so far. -/
  filled : List Filled
  /-- The slot that waits, with its value if it has one already. -/
  waiting : Option (Slot × Option String)
  /-- Whether `--` has been read. -/
  divided : Bool
  /-- Whether the level's plain word has been read. -/
  placed : Bool
  deriving DecidableEq, Repr

namespace Progress

/-- A level of which nothing has been read yet. -/
def start : Progress := ⟨[], none, false, false⟩

/-- Whether a slot waits for the next argument. -/
def isOpen (p : Progress) : Bool :=
  match p.waiting with
  | some (_, none) => true
  | _ => false

/-- Fills a slot. -/
def fill (p : Progress) (slot : Slot) (value : String) : Except ArgumentError Progress :=
  if p.filled.any fun entry => entry.1 == slot then .error (.repeated slot)
  else if slot.accepts value then .ok { p with filled := p.filled ++ [(slot, value)] }
  else if value = "" then .error (.missingValue slot)
  else .error (.badValue slot value)

/-- Fills the slot that waits. -/
def settle (p : Progress) : Except ArgumentError Progress :=
  match p.waiting with
  | none => .ok p
  | some (slot, none) => .error (.missingValue slot)
  | some (slot, some value) => fill { p with waiting := none } slot value

/-- Settles what waits and then fills a slot. -/
def settleAndFill (p : Progress) (slot : Slot) (value : String) : Except ArgumentError Progress :=
  match p.settle with
  | .ok p => p.fill slot value
  | .error e => .error e

/-- Settles what waits and lets a slot wait instead. -/
def await (p : Progress) (slot : Slot) (value : Option String) : Except ArgumentError Progress :=
  match p.settle with
  | .ok p => .ok { p with waiting := some (slot, value) }
  | .error e => .error e

/-- Settles what waits at the end of a level. -/
def finish (p : Progress) : Except ArgumentError (List Filled) :=
  match p.settle with
  | .ok p => .ok p.filled
  | .error e => .error e

end Progress

/-! ## Single steps -/

/-- What comes of an option that a level has, in its long form. -/
def readLong (level : Level) (p : Progress) (slot : Slot) (value : Option String) :
    Except ArgumentError Progress :=
  match slot.filling with
  | .switch => p.settleAndFill slot (value.getD "true")
  | .value =>
    match value with
    | some value => p.settleAndFill slot value
    | none => p.await slot none
  | .mark =>
    match value with
    | some value => .error (.surplusValue slot value)
    | none =>
      match p.settle with
      | .error e => .error e
      | .ok p =>
        if slot = .help then .error (.help level true)
        else if slot = .version then .error .version
        else p.fill slot "true"
  | .word => .error (.unknownArgument ("--" ++ slot.name))

/-- What comes of an option that a level has, by its letter. -/
def readLetter (level : Level) (p : Progress) (slot : Slot) : Except ArgumentError Progress :=
  match p.settle with
  | .error e => .error e
  | .ok p =>
    if slot = .help then .error (.help level false)
    else if slot = .version then .error .version
    else p.fill slot "true"

/-- What comes of a plain word that is no command word. -/
def readWord (level : Level) (p : Progress) (word : String) : Except ArgumentError Progress :=
  match level.place? with
  | some slot =>
    if p.placed then .error (.unknownArgument word)
    else
      match p.await slot (some word) with
      | .ok p => .ok { p with placed := true }
      | .error e => .error e
  | none =>
    match level with
    | .leaf _ => .error (.unknownArgument word)
    | .group g =>
      if p.divided && (g.next? word).isSome then .error (.unknownArgument word)
      else .error (.unknownCommand word)

/-- What comes of an argument that leads to no other level. -/
def readArgument (level : Level) (p : Progress) (argument : String) :
    Except ArgumentError Progress :=
  if p.divided then readWord level p argument
  else
    match shapeOf argument with
    | .divider => .ok { p with divided := true }
    | .long name value =>
      match level.option? name with
      | some slot => readLong level p slot value
      | none => .error (.unknownArgument ("--" ++ name))
    | .short c =>
      match level.letter? c with
      | some slot => readLetter level p slot
      | none => .error (.unknownArgument (String.ofList ['-', c]))
    | .plain =>
      match p.waiting with
      | some (slot, none) => .ok { p with waiting := some (slot, some argument) }
      | _ => readWord level p argument

/-- The level an argument leads to. -/
def descends (level : Level) (p : Progress) (argument : String) : Option Next :=
  if p.divided || p.isOpen then none else level.next? argument

/-- What the words behind `help` ask for. -/
def helpOn : Level → List String → ArgumentError
  | level, [] => .help level true
  | level, word :: rest =>
    match level with
    | .leaf _ => .unknownCommand word
    | .group g =>
      match g.next? word with
      | none => .unknownCommand word
      | some (.level level) => helpOn level rest
      | some .help =>
        match rest with
        | [] => .helpOfHelp g
        | word :: _ => .unknownCommand word

/-! ## Whole command lines -/

/-- A command line that has been read: the command, and the slots filled at each level, outermost
first. -/
structure CommandLine where
  leaf : Leaf
  levels : List (List Filled)
  deriving DecidableEq, Repr

/-- The slots a level needs that have not been filled. -/
def lacking (level : Level) (filled : List Filled) : List Slot :=
  level.needs.filter fun slot => !(filled.any fun entry => entry.1 == slot)

/-- What comes of a level whose arguments have ended. -/
def endLevel (level : Level) (p : Progress) : Except ArgumentError CommandLine :=
  match p.finish with
  | .error e => .error e
  | .ok filled =>
    match level with
    | .group _ => if filled.isEmpty then .error (.helpInstead level) else .error (.missingCommand level)
    | .leaf leaf =>
      match lacking level filled with
      | [] => .ok ⟨leaf, [filled]⟩
      | slots => .error (.missingSlots slots)

/-- What comes of a level once the levels below it have been read. -/
def surround (p : Progress) (inner : CommandLine) : Except ArgumentError CommandLine :=
  match p.finish with
  | .error e => .error e
  | .ok filled => .ok { inner with levels := filled :: inner.levels }

/-- Reads the arguments of a level. -/
def readLevel : Level → Progress → List String → Except ArgumentError CommandLine
  | level, p, [] => endLevel level p
  | level, p, argument :: rest =>
    match descends level p argument with
    | some (.level next) =>
      match readLevel next Progress.start rest with
      | .ok inner => surround p inner
      | .error e => .error e
    | some .help => .error (helpOn level rest)
    | none =>
      match readArgument level p argument with
      | .ok p => readLevel level p rest
      | .error e => .error e

/-- Reads a command line, without the program's name. -/
def read (arguments : List String) : Except ArgumentError CommandLine :=
  readLevel Level.program Progress.start arguments

end BackupConsole.Arguments
