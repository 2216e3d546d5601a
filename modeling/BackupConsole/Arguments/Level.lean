/-
  Levels of the command line: the program itself, its groups of commands, and its commands.

  1. **Program** — tables say which words lead from a level to the next, which options a level takes,
     and which slots it needs.

  2. **Specification** — a group needs a command word and takes no other plain word; a command takes no
     command word. The options of every level include the global ones.
-/
import BackupConsole.Arguments.Slot

namespace BackupConsole.Arguments

/-- Levels that lead on to others. -/
inductive Group where
  | program
  | run
  | list
  deriving DecidableEq, Repr

/-- Levels at which a command line can end. -/
inductive Leaf where
  | completions
  | backup
  | restore
  | nodes
  | backups
  deriving DecidableEq, Repr

/-- A place in the tree of commands: a group of further words, or a leaf that is a command itself. -/
inductive Level where
  | group (g : Group)
  | leaf (l : Leaf)
  deriving DecidableEq, Repr

/-- What a command word leads to. -/
inductive Next where
  | level (l : Level)
  | help
  deriving DecidableEq, Repr

namespace Group

/-- The command words of a group, as the help lists them. -/
def words : Group → List (String × Next)
  | program => [("run", .level (.group run)), ("list", .level (.group list)),
      ("completions", .level (.leaf .completions)), ("help", .help)]
  | run => [("backup", .level (.leaf .backup)), ("restore", .level (.leaf .restore)), ("help", .help)]
  | list => [("nodes", .level (.leaf .nodes)), ("backups", .level (.leaf .backups)), ("help", .help)]

/-- What a word leads to in a group. -/
def next? (g : Group) (word : String) : Option Next := g.words.lookup word

end Group

namespace Level

/-- The level at which every line begins. -/
def program : Level := .group .program

/-- How messages call a level: the words that lead to it. -/
def path : Level → String
  | .group .program => "pmb-admin"
  | .group .run => "pmb-admin run"
  | .group .list => "pmb-admin list"
  | .leaf .completions => "pmb-admin completions"
  | .leaf .backup => "pmb-admin run backup"
  | .leaf .restore => "pmb-admin run restore"
  | .leaf .nodes => "pmb-admin list nodes"
  | .leaf .backups => "pmb-admin list backups"

/-- What a word leads to at a level; behind a leaf there is no further level. -/
def next? (l : Level) (word : String) : Option Next :=
  match l with
  | .group g => g.next? word
  | .leaf _ => none

/-- The options of a level, as the help lists them. -/
def options : Level → List Slot
  | .group .program => Slot.globals ++ [.help, .version]
  | .leaf .backup => [.backupType, .tls, .caFile, .destinationType, .compressionAlgorithm,
      .serverAddress, .config, .encryptionAlgorithm, .description, .logLevel, .help]
  | .leaf .restore => .skipUsersAndRoles :: Slot.globals ++ [.help]
  | .leaf .nodes => [.tls, .verbose, .caFile, .serverAddress, .config, .logLevel, .help]
  | _ => Slot.globals ++ [.help]

/-- The option of a level with the given name. -/
def option? (l : Level) (name : String) : Option Slot := l.options.find? fun s => s.name == name

/-- The option of a level with the given letter. -/
def letter? (l : Level) (c : Char) : Option Slot := l.options.find? fun s => s.letter == some c

/-- The place for a plain word at a level. -/
def place? : Level → Option Slot
  | .leaf .completions => some .shell
  | .leaf .restore => some .metadataFile
  | _ => none

/-- The slots that have to be filled at a level. -/
def needs : Level → List Slot
  | .leaf .completions => [.shell]
  | .leaf .backup => [.description]
  | .leaf .restore => [.metadataFile]
  | _ => []

/-- What the help says of a level. -/
def about : Level → String
  | .group .program => "MongoDB backup admin"
  | .group .run => "Start a new backup or restore process"
  | .group .list => "List objects (connected nodes, backups, etc)"
  | .leaf .completions => "Generate shell completions"
  | .leaf .backup => "Start a backup"
  | .leaf .restore => "Restore a backup given a metadata file name"
  | .leaf .nodes => "List connected nodes"
  | .leaf .backups => "List backups"

end Level

/-- What the help says of the word `help`. -/
def aboutHelp : String := "Print this message or the help of the given subcommand(s)"

/-- What the help says of a command word. -/
def Next.about : Next → String
  | .level l => l.about
  | .help => aboutHelp

end BackupConsole.Arguments
