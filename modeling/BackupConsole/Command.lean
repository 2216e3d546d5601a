/-
  Commands: what an operator can ask of the coordinator.

  There are four, each with its options as the operator wrote them, and each with a path, the two
  words by which it is called.
-/

namespace BackupConsole

/-- Options of a backup, still in the operator's words. -/
structure BackupOptions where
  kind : String
  destination : String
  compression : String
  cipher : String
  description : String
  deriving DecidableEq, Repr, Inhabited

/-- Options of a restore. -/
structure RestoreOptions where
  metadataFile : String
  skipUsersAndRoles : Bool
  deriving DecidableEq, Repr, Inhabited

/-- A command with its options. -/
inductive Command where
  | backup (options : BackupOptions)
  | restore (options : RestoreOptions)
  | listNodes (verbose : Bool)
  | listBackups
  deriving DecidableEq, Repr

/-- The commands without their options. -/
inductive CommandPath where
  | runBackup
  | runRestore
  | listNodes
  | listBackups
  deriving DecidableEq, Repr

/-- All paths there are. -/
def CommandPath.all : List CommandPath := [runBackup, runRestore, listNodes, listBackups]

/-- The words of a path, with a space between them. -/
def CommandPath.text : CommandPath → String
  | runBackup => "run backup"
  | runRestore => "run restore"
  | listNodes => "list nodes"
  | listBackups => "list backups"

/-- The path whose words are given. -/
def CommandPath.ofText? (text : String) : Option CommandPath :=
  CommandPath.all.find? fun path => path.text == text

/-- The path of a command. -/
def Command.path : Command → CommandPath
  | .backup _ => .runBackup
  | .restore _ => .runRestore
  | .listNodes _ => .listNodes
  | .listBackups => .listBackups

end BackupConsole
