/-
  What a command line asks for.

  1. **Program** — `invocationOf` takes the options of a command line that has been read apart: flags
     that concern settings, the log filter, and the command.

  2. **Specification** — of a global option the occurrence at the deepest level counts. Options of a
     backup that are not given are empty texts; a restore leaves users and roles out unless it is told
     not to.
-/
import BackupConsole.Arguments.Reader
import BackupConsole.Settings.Resolve

namespace BackupConsole.Arguments

open Settings (Flags)

/-- The shells that completions can be made for. -/
inductive Shell where
  | bash
  | elvish
  | fish
  | powershell
  | zsh
  deriving DecidableEq, Repr

/-- The shells in the order in which the help names them. -/
def Shell.all : List Shell := [bash, elvish, fish, powershell, zsh]

/-- The word that asks for a shell's script. -/
def Shell.word : Shell → String
  | bash => "bash"
  | elvish => "elvish"
  | fish => "fish"
  | powershell => "powershell"
  | zsh => "zsh"

/-- The shell of a word. A command line that has been read holds only words of shells. -/
def Shell.ofWord (word : String) : Shell := (Shell.all.find? fun s => s.word == word).getD bash

/-- What the program is to do. -/
inductive Task where
  | command (c : Command)
  | completions (shell : Shell)
  deriving DecidableEq, Repr

/-- What a command line asks for. -/
structure Invocation where
  flags : Flags
  logLevel : Option String
  task : Task
  deriving DecidableEq, Repr

/-- The value of a slot at one level. -/
def valueOf (slot : Slot) (filled : List Filled) : Option String := filled.lookup slot

/-- The value of a slot at the deepest level that has one. -/
def deepest (slot : Slot) : List (List Filled) → Option String
  | [] => none
  | filled :: deeper => (deepest slot deeper).or (valueOf slot filled)

namespace CommandLine

/-- What a slot is worth after the whole line: its value at the innermost level that fills it. -/
def value (c : CommandLine) (slot : Slot) : Option String := deepest slot c.levels

/-- A truth value as a word. -/
def truth (c : CommandLine) (slot : Slot) : Option Bool := (c.value slot).map fun word => word == "true"

/-- The options that speak of the connection, as the line gives them. -/
def flags (c : CommandLine) : Flags :=
  ⟨c.truth .tls, c.value .caFile, c.value .serverAddress, c.value .config⟩

/-- The task that the line asks for. Where a slot was left empty its text is empty, though the reader
refuses a line that leaves out a required one. -/
def task (c : CommandLine) : Task :=
  let text := fun slot => (c.value slot).getD ""
  match c.leaf with
  | .backup =>
    .command (.backup ⟨text .backupType, text .destinationType, text .compressionAlgorithm,
      text .encryptionAlgorithm, text .description⟩)
  | .restore => .command (.restore ⟨text .metadataFile, (c.truth .skipUsersAndRoles).getD true⟩)
  | .nodes => .command (.listNodes ((c.truth .verbose).getD false))
  | .backups => .command .listBackups
  | .completions => .completions (Shell.ofWord (text .shell))

/-- All that a line asks for. -/
def invocation (c : CommandLine) : Invocation := ⟨c.flags, c.value .logLevel, c.task⟩

end CommandLine

/-- What some arguments ask for. -/
def invocationOf (arguments : List String) : Except ArgumentError Invocation :=
  (read arguments).map CommandLine.invocation

end BackupConsole.Arguments
