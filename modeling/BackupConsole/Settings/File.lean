/-
  Configuration files on disk.

  1. **Program** — `load` finds the file a path stands for, reads it, and settles what it says.

  2. **Specification** — the regular file at exactly the path counts; where there is none, the path
     with `.yaml` and then with `.yml` behind it. A file that counts and cannot be read is an error: the
     others are not tried for it (`firstFile_cons_of_some`). Messages name the file as seen from the
     working directory.
-/
import BackupConsole.FileTree
import BackupConsole.Log
import BackupConsole.Settings.Document

namespace BackupConsole.Settings

open Text

/-! ## Names of files -/

/-- A part of a path as it is written. -/
def partText : PathPart → String
  | .root => "/"
  | .here => "."
  | .up => ".."
  | .name s => s

/-- The parts that lead to one place from another, when the common parts have been left out. -/
def partsFrom : List PathPart → List PathPart → List PathPart
  | target :: targets, base :: bases =>
    if target = base then partsFrom targets bases
    else (base :: bases).map (fun _ => PathPart.up) ++ target :: targets
  | targets, bases => bases.map (fun _ => PathPart.up) ++ targets

/-- The path of a working directory. -/
def directoryPath (names : List String) : String := "/" ++ String.intercalate "/" names

/-- A path as seen from the working directory. -/
def seenFrom (t : FileTree) (path : String) : String :=
  String.intercalate "/"
    ((partsFrom (pathParts path) (pathParts (directoryPath t.workingDirectory))).map partText)

/-- A path with an extension behind its last name; unchanged if its last part is no name. -/
def withExtension (path extension : String) : String :=
  match (pathParts path).getLast? with
  | some (.name _) =>
    let kept := (pieces path).reverse.dropWhile fun piece => piece == "" || piece == "."
    String.intercalate "/" kept.reverse ++ "." ++ extension
  | _ => path

/-- The paths that may hold the settings, the exact one first. -/
def candidates (t : FileTree) (path : String) : List String :=
  let full := joinPath (directoryPath t.workingDirectory) path
  [full, withExtension full "yaml", withExtension full "yml"]

/-- The first of some paths that leads to a regular file, with what there is to be had of that file. -/
def firstFile (t : FileTree) : List String → Option (String × Except FileError (List UInt8))
  | [] => none
  | path :: rest =>
    match t.content? path with
    | some content => some (path, content)
    | none => firstFile t rest

/-- The first regular file counts, whether it can be read or not. -/
theorem firstFile_cons_of_some {t : FileTree} {path : String} {rest : List String}
    {content : Except FileError (List UInt8)} (h : t.content? path = some content) :
    firstFile t (path :: rest) = some (path, content) := by
  rw [firstFile, h]

/-! ## Loading -/

/-- Why there are no bytes to make settings of. -/
inductive NoBytes where
  /-- There is no regular file, neither at the path nor beside it. -/
  | absent (path : String)
  /-- The file that counts cannot be read; it is not named. -/
  | unread (reason : FileError)
  deriving DecidableEq, Repr

/-- What the loader says of it. A reason of the operating system is passed on as it is. -/
def NoBytes.message : NoBytes → String
  | absent path => "configuration file \"" ++ path ++ "\" not found"
  | unread reason => reason.message

/-- Why a file gives no settings. -/
inductive LoadError where
  | document (reason : DocumentError) (file : String)
  | missing (reason : NoBytes)
  | mismatch (reason : TypeMismatch) (file : String)
  deriving DecidableEq, Repr

/-- What is said of it, with the name of the file where one was read. -/
def LoadError.message : LoadError → String
  | .document reason file => reason.message file ++ " in " ++ file
  | .missing reason => reason.message
  | .mismatch reason file =>
    Settings.mismatch reason.found reason.wanted ++ " for key \x60" ++ reason.setting.key ++ "\x60"
      ++ if reason.located then " in " ++ file else ""

/-- The settings that the bytes of a file make. -/
def settingsOfBytes (file : String) (bytes : List UInt8) : Except LoadError FileSettings :=
  match rootOfText (fileChars bytes) with
  | .error reason => .error (.document reason file)
  | .ok root =>
    match settingsOfRoot root with
    | .error reason => .error (.mismatch reason file)
    | .ok settings => .ok settings

/-- The settings of a regular file; if it cannot be read there are none. -/
def settingsOfContent (file : String) (content : Except FileError (List UInt8)) :
    Except LoadError FileSettings :=
  match content with
  | .ok bytes => settingsOfBytes file bytes
  | .error reason => .error (.missing (.unread reason))

/-- The settings of the file that a path stands for.

The entries of a document have no order for the loader, which keeps them in a hash map. `settingsOfRoot`
takes them in the order in which they are written, which is one that can come about. It makes a difference
only where one key names a setting and another a place inside it; what comes of all the orders in which
entries may be entered is what `load_of_changed_root` says. -/
def load (t : FileTree) (path : String) : Except LoadError FileSettings :=
  match firstFile t (candidates t path) with
  | none => .error (.missing (.absent path))
  | some (file, content) => settingsOfContent (seenFrom t file) content

/-- What a failure to load leaves in the log. -/
def LoadError.event (e : LoadError) : LogEvent :=
  .of .error "Failed to load YAML configuration" [("error", e.message)]

end BackupConsole.Settings
