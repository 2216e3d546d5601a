/-
  What the document of a configuration file settles.

  1. **Program** — `rootOfText` reads a text as YAML and gives its root; `settingsOfRoot` gathers what the
     root says about the three settings, and coerces each to its type.

  2. **Specification** — there is at most one document and its root is a mapping; none at all settles
     nothing. Truth values come from numbers, where only zero is false, and from eight words in any
     case; texts come from truth values and numbers. A null leaves a setting open. Keys of the root
     are paths, so `tls.x` makes a table of `tls` and `tls[0]` a list. Other settings are passed over,
     but everything in the document has to be loadable: all keys are scalars with a meaning, and no
     number is infinite by its spelling.
-/
import BackupConsole.Settings.KeyPath
import BackupConsole.Text.LowerCase
import BackupConsole.Text.Quoted
import BackupConsole.Text.Utf8
import BackupConsole.Yaml.Node

namespace BackupConsole.Settings

open Text
open Yaml (Node SyntaxError)

/-! ## What is found where something else is wanted -/

/-- What a value turns out to be, as far as an error message tells. -/
inductive Found where
  | nothing
  | bool (b : Bool)
  | int (n : Int)
  | real (number : Binary64)
  | text (s : String)
  | list
  | table
  deriving DecidableEq, Repr

/-- A value as an error message names it. -/
def Found.description : Found → String
  | .nothing => "unit value"
  | .bool b => "boolean \x60" ++ boolText b ++ "\x60"
  | .int n => "64-bit integer \x60" ++ intText n ++ "\x60"
  | .real number => "floating point \x60" ++ number.text ++ "\x60"
  | .text s => "string " ++ quote s
  | .list => "sequence"
  | .table => "map"

/-- What a value should have been. -/
inductive Wanted where
  | bool
  | text
  | table
  deriving DecidableEq, Repr

/-- A type as an error message names it. -/
def Wanted.description : Wanted → String
  | .bool => "a boolean"
  | .text => "a string"
  | .table => "a map"

/-- What a mismatch reads. -/
def mismatch (found : Found) (wanted : Wanted) : String :=
  "invalid type: " ++ found.description ++ ", expected " ++ wanted.description

/-! ## Documents that cannot be loaded -/

/-- Why a document cannot be loaded. -/
inductive DocumentError where
  | malformed (reason : SyntaxError)
  | documents (count : Nat)
  | key (description : String)
  | number (spelling : String)
  | root (found : Found)
  deriving DecidableEq, Repr

/-- The reason alone; the file's name follows it where a message is made. -/
def DocumentError.message (file : String) : DocumentError → String
  | .malformed reason => reason.message
  | .documents count => "only 1 YAML document is supported, got " ++ natText count
  | .key description =>
    "Cannot parse " ++ description ++ " because it is an unsupported hash key type"
  | .number spelling => "failed to parse YAML float " ++ spelling
  | .root found => mismatch found .table ++ " in " ++ file

/-- The number a real scalar spells, if it is spelled by digits. -/
def numberOf (spelling : String) : Option Binary64 :=
  (Fraction.read spelling.toList).map Binary64.ofDecimal

/-- The text of a key. -/
def keyText : Node → Except DocumentError String
  | .text s => .ok s
  | .int n => .ok (intText n)
  | .bool b => .ok (boolText b)
  | .real spelling => .ok spelling
  | .null => .error (.key "Null")
  | .void => .error (.key "BadValue")
  | .list _ => .error (.key "Array")
  | .map _ => .error (.key "Hash")

mutual

/-- Whether a node and all within it can be loaded. -/
def check : Node → Except DocumentError Unit
  | .real spelling =>
    match numberOf spelling with
    | some _ => .ok ()
    | none => .error (.number spelling)
  | .list items => checkItems items
  | .map entries => checkEntries entries
  | _ => .ok ()

/-- Whether all items of a list can be loaded. -/
def checkItems : List Node → Except DocumentError Unit
  | [] => .ok ()
  | n :: rest =>
    match check n with
    | .ok _ => checkItems rest
    | .error e => .error e

/-- Whether all entries of a mapping can be loaded, their keys included. -/
def checkEntries : List (Node × Node) → Except DocumentError Unit
  | [] => .ok ()
  | (key, value) :: rest =>
    match keyText key with
    | .error e => .error e
    | .ok _ =>
      match check value with
      | .ok _ => checkEntries rest
      | .error e => .error e

end

/-! ## Settings -/

/-- The three settings a file can make. -/
inductive Setting where
  | tls
  | caFile
  | serverAddress
  deriving DecidableEq, Repr

/-- All settings there are. -/
def Setting.all : List Setting := [tls, caFile, serverAddress]

/-- The key of a setting in a file. -/
def Setting.key : Setting → String
  | tls => "tls"
  | caFile => "ca_file"
  | serverAddress => "server_addr"

/-- The setting that a key makes. Other keys make none. -/
def Setting.ofKey? (key : String) : Option Setting := Setting.all.find? fun s => s.key == key

@[simp] theorem Setting.ofKey?_key (s : Setting) : Setting.ofKey? s.key = some s := by
  cases s <;> decide

/-- What the root says about a setting. A list that the file spells out has a place in it, one that
comes of a key such as `tls[0]` has none. -/
inductive Held where
  | nothing
  | bool (b : Bool)
  | int (n : Int)
  | real (number : Binary64)
  | text (s : String)
  | list (spelledOut : Bool)
  | table
  deriving DecidableEq, Repr

/-- What an entry of the root says, by the node under its key. -/
def Held.ofNode : Node → Held
  | .null => .nothing
  | .void => .nothing
  | .bool b => .bool b
  | .int n => .int n
  | .real spelling =>
    match numberOf spelling with
    | some number => .real number
    | none => .nothing
  | .text s => .text s
  | .list _ => .list true
  | .map _ => .table

/-- What the root says about each setting. -/
abbrev SettingTable := Setting → Held

/-- One entry of the root, by its key's text. -/
def SettingTable.enter (t : SettingTable) (key : String) (value : Node) : SettingTable :=
  let path := KeyPath.ofKey key
  match Setting.ofKey? path.setting with
  | none => t
  | some s =>
    let held : Held :=
      match path.step with
      | .whole => Held.ofNode value
      | .field => .table
      | .item =>
        match t s with
        | .list spelledOut => .list spelledOut
        | _ => .list false
    fun other => if other = s then held else t other

/-- The entries of the root one after the other. A key without a text makes no setting here, but `check`
has refused the document by then. -/
def SettingTable.enterAll (t : SettingTable) : List (Node × Node) → SettingTable
  | [] => t
  | (key, value) :: rest =>
    match keyText key with
    | .ok key => (t.enter key value).enterAll rest
    | .error _ => t.enterAll rest

/-! ## Coercion -/

/-- A setting of the wrong type. -/
structure TypeMismatch where
  setting : Setting
  found : Found
  wanted : Wanted
  /-- Whether the value has a place in the file. -/
  located : Bool
  deriving DecidableEq, Repr

/-- The words that mean true, in any case. -/
def trueWords : List String := ["1", "true", "on", "yes"]

/-- The words that mean false, in any case. -/
def falseWords : List String := ["0", "false", "off", "no"]

/-- A truth value from what is held; nothing stays nothing. -/
def Held.toBool (setting : Setting) : Held → Except TypeMismatch (Option Bool)
  | .nothing => .ok none
  | .bool b => .ok (some b)
  | .int n => .ok (some (decide (n ≠ 0)))
  | .real number => .ok (some (!number.isZero))
  | .text s =>
    let word := lowerCase s
    if trueWords.contains word then .ok (some true)
    else if falseWords.contains word then .ok (some false)
    else .error ⟨setting, .text word, .bool, true⟩
  | .list spelledOut => .error ⟨setting, .list, .bool, spelledOut⟩
  | .table => .error ⟨setting, .table, .bool, false⟩

/-- A text from what is held; nothing stays nothing. -/
def Held.toText (setting : Setting) : Held → Except TypeMismatch (Option String)
  | .nothing => .ok none
  | .bool b => .ok (some (boolText b))
  | .int n => .ok (some (intText n))
  | .real number => .ok (some number.text)
  | .text s => .ok (some s)
  | .list spelledOut => .error ⟨setting, .list, .text, spelledOut⟩
  | .table => .error ⟨setting, .table, .text, false⟩

/-- The settings of a file, each only if the file makes it. -/
structure FileSettings where
  tls : Option Bool
  caFile : Option String
  serverAddress : Option String
  deriving DecidableEq, Repr, Inhabited

namespace FileSettings

/-- No setting at all. -/
def none : FileSettings := ⟨Option.none, Option.none, Option.none⟩

/-- The three settings coerced to their types; the first that cannot be is reported. -/
def ofTable (t : SettingTable) : Except TypeMismatch FileSettings :=
  match (t .tls).toBool .tls with
  | .error e => .error e
  | .ok tls =>
    match (t .caFile).toText .caFile with
    | .error e => .error e
    | .ok caFile =>
      match (t .serverAddress).toText .serverAddress with
      | .error e => .error e
      | .ok serverAddress => .ok ⟨tls, caFile, serverAddress⟩

end FileSettings

/-! ## From the text to the settings -/

/-- The root entries of the only document of a text. -/
def rootOf (documents : List Node) : Except DocumentError (List (Node × Node)) :=
  match documents with
  | [] => .ok []
  | [document] =>
    match check document with
    | .error e => .error e
    | .ok _ =>
      match document with
      | .map entries => .ok entries
      | .null => .error (.root .nothing)
      | .void => .error (.root .nothing)
      | .bool b => .error (.root (.bool b))
      | .int n => .error (.root (.int n))
      | .real spelling =>
        match numberOf spelling with
        | some number => .error (.root (.real number))
        | none => .error (.number spelling)
      | .text s => .error (.root (.text s))
      | .list _ => .error (.root .list)
  | documents => .error (.documents documents.length)

/-- The root entries of a text. -/
def rootOfText (text : List Char) : Except DocumentError (List (Node × Node)) :=
  match Node.ofText text with
  | .error reason => .error (.malformed reason)
  | .ok documents => rootOf documents

/-- What the entries of a root settle. -/
def settingsOfRoot (root : List (Node × Node)) : Except TypeMismatch FileSettings :=
  FileSettings.ofTable (SettingTable.enterAll (fun _ => .nothing) root)

end BackupConsole.Settings
