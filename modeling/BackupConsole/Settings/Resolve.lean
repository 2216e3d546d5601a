/-
  Settings of a run: flags over the configuration file over what is built in.

  1. **Program** — `resolve` finds and loads the configuration file; `merge` checks the command and
     puts the layers on top of one another.

  2. **Specification** — the first layer that makes a setting counts; an empty address or path makes
     none, an explicit `false` does. An empty path to the configuration file means that there is none,
     a missing file is refused only where the operator named it. A command that could not be carried
     out is refused before anything touches the network.
-/
import BackupConsole.Request
import BackupConsole.Settings.File
import BackupConsole.Text.Blank

namespace BackupConsole.Settings

open Text

/-- Where the coordinator is asked for if nobody says where. -/
def defaultServerAddress : String := "127.0.0.1:10001"

/-- The configuration file where the operator names none. -/
def defaultConfigFile : String := "~/.pmb-admin.yml"

/-- The flags that concern settings, as the operator gave them. -/
structure Flags where
  tls : Option Bool
  caFile : Option String
  serverAddress : Option String
  configFile : Option String
  deriving DecidableEq, Repr, Inhabited

/-- No flag at all. -/
def Flags.none : Flags := ⟨Option.none, Option.none, Option.none, Option.none⟩

/-- All that a run needs to know. -/
structure Resolved where
  useTls : Bool
  caFile : Option String
  serverAddress : String
  configFile : Option String
  command : Command
  deriving DecidableEq, Repr

/-- Why settings cannot be had. -/
inductive ConfigError where
  | load (path : String) (reason : LoadError)
  | notFound (path : String)
  | homeUnknown (path : String)
  | missingDescription
  | missingMetadataFile
  | unsupportedCipher (reason : UnsupportedCipher)
  deriving DecidableEq, Repr

namespace ConfigError

/-- The text in which the user is told why settings cannot be had. -/
def message : ConfigError → String
  | load path reason =>
    "cannot load configuration from file " ++ path ++ ": " ++ reason.message
  | notFound path => "config file " ++ path ++ " does not exist"
  | homeUnknown path => "cannot expand \x60~\x60 in " ++ path ++ ": home directory is unknown"
  | missingDescription => "a backup description is required (--description)"
  | missingMetadataFile => "a metadata file is required to run a restore"
  | unsupportedCipher reason =>
    "encryption algorithm " ++ quote reason.word ++ " is not yet supported"

/-- What a failure leaves in the log. -/
def events : ConfigError → List LogEvent
  | load _ reason => [reason.event]
  | _ => []

end ConfigError

/-! ## The home directory -/

/-- A path with its leading `~/` replaced by the home directory. -/
def expandHome (home : Option String) (path : String) : Except ConfigError String :=
  match path.toList with
  | '~' :: '/' :: rest =>
    match home with
    | some home => .ok (joinPath home (String.ofList rest))
    | none => .error (.homeUnknown path)
  | _ => .ok path

/-! ## Layers -/

/-- A text that is not empty. -/
def nonEmpty (text : Option String) : Option String := text.filter fun s => !s.isEmpty

/-- Refuses a command that could not be carried out. -/
def validate : Command → Except ConfigError Unit
  | .backup options =>
    if isBlank options.description then .error .missingDescription
    else
      match cipherOfSymbol options.cipher with
      | .ok _ => .ok ()
      | .error _ => .error (.unsupportedCipher ⟨options.cipher⟩)
  | .restore options => if isBlank options.metadataFile then .error .missingMetadataFile else .ok ()
  | .listNodes _ => .ok ()
  | .listBackups => .ok ()

/-- The layers on top of one another; the configuration file stays unnamed. -/
def merge (flags : Flags) (file : FileSettings) (command : Command) : Except ConfigError Resolved :=
  match validate command with
  | .error e => .error e
  | .ok _ =>
    .ok {
      useTls := (flags.tls.or file.tls).getD false
      caFile := (nonEmpty flags.caFile).or (nonEmpty file.caFile)
      serverAddress :=
        ((nonEmpty flags.serverAddress).or (nonEmpty file.serverAddress)).getD defaultServerAddress
      configFile := none
      command := command }

/-! ## Resolving -/

/-- What a run finds around it. -/
structure Surroundings where
  home : Option String
  files : FileTree
  deriving DecidableEq, Repr

/-- The configuration file that counts, with its settings, if there is one. -/
def fileLayer (s : Surroundings) (named : Option String) (default : String) :
    Except ConfigError (Option (String × FileSettings)) :=
  let raw := named.getD default
  if raw = "" then .ok none
  else
    match expandHome s.home raw with
    | .error e => .error e
    | .ok path =>
      if s.files.leadsTo path then
        match load s.files path with
        | .ok settings => .ok (some (path, settings))
        | .error reason => .error (.load path reason)
      else if named.isSome then .error (.notFound path)
      else .ok none

/-- The settings of a run, given where the configuration file is if the operator names none. -/
def resolveWith (s : Surroundings) (default : String) (flags : Flags) (command : Command) :
    Except ConfigError Resolved :=
  match fileLayer s flags.configFile default with
  | .error e => .error e
  | .ok none => merge flags FileSettings.none command
  | .ok (some (path, settings)) =>
    match merge flags settings command with
    | .error e => .error e
    | .ok resolved => .ok { resolved with configFile := some path }

/-- The settings of a run, from the flags and the configuration file. -/
def resolve (s : Surroundings) (flags : Flags) (command : Command) : Except ConfigError Resolved :=
  resolveWith s defaultConfigFile flags command

end BackupConsole.Settings
