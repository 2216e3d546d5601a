/-
  What can be given on the command line beside command words.

  1. **Program** — a `Slot` is an option or a place for a plain word. Tables say how an option is
     written, what values a slot takes, and how the help describes it.

  2. **Specification** — an option takes a value, or may have one behind an equals sign (a truth
     value, true if the option stands alone), or takes none. Values of some slots are confined to a
     few words; all others take any text.
-/

namespace BackupConsole.Arguments

/-- Everything that an argument can fill: the options of all levels and the two plain words. -/
inductive Slot where
  | tls
  | caFile
  | serverAddress
  | config
  | logLevel
  | backupType
  | destinationType
  | compressionAlgorithm
  | encryptionAlgorithm
  | description
  | skipUsersAndRoles
  | verbose
  | help
  | version
  /-- The place of a restore's metadata file. -/
  | metadataFile
  /-- The place of the shell that completions are for. -/
  | shell
  deriving DecidableEq, Repr

/-- How a slot is filled. -/
inductive Filling where
  /-- By the next argument, or behind an equals sign. -/
  | value
  /-- By a truth value behind an equals sign, or by standing alone. -/
  | switch
  /-- By standing alone. -/
  | mark
  /-- By a plain word. -/
  | word
  deriving DecidableEq, Repr

namespace Slot

/-- How each slot takes its value. -/
def filling : Slot → Filling
  | tls | skipUsersAndRoles => .switch
  | verbose | help | version => .mark
  | metadataFile | shell => .word
  | _ => .value

/-- The name of an option behind its two dashes; of a place, the name of what belongs there. -/
def name : Slot → String
  | tls => "tls"
  | caFile => "ca-file"
  | serverAddress => "server-addr"
  | config => "config"
  | logLevel => "log-level"
  | backupType => "backup-type"
  | destinationType => "destination-type"
  | compressionAlgorithm => "compression-algorithm"
  | encryptionAlgorithm => "encryption-algorithm"
  | description => "description"
  | skipUsersAndRoles => "skip-users-and-roles"
  | verbose => "verbose"
  | help => "help"
  | version => "version"
  | metadataFile => "METADATA_FILE"
  | shell => "SHELL"

/-- How messages call the value of an option. -/
def valueName : Slot → String
  | tls => "TLS"
  | caFile => "CA_FILE"
  | serverAddress => "SERVER_ADDR"
  | config => "CONFIG"
  | logLevel => "LOG_LEVEL"
  | backupType => "BACKUP_TYPE"
  | destinationType => "DESTINATION_TYPE"
  | compressionAlgorithm => "COMPRESSION_ALGORITHM"
  | encryptionAlgorithm => "ENCRYPTION_ALGORITHM"
  | description => "DESCRIPTION"
  | skipUsersAndRoles => "SKIP_USERS_AND_ROLES"
  | verbose => "VERBOSE"
  | help => "HELP"
  | version => "VERSION"
  | metadataFile => "METADATA_FILE"
  | shell => "SHELL"

/-- The letter that stands for an option behind one dash. -/
def letter : Slot → Option Char
  | help => some 'h'
  | version => some 'V'
  | _ => none

/-- How messages and the help write a slot. -/
def text (s : Slot) : String :=
  match s.filling with
  | .value => "--" ++ s.name ++ " <" ++ s.valueName ++ ">"
  | .switch => "--" ++ s.name ++ "[=<" ++ s.valueName ++ ">]"
  | .mark => "--" ++ s.name
  | .word => "<" ++ s.name ++ ">"

/-- The words for a truth value; no other spelling is read as one. -/
def truthWords : List String := ["true", "false"]

/-- The shells that a script can be asked for. -/
def shellWords : List String := ["bash", "elvish", "fish", "powershell", "zsh"]

/-- The words that a slot is confined to; none means that any text will do. -/
def words : Slot → List String
  | tls | skipUsersAndRoles => truthWords
  | backupType => ["logical", "hot"]
  | destinationType => ["file", "aws"]
  | shell => shellWords
  | _ => []

/-- Whether a value is among the words that a slot is confined to, if it is confined. -/
def accepts (s : Slot) (value : String) : Bool := s.words.isEmpty || s.words.contains value

/-- What the help says of a slot. -/
def about : Slot → String
  | tls => "Connection uses TLS if true, else plain TCP"
  | caFile => "The file containing the CA root cert file"
  | serverAddress => "The server address in the format of host:port [default: 127.0.0.1:10001]"
  | config => "Config file name [default: ~/.pmb-admin.yml]"
  | logLevel => "Log filter used when RUST_LOG is not set"
  | backupType => "Backup type"
  | destinationType => "Backup destination type"
  | compressionAlgorithm => "Compression algorithm used for the backup"
  | encryptionAlgorithm => "Encryption algorithm used for the backup"
  | description => "Backup description"
  | skipUsersAndRoles => "Do not restore users and roles"
  | verbose => "Include extra node info"
  | help => "Print help"
  | version => "Print version"
  | metadataFile => "Metadata file having the backup info for restore"
  | shell => ""

/-- The value a slot has where it is not given, as the help says it. -/
def default? : Slot → Option String
  | skipUsersAndRoles => some "true"
  | _ => none

/-- The options that every level takes. -/
def globals : List Slot := [tls, caFile, serverAddress, config, logLevel]

end Slot

end BackupConsole.Arguments
