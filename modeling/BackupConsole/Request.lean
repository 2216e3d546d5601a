/-
  Requests: the messages that start a backup or a restore.

  1. **Program** — `BackupRequest.ofOptions` looks the operator's words up, `RestoreRequest.ofOptions`
     copies its options over; `write` and `read` put requests into bytes and back.

  2. **Specification** — a backup's description and a restore's file go into the request verbatim. An
     unknown cipher is the only reason why a request cannot be built.
-/
import BackupConsole.Command
import BackupConsole.Symbols
import BackupConsole.Text.Quoted
import BackupConsole.Wire.Agent

namespace BackupConsole

open Text Wire

/-- A cipher word that names no cipher. -/
structure UnsupportedCipher where
  word : String
  deriving DecidableEq, Repr

/-- The text in which the user is told that a cipher word names nothing. -/
def UnsupportedCipher.message (e : UnsupportedCipher) : String :=
  "encryption algorithm " ++ quote e.word ++ " is not yet supported"

/-- The cipher an operator's word names. -/
def cipherOfSymbol (word : String) : Except UnsupportedCipher Cipher :=
  match Cipher.ofSymbol? word with
  | some cipher => .ok cipher
  | none => .error ⟨word⟩

/-! ## Requests for a backup -/

/-- A request to start a backup; the vocabularies by their numbers. -/
structure BackupRequest where
  kind : Int32
  destination : Int32
  compression : Int32
  cipher : Int32
  description : String
  deriving DecidableEq, Repr, Inhabited

namespace BackupRequest

/-- The request that an operator's words make, unless the cipher word names nothing. -/
def ofOptions (options : BackupOptions) : Except UnsupportedCipher BackupRequest :=
  match cipherOfSymbol options.cipher with
  | .ok cipher =>
    .ok {
      kind := (BackupKind.ofSymbol options.kind).number
      destination := (Destination.ofSymbol options.destination).number
      compression := (Compression.ofSymbol options.compression).number
      cipher := cipher.number
      description := options.description }
  | .error e => .error e

/-- A request as bytes. A number that is zero and an empty description are left out. -/
def write (r : BackupRequest) : List UInt8 :=
  varintField 1 (wordOfInt32 r.kind) ++ varintField 2 (wordOfInt32 r.destination)
    ++ varintField 3 (wordOfInt32 r.compression) ++ varintField 4 (wordOfInt32 r.cipher)
    ++ textField 5 r.description

/-- Merges a field into a request. A field of an unknown number changes nothing. -/
def merge (r : BackupRequest) (f : Field) : Option BackupRequest :=
  match f.number with
  | 1 => f.varint?.map fun n => { r with kind := int32OfWord n }
  | 2 => f.varint?.map fun n => { r with destination := int32OfWord n }
  | 3 => f.varint?.map fun n => { r with compression := int32OfWord n }
  | 4 => f.varint?.map fun n => { r with cipher := int32OfWord n }
  | 5 => f.text?.map fun text => { r with description := text }
  | _ => some r

/-- The request that some bytes describe. -/
def read (bytes : List UInt8) : Option BackupRequest :=
  mergeBytes [] nestingLimit merge ⟨0, 0, 0, 0, ""⟩ bytes

end BackupRequest

/-! ## Requests for a restore -/

/-- A request to start a restore. -/
structure RestoreRequest where
  metadataFile : String
  skipUsersAndRoles : Bool
  deriving DecidableEq, Repr, Inhabited

namespace RestoreRequest

/-- The request that a restore's options make; there is nothing to look up in them. -/
def ofOptions (options : RestoreOptions) : RestoreRequest :=
  ⟨options.metadataFile, options.skipUsersAndRoles⟩

/-- A request as bytes. An empty file name and a false truth value are left out. -/
def write (r : RestoreRequest) : List UInt8 :=
  textField 1 r.metadataFile ++ varintField 2 (wordOfBool r.skipUsersAndRoles)

/-- Merges a field into a request. A field of an unknown number changes nothing. -/
def merge (r : RestoreRequest) (f : Field) : Option RestoreRequest :=
  match f.number with
  | 1 => f.text?.map fun text => { r with metadataFile := text }
  | 2 => f.varint?.map fun n => { r with skipUsersAndRoles := boolOfWord n }
  | _ => some r

/-- The request that some bytes describe. -/
def read (bytes : List UInt8) : Option RestoreRequest :=
  mergeBytes [] nestingLimit merge ⟨"", false⟩ bytes

end RestoreRequest

end BackupConsole
