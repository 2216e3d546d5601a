/-
  The closed vocabularies of a backup: what kind it is, where it goes, how it is compressed and
  enciphered, and what kind of node an agent runs on.

  1. **Program** — each vocabulary is an `inductive` with four readings: its number in a message
     (`number`, `ofNumber`), its long name (`wireName`), the short label that a listing shows
     (`label`), and the word an operator writes for it (`symbols`, `ofSymbol`).

  2. **Specification** — a number outside the vocabulary reads as the vocabulary's first member,
     and so does an unknown word, except for ciphers: an unknown cipher word is refused, because
     dropping it silently would leave a backup unencrypted that was asked to be encrypted.
-/

namespace BackupConsole

/-- The first entry of a table with the given key. -/
def lookupSymbol {α : Type} (table : List (String × α)) (word : String) : Option α :=
  (table.find? fun entry => entry.1 == word).map Prod.snd

/-- Of two words only the second leads away from the first one's meaning. -/
theorem getD_lookupSymbol_pair {α : Type} {usual special : String} (h : usual ≠ special) (a b : α)
    (word : String) :
    (lookupSymbol [(usual, a), (special, b)] word).getD a = if word = special then b else a := by
  by_cases hspecial : word = special
  · subst hspecial
    simp [lookupSymbol, h]
  · by_cases husual : word = usual
    · subst husual
      simp [lookupSymbol, hspecial]
    · simp [lookupSymbol, hspecial, Ne.symm husual, Ne.symm hspecial]

/-! ## Kinds of backup -/

/-- A backup is a logical dump or a copy of the running data files. -/
inductive BackupKind where
  | logical
  | hot
  deriving DecidableEq, Repr

namespace BackupKind

/-- The number of a kind in a message. -/
def number : BackupKind → Int32
  | logical => 0
  | hot => 1

/-- The kind a number stands for; an unknown number means a logical backup. -/
def ofNumber (n : Int32) : BackupKind := if n = 1 then hot else logical

@[simp] theorem ofNumber_number (k : BackupKind) : ofNumber k.number = k := by cases k <;> decide

/-- The long name of a kind, as the log shows it. -/
def wireName : BackupKind → String
  | logical => "BACKUP_TYPE_LOGICAL"
  | hot => "BACKUP_TYPE_HOTBACKUP"

/-- The short name of a kind, as a listing shows it. -/
def label : BackupKind → String
  | logical => "logical"
  | hot => "hotbackup"

/-- The words an operator can write for a kind. -/
def symbols : List (String × BackupKind) := [("logical", logical), ("hot", hot)]

/-- The kind an operator's word names; an unknown or missing word means a logical backup. -/
def ofSymbol (word : String) : BackupKind := (lookupSymbol symbols word).getD logical

/-- Only one word leads away from a logical backup. -/
theorem ofSymbol_eq (word : String) : ofSymbol word = if word = "hot" then hot else logical :=
  getD_lookupSymbol_pair (by decide) logical hot word

end BackupKind

/-! ## Destinations -/

/-- Where the coordinator puts a backup. -/
inductive Destination where
  | file
  | aws
  deriving DecidableEq, Repr

namespace Destination

/-- The number of a destination in a message. -/
def number : Destination → Int32
  | file => 0
  | aws => 1

/-- The destination a number stands for; an unknown number means a file. -/
def ofNumber (n : Int32) : Destination := if n = 1 then aws else file

@[simp] theorem ofNumber_number (d : Destination) : ofNumber d.number = d := by cases d <;> decide

/-- The long name of a destination, as the log shows it. -/
def wireName : Destination → String
  | file => "DESTINATION_TYPE_FILE"
  | aws => "DESTINATION_TYPE_AWS"

/-- The short name of a destination, as a listing shows it. -/
def label : Destination → String
  | file => "file"
  | aws => "aws"

/-- The words an operator can write for a destination. -/
def symbols : List (String × Destination) := [("file", file), ("aws", aws)]

/-- The destination an operator's word names; an unknown or missing word means a file. -/
def ofSymbol (word : String) : Destination := (lookupSymbol symbols word).getD file

/-- Only one word leads away from a file. -/
theorem ofSymbol_eq (word : String) : ofSymbol word = if word = "aws" then aws else file :=
  getD_lookupSymbol_pair (by decide) file aws word

end Destination

/-! ## Compression -/

/-- How the coordinator compresses a backup. -/
inductive Compression where
  | uncompressed
  | gzip
  deriving DecidableEq, Repr

namespace Compression

/-- The number of a compression in a message. -/
def number : Compression → Int32
  | uncompressed => 0
  | gzip => 1

/-- The compression a number stands for; an unknown number means none. -/
def ofNumber (n : Int32) : Compression := if n = 1 then gzip else uncompressed

@[simp] theorem ofNumber_number (c : Compression) : ofNumber c.number = c := by cases c <;> decide

/-- The long name of a compression, as the log shows it. -/
def wireName : Compression → String
  | uncompressed => "COMPRESSION_TYPE_NO_COMPRESSION"
  | gzip => "COMPRESSION_TYPE_GZIP"

/-- The short name of a compression, as a listing shows it. -/
def label : Compression → String
  | uncompressed => "no_compression"
  | gzip => "gzip"

/-- The words an operator can write for a compression. -/
def symbols : List (String × Compression) := [("none", uncompressed), ("gzip", gzip)]

/-- The compression an operator's word names; an unknown or missing word means none. -/
def ofSymbol (word : String) : Compression := (lookupSymbol symbols word).getD uncompressed

/-- Only one word asks for compression. -/
theorem ofSymbol_eq (word : String) :
    ofSymbol word = if word = "gzip" then gzip else uncompressed :=
  getD_lookupSymbol_pair (by decide) uncompressed gzip word

end Compression

/-! ## Ciphers -/

/-- How the coordinator enciphers a backup: so far, not at all. -/
inductive Cipher where
  | clear
  deriving DecidableEq, Repr

namespace Cipher

/-- The number of a cipher in a message. -/
def number : Cipher → Int32
  | clear => 0

/-- The cipher a number stands for: there is no other. -/
def ofNumber (_ : Int32) : Cipher := clear

@[simp] theorem ofNumber_number (c : Cipher) : ofNumber c.number = c := by cases c; rfl

/-- The long name of a cipher. -/
def wireName : Cipher → String
  | clear => "CIPHER_NO_CIPHER"

/-- The short name of a cipher, as a listing shows it. -/
def label : Cipher → String
  | clear => "no_cipher"

/-- The words an operator can write for a cipher. -/
def symbols : List (String × Cipher) := [("none", clear)]

/-- The cipher an operator's word names: a missing word means no cipher, an unknown one is
refused. -/
def ofSymbol? (word : String) : Option Cipher :=
  if word = "" then some clear else lookupSymbol symbols word

/-- Only a missing word and the word `none` name a cipher. -/
theorem ofSymbol?_eq_none_iff {word : String} : ofSymbol? word = none ↔ word ≠ "" ∧ word ≠ "none" := by
  by_cases hempty : word = ""
  · simp [ofSymbol?, hempty]
  · by_cases hnone : word = "none"
    · simp [ofSymbol?, hnone, lookupSymbol, symbols]
    · simp [ofSymbol?, hempty, hnone, lookupSymbol, symbols, Ne.symm hnone]

end Cipher

/-! ## Kinds of node -/

/-- What an agent's node does in its cluster. -/
inductive NodeKind where
  | undefined
  | mongod
  | replicaMember
  | shardServer
  | configServer
  | mongos
  deriving DecidableEq, Repr

namespace NodeKind

/-- The number of a kind of node in a message. -/
def number : NodeKind → Int32
  | undefined => 0
  | mongod => 1
  | replicaMember => 2
  | shardServer => 3
  | configServer => 4
  | mongos => 5

/-- The kind of node a number stands for; an unknown number stands for no kind in particular. -/
def ofNumber (n : Int32) : NodeKind :=
  if n = 1 then mongod
  else if n = 2 then replicaMember
  else if n = 3 then shardServer
  else if n = 4 then configServer
  else if n = 5 then mongos
  else undefined

@[simp] theorem ofNumber_number (k : NodeKind) : ofNumber k.number = k := by cases k <;> decide

/-- The long name of a kind of node. -/
def wireName : NodeKind → String
  | undefined => "NODE_TYPE_UNDEFINED"
  | mongod => "NODE_TYPE_MONGOD"
  | replicaMember => "NODE_TYPE_MONGOD_REPLSET"
  | shardServer => "NODE_TYPE_MONGOD_SHARDSVR"
  | configServer => "NODE_TYPE_MONGOD_CONFIGSVR"
  | mongos => "NODE_TYPE_MONGOS"

/-- The short name of a kind of node, as a listing shows it. -/
def label : NodeKind → String
  | undefined => "undefined"
  | mongod => "mongod"
  | replicaMember => "mongod_replset"
  | shardServer => "mongod_shardsvr"
  | configServer => "mongod_configsvr"
  | mongos => "mongos"

end NodeKind

end BackupConsole
