/-
  Catalog entries as messages.

  1. **Program** — `writeCatalogEntry` and `readCatalogEntry`, with `writeBackupRecord` and
     `mergeBackupRecord` for the metadata within and their like for the replicasets within those.

  2. **Specification** — the replicasets of a record are a map: each entry is a small message of a
     name and a replicaset, either of which may be left out, and an entry replaces the one of the
     same name whole. Entries are length-prefixed whatever their keys say.
-/
import BackupConsole.Catalog
import BackupConsole.Wire.Agent

namespace BackupConsole.Wire

open Calendar

/-! ## Replicasets -/

/-- A replicaset as bytes. -/
def writeReplicaset (r : ReplicasetRecord) : List UInt8 :=
  textField 1 r.clusterId ++ textField 2 r.replicasetUuid ++ textField 3 r.replicasetName
    ++ textField 4 r.dumpName ++ textField 5 r.oplogName
    ++ varintField 6 (wordOfBool r.isConfigServer)

/-- Merges a field into a replicaset. -/
def mergeReplicaset (r : ReplicasetRecord) (f : Field) : Option ReplicasetRecord :=
  match f.number with
  | 1 => f.text?.map fun text => { r with clusterId := text }
  | 2 => f.text?.map fun text => { r with replicasetUuid := text }
  | 3 => f.text?.map fun text => { r with replicasetName := text }
  | 4 => f.text?.map fun text => { r with dumpName := text }
  | 5 => f.text?.map fun text => { r with oplogName := text }
  | 6 => f.varint?.map fun n => { r with isConfigServer := boolOfWord n }
  | _ => some r

/-! ## Entries of the map of replicasets -/

/-- A map entry; a default name or replicaset is left out. -/
def writeReplicasetEntry (entry : String × ReplicasetRecord) : List UInt8 :=
  textField 1 entry.1 ++
    if entry.2 = ReplicasetRecord.blank then [] else nestedField 2 (writeReplicaset entry.2)

/-- Merges a field into a map entry. -/
def mergeReplicasetEntry (entry : String × ReplicasetRecord) (f : Field) :
    Option (String × ReplicasetRecord) :=
  match f.number with
  | 1 => f.text?.map fun name => (name, entry.2)
  | 2 =>
    f.delimited?.bind fun bytes =>
      (mergeBytes [] (nestingLimit - 3) mergeReplicaset entry.2 bytes).map fun r => (entry.1, r)
  | _ => some entry

/-- The map entry that some bytes describe. It is read afresh, so nothing of an earlier entry stays. -/
def readReplicasetEntry (bytes : List UInt8) : Option (String × ReplicasetRecord) :=
  mergeBytes [] (nestingLimit - 2) mergeReplicasetEntry ("", ReplicasetRecord.blank) bytes

/-! ## Backup records -/

/-- A backup record as bytes, one field for each of its replicasets. -/
def writeBackupRecord (b : BackupRecord) : List UInt8 :=
  optionalField 1 writeTimestamp b.started ++ optionalField 2 writeTimestamp b.finished
    ++ varintField 3 (wordOfInt32 b.kind) ++ varintField 4 (wordOfInt32 b.destination)
    ++ varintField 5 (wordOfInt32 b.compression) ++ varintField 6 (wordOfInt32 b.cipher)
    ++ textField 7 b.description
    ++ b.replicasets.flatMap fun entry => nestedField 8 (writeReplicasetEntry entry)

/-- Merges a field into a backup record. A map entry replaces the one of its name. -/
def mergeBackupRecord (b : BackupRecord) (f : Field) : Option BackupRecord :=
  match f.number with
  | 1 => (mergeTimestampField (nestingLimit - 2) b.started f).map fun ts => { b with started := ts }
  | 2 => (mergeTimestampField (nestingLimit - 2) b.finished f).map fun ts => { b with finished := ts }
  | 3 => f.varint?.map fun n => { b with kind := int32OfWord n }
  | 4 => f.varint?.map fun n => { b with destination := int32OfWord n }
  | 5 => f.varint?.map fun n => { b with compression := int32OfWord n }
  | 6 => f.varint?.map fun n => { b with cipher := int32OfWord n }
  | 7 => f.text?.map fun text => { b with description := text }
  | 8 =>
    (f.delimited?.bind readReplicasetEntry).map fun entry =>
      { b with replicasets := NameMap.set b.replicasets entry.1 entry.2 }
  | _ => some b

/-! ## Catalog entries -/

/-- A catalog entry as bytes. -/
def writeCatalogEntry (entry : CatalogEntry) : List UInt8 :=
  textField 1 entry.filename ++ optionalField 2 writeBackupRecord entry.metadata

/-- Merges a field into a catalog entry. Metadata is merged into the metadata before it. -/
def mergeCatalogEntry (entry : CatalogEntry) (f : Field) : Option CatalogEntry :=
  match f.number with
  | 1 => f.text?.map fun text => { entry with filename := text }
  | 2 =>
    f.delimited?.bind fun bytes =>
      (mergeBytes [8] (nestingLimit - 1) mergeBackupRecord entry.record bytes).map fun b =>
        { entry with metadata := some b }
  | _ => some entry

/-- Merges bytes into a catalog entry. -/
def readCatalogEntryInto (old : CatalogEntry) (bytes : List UInt8) : Option CatalogEntry :=
  mergeBytes [] nestingLimit mergeCatalogEntry old bytes

/-- The catalog entry that some bytes describe. -/
def readCatalogEntry (bytes : List UInt8) : Option CatalogEntry :=
  readCatalogEntryInto CatalogEntry.blank bytes

end BackupConsole.Wire
