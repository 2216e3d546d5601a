/-
  Messages that update messages.

  1. **Specification** — `updatedBy` says for each kind of message what becomes of an old one for which a
     new one comes. There are three rules. A number or a text is replaced, unless the new one is the
     default (`latest`). A message within is updated by the same rules, or left alone where the new one
     is absent (`patched`). An entry of a map replaces the entry of its name whole (`overlaid`).

  2. **Program** — `updates_writeAgent` and its like: read into an old message, what is written for a new
     one updates it so. Each goes through the fields in the order in which they are written.

  3. **Correctness** — `appended_bytes_update`: bytes that can be read, with a written message behind them,
     are read as the one updated by the other.
-/
import BackupConsole.Proofs.FieldRuns
import BackupConsole.Request
import BackupConsole.Wire.Catalog

namespace BackupConsole

open Calendar Wire

/-! ## Maps laid over maps -/

namespace NameMap

variable {α : Type}

/-- A map with the entries of another set in it one by one. -/
def overlaid (old new : NameMap α) : NameMap α :=
  new.foldl (fun map entry => map.set entry.1 entry.2) old

theorem overlaid_cons (old : NameMap α) (entry : String × α) (new : NameMap α) :
    old.overlaid (entry :: new) = (old.set entry.1 entry.2).overlaid new := rfl

/-- A name that a map does not have stands for nothing in it. -/
theorem get?_of_not_mem_names {map : NameMap α} {name : String} (h : name ∉ map.names) :
    map.get? name = none := by
  induction map with
  | nil => rfl
  | cons entry rest ih =>
    obtain ⟨hentry, hrest⟩ : name ≠ entry.1 ∧ name ∉ names rest := by simpa [names] using h
    rw [get?, if_neg (Ne.symm hentry), ih hrest]

/-- Names of the new map lead to what they have there, all others to what they had before. -/
theorem get?_overlaid {new : NameMap α} (h : new.Distinct) (old : NameMap α) (name : String) :
    (old.overlaid new).get? name = (new.get? name).or (old.get? name) := by
  induction new generalizing old with
  | nil => rfl
  | cons entry new ih =>
    obtain ⟨hentry, hnew⟩ := List.nodup_cons.mp h
    rw [overlaid_cons, ih hnew, get?_set, get?]
    by_cases hname : entry.1 = name
    · -- The name comes only once, so what follows leaves it alone.
      have hlater : NameMap.get? new name = none := get?_of_not_mem_names (hname ▸ hentry)
      rw [if_pos hname, if_pos hname, hlater, Option.none_or, Option.some_or]
    · rw [if_neg hname, if_neg hname]

/-- A new name goes to the end. -/
theorem set_of_not_mem_names {map : NameMap α} {name : String} (h : name ∉ map.names) (value : α) :
    map.set name value = map ++ [(name, value)] := by
  induction map with
  | nil => rfl
  | cons entry rest ih =>
    obtain ⟨hentry, hrest⟩ : name ≠ entry.1 ∧ name ∉ names rest := by simpa [names] using h
    rw [set, if_neg (Ne.symm hentry), ih hrest]
    rfl

/-- Laid over a map that has none of its names, a map follows it. -/
theorem overlaid_of_distinct {old new : NameMap α} (h : NameMap.Distinct (old ++ new)) :
    old.overlaid new = old ++ new := by
  induction new generalizing old with
  | nil => exact (List.append_nil old).symm
  | cons entry new ih =>
    have hsplit : old ++ entry :: new = old ++ [entry] ++ new := by simp
    have hfresh : entry.1 ∉ old.names := by
      intro hmem
      rw [Distinct, names, List.map_append] at h
      obtain ⟨-, -, hapart⟩ := List.nodup_append.mp h
      exact hapart entry.1 hmem entry.1 (by simp) rfl
    rw [overlaid_cons, set_of_not_mem_names hfresh, ih (hsplit ▸ h), hsplit]

end NameMap

/-! ## The rules for each kind of message -/

/-- Each number of the newer timestamp counts unless it is the default. -/
def Calendar.Timestamp.updatedBy (old new : Timestamp) : Timestamp where
  seconds := latest 0 old.seconds new.seconds
  nanos := latest 0 old.nanos new.nanos

/-- Each truth value of the newer status counts if it is true. -/
def AgentStatus.updatedBy (old new : AgentStatus) : AgentStatus where
  backupRunning := latest false old.backupRunning new.backupRunning
  restoreRunning := latest false old.restoreRunning new.restoreRunning

/-- Each field of the newer agent counts unless it is the default; what lies deeper is updated in its
turn. -/
def Agent.updatedBy (old new : Agent) : Agent where
  version := latest 0 old.version new.version
  id := latest "" old.id new.id
  nodeKind := latest 0 old.nodeKind new.nodeKind
  nodeName := latest "" old.nodeName new.nodeName
  clusterId := latest "" old.clusterId new.clusterId
  replicasetName := latest "" old.replicasetName new.replicasetName
  replicasetId := latest "" old.replicasetId new.replicasetId
  lastCommandSent := latest 0 old.lastCommandSent new.lastCommandSent
  lastSeen := patched Timestamp.updatedBy ⟨0, 0⟩ old.lastSeen new.lastSeen
  status := patched AgentStatus.updatedBy AgentStatus.blank old.status new.status

/-- Each field of the newer replicaset counts unless it is the default. -/
def ReplicasetRecord.updatedBy (old new : ReplicasetRecord) : ReplicasetRecord where
  clusterId := latest "" old.clusterId new.clusterId
  replicasetUuid := latest "" old.replicasetUuid new.replicasetUuid
  replicasetName := latest "" old.replicasetName new.replicasetName
  dumpName := latest "" old.dumpName new.dumpName
  oplogName := latest "" old.oplogName new.oplogName
  isConfigServer := latest false old.isConfigServer new.isConfigServer

/-- Fields and timestamps as for agents; the replicasets of the newer record are laid over those of the
older. -/
def BackupRecord.updatedBy (old new : BackupRecord) : BackupRecord where
  started := patched Timestamp.updatedBy ⟨0, 0⟩ old.started new.started
  finished := patched Timestamp.updatedBy ⟨0, 0⟩ old.finished new.finished
  kind := latest 0 old.kind new.kind
  destination := latest 0 old.destination new.destination
  compression := latest 0 old.compression new.compression
  cipher := latest 0 old.cipher new.cipher
  description := latest "" old.description new.description
  replicasets := old.replicasets.overlaid new.replicasets

/-- The newer filename counts unless it is empty, and the metadata is updated. -/
def CatalogEntry.updatedBy (old new : CatalogEntry) : CatalogEntry where
  filename := latest "" old.filename new.filename
  metadata := patched BackupRecord.updatedBy BackupRecord.blank old.metadata new.metadata

/-- An entry without metadata stands for a blank record, which changes nothing. -/
theorem replicasets_updatedBy (old new : CatalogEntry) :
    (old.updatedBy new).record.replicasets =
      old.record.replicasets.overlaid new.record.replicasets := by
  cases hmetadata : new.metadata with
  | none => simp [CatalogEntry.updatedBy, CatalogEntry.record, BackupRecord.blank, hmetadata, patched,
      NameMap.overlaid]
  | some record => simp [CatalogEntry.updatedBy, CatalogEntry.record, hmetadata, patched,
      BackupRecord.updatedBy]

/-- Each field of the newer request counts unless it is the default. -/
def BackupRequest.updatedBy (old new : BackupRequest) : BackupRequest where
  kind := latest 0 old.kind new.kind
  destination := latest 0 old.destination new.destination
  compression := latest 0 old.compression new.compression
  cipher := latest 0 old.cipher new.cipher
  description := latest "" old.description new.description

/-- The newer file counts unless it is empty, and the newer truth value if it is true. -/
def RestoreRequest.updatedBy (old new : RestoreRequest) : RestoreRequest where
  metadataFile := latest "" old.metadataFile new.metadataFile
  skipUsersAndRoles := latest false old.skipUsersAndRoles new.skipUsersAndRoles

namespace Wire

/-! ## Written messages update as the rules say

In each of the proofs there is one fact for each field, about any message `m` the field may come to;
they are put together in the order of the writing. -/

/-- Written behind a timestamp, a newer one updates it. -/
theorem updates_writeTimestamp (limit : Nat) (old new : Timestamp) :
    Updates [] limit mergeTimestamp (writeTimestamp new) old (old.updatedBy new) := by
  have hseconds (m) : Updates [] limit mergeTimestamp (varintField 1 (wordOfInt64 new.seconds)) m
      { m with seconds := latest 0 m.seconds new.seconds } :=
    updates_varintField hasWords_int64 (by decide) (by decide) (fun v => { m with seconds := v })
      fun _ => rfl
  have hnanos (m) : Updates [] limit mergeTimestamp (varintField 2 (wordOfInt32 new.nanos)) m
      { m with nanos := latest 0 m.nanos new.nanos } :=
    updates_varintField hasWords_int32 (by decide) (by decide) (fun v => { m with nanos := v })
      fun _ => rfl
  exact (hseconds _).append (hnanos _)

theorem updates_writeAgentStatus (limit : Nat) (old new : AgentStatus) :
    Updates [] limit mergeAgentStatus (writeAgentStatus new) old (old.updatedBy new) := by
  have hbackupRunning (m) : Updates [] limit mergeAgentStatus
      (varintField 1 (wordOfBool new.backupRunning)) m
      { m with backupRunning := latest false m.backupRunning new.backupRunning } :=
    updates_varintField hasWords_bool (by decide) (by decide) (fun v => { m with backupRunning := v })
      fun _ => rfl
  have hrestoreRunning (m) : Updates [] limit mergeAgentStatus
      (varintField 2 (wordOfBool new.restoreRunning)) m
      { m with restoreRunning := latest false m.restoreRunning new.restoreRunning } :=
    updates_varintField hasWords_bool (by decide) (by decide) (fun v => { m with restoreRunning := v })
      fun _ => rfl
  exact (hbackupRunning _).append (hrestoreRunning _)

/-- Written behind an agent, a newer one updates it. -/
theorem updates_writeAgent (old new : Agent) :
    Updates [] nestingLimit mergeAgent (writeAgent new) old (old.updatedBy new) := by
  have hversion (m) : Updates [] nestingLimit mergeAgent (varintField 1 (wordOfInt32 new.version)) m
      { m with version := latest 0 m.version new.version } :=
    updates_varintField hasWords_int32 (by decide) (by decide) (fun v => { m with version := v })
      fun _ => rfl
  have hid (m) : Updates [] nestingLimit mergeAgent (textField 2 new.id) m
      { m with id := latest "" m.id new.id } :=
    updates_textField (by decide) (fun v => { m with id := v }) fun _ => rfl
  have hnodeKind (m) : Updates [] nestingLimit mergeAgent (varintField 3 (wordOfInt32 new.nodeKind)) m
      { m with nodeKind := latest 0 m.nodeKind new.nodeKind } :=
    updates_varintField hasWords_int32 (by decide) (by decide) (fun v => { m with nodeKind := v })
      fun _ => rfl
  have hnodeName (m) : Updates [] nestingLimit mergeAgent (textField 4 new.nodeName) m
      { m with nodeName := latest "" m.nodeName new.nodeName } :=
    updates_textField (by decide) (fun v => { m with nodeName := v }) fun _ => rfl
  have hclusterId (m) : Updates [] nestingLimit mergeAgent (textField 5 new.clusterId) m
      { m with clusterId := latest "" m.clusterId new.clusterId } :=
    updates_textField (by decide) (fun v => { m with clusterId := v }) fun _ => rfl
  have hreplicasetName (m) : Updates [] nestingLimit mergeAgent (textField 6 new.replicasetName) m
      { m with replicasetName := latest "" m.replicasetName new.replicasetName } :=
    updates_textField (by decide) (fun v => { m with replicasetName := v }) fun _ => rfl
  have hreplicasetId (m) : Updates [] nestingLimit mergeAgent (textField 7 new.replicasetId) m
      { m with replicasetId := latest "" m.replicasetId new.replicasetId } :=
    updates_textField (by decide) (fun v => { m with replicasetId := v }) fun _ => rfl
  have hlastCommandSent (m) : Updates [] nestingLimit mergeAgent
      (varintField 8 (wordOfInt64 new.lastCommandSent)) m
      { m with lastCommandSent := latest 0 m.lastCommandSent new.lastCommandSent } :=
    updates_varintField hasWords_int64 (by decide) (by decide) (fun v => { m with lastCommandSent := v })
      fun _ => rfl
  have hlastSeen (m) : Updates [] nestingLimit mergeAgent (optionalField 9 writeTimestamp new.lastSeen) m
      { m with lastSeen := patched Timestamp.updatedBy ⟨0, 0⟩ m.lastSeen new.lastSeen } :=
    updates_optionalField (by decide) (updates_writeTimestamp _) (fun v => { m with lastSeen := v })
      fun _ => Option.map_map ..
  have hstatus (m) : Updates [] nestingLimit mergeAgent (optionalField 10 writeAgentStatus new.status) m
      { m with status := patched AgentStatus.updatedBy AgentStatus.blank m.status new.status } :=
    updates_optionalField (by decide) (updates_writeAgentStatus _) (fun v => { m with status := v })
      fun _ => Option.map_map ..
  -- One field after the other, in the order in which they are written.
  have hnumbered := ((hversion old).append (hid _)).append (hnodeKind _)
  have hnamed := (((hnumbered.append (hnodeName _)).append (hclusterId _)).append
    (hreplicasetName _)).append (hreplicasetId _)
  exact ((hnamed.append (hlastCommandSent _)).append (hlastSeen _)).append (hstatus _)

theorem updates_writeReplicaset (limit : Nat) (old new : ReplicasetRecord) :
    Updates [] limit mergeReplicaset (writeReplicaset new) old (old.updatedBy new) := by
  have hclusterId (m) : Updates [] limit mergeReplicaset (textField 1 new.clusterId) m
      { m with clusterId := latest "" m.clusterId new.clusterId } :=
    updates_textField (by decide) (fun v => { m with clusterId := v }) fun _ => rfl
  have hreplicasetUuid (m) : Updates [] limit mergeReplicaset (textField 2 new.replicasetUuid) m
      { m with replicasetUuid := latest "" m.replicasetUuid new.replicasetUuid } :=
    updates_textField (by decide) (fun v => { m with replicasetUuid := v }) fun _ => rfl
  have hreplicasetName (m) : Updates [] limit mergeReplicaset (textField 3 new.replicasetName) m
      { m with replicasetName := latest "" m.replicasetName new.replicasetName } :=
    updates_textField (by decide) (fun v => { m with replicasetName := v }) fun _ => rfl
  have hdumpName (m) : Updates [] limit mergeReplicaset (textField 4 new.dumpName) m
      { m with dumpName := latest "" m.dumpName new.dumpName } :=
    updates_textField (by decide) (fun v => { m with dumpName := v }) fun _ => rfl
  have hoplogName (m) : Updates [] limit mergeReplicaset (textField 5 new.oplogName) m
      { m with oplogName := latest "" m.oplogName new.oplogName } :=
    updates_textField (by decide) (fun v => { m with oplogName := v }) fun _ => rfl
  have hisConfigServer (m) : Updates [] limit mergeReplicaset
      (varintField 6 (wordOfBool new.isConfigServer)) m
      { m with isConfigServer := latest false m.isConfigServer new.isConfigServer } :=
    updates_varintField hasWords_bool (by decide) (by decide) (fun v => { m with isConfigServer := v })
      fun _ => rfl
  have hnamed := ((hclusterId old).append (hreplicasetUuid _)).append (hreplicasetName _)
  exact ((hnamed.append (hdumpName _)).append (hoplogName _)).append (hisConfigServer _)

/-- Over the default, a replicaset is what counts. -/
theorem updatedBy_blank_replicaset (new : ReplicasetRecord) :
    ReplicasetRecord.blank.updatedBy new = new := by
  simp [ReplicasetRecord.updatedBy, ReplicasetRecord.blank, latest_default]

/-- An entry of the map stands for itself, whatever was read before. -/
theorem readReplicasetEntry_write {entry : String × ReplicasetRecord}
    (h : Fits (writeReplicasetEntry entry)) :
    readReplicasetEntry (writeReplicasetEntry entry) = some entry := by
  obtain ⟨name, record⟩ := entry
  have hname : Updates [] (nestingLimit - 2) mergeReplicasetEntry (textField 1 name)
      ("", ReplicasetRecord.blank) (latest "" "" name, ReplicasetRecord.blank) :=
    updates_textField (by decide) (fun v => (v, ReplicasetRecord.blank)) fun _ => rfl
  have hrecord : Updates [] (nestingLimit - 2) mergeReplicasetEntry
      (if record = ReplicasetRecord.blank then [] else nestedField 2 (writeReplicaset record))
      (latest "" "" name, ReplicasetRecord.blank) (latest "" "" name, record) := by
    -- A blank record is not written at all, and then it stays the blank one that reading begins with.
    split
    · next hblank =>
      rw [hblank]
      exact updates_nil
    · refine updates_nestedField (by decide) fun hfits => ?_
      have hread := updates_writeReplicaset (nestingLimit - 3) ReplicasetRecord.blank record hfits
      rw [updatedBy_blank_replicaset] at hread
      simp [mergeReplicasetEntry, Field.delimited?, hread]
  have hentry := (hname.append hrecord) h
  rwa [latest_default] at hentry

/-- The entries of a map are set one by one. -/
theorem updates_replicasets (old : BackupRecord) (entries : NameMap ReplicasetRecord) :
    Updates [8] (nestingLimit - 1) mergeBackupRecord
      (entries.flatMap fun entry => nestedField 8 (writeReplicasetEntry entry)) old
      { old with replicasets := old.replicasets.overlaid entries } := by
  induction entries generalizing old with
  | nil => exact updates_nil
  | cons entry entries ih =>
    have hentry : Updates [8] (nestingLimit - 1) mergeBackupRecord
        (nestedField 8 (writeReplicasetEntry entry)) old
        { old with replicasets := old.replicasets.set entry.1 entry.2 } := by
      refine updates_nestedField (by decide) fun hfits => ?_
      simp [mergeBackupRecord, Field.delimited?, readReplicasetEntry_write hfits]
    rw [List.flatMap_cons]
    exact hentry.append (ih _)

theorem updates_writeBackupRecord (old new : BackupRecord) :
    Updates [8] (nestingLimit - 1) mergeBackupRecord (writeBackupRecord new) old
      (old.updatedBy new) := by
  have hstarted (m) : Updates [8] (nestingLimit - 1) mergeBackupRecord
      (optionalField 1 writeTimestamp new.started) m
      { m with started := patched Timestamp.updatedBy ⟨0, 0⟩ m.started new.started } :=
    updates_optionalField (by decide) (updates_writeTimestamp _) (fun v => { m with started := v })
      fun _ => Option.map_map ..
  have hfinished (m) : Updates [8] (nestingLimit - 1) mergeBackupRecord
      (optionalField 2 writeTimestamp new.finished) m
      { m with finished := patched Timestamp.updatedBy ⟨0, 0⟩ m.finished new.finished } :=
    updates_optionalField (by decide) (updates_writeTimestamp _) (fun v => { m with finished := v })
      fun _ => Option.map_map ..
  have hkind (m) : Updates [8] (nestingLimit - 1) mergeBackupRecord
      (varintField 3 (wordOfInt32 new.kind)) m
      { m with kind := latest 0 m.kind new.kind } :=
    updates_varintField hasWords_int32 (by decide) (by decide) (fun v => { m with kind := v })
      fun _ => rfl
  have hdestination (m) : Updates [8] (nestingLimit - 1) mergeBackupRecord
      (varintField 4 (wordOfInt32 new.destination)) m
      { m with destination := latest 0 m.destination new.destination } :=
    updates_varintField hasWords_int32 (by decide) (by decide) (fun v => { m with destination := v })
      fun _ => rfl
  have hcompression (m) : Updates [8] (nestingLimit - 1) mergeBackupRecord
      (varintField 5 (wordOfInt32 new.compression)) m
      { m with compression := latest 0 m.compression new.compression } :=
    updates_varintField hasWords_int32 (by decide) (by decide) (fun v => { m with compression := v })
      fun _ => rfl
  have hcipher (m) : Updates [8] (nestingLimit - 1) mergeBackupRecord
      (varintField 6 (wordOfInt32 new.cipher)) m
      { m with cipher := latest 0 m.cipher new.cipher } :=
    updates_varintField hasWords_int32 (by decide) (by decide) (fun v => { m with cipher := v })
      fun _ => rfl
  have hdescription (m) : Updates [8] (nestingLimit - 1) mergeBackupRecord
      (textField 7 new.description) m
      { m with description := latest "" m.description new.description } :=
    updates_textField (by decide) (fun v => { m with description := v }) fun _ => rfl
  -- One field after the other, and then the entries of the map.
  have htimed := ((hstarted old).append (hfinished _)).append (hkind _)
  have hnumbered := ((htimed.append (hdestination _)).append (hcompression _)).append (hcipher _)
  exact (hnumbered.append (hdescription _)).append (updates_replicasets _ _)

theorem updates_writeCatalogEntry (old new : CatalogEntry) :
    Updates [] nestingLimit mergeCatalogEntry (writeCatalogEntry new) old (old.updatedBy new) := by
  have hfilename (m) : Updates [] nestingLimit mergeCatalogEntry (textField 1 new.filename) m
      { m with filename := latest "" m.filename new.filename } :=
    updates_textField (by decide) (fun v => { m with filename := v }) fun _ => rfl
  have hmetadata (m) : Updates [] nestingLimit mergeCatalogEntry
      (optionalField 2 writeBackupRecord new.metadata) m
      { m with metadata := patched BackupRecord.updatedBy BackupRecord.blank m.metadata new.metadata } :=
    updates_optionalField (by decide) updates_writeBackupRecord (fun v => { m with metadata := v })
      fun _ => rfl
  exact (hfilename _).append (hmetadata _)

theorem updates_writeBackupRequest (old new : BackupRequest) :
    Updates [] nestingLimit BackupRequest.merge new.write old (old.updatedBy new) := by
  have hkind (m) : Updates [] nestingLimit BackupRequest.merge (varintField 1 (wordOfInt32 new.kind)) m
      { m with kind := latest 0 m.kind new.kind } :=
    updates_varintField hasWords_int32 (by decide) (by decide) (fun v => { m with kind := v })
      fun _ => rfl
  have hdestination (m) : Updates [] nestingLimit BackupRequest.merge
      (varintField 2 (wordOfInt32 new.destination)) m
      { m with destination := latest 0 m.destination new.destination } :=
    updates_varintField hasWords_int32 (by decide) (by decide) (fun v => { m with destination := v })
      fun _ => rfl
  have hcompression (m) : Updates [] nestingLimit BackupRequest.merge
      (varintField 3 (wordOfInt32 new.compression)) m
      { m with compression := latest 0 m.compression new.compression } :=
    updates_varintField hasWords_int32 (by decide) (by decide) (fun v => { m with compression := v })
      fun _ => rfl
  have hcipher (m) : Updates [] nestingLimit BackupRequest.merge
      (varintField 4 (wordOfInt32 new.cipher)) m
      { m with cipher := latest 0 m.cipher new.cipher } :=
    updates_varintField hasWords_int32 (by decide) (by decide) (fun v => { m with cipher := v })
      fun _ => rfl
  have hdescription (m) : Updates [] nestingLimit BackupRequest.merge (textField 5 new.description) m
      { m with description := latest "" m.description new.description } :=
    updates_textField (by decide) (fun v => { m with description := v }) fun _ => rfl
  have hnumbered := (((hkind old).append (hdestination _)).append (hcompression _)).append (hcipher _)
  exact hnumbered.append (hdescription _)

theorem updates_writeRestoreRequest (old new : RestoreRequest) :
    Updates [] nestingLimit RestoreRequest.merge new.write old (old.updatedBy new) := by
  have hmetadataFile (m) : Updates [] nestingLimit RestoreRequest.merge (textField 1 new.metadataFile) m
      { m with metadataFile := latest "" m.metadataFile new.metadataFile } :=
    updates_textField (by decide) (fun v => { m with metadataFile := v }) fun _ => rfl
  have hskipUsersAndRoles (m) : Updates [] nestingLimit RestoreRequest.merge
      (varintField 2 (wordOfBool new.skipUsersAndRoles)) m
      { m with skipUsersAndRoles := latest false m.skipUsersAndRoles new.skipUsersAndRoles } :=
    updates_varintField hasWords_bool (by decide) (by decide) (fun v => { m with skipUsersAndRoles := v })
      fun _ => rfl
  exact (hmetadataFile _).append (hskipUsersAndRoles _)

/-! ## Bytes behind bytes -/

/-- **Bytes behind bytes.** Some bytes are read as a message, by whatever program they were written. With
a message behind them that is written here they are read as the first updated by the second. In the
record of a backup the names of the second lead to what they have there, and all other names to what
they had. -/
theorem appended_bytes_update (bytes : List UInt8) :
    (∀ old new : Agent, readAgent bytes = some old → Fits (writeAgent new) →
      readAgent (bytes ++ writeAgent new) = some (old.updatedBy new)) ∧
    (∀ old new : CatalogEntry, readCatalogEntry bytes = some old → Fits (writeCatalogEntry new) →
      readCatalogEntry (bytes ++ writeCatalogEntry new) = some (old.updatedBy new) ∧
      (new.record.replicasets.Distinct → ∀ name,
        (old.updatedBy new).record.replicasets.get? name =
          (new.record.replicasets.get? name).or (old.record.replicasets.get? name))) := by
  refine ⟨fun old new hold hfits => ?_, fun old new hold hfits => ⟨?_, fun hdistinct name => ?_⟩⟩
  · exact mergeBytes_append hold (updates_writeAgent old new hfits)
  · exact mergeBytes_append hold (updates_writeCatalogEntry old new hfits)
  · rw [← NameMap.get?_overlaid hdistinct, replicasets_updatedBy]

/-- An entry with an unknown group before its metadata and a number that is longer than it has to be. -/
def paddedEntry : List UInt8 :=
  [0x1b, 0x1c, 0x12, 0x10, 0x18, 0x81, 0x00, 0x42, 0x0b, 0x0a, 0x01, 0x61, 0x12, 0x06, 0x0a, 0x01, 0x78,
    0x12, 0x01, 0x79]

/-- A record of a backup of a single replicaset. -/
def recordOf (kind : Int32) (name : String) (replicaset : ReplicasetRecord) : BackupRecord :=
  { BackupRecord.blank with kind := kind, replicasets := [(name, replicaset)] }

/-- The kind of the backup stays, but nothing is left of what the replicaset of the same name had. -/
theorem padded_entry_updated :
    readCatalogEntry paddedEntry = some ⟨"", some (recordOf 1 "a" ⟨"x", "y", "", "", "", false⟩)⟩ ∧
    Fits (writeCatalogEntry ⟨"b.json", some (recordOf 0 "a" ⟨"", "z", "", "", "", true⟩)⟩) ∧
    readCatalogEntry
        (paddedEntry ++ writeCatalogEntry ⟨"b.json", some (recordOf 0 "a" ⟨"", "z", "", "", "", true⟩)⟩) =
      some ⟨"b.json", some (recordOf 1 "a" ⟨"", "z", "", "", "", true⟩)⟩ := by
  have hread : readCatalogEntry paddedEntry =
      some ⟨"", some (recordOf 1 "a" ⟨"x", "y", "", "", "", false⟩)⟩ := by rfl
  have hfits : Fits (writeCatalogEntry
      ⟨"b.json", some (recordOf 0 "a" ⟨"", "z", "", "", "", true⟩)⟩) := by decide
  obtain ⟨hupdated, -⟩ := (appended_bytes_update paddedEntry).2 _ _ hread hfits
  refine ⟨hread, hfits, hupdated.trans ?_⟩
  rfl

end Wire

end BackupConsole
