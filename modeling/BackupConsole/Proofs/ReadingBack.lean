/-
  Messages had again from what is written for them.

  1. **Specification** — `ReadsBack`: messages of a kind are read from what is written for them, and so no
     two of them are written alike.

  2. **Updates of nothing** — a message is read by updating a blank one. `blank_updatedBy` and its like:
     what comes of that is the new message itself. It has to be proved for the values that are left out
     when they are the default, and for the entries of a map.

  3. **Correctness** — `written_messages_read_back`.
-/
import BackupConsole.Proofs.MessageUpdates

namespace BackupConsole

open Calendar Wire

/-! ## Updates of blank messages -/

variable {β : Type}

/-- What was absent is what is there now, if over the default an update is what it brings. -/
theorem patched_none {update : β → β → β} {blank : β} (h : ∀ new, update blank new = new)
    (new : Option β) : patched update blank none new = new := by
  cases new with
  | none => rfl
  | some new => exact congrArg some (h new)

/-- Over the default, a timestamp is what counts. -/
theorem Calendar.Timestamp.blank_updatedBy (new : Timestamp) : Timestamp.updatedBy ⟨0, 0⟩ new = new := by
  simp [Timestamp.updatedBy, latest_default]

theorem AgentStatus.blank_updatedBy (new : AgentStatus) : AgentStatus.blank.updatedBy new = new := by
  simp [AgentStatus.updatedBy, AgentStatus.blank, latest_default]

theorem Agent.blank_updatedBy (new : Agent) : Agent.blank.updatedBy new = new := by
  simp [Agent.updatedBy, Agent.blank, latest_default, patched_none Timestamp.blank_updatedBy,
    patched_none AgentStatus.blank_updatedBy]

/-- The entries of the map come in their order, if their names are distinct. -/
theorem BackupRecord.blank_updatedBy {new : BackupRecord} (h : new.replicasets.Distinct) :
    BackupRecord.blank.updatedBy new = new := by
  have hentries : NameMap.overlaid [] new.replicasets = new.replicasets :=
    NameMap.overlaid_of_distinct h
  simp [BackupRecord.updatedBy, BackupRecord.blank, latest_default,
    patched_none Timestamp.blank_updatedBy, hentries]

theorem CatalogEntry.blank_updatedBy {new : CatalogEntry} (h : new.record.replicasets.Distinct) :
    CatalogEntry.blank.updatedBy new = new := by
  obtain ⟨filename, metadata⟩ := new
  cases metadata with
  | none => simp [CatalogEntry.updatedBy, CatalogEntry.blank, latest_default, patched]
  | some record =>
    have hrecord : BackupRecord.blank.updatedBy record = record := BackupRecord.blank_updatedBy h
    simp [CatalogEntry.updatedBy, CatalogEntry.blank, latest_default, patched, hrecord]

theorem BackupRequest.blank_updatedBy (new : BackupRequest) :
    BackupRequest.updatedBy ⟨0, 0, 0, 0, ""⟩ new = new := by
  simp [BackupRequest.updatedBy, latest_default]

theorem RestoreRequest.blank_updatedBy (new : RestoreRequest) :
    RestoreRequest.updatedBy ⟨"", false⟩ new = new := by
  simp [RestoreRequest.updatedBy, latest_default]

namespace Wire

/-! ## Reading back -/

/-- Messages of a kind are had again from what is written for them, and so no two are written alike. -/
structure ReadsBack {α : Type} (write : α → List UInt8) (read : List UInt8 → Option α)
    (Allowed : α → Prop) : Prop where
  read_write : ∀ message, Allowed message → Fits (write message) →
    read (write message) = some message
  apart : ∀ message other, Allowed message → Allowed other → Fits (write message) →
    message ≠ other → write message ≠ write other

/-- Where messages are read back, no two of them are written alike. -/
theorem readsBack_of_read_write {α : Type} {write : α → List UInt8} {read : List UInt8 → Option α}
    {Allowed : α → Prop}
    (h : ∀ message, Allowed message → Fits (write message) → read (write message) = some message) :
    ReadsBack write read Allowed := by
  refine ⟨h, fun message other hm ho hfits hne heq => hne ?_⟩
  have hmessage : read (write message) = some message := h message hm hfits
  have hother : read (write other) = some other := h other ho (heq ▸ hfits)
  rw [heq, hother] at hmessage
  exact (Option.some.inj hmessage).symm

/-- Even an empty message within takes bytes. -/
theorem length_nestedField_pos (number : Nat) (message : List UInt8) :
    0 < (nestedField number message).length := by
  have hkey : 0 < (writeKey number 2).length := by
    unfold writeKey writeVarint writeGroups
    split <;> simp
  rw [nestedField, List.length_append]
  omega

/-- What is longer by a message within is not the same. -/
theorem ne_of_length_nestedField {longer shorter : List UInt8} (number : Nat) (message : List UInt8)
    (h : longer.length = shorter.length + (nestedField number message).length) : longer ≠ shorter := by
  intro heq
  have hpos := length_nestedField_pos number message
  rw [heq] at h
  omega

/-- **Messages read back.** Agents, entries of the catalog and both kinds of request are had again from
what is written for them, whatever their numbers and texts are, and with each message within absent,
empty or filled. The names of an entry's replicasets are distinct, as the names of a map are: one alone
always is. No two messages of a kind are written alike. A message that has another within, if only an
empty one, is not written as if it had none. -/
theorem written_messages_read_back :
    ReadsBack writeAgent readAgent (fun _ => True) ∧
    ReadsBack writeCatalogEntry readCatalogEntry (fun entry => entry.record.replicasets.Distinct) ∧
    ReadsBack BackupRequest.write BackupRequest.read (fun _ => True) ∧
    ReadsBack RestoreRequest.write RestoreRequest.read (fun _ => True) ∧
    (∀ (a : Agent) ts,
      writeAgent { a with lastSeen := some ts } ≠ writeAgent { a with lastSeen := none }) ∧
    (∀ (a : Agent) status,
      writeAgent { a with status := some status } ≠ writeAgent { a with status := none }) ∧
    (∀ (entry : CatalogEntry) record, writeCatalogEntry { entry with metadata := some record } ≠
      writeCatalogEntry { entry with metadata := none }) ∧
    (∀ (b : BackupRecord) ts, writeBackupRecord { b with started := some ts } ≠
      writeBackupRecord { b with started := none }) ∧
    (∀ (b : BackupRecord) ts, writeBackupRecord { b with finished := some ts } ≠
      writeBackupRecord { b with finished := none }) := by
  refine ⟨readsBack_of_read_write fun a _ hfits => ?_,
    readsBack_of_read_write fun entry hdistinct hfits => ?_,
    readsBack_of_read_write fun r _ hfits => ?_, readsBack_of_read_write fun r _ hfits => ?_,
    fun a ts => ne_of_length_nestedField 9 (writeTimestamp ts) ?_,
    fun a status => ne_of_length_nestedField 10 (writeAgentStatus status) ?_,
    fun entry record => ne_of_length_nestedField 2 (writeBackupRecord record) ?_,
    fun b ts => ne_of_length_nestedField 1 (writeTimestamp ts) ?_,
    fun b ts => ne_of_length_nestedField 2 (writeTimestamp ts) ?_⟩
  · -- Each message is what a blank one becomes by it.
    have hread := updates_writeAgent Agent.blank a hfits
    rwa [Agent.blank_updatedBy] at hread
  · have hread := updates_writeCatalogEntry CatalogEntry.blank entry hfits
    rwa [CatalogEntry.blank_updatedBy hdistinct] at hread
  · have hread := updates_writeBackupRequest ⟨0, 0, 0, 0, ""⟩ r hfits
    rwa [BackupRequest.blank_updatedBy] at hread
  · have hread := updates_writeRestoreRequest ⟨"", false⟩ r hfits
    rwa [RestoreRequest.blank_updatedBy] at hread
  · -- A message that is there takes bytes, and all other fields take as many as before.
    simp only [writeAgent, optionalField, List.length_append, List.length_nil]
    omega
  · simp only [writeAgent, optionalField, List.length_append, List.length_nil]
    omega
  · simp only [writeCatalogEntry, optionalField, List.length_append, List.length_nil]
    omega
  · simp only [writeBackupRecord, optionalField, List.length_append, List.length_nil]
    omega
  · simp only [writeBackupRecord, optionalField, List.length_append, List.length_nil]
    omega

/-- An agent with negative numbers, an undeclared kind of node and an empty status. -/
def farAgent : Agent :=
  { Agent.blank with
    version := -1, id := "ért 日本", nodeKind := -77, lastCommandSent := -9223372036854775808,
    lastSeen := some ⟨-1, 999999999⟩, status := some AgentStatus.blank }

/-- An entry whose only replicaset has neither a name nor anything else. -/
def bareEntry : CatalogEntry :=
  ⟨"b.json", some { BackupRecord.blank with
    started := some ⟨0, 0⟩, cipher := 9, replicasets := [("", ReplicasetRecord.blank)] }⟩

/-- Such messages read back. -/
theorem far_agent_and_bare_entry_read_back :
    Fits (writeAgent farAgent) ∧ Fits (writeCatalogEntry bareEntry) ∧
    bareEntry.record.replicasets.Distinct ∧
    readAgent (writeAgent farAgent) = some farAgent ∧
    readCatalogEntry (writeCatalogEntry bareEntry) = some bareEntry := by
  obtain ⟨hagents, hentries, -⟩ := written_messages_read_back
  have hagent : Fits (writeAgent farAgent) := by decide
  have hentry : Fits (writeCatalogEntry bareEntry) := by decide
  have hdistinct : bareEntry.record.replicasets.Distinct :=
    List.nodup_cons.mpr ⟨List.not_mem_nil, List.nodup_nil⟩
  exact ⟨hagent, hentry, hdistinct, hagents.read_write _ trivial hagent,
    hentries.read_write _ hdistinct hentry⟩

end Wire

end BackupConsole
