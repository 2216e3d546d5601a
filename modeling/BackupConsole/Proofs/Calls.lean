/-
  The call of a command.

  1. **Specification** — `requested` is the call that a command asks for, with every field of its request
     as the operator's words have it; `Acknowledges` is the coordinator's answer to a backup or a restore.
     `Dispatched` says what a command does with them: it makes that call, and its success is the
     acknowledgement's.

  2. **Program** — a request is built from the words as `requested` says (`ofOptions_of_cipher`). A
     listing carries through whatever comes of its call; a backup and a restore are accountable for
     theirs (`dispatched_of_accountable`).

  3. **Correctness** — `dispatched_dispatch`: a command without a fault makes the call it asks for, unless
     it is a restore that cannot even announce itself.
-/
import BackupConsole.Proofs.Acknowledgement
import BackupConsole.Proofs.Listings
import BackupConsole.Proofs.SettingLayers

namespace BackupConsole

open Rpc Settings

/-! ## What a command asks for -/

/-- The call that a command asks for. -/
def requested : Command → Call
  | .backup options =>
    .backup {
      kind := if options.kind = "hot" then 1 else 0
      destination := if options.destination = "aws" then 1 else 0
      compression := if options.compression = "gzip" then 1 else 0
      cipher := 0
      description := options.description }
  | .restore options => .restore ⟨options.metadataFile, options.skipUsersAndRoles⟩
  | .listNodes _ => .agents
  | .listBackups => .catalog

/-- Whether a command only lists. A listing succeeds whatever becomes of its call. -/
def IsListing : Command → Prop
  | .listNodes _ | .listBackups => True
  | _ => False

/-- A coordinator acknowledges a call. Calls of listings are not acknowledged. -/
def Acknowledges (c : Coordinator) : Call → Prop
  | .backup request => c.backup request = .value ()
  | .restore request => c.restore request = .value ()
  | _ => False

/-- Whether a writer lets a command get to its call: only a restore writes before. -/
def reachesCall (v : Writer) : Command → Bool
  | .restore _ => (v.write restoreAnnouncement).2
  | _ => true

/-- A writer that never fails lets every command get to its call. -/
theorem reachesCall_of_reliable {v : Writer} (hv : v.Reliable) (command : Command) :
    reachesCall v command = true := by
  cases command with
  | restore options => rw [reachesCall, hv.write]
  | backup options => rfl
  | listNodes verbose => rfl
  | listBackups => rfl

/-- What a command owes that is dispatched while nothing is cancelled. -/
structure Dispatched (command : Command) (c : Coordinator) (v : Writer) (o : Outcome) : Prop where
  calls : o.calls = if reachesCall v command then [requested command] else []
  honest : o.result = .ok () → IsListing command ∨ Acknowledges c (requested command)
  decisive : v.Reliable →
    (o.result = .ok () ↔ IsListing command ∨ Acknowledges c (requested command))

variable {c : Coordinator} {v : Writer}

/-! ## Requests -/

/-- A cipher word that names a cipher is the only thing that a request needs. -/
theorem ofOptions_of_cipher {options : BackupOptions} (h : Cipher.ofSymbol? options.cipher ≠ none) :
    ∃ request, BackupRequest.ofOptions options = .ok request ∧
      requested (.backup options) = .backup request := by
  cases hcipher : Cipher.ofSymbol? options.cipher with
  | none => exact absurd hcipher h
  | some cipher =>
    have hkind : (BackupKind.ofSymbol options.kind).number = if options.kind = "hot" then 1 else 0 := by
      rw [BackupKind.ofSymbol_eq]
      split <;> rfl
    have hdestination : (Destination.ofSymbol options.destination).number =
        if options.destination = "aws" then 1 else 0 := by
      rw [Destination.ofSymbol_eq]
      split <;> rfl
    have hcompression : (Compression.ofSymbol options.compression).number =
        if options.compression = "gzip" then 1 else 0 := by
      rw [Compression.ofSymbol_eq]
      split <;> rfl
    refine ⟨_, by rw [BackupRequest.ofOptions, cipherOfSymbol, hcipher], ?_⟩
    simp only [requested, hkind, hdestination, hcompression]
    rfl

/-! ## Commands -/

theorem begun_listing {α β : Type} (operation : String) (gather : List α → β)
    (reply : Reply (Opened α)) : (Coordinator.listing operation gather reply false).begun = true := by
  obtain ⟨ending, h⟩ := exists_ends false reply
  exact (h.listing operation gather).begun

/-- A listing makes its call, and carries through with a writer that never fails. -/
theorem dispatched_runListing {command : Command} {β : Type} {listed : Listed β}
    {interrupted failed : String} {render : β → String} (hl : IsListing command)
    (hr : reachesCall v command = true) (hb : listed.begun = true) :
    Dispatched command c v (runListing listed (requested command) interrupted failed render v) where
  calls := by rw [calls_runListing, hb, hr]
  honest _ := .inl hl
  decisive hv := ⟨fun _ => .inl hl, fun _ => result_runListing hv⟩

/-- A command whose call is accountable depends on the acknowledgement of that call. -/
theorem dispatched_of_accountable {command : Command} {operation confirmation : String}
    {reply : Reply Unit} {shown : List UInt8} {o : Outcome} (hl : ¬ IsListing command)
    (hr : reachesCall v command = true)
    (hack : Acknowledges c (requested command) ↔ reply = .value ())
    (h : Accountable operation (requested command) confirmation false reply v shown o) :
    Dispatched command c v o := by
  have hgoverned : IsListing command ∨ Acknowledges c (requested command) ↔
      Acknowledged false reply := by
    rw [or_iff_right hl, hack, Acknowledged, and_iff_right rfl]
  refine ⟨?_, fun hok => hgoverned.mpr (h.honest hok), fun hv => ?_⟩
  · rw [h.calls, hr]
    rfl
  · rw [hgoverned]
    exact h.decisive hv

/-- A backup makes its call at once and depends on the acknowledgement. -/
theorem dispatched_backup {options : BackupOptions} (h : Cipher.ofSymbol? options.cipher ≠ none) :
    Dispatched (.backup options) c v (dispatch (.backup options) c false v) := by
  obtain ⟨request, hrequest, hcall⟩ := ofOptions_of_cipher h
  have hack : Acknowledges c (requested (.backup options)) ↔ c.backup request = .value () := by
    rw [hcall]
    exact Iff.rfl
  have hrun : Accountable runBackupOperation (requested (.backup options))
      (backupConfirmation options) false (c.backup request) v v.written
      (runBackup c false options v) := by
    rw [runBackup_of_ok hrequest, hcall]
    exact accountable_runCall nofun id
  exact dispatched_of_accountable id rfl hack hrun

/-- A restore makes its call once its announcement is written, and depends on the acknowledgement. -/
theorem dispatched_restore (options : RestoreOptions) :
    Dispatched (.restore options) c v (dispatch (.restore options) c false v) := by
  show Dispatched _ c v (runRestore c false options v)
  cases hfirst : (v.write restoreAnnouncement).2 with
  | false =>
    -- Without the announcement there is no call, and the writer is none that never fails.
    have hfails : ¬ v.Reliable := by
      intro hv
      rw [hv.write] at hfirst
      cases hfirst
    rw [runRestore_of_not_announced hfirst]
    refine ⟨?_, nofun, fun hv => absurd hv hfails⟩
    rw [reachesCall, hfirst]
    rfl
  | true =>
    have hrest : v.Reliable → (v.write restoreAnnouncement).1.Reliable := by
      intro hv
      rw [hv.write]
      exact hv
    rw [runRestore_of_announced hfirst]
    exact dispatched_of_accountable id hfirst Iff.rfl
      (accountable_runCall (announces_restore options true) hrest)

/-- A command without a fault makes the call it asks for. -/
theorem dispatched_dispatch {command : Command} (h : ∀ e, ¬ Fault command e) (c : Coordinator)
    (v : Writer) : Dispatched command c v (dispatch command c false v) := by
  cases command with
  | backup options =>
    refine dispatched_backup fun hnone => ?_
    obtain ⟨hempty, hword⟩ := Cipher.ofSymbol?_eq_none_iff.mp hnone
    cases hblank : Text.isBlank options.description with
    | true => exact h _ (.undescribed hblank)
    | false => exact h _ (.cipher hblank hempty hword)
  | restore options => exact dispatched_restore options
  | listNodes verbose => exact dispatched_runListing trivial rfl (begun_listing ..)
  | listBackups => exact dispatched_runListing trivial rfl (begun_listing ..)

end BackupConsole
