/-
  The carrying out of commands.

  1. **Program** — `dispatchPath` runs the handler of a command path with a channel, a token and a
     writer; `dispatch` runs the handler that the command asks for. An `Outcome` tells what the handler
     did, one `Effect` after another.

  2. **Specification** — each handler makes one call at most. A backup or a restore fails if its call
     does, and confirms only what the coordinator has acknowledged; a restore announces itself first. A
     listing never fails because of its call: the failure is logged and nothing is written.
-/
import BackupConsole.Coordinator
import BackupConsole.Listing.Backups
import BackupConsole.Listing.Nodes

namespace BackupConsole

open Listing Rpc Text

/-! ## Writers -/

/-- A writer: what has been written to it, and how many bytes it takes of a text that is written behind
some others. It fails where it does not take all of them. -/
structure Writer where
  written : List UInt8
  accepts : List UInt8 → List UInt8 → Nat

namespace Writer

/-- A writer to which nothing has been written. It takes some bytes and then fails; without a limit it
never does. -/
def fresh (room : Option Nat) : Writer where
  written := []
  accepts := fun written bytes =>
    match room with
    | none => bytes.length
    | some n => n - written.length

/-- Writes a text, as far as it is taken, and says whether all of it was. -/
def write (w : Writer) (text : String) : Writer × Bool :=
  let bytes := utf8Bytes text
  let taken := w.accepts w.written bytes
  (⟨w.written ++ bytes.take taken, w.accepts⟩, decide (bytes.length ≤ taken))

/-- A writer that never fails. -/
def Reliable (w : Writer) : Prop := ∀ written bytes, bytes.length ≤ w.accepts written bytes

theorem reliable_fresh : (Writer.fresh none).Reliable := fun _ _ => Nat.le_refl _

variable {w : Writer}

/-- A writer that never fails takes every text whole. -/
theorem Reliable.write (h : w.Reliable) (text : String) :
    w.write text = (⟨w.written ++ utf8Bytes text, w.accepts⟩, true) := by
  have hall := h w.written (utf8Bytes text)
  simp [Writer.write, hall, List.take_of_length_le hall]

/-- A text that was taken whole has been written. -/
theorem written_of_write {text : String} (h : (w.write text).2 = true) :
    (w.write text).1.written = w.written ++ utf8Bytes text := by
  have hall := of_decide_eq_true h
  exact congrArg (w.written ++ ·) (List.take_of_length_le hall)

end Writer

/-- Why a writer fails. -/
def writeFailure : String := "disk full"

/-! ## Errors and outcomes -/

/-- Why a command was not carried out. -/
inductive DispatchError where
  | optionsMismatch (path : CommandPath)
  | unsupportedCipher (reason : UnsupportedCipher)
  | call (reason : CallError)
  | output
  deriving DecidableEq, Repr

/-- The text in which the user is told why a command was not carried out. -/
def DispatchError.message : DispatchError → String
  | optionsMismatch path =>
    "command " ++ path.text ++ " was dispatched with options for another command"
  | unsupportedCipher reason => reason.message
  | call reason => reason.message
  | output => "cannot write output: " ++ writeFailure

/-- What a command does. -/
inductive Effect where
  | log (event : LogEvent)
  /-- The loop that receives a stream logs an event of its own. -/
  | note (event : LogEvent)
  | call (call : Call)
  /-- The coordinator's acknowledgement of a call comes in. -/
  | acknowledged (call : Call)
  /-- A text is written, or as much of it as the writer takes. -/
  | write (text : String) (complete : Bool)
  deriving DecidableEq, Repr

namespace Effect

/-- The call that an effect makes, if it makes one. -/
def call? : Effect → Option Call
  | .call c => some c
  | _ => none

/-- The event that the command itself logs, if the effect is one. -/
def log? : Effect → Option LogEvent
  | .log e => some e
  | _ => none

/-- The event an effect leaves in the log, whoever logs it. -/
def event? : Effect → Option LogEvent
  | .log e => some e
  | .note e => some e
  | _ => none

end Effect

/-- What came of a command: its result, the bytes written, and what it did in order. -/
structure Outcome where
  result : Except DispatchError Unit
  written : List UInt8
  trace : List Effect

namespace Outcome

/-- The calls that were made. -/
def calls (o : Outcome) : List Call := o.trace.filterMap Effect.call?

/-- What the command itself logged. -/
def logs (o : Outcome) : List LogEvent := o.trace.filterMap Effect.log?

/-- All that was logged. -/
def events (o : Outcome) : List LogEvent := o.trace.filterMap Effect.event?

/-- A command that stops with an error. -/
def failed (e : DispatchError) (w : Writer) (before : List Effect) : Outcome :=
  ⟨.error e, w.written, before⟩

/-- A command whose last effect is to write a text. -/
def ofWrite (text : String) (w : Writer) (before : List Effect) : Outcome :=
  let (w, complete) := w.write text
  ⟨if complete then .ok () else .error .output, w.written, before ++ [.write text complete]⟩

variable {text : String} {w : Writer} {before : List Effect}

@[simp] theorem trace_ofWrite :
    (ofWrite text w before).trace = before ++ [.write text (w.write text).2] := rfl

/-- A command that ends with a write succeeds exactly if the writer took the whole text. -/
theorem result_ofWrite : (ofWrite text w before).result = .ok () ↔ (w.write text).2 = true := by
  cases h : (w.write text).2 <;> simp [ofWrite, h]

/-- With a writer that never fails, such a command writes its text and succeeds. -/
theorem ofWrite_of_reliable (h : w.Reliable) :
    ofWrite text w before = ⟨.ok (), w.written ++ utf8Bytes text, before ++ [.write text true]⟩ := by
  rw [ofWrite, h.write]
  rfl

end Outcome

/-- The effect of a call, given whether it was begun. -/
def callEffects (begun : Bool) (call : Call) : List Effect := if begun then [.call call] else []

@[simp] theorem calls_callEffects (begun : Bool) (call : Call) :
    (callEffects begun call).filterMap Effect.call? = if begun then [call] else [] := by
  cases begun <;> rfl

@[simp] theorem events_callEffects (begun : Bool) (call : Call) :
    (callEffects begun call).filterMap Effect.event? = [] := by
  cases begun <;> rfl

/-! ## Runs -/

/-- What a failed call of a backup says it was doing. -/
def runBackupOperation : String := "cannot send the RunBackup command to the gRPC server"

/-- What a failed call of a restore says it was doing. -/
def runRestoreOperation : String := "cannot send the RunRestore command to the gRPC server"

/-- What a backup logs before its call, with every number of the request named. -/
def sendingBackup (r : BackupRequest) : LogEvent :=
  .of .info "Sending RunBackup to coordinator"
    [("backup_type", (BackupKind.ofNumber r.kind).wireName),
      ("destination_type", (Destination.ofNumber r.destination).wireName),
      ("compression_type", (Compression.ofNumber r.compression).wireName)]

/-- What a restore logs before its call. -/
def sendingRestore (r : RestoreRequest) : LogEvent :=
  .of .info "Sending RunRestore to coordinator"
    [("metadata_file", r.metadataFile), ("skip_users_and_roles", boolText r.skipUsersAndRoles)]

/-- The line that confirms a backup. -/
def backupConfirmation (options : BackupOptions) : String :=
  "Backup started: " ++ options.description ++ "\n"

/-- The line that announces a restore. -/
def restoreAnnouncement : String := "restoring\n"

/-- The line that confirms a restore. -/
def restoreConfirmation (options : RestoreOptions) : String :=
  "Restore started from " ++ options.metadataFile ++ "\n"

/-- Makes the call of a backup or a restore and confirms what has been acknowledged. -/
def runCall (operation : String) (cancelled : Bool) (call : Call) (reply : Reply Unit)
    (sending : LogEvent) (confirmation : String) (w : Writer) (before : List Effect) : Outcome :=
  let answered := answer operation cancelled reply
  let made := before ++ .log sending :: callEffects answered.begun call
  match answered.result with
  | .error e => .failed (.call e) w made
  | .ok _ => .ofWrite confirmation w (made ++ [.acknowledged call])

/-- Starts a backup. An unsupported cipher is refused before the coordinator hears of it. -/
def runBackup (c : Coordinator) (cancelled : Bool) (options : BackupOptions) (w : Writer) : Outcome :=
  match BackupRequest.ofOptions options with
  | .error e => .failed (.unsupportedCipher e) w []
  | .ok request =>
    runCall runBackupOperation cancelled (.backup request) (c.backup request) (sendingBackup request)
      (backupConfirmation options) w []

/-- Starts a restore. It is announced first, and a failed announcement keeps the call from being made. -/
def runRestore (c : Coordinator) (cancelled : Bool) (options : RestoreOptions) (w : Writer) :
    Outcome :=
  let (w, complete) := w.write restoreAnnouncement
  let announced := [.write restoreAnnouncement complete]
  if complete then
    let request := RestoreRequest.ofOptions options
    runCall runRestoreOperation cancelled (.restore request) (c.restore request)
      (sendingRestore request) (restoreConfirmation options) w announced
  else .failed .output w announced

/-! ## Listings -/

/-- What a listing that came to nothing leaves in the log. -/
def listingFailure (interrupted failed : String) (e : CallError) : LogEvent :=
  if e.isCancelled then .of .warn interrupted [("error", e.message)]
  else .of .error failed [("error", e.message)]

/-- A listing: renders what was collected, or logs why there is nothing. -/
def runListing {α : Type} (listed : Listed α) (call : Call) (interrupted failed : String)
    (render : α → String) (w : Writer) : Outcome :=
  let made := callEffects listed.begun call ++ listed.logs.map .note
  match listed.result with
  | .error e => ⟨.ok (), w.written, made ++ [.log (listingFailure interrupted failed e)]⟩
  | .ok items => .ofWrite (render items) w made

/-- What is logged when the listing of agents is cancelled. -/
def nodesInterrupted : String := "Listing of connected agents interrupted"

/-- What is logged when the listing of agents fails for any other reason. -/
def nodesFailed : String := "Cannot get the list of connected agents"

/-- Lists the agents that are connected. -/
def runListNodes (c : Coordinator) (cancelled verbose : Bool) (w : Writer) : Outcome :=
  runListing (c.connectedAgents cancelled) .agents nodesInterrupted nodesFailed
    (fun agents => renderNodes agents verbose) w

/-- What is logged when the listing of backups is cancelled. -/
def backupsInterrupted : String := "Listing of available backups interrupted"

/-- What is logged when the listing of backups fails for any other reason. -/
def backupsFailed : String := "Cannot get the list of available backups"

/-- Lists the backups that the coordinator's catalog names. -/
def runListBackups (c : Coordinator) (cancelled : Bool) (w : Writer) : Outcome :=
  runListing (c.availableBackups cancelled) .catalog backupsInterrupted backupsFailed renderBackups w

/-! ## Dispatch -/

/-- Runs the handler of a path. The options have to be those of the path. -/
def dispatchPath (path : CommandPath) (command : Command) (c : Coordinator) (cancelled : Bool)
    (w : Writer) : Outcome :=
  match path, command with
  | .runBackup, .backup options => runBackup c cancelled options w
  | .runRestore, .restore options => runRestore c cancelled options w
  | .listNodes, .listNodes verbose => runListNodes c cancelled verbose w
  | .listBackups, .listBackups => runListBackups c cancelled w
  | path, _ => .failed (.optionsMismatch path) w []

/-- Runs the handler that a command asks for. -/
def dispatch (command : Command) (c : Coordinator) (cancelled : Bool) (w : Writer) : Outcome :=
  dispatchPath command.path command c cancelled w

end BackupConsole
