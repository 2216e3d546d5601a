/-
  What a backup and a restore owe to the coordinator's acknowledgement.

  1. **Specification** — a call is `Acknowledged` if the token is live and the coordinator says so.
     `Accountable` ties all the rest to it: the calls that were made, the result, the confirmation and
     the bytes written, for whatever has been written before the call.

  2. **The call** — `runCall_of_acknowledged` and `runCall_of_not_acknowledged` say what a run does in
     the two cases. A trace in which the confirmation stands nowhere but at its end has the
     acknowledgement before it (`mem_of_write_confirmation`).

  3. **Correctness** — `acknowledgement_governs`: a backup is accountable from the start, a restore once
     it has announced itself; whatever stops them earlier stops them without a call.
-/
import BackupConsole.Dispatch

namespace BackupConsole

open Rpc Text

variable {operation confirmation : String} {cancelled : Bool} {call : Call} {reply : Reply Unit}
  {sending : LogEvent} {w v : Writer} {before : List Effect}

/-! ## Accounts -/

/-- The coordinator's acknowledgement of a call is received. -/
def Acknowledged (cancelled : Bool) (reply : Reply Unit) : Prop := cancelled = false ∧ reply = .value ()

/-- Whether a call is acknowledged is seen from the token and the reply. -/
instance : Decidable (Acknowledged cancelled reply) := inferInstanceAs (Decidable (_ ∧ _))

/-- What a run with a writer has to account for, given what has been written when it makes its call. -/
structure Accountable (operation : String) (call : Call) (confirmation : String) (cancelled : Bool)
    (reply : Reply Unit) (w : Writer) (shown : List UInt8) (o : Outcome) : Prop where
  /-- One call at most, and the one that was asked for. -/
  calls : o.calls = if cancelled then [] else [call]
  received : .acknowledged call ∈ o.trace ↔ Acknowledged cancelled reply
  honest : o.result = .ok () → Acknowledged cancelled reply
  /-- Only a writer that fails makes an acknowledged run fail. -/
  decisive : w.Reliable → (o.result = .ok () ↔ Acknowledged cancelled reply)
  attempted : Acknowledged cancelled reply → ∃ complete, .write confirmation complete ∈ o.trace
  /-- The confirmation is not even attempted before the acknowledgement is there. -/
  ordered : ∀ earlier complete later, o.trace = earlier ++ .write confirmation complete :: later →
    .acknowledged call ∈ earlier
  confirmed : o.result = .ok () → o.written = shown ++ utf8Bytes confirmation
  silent : ¬ Acknowledged cancelled reply → o.written = shown
  interrupted : cancelled = true ∨ reply = .silence → o.result = .error (.call (.cancelled operation))
  refused : ∀ status, cancelled = false → reply = .failure status →
    o.result = .error (.call (.status operation status))

/-! ## The call -/

/-- A call that is acknowledged leaves the confirmation to be written, behind the effects of the call. -/
theorem runCall_of_acknowledged (h : Acknowledged cancelled reply) :
    runCall operation cancelled call reply sending confirmation w before =
      .ofWrite confirmation w (before ++ [.log sending, .call call, .acknowledged call]) := by
  obtain ⟨rfl, rfl⟩ := h
  simp [runCall, answer, callEffects]

/-- Why a call has not been acknowledged. -/
def refusal (operation : String) (cancelled : Bool) (reply : Reply Unit) : CallError :=
  match cancelled, reply with
  | false, .failure status => .status operation status
  | _, _ => .cancelled operation

/-- Any other call is refused, and nothing is written for it. -/
theorem runCall_of_not_acknowledged (h : ¬ Acknowledged cancelled reply) :
    runCall operation cancelled call reply sending confirmation w before =
      .failed (.call (refusal operation cancelled reply)) w
        (before ++ .log sending :: callEffects (!cancelled) call) := by
  cases cancelled with
  | true => cases reply <;> rfl
  | false =>
    cases reply with
    | value a => exact absurd ⟨rfl, rfl⟩ h
    | failure status => rfl
    | silence => rfl

/-- A token that was cancelled and a coordinator that is silent are refused alike. -/
theorem refusal_interrupted (h : cancelled = true ∨ reply = .silence) :
    refusal operation cancelled reply = .cancelled operation := by
  rcases h with rfl | rfl
  · cases reply <;> rfl
  · cases cancelled <;> rfl

/-- A text that is written at the end, and nowhere before it, is written behind all the rest. -/
theorem mem_of_write_confirmation {made earlier later : List Effect} {last : Effect} {complete : Bool}
    (hcall : .acknowledged call ∈ made) (hmade : ∀ c, .write confirmation c ∉ made)
    (h : made ++ [last] = earlier ++ .write confirmation complete :: later) :
    .acknowledged call ∈ earlier := by
  -- The text stands behind all of `made`, or in the midst of it, which `hmade` rules out.
  rcases List.append_eq_append_iff.mp h with ⟨more, rfl, -⟩ | ⟨more, rfl, hmore⟩
  · exact List.mem_append_left _ hcall
  · cases more with
    | nil => rwa [List.append_nil] at hcall
    | cons effect more =>
      cases hmore
      exact absurd (List.mem_append_right _ List.mem_cons_self) (hmade complete)

/-- What is done before a call: other texts are written. -/
def Announces (confirmation : String) (before : List Effect) : Prop :=
  ∀ effect ∈ before, ∃ text complete, effect = .write text complete ∧ text ≠ confirmation

/-- Announcements make no call, -/
theorem Announces.calls (h : Announces confirmation before) : before.filterMap Effect.call? = [] := by
  refine List.filterMap_eq_nil_iff.mpr fun effect he => ?_
  obtain ⟨text, complete, rfl, -⟩ := h effect he
  rfl

/-- bring in no acknowledgement, -/
theorem Announces.not_acknowledged (h : Announces confirmation before) :
    .acknowledged call ∉ before := by
  intro he
  obtain ⟨text, complete, heq, -⟩ := h _ he
  cases heq

/-- and are not the confirmation. -/
theorem Announces.not_confirmed (h : Announces confirmation before) (complete : Bool) :
    .write confirmation complete ∉ before := by
  intro he
  obtain ⟨text, complete', heq, hne⟩ := h _ he
  cases heq
  exact hne rfl

/-- An acknowledged run is accountable: whether it succeeds is left to the writer of the confirmation. -/
theorem accountable_of_acknowledged (hb : Announces confirmation before)
    (hv : w.Reliable → v.Reliable) (ha : Acknowledged cancelled reply) :
    Accountable operation call confirmation cancelled reply w v.written
      (.ofWrite confirmation v (before ++ [.log sending, .call call, .acknowledged call])) where
  calls := by
    rw [Outcome.calls, Outcome.trace_ofWrite, ha.1]
    simp only [List.filterMap_append, hb.calls]
    rfl
  received := ⟨fun _ => ha, fun _ => by simp⟩
  honest _ := ha
  decisive hw := ⟨fun _ => ha, fun _ => by rw [Outcome.ofWrite_of_reliable (hv hw)]⟩
  attempted _ := ⟨(v.write confirmation).2, by simp⟩
  ordered earlier complete later h := by
    refine mem_of_write_confirmation (by simp) (fun c hc => ?_) h
    rcases List.mem_append.mp hc with hc | hc
    · exact hb.not_confirmed c hc
    · simp at hc
  confirmed h := Writer.written_of_write (Outcome.result_ofWrite.mp h)
  -- The rest holds for want of a case: what is acknowledged is neither cancelled nor refused.
  silent hn := absurd ha hn
  interrupted h := by
    obtain ⟨rfl, rfl⟩ := ha
    rcases h with h | h <;> cases h
  refused status _ h := by
    obtain ⟨rfl, rfl⟩ := ha
    cases h

/-- A run that is not acknowledged is accountable: it fails, and stops before the confirmation. -/
theorem accountable_of_not_acknowledged (hb : Announces confirmation before)
    (ha : ¬ Acknowledged cancelled reply) :
    Accountable operation call confirmation cancelled reply w v.written
      (.failed (.call (refusal operation cancelled reply)) v
        (before ++ .log sending :: callEffects (!cancelled) call)) where
  calls := by
    simp only [Outcome.calls, Outcome.failed, List.filterMap_append, hb.calls]
    cases cancelled <;> rfl
  -- Behind the call there is no acknowledgement, and what stands before it is only an announcement.
  received := by
    refine ⟨fun h => ?_, fun h => absurd h ha⟩
    rcases List.mem_append.mp h with h | h
    · exact absurd h hb.not_acknowledged
    · cases cancelled <;> simp [callEffects] at h
  honest := nofun
  decisive _ := ⟨nofun, fun h => absurd h ha⟩
  attempted h := absurd h ha
  -- A confirmation would have to be among the effects, and it is none of them.
  ordered earlier complete later h := by
    have hmem : .write confirmation complete ∈
        before ++ .log sending :: callEffects (!cancelled) call := by
      have htrace : before ++ .log sending :: callEffects (!cancelled) call =
          earlier ++ .write confirmation complete :: later := h
      rw [htrace]
      exact List.mem_append_right _ List.mem_cons_self
    rcases List.mem_append.mp hmem with hmem | hmem
    · exact absurd hmem (hb.not_confirmed complete)
    · cases cancelled <;> simp [callEffects] at hmem
  confirmed := nofun
  silent _ := rfl
  interrupted h := by rw [Outcome.failed, refusal_interrupted h]
  refused status hlive hreply := by
    rw [hlive, hreply]
    rfl

/-- Whatever other texts have been written before, a run is accountable from its call on. -/
theorem accountable_runCall (hb : Announces confirmation before) (hv : w.Reliable → v.Reliable) :
    Accountable operation call confirmation cancelled reply w v.written
      (runCall operation cancelled call reply sending confirmation v before) := by
  by_cases ha : Acknowledged cancelled reply
  · rw [runCall_of_acknowledged ha]
    exact accountable_of_acknowledged hb hv ha
  · rw [runCall_of_not_acknowledged ha]
    exact accountable_of_not_acknowledged hb ha

/-! ## Commands -/

/-- With its request built, a backup is nothing but its call. -/
theorem runBackup_of_ok {c : Coordinator} {options : BackupOptions} {request : BackupRequest}
    (h : BackupRequest.ofOptions options = .ok request) :
    runBackup c cancelled options w =
      runCall runBackupOperation cancelled (.backup request) (c.backup request) (sendingBackup request)
        (backupConfirmation options) w [] := by
  simp [runBackup, h]

/-- A backup with a word that names no cipher stops before its request is built. -/
theorem dispatch_of_unsupported {c : Coordinator} {options : BackupOptions}
    (h : Cipher.ofSymbol? options.cipher = none) :
    dispatch (.backup options) c cancelled w =
      .failed (.unsupportedCipher ⟨options.cipher⟩) w [] := by
  show runBackup c cancelled options w = _
  simp [runBackup, BackupRequest.ofOptions, cipherOfSymbol, h]

/-- Nothing but its cipher keeps the request of a backup from being built. -/
theorem exists_request {options : BackupOptions} (h : Cipher.ofSymbol? options.cipher ≠ none) :
    ∃ request, BackupRequest.ofOptions options = .ok request := by
  obtain ⟨cipher, hcipher⟩ := Option.ne_none_iff_exists'.mp h
  simp [BackupRequest.ofOptions, cipherOfSymbol, hcipher]

/-- A restore is confirmed with a capital letter, whatever its file is called. -/
theorem head?_restoreConfirmation (options : RestoreOptions) :
    (restoreConfirmation options).toList.head? = some 'R' := by
  have hR : "Restore started from ".toList.head? = some 'R' := by decide
  show ("Restore started from " ++ options.metadataFile ++ "\n").toList.head? = some 'R'
  rw [String.toList_append, String.toList_append, List.head?_append, List.head?_append, hR]
  rfl

/-- The two texts of a restore differ in their first letter. -/
theorem restoreAnnouncement_ne (options : RestoreOptions) :
    restoreAnnouncement ≠ restoreConfirmation options := by
  intro h
  have hr : restoreAnnouncement.toList.head? = some 'r' := by decide
  have hR := head?_restoreConfirmation options
  rw [← h] at hR
  exact absurd (hr.symm.trans hR) (by decide)

/-- The announcement of a restore is not its confirmation. -/
theorem announces_restore (options : RestoreOptions) (complete : Bool) :
    Announces (restoreConfirmation options) [.write restoreAnnouncement complete] := by
  intro effect he
  exact ⟨restoreAnnouncement, complete, List.mem_singleton.mp he, restoreAnnouncement_ne options⟩

/-- Once it has announced itself, a restore is nothing but its call. -/
theorem runRestore_of_announced {c : Coordinator} {options : RestoreOptions}
    (h : (w.write restoreAnnouncement).2 = true) :
    runRestore c cancelled options w =
      runCall runRestoreOperation cancelled (.restore (.ofOptions options))
        (c.restore (.ofOptions options)) (sendingRestore (.ofOptions options))
        (restoreConfirmation options) (w.write restoreAnnouncement).1
        [.write restoreAnnouncement true] := by
  simp [runRestore, h]

/-- A restore that cannot announce itself stops there. -/
theorem runRestore_of_not_announced {c : Coordinator} {options : RestoreOptions}
    (h : (w.write restoreAnnouncement).2 = false) :
    runRestore c cancelled options w =
      .failed .output (w.write restoreAnnouncement).1 [.write restoreAnnouncement false] := by
  simp [runRestore, h]

/-- Options of another command are refused before anything is done. -/
theorem dispatchPath_of_ne {path : CommandPath} {command : Command} {c : Coordinator}
    (h : command.path ≠ path) :
    dispatchPath path command c cancelled w = .failed (.optionsMismatch path) w [] := by
  unfold dispatchPath
  split
  · exact absurd rfl h
  · exact absurd rfl h
  · exact absurd rfl h
  · exact absurd rfl h
  · rfl

/-- **What the acknowledgement governs.** For every coordinator, token and writer. A backup whose cipher
is not supported, one whose word is neither empty nor `none`, fails without a call, whatever the token;
any other is accountable, and has written nothing when it makes its call. A restore that cannot announce
itself fails without a call; any other is accountable, and has written its announcement when it makes its
call. A command that is sent down the path of another one fails without a call. -/
theorem acknowledgement_governs (c : Coordinator) (cancelled : Bool) (w : Writer) :
    (∀ options : BackupOptions, let o := dispatch (.backup options) c cancelled w
      (options.cipher ≠ "" ∧ options.cipher ≠ "none" → o.trace = [] ∧ o.written = w.written ∧
        o.result = .error (.unsupportedCipher ⟨options.cipher⟩)) ∧
      (options.cipher = "" ∨ options.cipher = "none" →
        ∃ request, BackupRequest.ofOptions options = .ok request ∧
          Accountable runBackupOperation (.backup request)
            ("Backup started: " ++ options.description ++ "\n") cancelled (c.backup request) w
            w.written o)) ∧
    (∀ options : RestoreOptions, let o := dispatch (.restore options) c cancelled w
      ((w.write "restoring\n").2 = false → ¬ w.Reliable ∧ o.trace = [.write "restoring\n" false] ∧
        o.result = .error .output) ∧
      ((w.write "restoring\n").2 = true →
        Accountable runRestoreOperation (.restore (.ofOptions options))
          ("Restore started from " ++ options.metadataFile ++ "\n") cancelled
          (c.restore (.ofOptions options)) w (w.written ++ utf8Bytes "restoring\n") o)) ∧
    (∀ path command, command.path ≠ path →
      let o := dispatchPath path command c cancelled w
      o.trace = [] ∧ o.written = w.written ∧ o.result = .error (.optionsMismatch path)) := by
  refine ⟨fun options => ⟨fun hcipher => ?_, fun hcipher => ?_⟩,
    fun options => ⟨fun hfirst => ?_, fun hfirst => ?_⟩, fun path command hne => ?_⟩
  · rw [dispatch_of_unsupported (Cipher.ofSymbol?_eq_none_iff.mpr hcipher)]
    exact ⟨rfl, rfl, rfl⟩
  · have hnames : Cipher.ofSymbol? options.cipher ≠ none := by
      rw [Ne, Cipher.ofSymbol?_eq_none_iff]
      rintro ⟨hempty, hnone⟩
      exact hcipher.elim hempty hnone
    obtain ⟨request, hrequest⟩ := exists_request hnames
    refine ⟨request, hrequest, ?_⟩
    show Accountable _ _ _ _ _ _ _ (runBackup c cancelled options w)
    rw [runBackup_of_ok hrequest]
    exact accountable_runCall nofun id
  · have hfails : ¬ w.Reliable := by
      intro hw
      rw [hw.write] at hfirst
      cases hfirst
    show _ ∧ (runRestore c cancelled options w).trace = _ ∧
      (runRestore c cancelled options w).result = _
    rw [runRestore_of_not_announced hfirst]
    exact ⟨hfails, rfl, rfl⟩
  · show Accountable _ _ _ _ _ _ _ (runRestore c cancelled options w)
    rw [runRestore_of_announced hfirst]
    have hshown := Writer.written_of_write hfirst
    have hr : w.Reliable → (w.write restoreAnnouncement).1.Reliable := fun hw => by
      rw [hw.write]
      exact hw
    -- From here on the announcement counts as written before.
    exact hshown ▸ accountable_runCall (announces_restore options true) hr
  · show (dispatchPath path command c cancelled w).trace = [] ∧ _ ∧ _
    rw [dispatchPath_of_ne hne]
    exact ⟨rfl, rfl, rfl⟩

/-- A token that is cancelled beforehand lets a restore announce itself, but no more. -/
example : (dispatch (.restore ⟨"metadata.json", false⟩)
    ⟨.silence, .silence, fun _ => .value (), fun _ => .value ()⟩ true (.fresh none)).written =
      utf8Bytes "restoring\n" := by decide

end BackupConsole
