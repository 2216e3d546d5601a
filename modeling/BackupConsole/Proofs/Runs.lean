/-
  What a whole process does, from its arguments to its exit code.

  1. **Specification** — `Comes` says how far a process comes: to the reading of its arguments, to a
     script, to its settings, to its connection, or to a channel. `Leads` says which channel settings ask
     for. `Owes` is what the process has to show for how far it came: only behind a channel is there a
     call, and it is the one that the command asks for. What is asked for is put to the grammar of command
     lines (`Reading`), in both directions (`invocationOf_eq_ok_iff`).

  2. **Program** — one lemma for each stage says what the program does there, up to `owes_of_comes`.

  3. **Correctness** — `process_owes`: a process makes one call at most, comes to one stage, and does
     what it owes there. `nightly_backup_acknowledged` is a process that comes all the way.
-/
import BackupConsole.Program
import BackupConsole.Proofs.Calls
import BackupConsole.Proofs.GivenValues

namespace BackupConsole.Program

open Arguments Completion Connection Rpc Settings

/-! ## Stages -/

/-- How far a process comes. -/
inductive Stage where
  | unread (reason : ArgumentError)
  | script (shell : Shell)
  | unresolved (i : Invocation) (reason : ConfigError)
  | unconnected (i : Invocation) (r : Resolved) (reason : ConnectionError)
  | connected (i : Invocation) (r : Resolved) (channel : Channel)

/-- A process comes as far as its arguments, its settings and its network let it. -/
inductive Comes (w : World) (arguments : List String) : Stage → Prop
  | unread {reason : ArgumentError} : invocationOf arguments = .error reason →
    Comes w arguments (.unread reason)
  | script {i : Invocation} {shell : Shell} : invocationOf arguments = .ok i →
    i.task = .completions shell → Comes w arguments (.script shell)
  | unresolved {i : Invocation} {command : Command} {reason : ConfigError} :
    invocationOf arguments = .ok i → i.task = .command command →
    Resolves w.surroundings defaultConfigFile i.flags command (.error reason) →
    Comes w arguments (.unresolved i reason)
  | unconnected {i : Invocation} {command : Command} {r : Resolved} {reason : ConnectionError} :
    invocationOf arguments = .ok i → i.task = .command command →
    Resolves w.surroundings defaultConfigFile i.flags command (.ok r) →
    openConnection w.network w.surroundings.files r = .error reason →
    Comes w arguments (.unconnected i r reason)
  | connected {i : Invocation} {command : Command} {r : Resolved} {channel : Channel} :
    invocationOf arguments = .ok i → i.task = .command command →
    Resolves w.surroundings defaultConfigFile i.flags command (.ok r) →
    openConnection w.network w.surroundings.files r = .ok channel →
    Comes w arguments (.connected i r channel)

variable {w : World} {arguments : List String}

/-- Every process comes somewhere, -/
theorem exists_comes (w : World) (arguments : List String) : ∃ stage, Comes w arguments stage := by
  cases hi : invocationOf arguments with
  | error reason => exact ⟨_, .unread hi⟩
  | ok i =>
    cases htask : i.task with
    | completions shell => exact ⟨_, .script hi htask⟩
    | command command =>
      have hr := resolves_resolveWith w.surroundings defaultConfigFile i.flags command
      cases hresult : resolveWith w.surroundings defaultConfigFile i.flags command with
      | error reason => exact ⟨_, .unresolved hi htask (hresult ▸ hr)⟩
      | ok r =>
        cases hopen : openConnection w.network w.surroundings.files r with
        | error reason => exact ⟨_, .unconnected hi htask (hresult ▸ hr) hopen⟩
        | ok channel => exact ⟨_, .connected hi htask (hresult ▸ hr) hopen⟩

/-- and nowhere else. -/
theorem Comes.unique {stage other : Stage} (h : Comes w arguments stage)
    (ho : Comes w arguments other) : stage = other := by
  -- Each stage rests on results of functions, and those of two different stages contradict each other.
  cases h <;> cases ho <;> simp_all [resolves_iff]

/-! ## Channels -/

/-- The URI that an errand dials, if it dials one. -/
def dialed? : Errand → Option String
  | .dial uri => some uri
  | .read _ => none

/-- A channel that is asked for: one URI was dialed, that of the target, and the coordinator is the one
that the network has there. -/
structure Leads (network : Network) (target : String) (tls : Bool) (errands : List Errand)
    (channel : Channel) : Prop where
  address : channel.address = target
  uri : channel.uri = endpointUri target tls
  dialed : errands.filterMap dialed? = [channel.uri]
  coordinator : network.plain channel.uri = some channel.coordinator ∨
    ∃ bytes, network.encrypted channel.uri bytes = some channel.coordinator

/-- A coordinator is reached in the clear, or behind certificates. -/
theorem reach_cases {network : Network} {uri : String} {certificates : Option (List UInt8)}
    {c : Coordinator} (h : reach network uri certificates = some c) :
    network.plain uri = some c ∨ ∃ bytes, network.encrypted uri bytes = some c := by
  unfold reach at h
  split at h
  · split at h
    · next bytes => exact .inr ⟨bytes, h⟩
    · cases h
  · exact .inl h

/-- Dialing leads to the URI of the target, if it leads anywhere. -/
theorem leads_of_dial {network : Network} {target : String} {certificates : Option (List UInt8)}
    {channel : Channel} (h : (dial network target certificates).result = .ok channel) :
    Leads network target certificates.isSome (dial network target certificates).errands channel := by
  rw [dial] at h ⊢
  split at h
  · cases h
  next huri =>
  split at h
  · cases h
  next hfit =>
  split at h
  · next c hreach =>
    cases h
    rw [if_neg huri, if_neg hfit]
    exact ⟨rfl, rfl, rfl, reach_cases hreach⟩
  · cases h

/-- A connection that was opened is the one that its settings ask for. -/
theorem leads_of_open {network : Network} {files : FileTree} {r : Resolved} {channel : Channel}
    (h : openConnection network files r = .ok channel) :
    Leads network r.serverAddress r.useTls (attempt network files r).errands channel := by
  unfold openConnection at h
  unfold attempt at h ⊢
  cases htls : r.useTls with
  | false =>
    simp only [htls, Bool.false_eq_true, if_false] at h ⊢
    exact leads_of_dial h
  | true =>
    simp only [htls, if_true] at h ⊢
    cases hca : r.caFile with
    | none =>
      rw [hca] at h
      cases h
    | some path =>
      simp only [hca] at h ⊢
      cases hread : files.read path with
      | error reason =>
        rw [hread] at h
        cases h
      | ok bytes =>
        simp only [hread] at h ⊢
        have hdial := leads_of_dial h
        -- Reading the certificates dials nothing.
        exact ⟨hdial.address, hdial.uri, hdial.dialed, hdial.coordinator⟩

/-! ## Processes -/

/-- What a process owes that has a channel. The invocation is what the arguments say, truth values as well as
texts, and its texts are the operator's own; flags, file and what is built in settle the channel; the
command settles the call. -/
structure Connected (w : World) (arguments : List String) (i : Invocation) (r : Resolved)
    (channel : Channel) (p : ProcessReport) : Prop where
  task : i.task = .command r.command
  reading : Reading arguments i
  texts : TextsGiven arguments i
  settings : ∃ layer, Contributes w.surroundings i.flags.configFile defaultConfigFile (.ok layer) ∧
    Layered i.flags (settingsIn layer) r
  leads : Leads w.network r.serverAddress r.useTls
    (attempt w.network w.surroundings.files r).errands channel
  calls : p.calls = if reachesCall (.fresh w.room) r.command then [requested r.command] else []
  called : w.room = none → p.calls = [requested r.command]
  /-- Not a letter of a description is lost on the way, nor a blank. -/
  description : ∀ request, .backup request ∈ p.calls → Given arguments .description request.description
  metadataFile : ∀ request, .restore request ∈ p.calls →
    Given arguments .metadataFile request.metadataFile
  honest : p.exit = 0 → IsListing r.command ∨ Acknowledges channel.coordinator (requested r.command)
  decisive : w.room = none →
    (p.exit = 0 ↔ IsListing r.command ∨ Acknowledges channel.coordinator (requested r.command))

/-- Standard output takes all of a text. -/
def Takes (w : World) (text : String) : Prop :=
  ∀ n, w.room = some n → (Text.utf8Bytes text).length ≤ n

/-- What a process owes for how far it came. -/
def Owes (w : World) (arguments : List String) (p : ProcessReport) : Stage → Prop
  | .unread reason => p.calls = [] ∧ p.exit = if reason.isAnswer then 0 else 2
  | .script shell => p.calls = [] ∧ (p.exit = 0 ↔ Takes w (completionScript shell)) ∧
    (p.exit = 0 ∨ p.exit = 101)
  | .unresolved _ _ => p.calls = [] ∧ p.exit = 1
  | .unconnected _ _ _ => p.calls = [] ∧ p.exit = 1
  | .connected i r channel => Connected w arguments i r channel p

variable {env : Environment} {i : Invocation}

/-- A text that is not blank is one that is given. -/
theorem given_of_verbatim {slot : Slot} {text : String} (h : Verbatim arguments slot text)
    (hblank : Text.isBlank text ≠ true) : Given arguments slot text := by
  rcases h with rfl | h
  · exact absurd Text.isBlank_empty hblank
  · exact h

/-- The description of a backup that is called for is the operator's. -/
theorem given_description {command : Command} {request : BackupRequest}
    (htexts : TextsGiven arguments i) (htask : i.task = .command command)
    (hsound : ∀ e, ¬ Fault command e) (h : requested command = .backup request) :
    Given arguments .description request.description := by
  cases command with
  | backup options =>
    cases h
    have hdescription := (htexts.backup options htask).2.2.2.2
    exact given_of_verbatim hdescription fun hblank => hsound _ (.undescribed hblank)
  | restore options => cases h
  | listNodes verbose => cases h
  | listBackups => cases h

/-- So is the metadata file of a restore. -/
theorem given_metadataFile {command : Command} {request : RestoreRequest}
    (htexts : TextsGiven arguments i) (htask : i.task = .command command)
    (hsound : ∀ e, ¬ Fault command e) (h : requested command = .restore request) :
    Given arguments .metadataFile request.metadataFile := by
  cases command with
  | restore options =>
    cases h
    exact given_of_verbatim (htexts.restore options htask) fun hblank => hsound _ (.unnamed hblank)
  | backup options => cases h
  | listNodes verbose => cases h
  | listBackups => cases h

/-- Arguments that cannot be read end a process, well if they ask for an answer about the program. -/
theorem process_of_error {reason : ArgumentError} (he : env.completion = none)
    (h : invocationOf arguments = .error reason) :
    (process w env arguments).calls = [] ∧
      (process w env arguments).exit = if reason.isAnswer then 0 else 2 := by
  simp only [process, he, h]
  split <;> exact ⟨rfl, rfl⟩

/-- Arguments that can be read are run. -/
theorem process_of_ok (he : env.completion = none) (h : invocationOf arguments = .ok i) :
    process w env arguments = runProcess w env i := by
  simp only [process, he, h]

/-- The calls of a process are those of its run. -/
theorem calls_runProcess : (runProcess w env i).calls = (run w i).calls := by
  rw [runProcess]
  split <;> rfl

/-- A run that fails settles how its process ends. -/
theorem exit_of_error {e : RunError} (h : (run w i).result = .error e) :
    (runProcess w env i).exit = e.exitCode := by
  rw [runProcess, h]

/-- A process ends well exactly if its run does. -/
theorem exit_eq_zero_iff : (runProcess w env i).exit = 0 ↔ (run w i).result = .ok () := by
  cases h : (run w i).result with
  | ok _ =>
    rw [runProcess, h]
    exact ⟨fun _ => rfl, fun _ => rfl⟩
  | error e =>
    rw [exit_of_error h]
    exact ⟨fun hzero => absurd hzero e.exitCode_ne_zero, nofun⟩

/-- A text is shown whole exactly if standard output takes it. -/
theorem complete_shown {text : String} : (shown w text).2 = true ↔ Takes w text := by
  cases hroom : w.room with
  | none => simp [shown, Writer.write, Writer.fresh, Takes, hroom]
  | some n => simp [shown, Writer.write, Writer.fresh, Takes, hroom]

/-- A script is all that is made of it, and it is a fault if it is not taken whole. -/
theorem process_of_script {shell : Shell} (h : i.task = .completions shell) :
    (runProcess w env i).calls = [] ∧
      (runProcess w env i).exit = if (shown w (completionScript shell)).2 then 0 else 101 := by
  have hrun : run w i = runScript w shell := by simp only [run, h]
  rw [runProcess, hrun, runScript]
  obtain ⟨written, complete⟩ := shown w (completionScript shell)
  cases complete with
  | true => exact ⟨rfl, rfl⟩
  | false => exact ⟨rfl, rfl⟩

/-- Settings that cannot be resolved are all there is to a run. -/
theorem run_of_unresolved {command : Command} {reason : ConfigError} (h : i.task = .command command)
    (hr : Resolves w.surroundings defaultConfigFile i.flags command (.error reason)) :
    run w i = failure (.configuration reason) reason.events := by
  have hresolve : resolve w.surroundings i.flags command = .error reason := resolves_iff.mp hr
  simp only [run, h, runCommand, hresolve]

/-- So is a connection that cannot be opened. -/
theorem run_of_unconnected {command : Command} {r : Resolved} {reason : ConnectionError}
    (h : i.task = .command command)
    (hr : Resolves w.surroundings defaultConfigFile i.flags command (.ok r))
    (ho : openConnection w.network w.surroundings.files r = .error reason) :
    run w i = failure (.connection reason) reason.events := by
  have hresolve : resolve w.surroundings i.flags command = .ok r := resolves_iff.mp hr
  simp only [run, h, runCommand, hresolve, ho]

/-- Over a channel the command is dispatched. -/
theorem run_of_connected {command : Command} {r : Resolved} {channel : Channel}
    (h : i.task = .command command)
    (hr : Resolves w.surroundings defaultConfigFile i.flags command (.ok r))
    (ho : openConnection w.network w.surroundings.files r = .ok channel) :
    run w i = runOver w r.command channel := by
  have hresolve : resolve w.surroundings i.flags command = .ok r := resolves_iff.mp hr
  simp only [run, h, runCommand, hresolve, ho]

/-- A run over a channel ends well exactly if its command does. -/
theorem result_runOver {command : Command} {channel : Channel} :
    (runOver w command channel).result = .ok () ↔
      (dispatch command channel.coordinator false (.fresh w.room)).result = .ok () := by
  rw [runOver]
  cases (dispatch command channel.coordinator false (.fresh w.room)).result with
  | ok _ => exact ⟨fun _ => rfl, fun _ => rfl⟩
  | error e => exact ⟨nofun, nofun⟩

/-- Over a channel a process does what it owes. -/
theorem connected_runProcess {command : Command} {r : Resolved} {channel : Channel}
    (hi : invocationOf arguments = .ok i) (htask : i.task = .command command)
    (hr : Resolves w.surroundings defaultConfigFile i.flags command (.ok r))
    (ho : openConnection w.network w.surroundings.files r = .ok channel) :
    Connected w arguments i r channel (runProcess w env i) := by
  have hrun := run_of_connected htask hr ho
  have hexit : (runProcess w env i).exit = 0 ↔
      (dispatch r.command channel.coordinator false (.fresh w.room)).result = .ok () := by
    rw [exit_eq_zero_iff, hrun, result_runOver]
  cases hr with
  | layered hlayer hsound hlayered _ hcommand =>
    subst hcommand
    have hreading := invocationOf_eq_ok_iff.mp hi
    have htexts := textsGiven_of_reading hreading
    have hd := dispatched_dispatch hsound channel.coordinator (.fresh w.room)
    -- A writer with unlimited room never fails, which is what the call of a restore needs.
    have hwritable : w.room = none → (Writer.fresh w.room).Reliable :=
      fun hroom => hroom ▸ Writer.reliable_fresh
    have hcalls : (runProcess w env i).calls =
        if reachesCall (.fresh w.room) r.command then [requested r.command] else [] := by
      rw [calls_runProcess, hrun]
      exact hd.calls
    -- The one call that may be made is the one that the command asks for.
    have hrequested : ∀ call ∈ (runProcess w env i).calls, requested r.command = call := by
      intro call hcall
      rw [hcalls] at hcall
      split at hcall
      · exact (List.mem_singleton.mp hcall).symm
      · cases hcall
    exact {
      task := htask
      reading := hreading
      texts := htexts
      settings := ⟨_, hlayer, hlayered⟩
      leads := leads_of_open ho
      calls := hcalls
      called := fun hroom => by rw [hcalls, if_pos (reachesCall_of_reliable (hwritable hroom) _)]
      description := fun _ hcall => given_description htexts htask hsound (hrequested _ hcall)
      metadataFile := fun _ hcall => given_metadataFile htexts htask hsound (hrequested _ hcall)
      honest := fun hzero => hd.honest (hexit.mp hzero)
      decisive := fun hroom => hexit.trans (hd.decisive (hwritable hroom)) }

/-- A process does what it owes for how far it comes. -/
theorem owes_of_comes {stage : Stage} (he : env.completion = none) (h : Comes w arguments stage) :
    Owes w arguments (process w env arguments) stage := by
  cases h with
  | unread hi => exact process_of_error he hi
  | @script i shell hi htask =>
    obtain ⟨hcalls, hexit⟩ := @process_of_script w env i shell htask
    -- The script is written whole, or the process ends with a fault of its own.
    rw [process_of_ok he hi]
    refine ⟨hcalls, ?_⟩
    rw [hexit, ← complete_shown]
    cases (shown w (completionScript shell)).2 <;> simp
  | unresolved hi htask hr =>
    have hrun := run_of_unresolved htask hr
    rw [process_of_ok he hi]
    exact ⟨by rw [calls_runProcess, hrun]; rfl, exit_of_error (by rw [hrun]; rfl)⟩
  | unconnected hi htask hr ho =>
    have hrun := run_of_unconnected htask hr ho
    rw [process_of_ok he hi]
    exact ⟨by rw [calls_runProcess, hrun]; rfl, exit_of_error (by rw [hrun]; rfl)⟩
  | connected hi htask hr ho =>
    rw [process_of_ok he hi]
    exact connected_runProcess hi htask hr ho

/-- No stage is worth more than one call. -/
theorem Owes.calls_le_one {p : ProcessReport} {stage : Stage} (h : Owes w arguments p stage) :
    p.calls.length ≤ 1 := by
  cases stage with
  | connected i r channel =>
    have hconnected : Connected w arguments i r channel p := h
    rw [hconnected.calls]
    split
    · exact Nat.le_refl 1
    · exact Nat.zero_le 1
  | unread reason => exact h.1 ▸ Nat.zero_le 1
  | script shell => exact h.1 ▸ Nat.zero_le 1
  | unresolved i reason => exact h.1 ▸ Nat.zero_le 1
  | unconnected i r reason => exact h.1 ▸ Nat.zero_le 1

/-- Nor is an answer to a request for completion. -/
theorem length_calls_answerCompletion {request : CompletionRequest} {answer : CompletionAnswer}
    (h : answerCompletion w request arguments = .ok answer) : answer.calls.length ≤ 1 := by
  unfold answerCompletion at h
  split at h
  · cases h
  · split at h
    · cases h
      exact Nat.zero_le 1
    · simp only at h
      split at h <;> split at h <;> cases h <;> exact length_candidateCalls ..

/-- A process makes one call at most, even if all it does is to complete a command line. -/
theorem length_calls_process (w : World) (env : Environment) (arguments : List String) :
    (process w env arguments).calls.length ≤ 1 := by
  cases he : env.completion with
  | none =>
    obtain ⟨stage, hcomes⟩ := exists_comes w arguments
    exact (owes_of_comes he hcomes).calls_le_one
  | some request =>
    simp only [process, he]
    cases h : answerCompletion w request arguments with
    | ok answer =>
      dsimp only
      split
      · exact length_calls_answerCompletion h
      · exact length_calls_answerCompletion h
    | error reason => exact Nat.zero_le 1

/-- What is run is what the arguments ask for. -/
theorem Connected.command_eq {command : Command} {r : Resolved} {channel : Channel} {p : ProcessReport}
    (h : Connected w arguments i r channel p) (htask : i.task = .command command) :
    r.command = command := by
  have heq : Task.command r.command = Task.command command := h.task.symm.trans htask
  exact Task.command.inj heq

/-- A backup or a restore ends well exactly if the coordinator at the end of its channel acknowledges
the call. -/
theorem exit_iff_acknowledged {command : Command} (he : env.completion = none) (hroom : w.room = none)
    (hi : invocationOf arguments = .ok i) (htask : i.task = .command command)
    (hl : ¬ IsListing command) :
    (process w env arguments).exit = 0 ↔ ∃ r channel, Comes w arguments (.connected i r channel) ∧
      Acknowledges channel.coordinator (requested command) := by
  have hone : (1 : UInt8) ≠ 0 := by decide
  constructor
  · intro hzero
    -- The arguments ask for a command, and before it has a channel a process ends with 1.
    obtain ⟨stage, hcomes⟩ := exists_comes w arguments
    have howes := owes_of_comes he hcomes
    cases hcomes with
    | unread hi' =>
      rw [hi] at hi'
      cases hi'
    | script hi' htask' =>
      obtain rfl := Except.ok.inj (hi.symm.trans hi')
      rw [htask] at htask'
      cases htask'
    | unresolved => exact absurd (howes.2.symm.trans hzero) hone
    | unconnected => exact absurd (howes.2.symm.trans hzero) hone
    | @connected i' _ r channel hi' htask' hr ho =>
      obtain rfl := Except.ok.inj (hi.symm.trans hi')
      have hconnected : Connected w arguments i r channel (process w env arguments) := howes
      have hcommand := hconnected.command_eq htask
      rcases (hconnected.decisive hroom).mp hzero with hlisting | hack
      · exact absurd (hcommand ▸ hlisting) hl
      · exact ⟨r, channel, .connected hi' htask' hr ho, hcommand ▸ hack⟩
  · rintro ⟨r, channel, hcomes, hack⟩
    have hconnected : Connected w arguments i r channel (process w env arguments) :=
      owes_of_comes he hcomes
    exact (hconnected.decisive hroom).mpr (.inr ((hconnected.command_eq htask).symm ▸ hack))

/-- **A process from its arguments to its exit code.** One call at most is made, whatever happens. A
process that is not asked for completion comes to exactly one stage. Before there is a channel it makes
no call: its arguments cannot be read, or ask for a script, or its settings cannot be resolved, or the
connection cannot be opened. A script ends well exactly if standard output takes it. Behind a channel,
which leads to the address of the settings, it makes the call that its command asks for; a listing ends
well, and a backup or a restore exactly if it is acknowledged, as long as standard output takes what is
written. -/
theorem process_owes (w : World) (env : Environment) (arguments : List String) :
    (process w env arguments).calls.length ≤ 1 ∧
    (env.completion = none →
      (∃! stage, Comes w arguments stage) ∧
      (∀ stage, Comes w arguments stage → Owes w arguments (process w env arguments) stage) ∧
      (w.room = none → ∀ i command, invocationOf arguments = .ok i → i.task = .command command →
        ¬ IsListing command →
        ((process w env arguments).exit = 0 ↔ ∃ r channel,
          Comes w arguments (.connected i r channel) ∧
            Acknowledges channel.coordinator (requested command)))) := by
  refine ⟨length_calls_process w env arguments, fun he => ⟨?_, fun stage => owes_of_comes he, ?_⟩⟩
  · obtain ⟨stage, hcomes⟩ := exists_comes w arguments
    exact ⟨stage, hcomes, fun other ho => ho.unique hcomes⟩
  · intro hroom i command hi htask hl
    exact exit_iff_acknowledged he hroom hi htask hl

/-! ## A backup that is acknowledged -/

/-- A coordinator that acknowledges everything and lists nothing. -/
def obligingCoordinator : Coordinator :=
  ⟨.silence, .silence, fun _ => .value (), fun _ => .value ()⟩

/-- That coordinator listens where no address is given. -/
def localNetwork : Network where
  plain uri := if uri = "http://127.0.0.1:10001" then some obligingCoordinator else none
  encrypted _ _ := none

/-- A world without files. -/
def localWorld : World := ⟨⟨some "/home/operator", ⟨[], []⟩⟩, localNetwork, none⟩

/-- A command line for a backup, whose description begins and ends with a blank. -/
def nightlyArguments : List String := ["run", "backup", "--description", " nightly "]

/-- The backup that it asks for. -/
def nightlyOptions : BackupOptions := ⟨"", "", "", "", " nightly "⟩

/-- All that it asks for. -/
def nightlyInvocation : Invocation := ⟨Flags.none, none, .command (.backup nightlyOptions)⟩

/-- The blanks of the description go to the coordinator, which acknowledges the call. -/
theorem nightly_backup_acknowledged :
    (process localWorld ⟨none, none⟩ nightlyArguments).calls = [.backup ⟨0, 0, 0, 0, " nightly "⟩] ∧
      ∃ r channel, Comes localWorld nightlyArguments (.connected nightlyInvocation r channel) ∧
        Acknowledges channel.coordinator (requested (.backup nightlyOptions)) := by
  have hzero : (process localWorld ⟨none, none⟩ nightlyArguments).exit = 0 := by decide
  have hread : invocationOf nightlyArguments = .ok nightlyInvocation := by rfl
  have hends := ((process_owes localWorld ⟨none, none⟩ nightlyArguments).2 rfl).2.2 rfl
  exact ⟨by decide, (hends _ _ hread rfl id).mp hzero⟩

end BackupConsole.Program
