/-
  What a command line asks for, value by value.

  1. **Specification** — `HasText` and `HasTruth`: the value of a slot is that of its innermost occurrence,
     and there is a value for a slot that does not occur. `AsksFor`: the task is that of the command word,
     with the values of the command's own slots. `Reading` puts these to the grammar of lines.

  2. **Program** — `AsksFor.task_eq`: the levels of a line leave no choice of the task.

  3. **Correctness** — `invocationOf_eq_ok_iff`: the invocation of some arguments is the one that `Reading`
     describes, and there is none where `Reading` describes none.
-/
import BackupConsole.Proofs.GlobalOptions

namespace BackupConsole.Arguments

variable {leaf : Leaf} {slot : Slot} {arguments : List String} {levels : List (List Filled)}
  {i : Invocation} {task : Task}

/-! ## Values -/

/-- The text of a slot is that of its innermost occurrence; if it does not occur it is empty. -/
def HasText (slot : Slot) (levels : List (List Filled)) (text : String) : Prop :=
  ∃ given, Innermost slot levels given ∧ text = given.getD ""

/-- The truth value of a slot is that of its innermost occurrence; if it does not occur there is another one
for it. -/
def HasTruth (slot : Slot) (levels : List (List Filled)) (default b : Bool) : Prop :=
  ∃ given, Innermost slot levels given ∧ b = (given.map fun word => word == "true").getD default

/-- What the levels of a line ask for, whose command words lead to a command. -/
inductive AsksFor (levels : List (List Filled)) : Leaf → Task → Prop
  | backup {options : BackupOptions} :
    HasText .backupType levels options.kind → HasText .destinationType levels options.destination →
    HasText .compressionAlgorithm levels options.compression →
    HasText .encryptionAlgorithm levels options.cipher →
    HasText .description levels options.description →
    AsksFor levels .backup (.command (.backup options))
  /-- Users and roles are left out, unless the operator says otherwise. -/
  | restore {options : RestoreOptions} :
    HasText .metadataFile levels options.metadataFile →
    HasTruth .skipUsersAndRoles levels true options.skipUsersAndRoles →
    AsksFor levels .restore (.command (.restore options))
  | nodes {verbose : Bool} : HasTruth .verbose levels false verbose →
    AsksFor levels .nodes (.command (.listNodes verbose))
  | backups : AsksFor levels .backups (.command .listBackups)
  | completions {shell : Shell} : HasText .shell levels shell.word →
    AsksFor levels .completions (.completions shell)

/-- An invocation is what some arguments say: they are a sound line, and all that the invocation holds is
given at the levels of this line, flags and log filter as well as the task. -/
def Reading (arguments : List String) (i : Invocation) : Prop :=
  ∃ leaf levels, Line Level.program arguments leaf levels ∧ Sound ⟨leaf, levels⟩ ∧
    TakesInnermost levels i ∧ AsksFor levels leaf i.task

/-! ## Tasks -/

/-- A text is the one that counts among all levels. -/
theorem HasText.eq (h : ∀ filled ∈ levels, Checked filled) {text : String}
    (ht : HasText slot levels text) : text = (deepest slot levels).getD "" := by
  obtain ⟨given, hgiven, rfl⟩ := ht
  rw [(innermost_iff h).mpr hgiven]

/-- A truth value is the one that counts among all levels, or the default. -/
theorem HasTruth.eq (h : ∀ filled ∈ levels, Checked filled) {default b : Bool}
    (hb : HasTruth slot levels default b) :
    b = ((deepest slot levels).map fun word => word == "true").getD default := by
  obtain ⟨given, hgiven, rfl⟩ := hb
  rw [(innermost_iff h).mpr hgiven]

/-- The text of a slot is had from the deepest level that has one. -/
theorem hasText_deepest (slot : Slot) (levels : List (List Filled)) :
    HasText slot levels ((deepest slot levels).getD "") := ⟨_, innermost_deepest slot levels, rfl⟩

/-- So is its truth value. -/
theorem hasTruth_deepest (slot : Slot) (levels : List (List Filled)) (default : Bool) :
    HasTruth slot levels default
      (((deepest slot levels).map fun word => word == "true").getD default) :=
  ⟨_, innermost_deepest slot levels, rfl⟩

/-- The word of a shell is that of no other. -/
theorem Shell.ofWord_word (shell : Shell) : Shell.ofWord shell.word = shell := by
  cases shell <;> decide

/-- A word that the slot of a shell accepts is the word of a shell. -/
theorem Shell.word_ofWord {word : String} (h : Slot.shell.accepts word = true) :
    (Shell.ofWord word).word = word := by
  have hwords : ∀ w ∈ Slot.shellWords, (Shell.ofWord w).word = w := by decide
  exact hwords word (by simpa [Slot.accepts, Slot.words, Slot.shellWords] using h)

/-- The levels leave no choice. -/
theorem AsksFor.task_eq (h : ∀ filled ∈ levels, Checked filled) (ha : AsksFor levels leaf task) :
    task = (CommandLine.mk leaf levels).task := by
  cases ha with
  | @backup options hkind hdestination hcompression hcipher hdescription =>
    obtain ⟨kind, destination, compression, cipher, description⟩ := options
    simp only at hkind hdestination hcompression hcipher hdescription
    rw [hkind.eq h, hdestination.eq h, hcompression.eq h, hcipher.eq h, hdescription.eq h]
    rfl
  | @restore options hfile hskip =>
    obtain ⟨file, skip⟩ := options
    simp only at hfile hskip
    rw [hfile.eq h, hskip.eq h]
    rfl
  | nodes hverbose =>
    rw [hverbose.eq h]
    rfl
  | backups => rfl
  | completions hshell =>
    rw [CommandLine.task]
    dsimp only [CommandLine.value]
    rw [← hshell.eq h, Shell.ofWord_word]

/-- A slot that a command needs has a value. -/
theorem Sound.exists_value (h : Sound ⟨leaf, levels⟩) (hneeds : slot ∈ (Level.leaf leaf).needs) :
    ∃ value, deepest slot levels = some value ∧ slot.accepts value = true := by
  have hlast : slot ∈ slotsOf (levels.getLastD []) := h.complete slot hneeds
  cases hvalue : deepest slot levels with
  | none =>
    exfalso
    have hnowhere := deepest_eq_none_iff.mp hvalue
    rcases List.eq_nil_or_concat' levels with rfl | ⟨outer, filled, rfl⟩
    · cases hlast
    · rw [List.getLastD_concat] at hlast
      exact hnowhere filled (List.mem_append_right _ List.mem_cons_self) hlast
  | some value =>
    obtain ⟨filled, hfilled, hmem⟩ := exists_level_of_deepest hvalue
    exact ⟨value, rfl, (h.checked filled hfilled).accepted _ hmem⟩

/-- So the shell that completions are for is the one that is named. -/
theorem Sound.hasText_shell (h : Sound ⟨.completions, levels⟩) :
    HasText .shell levels (Shell.ofWord ((deepest .shell levels).getD "")).word := by
  obtain ⟨word, hword, haccepted⟩ := @Sound.exists_value _ .shell _ h (by decide)
  have htext := hasText_deepest .shell levels
  rw [hword, Option.getD_some] at htext ⊢
  rwa [Shell.word_ofWord haccepted]

/-- What the program takes a line for is what the line asks for. -/
theorem Sound.asksFor (h : Sound ⟨leaf, levels⟩) :
    AsksFor levels leaf (CommandLine.mk leaf levels).task := by
  cases leaf with
  | backup =>
    exact .backup (hasText_deepest ..) (hasText_deepest ..) (hasText_deepest ..) (hasText_deepest ..)
      (hasText_deepest ..)
  | restore => exact .restore (hasText_deepest ..) (hasTruth_deepest ..)
  | nodes => exact .nodes (hasTruth_deepest ..)
  | backups => exact .backups
  | completions => exact .completions h.hasText_shell

/-! ## Correctness -/

/-- Flags, log filter and task are all there is to an invocation. -/
theorem TakesInnermost.eq {other : Invocation} (h : TakesInnermost levels i)
    (ho : TakesInnermost levels other) (htask : i.task = other.task) : i = other := by
  obtain ⟨⟨tls, caFile, serverAddress, config⟩, logLevel, task⟩ := i
  have htls := (ho.tls tls).mpr ((h.tls tls).mp rfl)
  have hca := (ho.caFile caFile).mpr ((h.caFile caFile).mp rfl)
  have hserver := (ho.serverAddress serverAddress).mpr ((h.serverAddress serverAddress).mp rfl)
  have hconfig := (ho.config config).mpr ((h.config config).mp rfl)
  have hlog := (ho.logLevel logLevel).mpr ((h.logLevel logLevel).mp rfl)
  obtain ⟨⟨tls', caFile', serverAddress', config'⟩, logLevel', task'⟩ := other
  simp_all

/-- **What arguments ask for.** An invocation is had from some arguments exactly if it is what they say. -/
theorem invocationOf_eq_ok_iff : invocationOf arguments = .ok i ↔ Reading arguments i := by
  constructor
  · intro h
    obtain ⟨c, hread, rfl⟩ := exists_read_of_invocationOf h
    obtain ⟨hline, hsound⟩ := read_eq_ok_iff.mp hread
    exact ⟨c.leaf, c.levels, hline, hsound, takesInnermost hsound.checked, hsound.asksFor⟩
  · rintro ⟨leaf, levels, hline, hsound, htakes, hasks⟩
    have hread : read arguments = .ok ⟨leaf, levels⟩ := read_eq_ok_iff.mpr ⟨hline, hsound⟩
    have hsame : (CommandLine.mk leaf levels).invocation = i :=
      TakesInnermost.eq (takesInnermost hsound.checked) htakes (hasks.task_eq hsound.checked).symm
    rw [invocationOf, hread, ← hsame]
    rfl

end BackupConsole.Arguments
