/-
  Command lines that are written out, and what they ask for.

  1. **Specification** — `OwnOptions`: the options that make a command what it is. `Writes`: a whole command
     line, with the options of the command in any order and each global option at any of the three levels,
     each option and its value as one argument (`Spells`).

  2. **Lines** — what is written out is a line of the grammar (`line_written`), and a sound one
     (`sound_written`): no slot is filled twice, and the command has what it needs.

  3. **Values** — `value_eq_some_iff`: where no slot is filled twice, the value that counts is the one that
     is there, at whatever level.

  4. **Correctness** — `written_line_asks`.
-/
import BackupConsole.Proofs.LineGrammar
import Mathlib.Data.List.Forall2

namespace BackupConsole.Arguments

open Settings (Flags)

/-! ## Writing -/

/-- A truth value as a word. -/
def truthWord (b : Bool) : String := if b then "true" else "false"

/-- A slot with its value, if there is one. -/
def optional (slot : Slot) (value : Option String) : List Filled :=
  (value.map fun text => (slot, text)).toList

/-- The global options that give some flags and a log filter. -/
def globalOptions (flags : Flags) (logLevel : Option String) : List Filled :=
  optional .tls (flags.tls.map truthWord) ++ optional .caFile flags.caFile
    ++ optional .serverAddress flags.serverAddress ++ optional .config flags.configFile
    ++ optional .logLevel logLevel

/-- What is given for a word of a backup: the word, or nothing for an empty one. -/
inductive GivenFor (slot : Slot) : String → Option String → Prop
  | word {text : String} : slot.accepts text = true → GivenFor slot text (some text)
  | nothing : GivenFor slot "" none

/-- The options that make a command what it is. -/
inductive OwnOptions : Command → List Filled → Prop
  | backup {options : BackupOptions} {kind destination compression cipher : Option String} :
    GivenFor .backupType options.kind kind → GivenFor .destinationType options.destination destination →
    GivenFor .compressionAlgorithm options.compression compression →
    GivenFor .encryptionAlgorithm options.cipher cipher →
    OwnOptions (.backup options)
      (optional .backupType kind ++ optional .destinationType destination
        ++ optional .compressionAlgorithm compression ++ optional .encryptionAlgorithm cipher
        ++ optional .description (some options.description))
  | restore {options : RestoreOptions} :
    OwnOptions (.restore options)
      (optional .skipUsersAndRoles (some (truthWord options.skipUsersAndRoles)))
  | listNodes {verbose : Bool} :
    OwnOptions (.listNodes verbose) (optional .verbose (if verbose then some "true" else none))
  | listBackups : OwnOptions .listBackups []

/-- The slots of the options that belong to a command alone. -/
def Leaf.ownSlots : Leaf → List Slot
  | .completions => []
  | .backup => [.backupType, .destinationType, .compressionAlgorithm, .encryptionAlgorithm, .description]
  | .restore => [.skipUsersAndRoles]
  | .nodes => [.verbose]
  | .backups => []

end BackupConsole.Arguments

namespace BackupConsole.Command

open Arguments

/-- The group a command belongs to. -/
def group : Command → Group
  | .backup _ | .restore _ => .run
  | .listNodes _ | .listBackups => .list

/-- The leaf of the tree of commands at which a command is asked for. -/
def leaf : Command → Leaf
  | .backup _ => .backup
  | .restore _ => .restore
  | .listNodes _ => .nodes
  | .listBackups => .backups

/-- The word that leads to the group of a command. -/
def groupWord : Command → String
  | .backup _ | .restore _ => "run"
  | .listNodes _ | .listBackups => "list"

/-- The word that leads from there to the command. -/
def leafWord : Command → String
  | .backup _ => "backup"
  | .restore _ => "restore"
  | .listNodes _ => "nodes"
  | .listBackups => "backups"

/-- The place of a command, filled. -/
def place : Command → List Filled
  | .restore options => [(.metadataFile, options.metadataFile)]
  | _ => []

/-- The arguments behind all options. -/
def tail : Command → List String
  | .restore options => ["--", options.metadataFile]
  | _ => []

/-- A command's first word leads to its group. -/
theorem next?_groupWord (command : Command) :
    Level.program.next? command.groupWord = some (.level (.group command.group)) := by
  cases command <;> rfl

theorem next?_leafWord (command : Command) :
    (Level.group command.group).next? command.leafWord = some (.level (.leaf command.leaf)) := by
  cases command <;> rfl

end BackupConsole.Command

namespace BackupConsole.Arguments

open Settings (Flags)

/-- A command line that asks for a command with some flags and a log filter. Its global options stand
before the first command word, between the two words or behind the second, each where it likes. -/
inductive Writes (flags : Flags) (logLevel : Option String) (command : Command) : List String → Prop
  | line {own outer middle inner : List Filled} {before between behind : List String} :
    OwnOptions command own → (outer ++ middle ++ inner).Perm (globalOptions flags logLevel ++ own) →
    (∀ entry ∈ outer ++ middle, entry.1 ∈ Slot.globals) → List.Forall₂ Spells outer before →
    List.Forall₂ Spells middle between → List.Forall₂ Spells inner behind →
    Writes flags logLevel command
      (before ++ command.groupWord :: (between ++ command.leafWord :: (behind ++ command.tail)))

variable {slot : Slot} {value : String}

/-! ## The slots of a command line -/

variable {flags : Flags} {logLevel : Option String} {command : Command} {own : List Filled}

theorem mem_optional {entry : Filled} {given : Option String} :
    entry ∈ optional slot given ↔ entry.1 = slot ∧ given = some entry.2 := by
  obtain ⟨s, text⟩ := entry
  cases given with
  | none => simp [optional]
  | some word => simp [optional, eq_comm]

theorem slotsOf_optional_sublist (slot : Slot) (given : Option String) :
    (slotsOf (optional slot given)).Sublist [slot] := by
  cases given with
  | none => exact List.nil_sublist _
  | some word => exact List.Sublist.refl _

/-- Each global option is written once at most. -/
theorem slotsOf_globalOptions_sublist (flags : Flags) (logLevel : Option String) :
    (slotsOf (globalOptions flags logLevel)).Sublist Slot.globals := by
  simp only [globalOptions, slotsOf_append]
  have hconnection := ((slotsOf_optional_sublist .tls (flags.tls.map truthWord)).append
    (slotsOf_optional_sublist .caFile flags.caFile)).append
    (slotsOf_optional_sublist .serverAddress flags.serverAddress)
  exact (hconnection.append (slotsOf_optional_sublist .config flags.configFile)).append
    (slotsOf_optional_sublist .logLevel logLevel)

theorem OwnOptions.sublist (h : OwnOptions command own) : (slotsOf own).Sublist command.leaf.ownSlots := by
  cases h with
  | @backup options kind destination compression cipher =>
    simp only [slotsOf_append]
    have hplaced := (slotsOf_optional_sublist .backupType kind).append
      (slotsOf_optional_sublist .destinationType destination)
    have hcoded := (hplaced.append (slotsOf_optional_sublist .compressionAlgorithm compression)).append
      (slotsOf_optional_sublist .encryptionAlgorithm cipher)
    exact hcoded.append (slotsOf_optional_sublist .description (some options.description))
  | restore => exact slotsOf_optional_sublist _ _
  | listNodes => exact slotsOf_optional_sublist _ _
  | listBackups => exact List.nil_sublist _

/-- What stands at a command's place fills the place of its leaf. -/
theorem slotsOf_place (command : Command) :
    slotsOf command.place = (Level.leaf command.leaf).place?.toList := by
  cases command <;> rfl

/-- No slot is filled twice. -/
theorem OwnOptions.nodup (h : OwnOptions command own) (flags : Flags) (logLevel : Option String) :
    (slotsOf (globalOptions flags logLevel ++ own ++ command.place)).Nodup := by
  have hall : ∀ leaf : Leaf,
      (Slot.globals ++ leaf.ownSlots ++ (Level.leaf leaf).place?.toList).Nodup := by
    intro leaf
    cases leaf <;> decide
  refine List.Nodup.sublist ?_ (hall command.leaf)
  rw [slotsOf_append, slotsOf_append, slotsOf_place]
  exact ((slotsOf_globalOptions_sublist flags logLevel).append h.sublist).append (List.Sublist.refl _)

theorem accepts_truthWord (h : slot.words = Slot.truthWords) (b : Bool) :
    slot.accepts (truthWord b) = true := by
  rw [Slot.accepts, h]
  cases b <;> decide

theorem accepts_of_words_eq_nil (h : slot.words = []) (text : String) : slot.accepts text = true := by
  rw [Slot.accepts, h]
  rfl

/-- What is written for the global options is accepted. -/
theorem accepts_globalOptions {entry : Filled} (h : entry ∈ globalOptions flags logLevel) :
    entry.1.accepts entry.2 = true := by
  simp only [globalOptions, List.mem_append, mem_optional] at h
  rcases h with (((⟨hslot, hgiven⟩ | ⟨hslot, -⟩) | ⟨hslot, -⟩) | ⟨hslot, -⟩) | ⟨hslot, -⟩
  · obtain ⟨b, -, hb⟩ := Option.map_eq_some_iff.mp hgiven
    rw [hslot, ← hb]
    exact accepts_truthWord rfl b
  all_goals
    rw [hslot]
    exact accepts_of_words_eq_nil rfl _

theorem GivenFor.accepts {text word : String} (h : GivenFor slot text (some word)) :
    slot.accepts word = true := by
  cases h with
  | word haccepts => exact haccepts

theorem OwnOptions.accepts (h : OwnOptions command own) {entry : Filled} (he : entry ∈ own) :
    entry.1.accepts entry.2 = true := by
  -- Each option that is written has a word which its slot accepts.
  cases h with
  | backup hkind hdestination hcompression hcipher =>
    simp only [List.mem_append, mem_optional] at he
    rcases he with (((⟨hslot, rfl⟩ | ⟨hslot, rfl⟩) | ⟨hslot, rfl⟩) | ⟨hslot, rfl⟩) | ⟨hslot, -⟩
    · exact hslot ▸ hkind.accepts
    · exact hslot ▸ hdestination.accepts
    · exact hslot ▸ hcompression.accepts
    · exact hslot ▸ hcipher.accepts
    · rw [hslot]
      exact accepts_of_words_eq_nil rfl _
  | restore =>
    obtain ⟨hslot, hword⟩ := mem_optional.mp he
    rw [hslot, ← Option.some.inj hword]
    exact accepts_truthWord rfl _
  | listNodes =>
    obtain ⟨hslot, -⟩ := mem_optional.mp he
    rw [hslot]
    exact accepts_of_words_eq_nil rfl _
  | listBackups => cases he

/-- A place takes any word. -/
theorem accepts_place {entry : Filled} (h : entry ∈ command.place) : entry.1.accepts entry.2 = true := by
  cases command with
  | restore options =>
    rw [List.mem_singleton.mp h]
    exact accepts_of_words_eq_nil rfl _
  | backup _ | listNodes _ | listBackups => cases h

/-- The global options can be set at every level. -/
theorem mem_options_of_mem_globals (h : slot ∈ Slot.globals) (level : Level) :
    slot ∈ level.options ∧ slot.IsSet := by
  have hall : ∀ s ∈ Slot.globals, s ∈ level.options ∧ s ≠ .help ∧ s ≠ .version := by
    rcases level with g | l
    · cases g <;> decide
    · cases l <;> decide
  exact hall slot h

theorem mem_options_of_mem_slots (h : slot ∈ command.leaf.ownSlots) :
    slot ∈ (Level.leaf command.leaf).options ∧ slot.IsSet := by
  have hall : ∀ leaf : Leaf, ∀ s ∈ leaf.ownSlots,
      s ∈ (Level.leaf leaf).options ∧ s ≠ .help ∧ s ≠ .version := by
    intro leaf
    cases leaf <;> decide
  exact hall command.leaf slot h

theorem mem_globals_of_mem_globalOptions {entry : Filled} (h : entry ∈ globalOptions flags logLevel) :
    entry.1 ∈ Slot.globals :=
  (slotsOf_globalOptions_sublist flags logLevel).subset (List.mem_map_of_mem h)

theorem OwnOptions.mem_ownSlots (h : OwnOptions command own) {entry : Filled} (he : entry ∈ own) :
    entry.1 ∈ command.leaf.ownSlots :=
  h.sublist.subset (List.mem_map_of_mem he)

/-- All options can be read at the level of the command. -/
theorem OwnOptions.readable (h : OwnOptions command own) {entry : Filled}
    (he : entry ∈ globalOptions flags logLevel ++ own) :
    entry.1 ∈ (Level.leaf command.leaf).options ∧ entry.1.IsSet ∧ entry.1.accepts entry.2 = true := by
  rcases List.mem_append.mp he with he | he
  · obtain ⟨hoption, hset⟩ :=
      mem_options_of_mem_globals (mem_globals_of_mem_globalOptions he) (.leaf command.leaf)
    exact ⟨hoption, hset, accepts_globalOptions he⟩
  · obtain ⟨hoption, hset⟩ := mem_options_of_mem_slots (h.mem_ownSlots he)
    exact ⟨hoption, hset, h.accepts he⟩

/-- What a command needs is among its own options or in its place. -/
theorem OwnOptions.needs (h : OwnOptions command own) (hneeds : slot ∈ (Level.leaf command.leaf).needs) :
    slot ∈ slotsOf (own ++ command.place) := by
  cases h with
  | backup =>
    obtain rfl : slot = .description := List.mem_singleton.mp hneeds
    simp [slotsOf, optional]
  | restore =>
    obtain rfl : slot = .metadataFile := List.mem_singleton.mp hneeds
    simp [slotsOf, Command.place]
  | listNodes => cases hneeds
  | listBackups => cases hneeds

/-- Neither an option of a command alone nor its place is global. -/
theorem not_mem_globals {leaf : Leaf} (h : slot ∈ leaf.ownSlots ++ (Level.leaf leaf).place?.toList) :
    slot ∉ Slot.globals := by
  have hall : ∀ s ∈ leaf.ownSlots ++ (Level.leaf leaf).place?.toList, s ∉ Slot.globals := by
    cases leaf <;> decide
  exact hall slot h

theorem OwnOptions.mem_apart (h : OwnOptions command own) {entry : Filled}
    (he : entry ∈ own ++ command.place) : entry.1 ∉ Slot.globals := by
  have hslot : entry.1 ∈ command.leaf.ownSlots ++ (Level.leaf command.leaf).place?.toList := by
    rw [← slotsOf_place]
    exact List.mem_append.mpr ((List.mem_append.mp he).imp h.mem_ownSlots List.mem_map_of_mem)
  exact not_mem_globals hslot

/-! ## Whole command lines -/

/-- Options that are written out come before all else at a level. -/
theorem Line.spelled {level : Level} {leaf : Leaf} {options filled : List Filled}
    {deeper : List (List Filled)} {words rest : List String} (h : List.Forall₂ Spells options words)
    (hoptions : ∀ entry ∈ options, entry.1 ∈ level.options ∧ entry.1.IsSet)
    (hline : Line level rest leaf (filled :: deeper)) :
    Line level (words ++ rest) leaf ((options ++ filled) :: deeper) := by
  induction h with
  | nil => exact hline
  | @cons entry word options words hspells _ ih =>
    obtain ⟨slot, value⟩ := entry
    obtain ⟨hoption, hset⟩ := hoptions (slot, value) List.mem_cons_self
    have hrest := ih fun other hother => hoptions other (List.mem_cons_of_mem _ hother)
    show Line level ([word] ++ (words ++ rest)) leaf (((slot, value) :: (options ++ filled)) :: deeper)
    exact .piece (.whole hoption hset hspells) hrest

/-- What stands behind the options of a command fills its place. -/
theorem line_tail (command : Command) :
    Line (.leaf command.leaf) command.tail command.leaf [command.place] := by
  cases command with
  | restore options => exact .behind rfl
  | backup _ | listNodes _ | listBackups => exact .ended

section

variable {outer middle inner : List Filled} {beforeWords betweenWords behindWords : List String}

/-- A command line that is written out is a line, with its options at the levels where they stand. -/
theorem line_written (hown : OwnOptions command own)
    (hperm : (outer ++ middle ++ inner).Perm (globalOptions flags logLevel ++ own))
    (hglobal : ∀ entry ∈ outer ++ middle, entry.1 ∈ Slot.globals)
    (houter : List.Forall₂ Spells outer beforeWords) (hmiddle : List.Forall₂ Spells middle betweenWords)
    (hinner : List.Forall₂ Spells inner behindWords) :
    Line Level.program (beforeWords ++ command.groupWord ::
        (betweenWords ++ command.leafWord :: (behindWords ++ command.tail)))
      command.leaf [outer, middle, inner ++ command.place] := by
  have hupper : ∀ entry ∈ outer ++ middle, ∀ level : Level, entry.1 ∈ level.options ∧ entry.1.IsSet :=
    fun entry hentry => mem_options_of_mem_globals (hglobal entry hentry)
  have hlower : ∀ entry ∈ inner, entry.1 ∈ (Level.leaf command.leaf).options ∧ entry.1.IsSet := by
    intro entry hentry
    obtain ⟨hoption, hset, -⟩ := hown.readable (hperm.mem_iff.mp (List.mem_append_right _ hentry))
    exact ⟨hoption, hset⟩
  -- From the innermost level outwards, each with the word that leads to the one within.
  have hleaf := Line.spelled hinner hlower (line_tail command)
  have hgroup := Line.spelled hmiddle
    (fun entry hentry => hupper entry (List.mem_append_right _ hentry) (.group command.group))
    (.word command.next?_leafWord hleaf)
  have hprogram := Line.spelled houter
    (fun entry hentry => hupper entry (List.mem_append_left _ hentry) Level.program)
    (.word command.next?_groupWord hgroup)
  rwa [List.append_nil, List.append_nil] at hprogram

/-- No slot of such a line is filled twice, at whatever levels. -/
theorem nodup_written (hown : OwnOptions command own)
    (hperm : (outer ++ middle ++ inner).Perm (globalOptions flags logLevel ++ own)) :
    (slotsOf (outer ++ middle ++ inner ++ command.place)).Nodup :=
  ((hperm.append_right command.place).map Prod.fst).nodup_iff.mpr (hown.nodup flags logLevel)

/-- Its command has all that it needs at its own level: what it needs is not global. -/
theorem needs_written (hown : OwnOptions command own)
    (hperm : (outer ++ middle ++ inner).Perm (globalOptions flags logLevel ++ own))
    (hglobal : ∀ entry ∈ outer ++ middle, entry.1 ∈ Slot.globals)
    (hneeds : slot ∈ (Level.leaf command.leaf).needs) : slot ∈ slotsOf (inner ++ command.place) := by
  have hmem := hown.needs hneeds
  rw [slotsOf_append] at hmem ⊢
  refine List.mem_append.mpr ((List.mem_append.mp hmem).imp_left fun hmem => ?_)
  obtain ⟨entry, hentry, rfl⟩ := List.mem_map.mp hmem
  rcases List.mem_append.mp (hperm.mem_iff.mpr (List.mem_append_right _ hentry)) with hplaced | hplaced
  · exact absurd (hglobal entry hplaced) (hown.mem_apart (List.mem_append_left _ hentry))
  · exact List.mem_map_of_mem hplaced

/-- So it is sound. -/
theorem sound_written (hown : OwnOptions command own)
    (hperm : (outer ++ middle ++ inner).Perm (globalOptions flags logLevel ++ own))
    (hglobal : ∀ entry ∈ outer ++ middle, entry.1 ∈ Slot.globals) :
    Sound ⟨command.leaf, [outer, middle, inner ++ command.place]⟩ where
  checked := by
    intro filled hfilled
    have hpart : filled.Sublist (outer ++ middle ++ inner ++ command.place) := by
      simpa using List.sublist_flatten_of_mem hfilled
    refine ⟨(nodup_written hown hperm).sublist (hpart.map Prod.fst), fun entry hentry => ?_⟩
    rcases List.mem_append.mp (hpart.subset hentry) with hentry | hentry
    · exact (hown.readable (hperm.mem_iff.mp hentry)).2.2
    · exact accepts_place hentry
  complete := fun _ hslot => needs_written hown hperm hglobal hslot

end

/-! ## Values -/

theorem mem_of_valueOf {filled : List Filled} (h : valueOf slot filled = some value) :
    (slot, value) ∈ filled := by
  obtain ⟨before, after, rfl, -⟩ := List.lookup_eq_some_iff.mp h
  simp

/-- The value that counts is one of some level. -/
theorem exists_level_of_deepest {levels : List (List Filled)} (h : deepest slot levels = some value) :
    ∃ filled ∈ levels, (slot, value) ∈ filled := by
  induction levels with
  | nil => cases h
  | cons filled deeper ih =>
    rw [deepest] at h
    rcases Option.or_eq_some_iff.mp h with h | ⟨-, h⟩
    · obtain ⟨found, hfound, hmem⟩ := ih h
      exact ⟨found, List.mem_cons_of_mem _ hfound, hmem⟩
    · exact ⟨filled, List.mem_cons_self, mem_of_valueOf h⟩

/-- Where no slot is given twice, a slot has the value that it is given. -/
theorem valueOf_of_mem {filled : List Filled} (hdistinct : (slotsOf filled).Nodup)
    (h : (slot, value) ∈ filled) : valueOf slot filled = some value := by
  obtain ⟨before, after, rfl⟩ := List.append_of_mem h
  rw [slotsOf_append] at hdistinct
  obtain ⟨-, -, hapart⟩ := List.nodup_append.mp hdistinct
  refine List.lookup_eq_some_iff.mpr ⟨before, after, rfl, fun entry hentry => ?_⟩
  have hother : entry.1 ≠ slot := hapart entry.1 (List.mem_map_of_mem hentry) slot (by simp [slotsOf])
  simpa using hother.symm

/-- Where no slot is filled twice, a value counts at whatever level it stands. -/
theorem deepest_eq_some_iff {levels : List (List Filled)} (hdistinct : (slotsOf levels.flatten).Nodup) :
    deepest slot levels = some value ↔ (slot, value) ∈ levels.flatten := by
  constructor
  · intro h
    obtain ⟨filled, hfilled, hmem⟩ := exists_level_of_deepest h
    exact List.mem_flatten.mpr ⟨filled, hfilled, hmem⟩
  · intro h
    induction levels with
    | nil => cases h
    | cons filled deeper ih =>
      rw [List.flatten_cons, slotsOf_append] at hdistinct
      obtain ⟨hfilled, hdeeper, hapart⟩ := List.nodup_append.mp hdistinct
      rw [deepest, Option.or_eq_some_iff]
      rcases List.mem_append.mp (List.flatten_cons ▸ h) with hmem | hmem
      · refine .inr ⟨?_, valueOf_of_mem hfilled hmem⟩
        -- A slot that is filled here is filled nowhere below.
        rw [Option.eq_none_iff_forall_ne_some]
        intro text htext
        obtain ⟨below, hbelow, hother⟩ := exists_level_of_deepest htext
        have hagain : slot ∈ slotsOf deeper.flatten :=
          List.mem_map.mpr ⟨(slot, text), List.mem_flatten.mpr ⟨below, hbelow, hother⟩, rfl⟩
        exact hapart slot (List.mem_map_of_mem hmem) slot hagain rfl
      · exact .inl (ih hdeeper hmem)

/-- The values of a command line are those that were written. -/
theorem value_eq_some_iff {outer middle inner : List Filled} (hown : OwnOptions command own)
    (hperm : (outer ++ middle ++ inner).Perm (globalOptions flags logLevel ++ own)) :
    CommandLine.value ⟨command.leaf, [outer, middle, inner ++ command.place]⟩ slot = some value ↔
      (slot, value) ∈ globalOptions flags logLevel ++ own ++ command.place := by
  have hflat : [outer, middle, inner ++ command.place].flatten =
      outer ++ middle ++ inner ++ command.place := by simp
  have hdistinct : (slotsOf [outer, middle, inner ++ command.place].flatten).Nodup := by
    rw [hflat]
    exact nodup_written hown hperm
  rw [CommandLine.value, deepest_eq_some_iff hdistinct, hflat,
    (hperm.append_right command.place).mem_iff]

/-- Of the two words for truth values only one reads as true. -/
theorem truthWord_beq (b : Bool) : (truthWord b == "true") = b := by cases b <;> rfl

theorem truth_of_value {c : CommandLine} {given : Option Bool} (h : c.value slot = given.map truthWord) :
    c.truth slot = given := by
  rw [CommandLine.truth, h]
  cases given with
  | none => rfl
  | some b => exact congrArg some (truthWord_beq b)

theorem GivenFor.getD_eq {text : String} {given : Option String} (h : GivenFor slot text given) :
    given.getD "" = text := by
  cases h <;> rfl

/-- The flags and the log filter are what the global options give. -/
theorem flags_of_value {c : CommandLine}
    (h : ∀ slot ∈ Slot.globals, ∀ value,
      c.value slot = some value ↔ (slot, value) ∈ globalOptions flags logLevel) :
    c.flags = flags ∧ c.value .logLevel = logLevel := by
  have htls : c.value .tls = flags.tls.map truthWord :=
    Option.ext fun value => by simp [h .tls (by decide), globalOptions, mem_optional]
  have hca : c.value .caFile = flags.caFile :=
    Option.ext fun value => by simp [h .caFile (by decide), globalOptions, mem_optional]
  have hserver : c.value .serverAddress = flags.serverAddress :=
    Option.ext fun value => by simp [h .serverAddress (by decide), globalOptions, mem_optional]
  have hconfig : c.value .config = flags.configFile :=
    Option.ext fun value => by simp [h .config (by decide), globalOptions, mem_optional]
  have hlog : c.value .logLevel = logLevel :=
    Option.ext fun value => by simp [h .logLevel (by decide), globalOptions, mem_optional]
  exact ⟨by rw [CommandLine.flags, truth_of_value htls, hca, hserver, hconfig], hlog⟩

/-- The task is the command whose own options and place are filled. -/
theorem OwnOptions.task (hown : OwnOptions command own) {c : CommandLine} (hleaf : c.leaf = command.leaf)
    (h : ∀ slot ∉ Slot.globals, ∀ value,
      c.value slot = some value ↔ (slot, value) ∈ own ++ command.place) :
    c.task = .command command := by
  -- The slots of the command are its own, so each has the value that was written for it.
  cases hown with
  | @backup options kind destination compression cipher hkind hdestination hcompression hcipher =>
    have hvalueKind : c.value .backupType = kind :=
      Option.ext fun value => by simp [h .backupType (by decide), mem_optional, Command.place]
    have hvalueDestination : c.value .destinationType = destination :=
      Option.ext fun value => by simp [h .destinationType (by decide), mem_optional, Command.place]
    have hvalueCompression : c.value .compressionAlgorithm = compression :=
      Option.ext fun value => by simp [h .compressionAlgorithm (by decide), mem_optional, Command.place]
    have hvalueCipher : c.value .encryptionAlgorithm = cipher :=
      Option.ext fun value => by simp [h .encryptionAlgorithm (by decide), mem_optional, Command.place]
    have hdescription : c.value .description = some options.description :=
      Option.ext fun value => by simp [h .description (by decide), mem_optional, Command.place]
    simp only [CommandLine.task, hleaf, Command.leaf, hvalueKind, hvalueDestination, hvalueCompression,
      hvalueCipher, hdescription, hkind.getD_eq, hdestination.getD_eq, hcompression.getD_eq, hcipher.getD_eq,
      Option.getD_some]
  | @restore options =>
    have hplace : c.value .metadataFile = some options.metadataFile :=
      Option.ext fun value => by simp [h .metadataFile (by decide), mem_optional, Command.place, eq_comm]
    have hskip : c.value .skipUsersAndRoles = (some options.skipUsersAndRoles).map truthWord :=
      Option.ext fun value => by simp [h .skipUsersAndRoles (by decide), mem_optional, Command.place]
    simp only [CommandLine.task, hleaf, Command.leaf, hplace, truth_of_value hskip, Option.getD_some]
  | @listNodes verbose =>
    have hverbose : c.value .verbose = if verbose then some "true" else none :=
      Option.ext fun value => by simp [h .verbose (by decide), mem_optional, Command.place]
    rw [CommandLine.task, hleaf]
    cases verbose <;> simp [Command.leaf, CommandLine.truth, hverbose]
  | listBackups => rw [CommandLine.task, hleaf]; rfl

/-! ## Correctness -/

/-- A command line that is written out asks for just the flags, the log filter and the command it was
written for. -/
theorem written_line_asks {arguments : List String} (h : Writes flags logLevel command arguments) :
    invocationOf arguments = .ok ⟨flags, logLevel, .command command⟩ := by
  cases h with
  | @line own outer middle inner _ _ _ hown hperm hglobal houter hmiddle hinner =>
    have hread := read_eq_ok_iff.mpr
      ⟨line_written hown hperm hglobal houter hmiddle hinner, sound_written hown hperm hglobal⟩
    obtain ⟨line, hline⟩ : ∃ c : CommandLine,
        c = ⟨command.leaf, [outer, middle, inner ++ command.place]⟩ := ⟨_, rfl⟩
    -- The values of the line are those of all its slots, wherever they stand.
    have hvalue : ∀ slot value, line.value slot = some value ↔
        (slot, value) ∈ globalOptions flags logLevel ++ (own ++ command.place) := by
      intro slot value
      rw [hline, value_eq_some_iff hown hperm, List.append_assoc]
    -- A slot of the command is not global, so the flags come of the global ones alone.
    have hflags : line.flags = flags ∧ line.value .logLevel = logLevel := by
      refine flags_of_value fun slot hslot value => ?_
      rw [hvalue, List.mem_append]
      exact or_iff_left fun hmem => hown.mem_apart hmem hslot
    -- And the task comes of the others alone.
    have htask : line.task = .command command := by
      refine hown.task (by rw [hline]) fun slot hslot value => ?_
      rw [hvalue, List.mem_append]
      exact or_iff_right fun hmem => hslot (mem_globals_of_mem_globalOptions hmem)
    rw [invocationOf, hread, ← hline]
    simp only [Except.map, CommandLine.invocation, hflags.1, hflags.2, htask]

/-- Bare switches leave alone what stands behind them, and values may look like options. -/
theorem dashes_and_equals_arrive :
    Writes ⟨some true, some "", some "-a=b", none⟩ none (.restore ⟨"--weird=x", true⟩)
        ["--server-addr=-a=b", "run", "--tls", "restore", "--ca-file=", "--skip-users-and-roles", "--",
          "--weird=x"] ∧
      invocationOf ["--server-addr=-a=b", "run", "--tls", "restore", "--ca-file=",
          "--skip-users-and-roles", "--", "--weird=x"] =
        .ok ⟨⟨some true, some "", some "-a=b", none⟩, none, .command (.restore ⟨"--weird=x", true⟩)⟩ := by
  have hserver : Spells (.serverAddress, "-a=b") "--server-addr=-a=b" := .behind (.inl rfl)
  have htls : Spells (.tls, "true") "--tls" := .alone (.inl rfl)
  have hca : Spells (.caFile, "") "--ca-file=" := .behind (.inl rfl)
  have hskip : Spells (.skipUsersAndRoles, "true") "--skip-users-and-roles" := .alone (.inl rfl)
  have hperm : ([(.serverAddress, "-a=b")] ++ [(.tls, "true")] ++
      [(.caFile, ""), (.skipUsersAndRoles, "true")] : List Filled).Perm
      (globalOptions ⟨some true, some "", some "-a=b", none⟩ none ++
        optional .skipUsersAndRoles (some (truthWord true))) := by decide
  have hwrites : Writes ⟨some true, some "", some "-a=b", none⟩ none (.restore ⟨"--weird=x", true⟩)
      ["--server-addr=-a=b", "run", "--tls", "restore", "--ca-file=", "--skip-users-and-roles", "--",
        "--weird=x"] :=
    .line .restore hperm (by decide) (.cons hserver .nil) (.cons htls .nil) (.cons hca (.cons hskip .nil))
  exact ⟨hwrites, written_line_asks hwrites⟩

/-- The mark of a long listing stands alone: no value may stand behind it. -/
theorem verbose_takes_no_value :
    invocationOf ["list", "nodes", "--verbose=true"] = .error (.surplusValue .verbose "true") ∧
      invocationOf ["list", "nodes", "--verbose=true"] ≠
        .ok ⟨Flags.none, none, .command (.listNodes true)⟩ := by
  decide

end BackupConsole.Arguments
