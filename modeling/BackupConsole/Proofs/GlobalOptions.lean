/-
  Global options that are given at several levels.

  1. **Specification** — `Adds`: one more global option among some arguments, in any way in which it can
     be given its value; it stands neither between another option and its value nor behind `--`. `Added`:
     any number of them. `Innermost`: what is given to a slot at the deepest level where it occurs.

  2. **Lines with more options** — `Line.exists_inserted`: an option that is added to a line stands among
     the slots of one of its levels. So all slots that are not global stay as they were (`Grown`).

  3. **Values** — `innermost_iff`: the value that counts is the innermost one.

  4. **Correctness** — `innermost_occurrence_counts`: with every global option at most once at each level
     the command stays the same, and each option by itself has its innermost value; with one of them
     twice at a level this is the error.
-/
import BackupConsole.Proofs.WrittenLines
import Mathlib.Logic.Relation

namespace BackupConsole.Arguments

variable {level : Level} {leaf : Leaf} {slot : Slot} {value : String} {entry : Filled}
  {arguments part more before after : List String} {filled : List Filled} {levels deeper grown : List (List Filled)}
  {c d : CommandLine}

/-! ## Adding options -/

/-- A global option and a text for its value; for TLS this is a truth value. -/
def IsGlobal (entry : Filled) : Prop :=
  entry.1 ∈ Slot.globals ∧ (entry.1 = .tls → entry.2 ∈ Slot.truthWords)

/-- One global option more, in any way in which it can be given its value. It does not come between an
option and the argument that is its value, and it stands before any `--`. -/
inductive Adds : List String → List String → Prop
  | one {entry : Filled} {part before after : List String} : IsGlobal entry →
    Piece Level.program entry part →
    (∀ slot : Slot, slot.filling = .value → before.getLast? ≠ some slot.long) → "--" ∉ before →
    Adds (before ++ after) (before ++ (part ++ after))

/-- Any number of global options more. -/
def Added : List String → List String → Prop := Relation.ReflTransGen Adds

/-- What is given to a slot at the deepest level where it occurs, if it occurs at all. -/
inductive Innermost (slot : Slot) : List (List Filled) → Option String → Prop
  | nowhere {levels : List (List Filled)} : (∀ filled ∈ levels, slot ∉ slotsOf filled) →
    Innermost slot levels none
  | here {outer deeper : List (List Filled)} {filled : List Filled} {value : String} :
    (slot, value) ∈ filled → (∀ below ∈ deeper, slot ∉ slotsOf below) →
    Innermost slot (outer ++ filled :: deeper) (some value)

/-- Each global option of an invocation has its innermost value, whatever the others have. -/
structure TakesInnermost (levels : List (List Filled)) (i : Invocation) : Prop where
  tls : ∀ given, i.flags.tls = given ↔ Innermost .tls levels (given.map truthWord)
  caFile : ∀ given, i.flags.caFile = given ↔ Innermost .caFile levels given
  serverAddress : ∀ given, i.flags.serverAddress = given ↔ Innermost .serverAddress levels given
  config : ∀ given, i.flags.configFile = given ↔ Innermost .config levels given
  logLevel : ∀ given, i.logLevel = given ↔ Innermost .logLevel levels given

/-! ## Lines with more options -/

theorem IsGlobal.accepts (h : IsGlobal entry) : entry.1.accepts entry.2 = true := by
  obtain ⟨slot, value⟩ := entry
  obtain ⟨hglobal, htruth⟩ := h
  have hwords : ∀ s ∈ Slot.globals, s = .tls ∨ s.words = [] := by decide
  rcases hwords slot hglobal with rfl | hany
  · have hword : value ∈ Slot.truthWords := htruth rfl
    simpa [Slot.accepts, Slot.words] using Or.inr hword
  · exact accepts_of_words_eq_nil hany value

/-- A global option is given its value in the same way at every level. -/
theorem IsGlobal.piece (h : IsGlobal entry) (hpiece : Piece Level.program entry part) (level : Level) :
    Piece level entry part := by
  have hoption := mem_options_of_mem_globals h.1 level
  cases hpiece with
  | whole _ _ hspells => exact .whole hoption.1 hoption.2 hspells
  | split _ hfilling hplain => exact .split hoption.1 hfilling hplain
  | placed hplace => cases hplace

/-- A global option may have its value behind an equals sign. -/
theorem IsGlobal.piece_behind (h : IsGlobal entry) (level : Level) :
    Piece level entry [entry.1.long ++ "=" ++ entry.2] := by
  obtain ⟨slot, value⟩ := entry
  have hfilling : ∀ s ∈ Slot.globals, s.filling = .value ∨ s.filling = .switch := by decide
  obtain ⟨hoption, hset⟩ := mem_options_of_mem_globals h.1 level
  exact .whole hoption hset (.behind (hfilling slot h.1))

/-- One slot more at one of the levels. -/
inductive Inserted (entry : Filled) : List (List Filled) → List (List Filled) → Prop
  | here {before after : List Filled} {deeper : List (List Filled)} :
    Inserted entry ((before ++ after) :: deeper) ((before ++ entry :: after) :: deeper)
  | deeper {filled : List Filled} {levels grown : List (List Filled)} : Inserted entry levels grown →
    Inserted entry (filled :: levels) (filled :: grown)

/-- Another slot before those of the first level changes nothing about what is inserted. -/
theorem Inserted.exists_cons (h : Inserted entry (filled :: deeper) grown) (first : Filled) :
    ∃ same rest, grown = same :: rest ∧
      Inserted entry ((first :: filled) :: deeper) ((first :: same) :: rest) := by
  generalize hlevels : filled :: deeper = levels at h
  cases h with
  | @here before after deeper =>
    cases hlevels
    exact ⟨_, _, rfl, @Inserted.here entry (first :: before) after deeper⟩
  | deeper hdeeper =>
    cases hlevels
    exact ⟨_, _, rfl, .deeper hdeeper⟩

/-- An option can stand before all other arguments of a level. -/
theorem Line.exists_inserted_first (h : Line level arguments leaf levels)
    (hpiece : ∀ level, Piece level entry part) :
    ∃ grown, Line level (part ++ arguments) leaf grown ∧ Inserted entry levels grown := by
  obtain ⟨filled, deeper, rfl⟩ := h.exists_level
  exact ⟨_, .piece (hpiece level) h, @Inserted.here entry [] filled deeper⟩

/-- What stands behind the first argument is no less complete. -/
theorem getLast?_ne_of_cons {first : String} {others : List String}
    (h : ∀ s : Slot, s.filling = .value → (first :: others).getLast? ≠ some s.long) :
    ∀ s : Slot, s.filling = .value → others.getLast? ≠ some s.long := by
  intro s hs hlast
  apply h s hs
  rw [List.getLast?_cons, hlast]
  rfl

/-- An option that is added to a line stands among the slots of one of its levels. -/
theorem Line.exists_inserted (h : Line level arguments leaf levels) (hpiece : ∀ level, Piece level entry part)
    (hsplit : before ++ after = arguments) (hdivider : "--" ∉ before)
    (hcomplete : ∀ s : Slot, s.filling = .value → before.getLast? ≠ some s.long) :
    ∃ grown, Line level (before ++ (part ++ after)) leaf grown ∧
      Inserted entry levels grown := by
  -- By induction on the line. The option comes first, or it comes behind the first piece or word.
  induction h generalizing before with
  | ended =>
    obtain ⟨rfl, rfl⟩ := List.append_eq_nil_iff.mp hsplit
    exact Line.ended.exists_inserted_first hpiece
  | divided =>
    cases before with
    | nil =>
      cases hsplit
      exact Line.divided.exists_inserted_first hpiece
    | cons first others =>
      obtain ⟨rfl, -⟩ := List.cons.inj hsplit
      exact absurd List.mem_cons_self hdivider
  | behind hplace =>
    cases before with
    | nil =>
      cases hsplit
      exact (Line.behind hplace).exists_inserted_first hpiece
    | cons first others =>
      obtain ⟨rfl, -⟩ := List.cons.inj hsplit
      exact absurd List.mem_cons_self hdivider
  | @piece level first opening rest l filled deeper hfirst hrest ih =>
    have hbehind : ∀ {others : List String}, others ++ after = rest → "--" ∉ others →
        (∀ s : Slot, s.filling = .value → others.getLast? ≠ some s.long) →
        ∃ grown, Line level (opening ++ (others ++ (part ++ after))) l grown ∧
          Inserted entry ((first :: filled) :: deeper) grown := by
      intro others hothers hdivider hcomplete
      obtain ⟨grown, hgrown, hinserted⟩ := ih hothers hdivider hcomplete
      obtain ⟨same, below, rfl, hmore⟩ := hinserted.exists_cons first
      exact ⟨_, .piece hfirst hgrown, hmore⟩
    cases before with
    | nil =>
      obtain rfl : after = opening ++ rest := hsplit
      exact (Line.piece hfirst hrest).exists_inserted_first hpiece
    | cons word others =>
      obtain ⟨-, hothers⟩ := not_or.mp (List.mem_cons.not.mp hdivider)
      cases hfirst with
      | whole _ _ _ =>
        obtain ⟨rfl, hrest⟩ := List.cons.inj hsplit
        exact hbehind hrest hothers (getLast?_ne_of_cons hcomplete)
      | split _ hfilling _ =>
        obtain ⟨rfl, htail⟩ := List.cons.inj hsplit
        cases others with
        | nil => exact absurd rfl (hcomplete _ hfilling)
        | cons value others =>
          obtain ⟨rfl, hrest⟩ := List.cons.inj htail
          obtain ⟨-, hothers⟩ := not_or.mp (List.mem_cons.not.mp hothers)
          exact hbehind hrest hothers (getLast?_ne_of_cons (getLast?_ne_of_cons hcomplete))
      | placed _ _ =>
        obtain ⟨rfl, hrest⟩ := List.cons.inj hsplit
        exact hbehind hrest hothers (getLast?_ne_of_cons hcomplete)
  | word hnext hrest ih =>
    cases before with
    | nil =>
      cases hsplit
      exact (Line.word hnext hrest).exists_inserted_first hpiece
    | cons word others =>
      obtain ⟨rfl, htail⟩ := List.cons.inj hsplit
      obtain ⟨-, hothers⟩ := not_or.mp (List.mem_cons.not.mp hdivider)
      obtain ⟨grown, hgrown, hinserted⟩ := ih htail hothers (getLast?_ne_of_cons hcomplete)
      exact ⟨_, .word hnext hgrown, .deeper hinserted⟩

/-- The slots of a level that are not global. -/
def ownOf (filled : List Filled) : List Filled := filled.filter fun entry => decide (entry.1 ∉ Slot.globals)

/-- Slots that are the same level by level but for global ones, which all have values they accept. -/
structure Grown (levels grown : List (List Filled)) : Prop where
  own : grown.map ownOf = levels.map ownOf
  accepted : ∀ filled ∈ grown, ∀ entry ∈ filled, entry.1.accepts entry.2 = true

/-- A further global option leaves the other slots of all levels as they are. -/
theorem Inserted.own (h : Inserted entry levels grown) (hentry : entry.1 ∈ Slot.globals) :
    grown.map ownOf = levels.map ownOf := by
  induction h with
  | here => simp [ownOf, hentry]
  | deeper _ ih => rw [List.map_cons, List.map_cons, ih]

theorem Inserted.accepted (h : Inserted entry levels grown) (hentry : entry.1.accepts entry.2 = true)
    (hlevels : ∀ filled ∈ levels, ∀ e ∈ filled, e.1.accepts e.2 = true) :
    ∀ filled ∈ grown, ∀ e ∈ filled, e.1.accepts e.2 = true := by
  induction h with
  | @here first second deeper =>
    obtain ⟨hhere, hdeeper⟩ := List.forall_mem_cons.mp hlevels
    refine List.forall_mem_cons.mpr ⟨?_, hdeeper⟩
    intro e he
    -- The level where the slot was inserted has the others, in two runs around it.
    have hcases : e = entry ∨ e ∈ first ++ second := by
      simp only [List.mem_append, List.mem_cons] at he ⊢
      rcases he with he | he | he
      · exact .inr (.inl he)
      · exact .inl he
      · exact .inr (.inr he)
    rcases hcases with rfl | he
    · exact hentry
    · exact hhere e he
  | deeper _ ih =>
    obtain ⟨hhere, hdeeper⟩ := List.forall_mem_cons.mp hlevels
    exact List.forall_mem_cons.mpr ⟨hhere, ih hdeeper⟩

/-- However many options are added, the line stays a line of the same command. -/
theorem Added.exists_grown (h : Added arguments more) (hline : Line level arguments leaf levels)
    (haccepted : ∀ filled ∈ levels, ∀ entry ∈ filled, entry.1.accepts entry.2 = true) :
    ∃ grown, Line level more leaf grown ∧ Grown levels grown := by
  induction h with
  | refl => exact ⟨levels, hline, rfl, haccepted⟩
  | tail _ hadds ih =>
    obtain ⟨some, hsome, hgrown⟩ := ih
    cases hadds with
    | one hentry hpiece hcomplete hdivider =>
      obtain ⟨grown, hmore, hinserted⟩ :=
        hsome.exists_inserted (hentry.piece hpiece) rfl hdivider hcomplete
      exact ⟨grown, hmore, (hinserted.own hentry.1).trans hgrown.own,
        hinserted.accepted hentry.accepts hgrown.accepted⟩

theorem slotsOf_ownOf (filled : List Filled) :
    slotsOf (ownOf filled) = (slotsOf filled).filter fun slot => decide (slot ∉ Slot.globals) := by
  rw [slotsOf, slotsOf, ownOf, List.filter_map]
  rfl

theorem valueOf_ownOf (h : slot ∉ Slot.globals) (filled : List Filled) :
    valueOf slot (ownOf filled) = valueOf slot filled := by
  induction filled with
  | nil => rfl
  | cons entry filled ih =>
    obtain ⟨s, text⟩ := entry
    unfold valueOf at ih ⊢
    by_cases hglobal : s ∈ Slot.globals
    · have hother : (slot == s) = false := by
        rw [beq_eq_false_iff_ne]
        rintro rfl
        exact h hglobal
      have hdropped : ownOf ((s, text) :: filled) = ownOf filled := by simp [ownOf, hglobal]
      rw [hdropped, ih, List.lookup_cons, hother]
    · have hkept : ownOf ((s, text) :: filled) = (s, text) :: ownOf filled := by simp [ownOf, hglobal]
      rw [hkept, List.lookup_cons, List.lookup_cons, ih]

/-- What is not global has its value whatever the global options are. -/
theorem deepest_map_ownOf (h : slot ∉ Slot.globals) (levels : List (List Filled)) :
    deepest slot (levels.map ownOf) = deepest slot levels := by
  induction levels with
  | nil => rfl
  | cons filled deeper ih => rw [List.map_cons, deepest, deepest, ih, valueOf_ownOf h]

/-! ## Values -/

/-- The task depends on slots that are not global. -/
theorem task_eq_of_value (hleaf : c.leaf = d.leaf) (h : ∀ slot ∉ Slot.globals, c.value slot = d.value slot) :
    c.task = d.task := by
  simp only [CommandLine.task, CommandLine.truth, hleaf, h .backupType (by decide),
    h .destinationType (by decide), h .compressionAlgorithm (by decide), h .encryptionAlgorithm (by decide),
    h .description (by decide), h .metadataFile (by decide), h .skipUsersAndRoles (by decide),
    h .verbose (by decide), h .shell (by decide)]

theorem valueOf_eq_none_iff : valueOf slot filled = none ↔ slot ∉ slotsOf filled := by
  rw [valueOf, List.lookup_eq_none_iff]
  constructor
  · intro h hmem
    obtain ⟨entry, hentry, rfl⟩ := List.mem_map.mp hmem
    simpa using h entry hentry
  · intro h entry hentry
    rw [bne_iff_ne]
    rintro rfl
    exact h (List.mem_map_of_mem hentry)

theorem deepest_eq_none_iff : deepest slot levels = none ↔ ∀ filled ∈ levels, slot ∉ slotsOf filled := by
  induction levels with
  | nil => simp [deepest]
  | cons filled deeper ih =>
    rw [deepest, Option.or_eq_none_iff, ih, valueOf_eq_none_iff, List.forall_mem_cons, and_comm]

/-- Deeper levels count before outer ones. -/
theorem deepest_append (outer deeper : List (List Filled)) :
    deepest slot (outer ++ deeper) = (deepest slot deeper).or (deepest slot outer) := by
  induction outer with
  | nil => simp [deepest]
  | cons filled outer ih => rw [List.cons_append, deepest, deepest, ih, Option.or_assoc]

/-- The value that is taken is the innermost one. -/
theorem innermost_deepest (slot : Slot) (levels : List (List Filled)) :
    Innermost slot levels (deepest slot levels) := by
  induction levels with
  | nil => exact .nowhere nofun
  | cons filled deeper ih =>
    rw [deepest]
    -- Where a deeper level has the slot it counts, and this level lies outside of it.
    cases hdeeper : deepest slot deeper with
    | some value =>
      rw [hdeeper] at ih
      cases ih with
      | @here outer deeper there value hmem hbelow =>
        exact @Innermost.here slot (filled :: outer) deeper there value hmem hbelow
    | none =>
      rw [Option.none_or]
      have hbelow := deepest_eq_none_iff.mp hdeeper
      cases hhere : valueOf slot filled with
      | some value => exact @Innermost.here slot [] deeper filled value (mem_of_valueOf hhere) hbelow
      | none => exact .nowhere (List.forall_mem_cons.mpr ⟨valueOf_eq_none_iff.mp hhere, hbelow⟩)

/-- Where no slot is given twice at a level, the value that counts is the innermost one. -/
theorem innermost_iff {given : Option String} (h : ∀ filled ∈ levels, Checked filled) :
    deepest slot levels = given ↔ Innermost slot levels given := by
  constructor
  · rintro rfl
    exact innermost_deepest slot levels
  · intro hinnermost
    cases hinnermost with
    | nowhere hnowhere => exact deepest_eq_none_iff.mpr hnowhere
    | @here outer deeper filled value hmem hbelow =>
      have hhere : Checked filled := h filled (List.mem_append_right _ List.mem_cons_self)
      rw [deepest_append, deepest, deepest_eq_none_iff.mpr hbelow, valueOf_of_mem hhere.distinct hmem]
      rfl

/-- A truth value that is accepted is the word it was written as. -/
theorem map_truthWord_truth (hchecked : ∀ filled ∈ c.levels, Checked filled) :
    (c.truth .tls).map truthWord = c.value .tls := by
  rw [CommandLine.truth]
  cases hvalue : c.value .tls with
  | none => rfl
  | some word =>
    obtain ⟨filled, hfilled, hmem⟩ := exists_level_of_deepest hvalue
    have hword : word ∈ Slot.truthWords := by
      have haccepts := (hchecked filled hfilled).accepted _ hmem
      simpa [Slot.accepts, Slot.words, Slot.truthWords] using haccepts
    have htruth : ∀ w ∈ Slot.truthWords, truthWord (w == "true") = w := by decide
    rw [Option.map_some, Option.map_some, htruth word hword]

theorem truthWord_injective {a b : Bool} (h : truthWord a = truthWord b) : a = b := by
  have hbeq := congrArg (· == "true") h
  simpa only [truthWord_beq] using hbeq

/-- An invocation is that of the command line that the arguments are read as. -/
theorem exists_read_of_invocationOf {i : Invocation} (h : invocationOf arguments = .ok i) :
    ∃ c, read arguments = .ok c ∧ c.invocation = i := by
  unfold invocationOf at h
  cases hread : read arguments with
  | error e =>
    rw [hread] at h
    cases h
  | ok c =>
    rw [hread] at h
    exact ⟨c, rfl, Except.ok.inj h⟩

/-- An invocation has the innermost values, if its levels pass all checks. -/
theorem takesInnermost (hchecked : ∀ filled ∈ c.levels, Checked filled) :
    TakesInnermost c.levels c.invocation := by
  have hvalue : ∀ slot given, c.value slot = given ↔ Innermost slot c.levels given :=
    fun slot given => innermost_iff hchecked
  refine ⟨fun given => ?_, hvalue .caFile, hvalue .serverAddress, hvalue .config, hvalue .logLevel⟩
  rw [← hvalue, ← map_truthWord_truth hchecked]
  constructor
  · intro h
    exact congrArg (Option.map truthWord) h
  · intro h
    exact Option.map_injective (fun _ _ => truthWord_injective) h

/-! ## Correctness -/

/-- Each level of the longer line has the slots of a level of the shorter one, global ones aside. -/
theorem Grown.exists_same (h : Grown levels grown) (hfilled : filled ∈ grown) :
    ∃ same ∈ levels, ownOf same = ownOf filled := by
  have hmem : ownOf filled ∈ levels.map ownOf := h.own ▸ List.mem_map_of_mem hfilled
  exact List.mem_map.mp hmem

/-- What is not global is given at most once at a level, as before. -/
theorem Grown.not_twice (h : Grown levels grown) (hchecked : ∀ filled ∈ levels, Checked filled)
    (hfilled : filled ∈ grown) (hslot : slot ∉ Slot.globals) : ¬ Twice filled slot := by
  obtain ⟨same, hsame, hown⟩ := h.exists_same hfilled
  have hcount : ∀ f : List Filled, (slotsOf (ownOf f)).count slot = (slotsOf f).count slot := by
    intro f
    rw [slotsOf_ownOf, List.count_filter (by simpa using hslot)]
  have hbefore : ¬ Twice same slot := (hchecked same hsame).not_twice
  rw [Twice, ← hcount] at hbefore ⊢
  rw [← hown]
  exact hbefore

/-- Adding global options breaks no rule but the one about giving an option twice. -/
theorem Grown.acceptable (h : Grown levels grown) (hchecked : ∀ filled ∈ levels, Checked filled)
    (hfilled : filled ∈ grown) : Acceptable filled := by
  refine ⟨h.accepted filled hfilled, fun slot hword => ?_⟩
  have hglobals : ∀ s ∈ Slot.globals, s.filling ≠ .word := by decide
  have hslot : slot ∉ Slot.globals := fun hmem => hglobals slot hmem hword
  have hnot := h.not_twice hchecked hfilled hslot
  unfold Twice at hnot
  omega

/-- A command still has what it needs. -/
theorem Grown.complete (h : Grown levels grown)
    (hneeds : ∀ slot ∈ (Level.leaf leaf).needs, slot ∈ slotsOf (levels.getLastD [])) :
    ∀ slot ∈ (Level.leaf leaf).needs, slot ∈ slotsOf (grown.getLastD []) := by
  intro slot hslot
  have hown : slot ∉ Slot.globals := by
    have hall : ∀ s ∈ (Level.leaf leaf).needs, s ∉ Slot.globals := by cases leaf <;> decide
    exact hall slot hslot
  have hlast : ∀ all : List (List Filled), ownOf (all.getLastD []) = (all.map ownOf).getLastD [] := by
    intro all
    rw [List.getLastD_eq_getLast?, List.getLastD_eq_getLast?, List.getLast?_map]
    cases all.getLast? <;> rfl
  have hkept : ∀ f : List Filled, slot ∈ slotsOf (ownOf f) ↔ slot ∈ slotsOf f := by
    intro f
    rw [slotsOf_ownOf, List.mem_filter]
    simp [hown]
  rw [← hkept, hlast, h.own, ← hlast, hkept]
  exact hneeds slot hslot

/-- The task asks for nothing that is global, so it stays as it was. -/
theorem Grown.task_eq (h : Grown levels grown) :
    (CommandLine.mk leaf grown).task = (CommandLine.mk leaf levels).task := by
  refine task_eq_of_value rfl fun slot hslot => ?_
  rw [CommandLine.value, CommandLine.value, ← deepest_map_ownOf hslot, h.own, deepest_map_ownOf hslot]

/-- **The innermost occurrence counts.** Add global options to arguments that can be read, as many as one
likes. What comes of it is again a command line, with a level for every occurrence of an option. If no
global option occurs twice at a level, the task is the same, and each global option has the value of its
innermost occurrence. If one does, this is the error, and it names one that does. -/
theorem innermost_occurrence_counts {asked : Invocation} (hasked : invocationOf arguments = .ok asked)
    (hmore : Added arguments more) :
    (∃ leaf levels, Line Level.program more leaf levels) ∧
      ∀ leaf levels, Line Level.program more leaf levels →
        ((∀ filled ∈ levels, ∀ slot ∈ Slot.globals, ¬ Twice filled slot) →
          ∃ i, invocationOf more = .ok i ∧ i.task = asked.task ∧ TakesInnermost levels i) ∧
        ((∃ filled ∈ levels, ∃ slot ∈ Slot.globals, Twice filled slot) →
          ∃ filled ∈ levels, ∃ slot ∈ Slot.globals, Twice filled slot ∧
            invocationOf more = .error (.repeated slot)) := by
  obtain ⟨c, hread, rfl⟩ := exists_read_of_invocationOf hasked
  obtain ⟨hline, hsound⟩ := read_eq_ok_iff.mp hread
  have haccepted : ∀ filled ∈ c.levels, ∀ entry ∈ filled, entry.1.accepts entry.2 = true :=
    fun filled hfilled => (hsound.checked filled hfilled).accepted
  obtain ⟨grown, hmoreLine, hgrown⟩ := hmore.exists_grown hline haccepted
  refine ⟨⟨_, _, hmoreLine⟩, ?_⟩
  intro leaf levels hother
  obtain ⟨rfl, rfl⟩ := hmoreLine.unique hother
  have hreadAs : ReadAs ⟨c.leaf, grown⟩ (read more) :=
    read_of_line hmoreLine (fun filled hfilled => hgrown.acceptable hsound.checked hfilled)
      (hgrown.complete hsound.complete)
  constructor
  · -- The line is sound, unless a slot is given twice. A global one is not, by assumption, and no other one
    -- can be.
    intro honce
    rcases hreadAs with hok | ⟨filled, hfilled, slot, htwice, -⟩
    · have hchecked := (read_eq_ok_iff.mp hok).2.checked
      refine ⟨_, ?_, hgrown.task_eq, takesInnermost hchecked⟩
      rw [invocationOf, hok]
      rfl
    · by_cases hslot : slot ∈ Slot.globals
      · exact absurd htwice (honce filled hfilled slot hslot)
      · exact absurd htwice (hgrown.not_twice hsound.checked hfilled hslot)
  · rintro ⟨filled, hfilled, slot, hslot, htwice⟩
    rcases hreadAs with hok | ⟨filled, hfilled, slot, htwice, herror⟩
    · have hchecked := (read_eq_ok_iff.mp hok).2.checked filled hfilled
      exact absurd htwice hchecked.not_twice
    · -- What is not global is given once, as before, so it is a global option that is named.
      have hglobal : slot ∈ Slot.globals := by
        by_contra hslot
        exact hgrown.not_twice hsound.checked hfilled hslot htwice
      refine ⟨filled, hfilled, slot, hglobal, htwice, ?_⟩
      rw [invocationOf, herror]
      rfl

/-- The configuration that is named last counts, for it is named at the deepest level. Naming another
one at the level of the program is an error. -/
theorem inner_configuration_counts :
    Added ["list", "nodes", "--config", "a"] ["--config=b", "list", "nodes", "--config", "a"] ∧
      (∃ i, invocationOf ["--config=b", "list", "nodes", "--config", "a"] = .ok i ∧
        i.task = .command (.listNodes false) ∧ i.flags.configFile = some "a") ∧
      invocationOf ["--config=c", "--config=b", "list", "nodes", "--config", "a"] =
        .error (.repeated .config) := by
  have hglobal : Slot.config ∈ Slot.globals := by decide
  have hconfig : ∀ value, IsGlobal (.config, value) := fun value => ⟨hglobal, nofun⟩
  have hadds : ∀ value (arguments : List String),
      Adds arguments (("--config" ++ "=" ++ value) :: arguments) := fun value arguments =>
    @Adds.one _ _ [] arguments (hconfig value) ((hconfig value).piece_behind _) nofun nofun
  have hadded : Added ["list", "nodes", "--config", "a"] ["--config=b", "list", "nodes", "--config", "a"] :=
    .single (hadds "b" _)
  have hasked : invocationOf ["list", "nodes", "--config", "a"] =
      .ok ⟨⟨none, none, none, some "a"⟩, none, .command (.listNodes false)⟩ := by decide
  have hoption : Slot.config ∈ (Level.leaf .nodes).options := by decide
  have ha : IsPlain "a" := .inr (by decide)
  have hlist : Line Level.program ["list", "nodes", "--config", "a"] .nodes [[], [], [(.config, "a")]] :=
    .word rfl (.word rfl (.piece (.split hoption rfl ha) .ended))
  have hb : Line Level.program ["--config=b", "list", "nodes", "--config", "a"] .nodes
      [[(.config, "b")], [], [(.config, "a")]] :=
    .piece ((hconfig "b").piece_behind _) hlist
  have hc : Line Level.program ["--config=c", "--config=b", "list", "nodes", "--config", "a"] .nodes
      [[(.config, "c"), (.config, "b")], [], [(.config, "a")]] :=
    .piece ((hconfig "c").piece_behind _) hb
  refine ⟨hadded, ?_, ?_⟩
  · have honce : ∀ filled ∈ ([[(.config, "b")], [], [(.config, "a")]] : List (List Filled)),
        ∀ slot ∈ Slot.globals, ¬ 2 ≤ (slotsOf filled).count slot := by decide
    obtain ⟨i, hi, htask, htakes⟩ := ((innermost_occurrence_counts hasked hadded).2 _ _ hb).1 honce
    refine ⟨i, hi, htask, (htakes.config (some "a")).mpr ?_⟩
    exact @Innermost.here _ [[(.config, "b")], []] [] _ _ List.mem_cons_self nofun
  · obtain ⟨filled, hfilled, slot, hslot, htwice, herror⟩ :=
      ((innermost_occurrence_counts hasked (hadded.tail (hadds "c" _))).2 _ _ hc).2
        ⟨_, List.mem_cons_self, .config, hglobal, Nat.le_refl 2⟩
    have honly : ∀ f ∈ ([[(.config, "c"), (.config, "b")], [], [(.config, "a")]] : List (List Filled)),
        ∀ s ∈ Slot.globals, 2 ≤ (slotsOf f).count s → s = .config := by decide
    obtain rfl := honly filled hfilled slot hslot htwice
    exact herror

end BackupConsole.Arguments
