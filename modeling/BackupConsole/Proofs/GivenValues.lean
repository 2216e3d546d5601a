/-
  Where the values on a command line come from.

  1. **Specification** — `Given`: a value is an argument of its own, as a plain word or right behind the
     name of its option, or it stands behind the name and an equals sign, letter for letter. Only an
     option that stands alone has a value that nobody wrote, `true`.

  2. **Lines** — a piece gives the value that it is a piece of (`Piece.given`), and so, by induction on the
     line, every value at every level is given (`Line.given`).

  3. **Correctness** — `textsGiven_of_reading`: the texts of an invocation are given by the arguments that it
     is a reading of. The converse is part of `Reading` itself: what the arguments leave out or overrule
     does not count.
-/
import BackupConsole.Proofs.Invocations

namespace BackupConsole.Arguments

variable {arguments part : List String} {slot : Slot} {value : String} {level : Level} {leaf : Leaf}
  {entry : Filled} {levels : List (List Filled)} {i : Invocation}

/-! ## Values that are given -/

/-- How some arguments give a slot its value. -/
inductive Given (arguments : List String) (slot : Slot) (value : String) : Prop
  | word : slot.filling = .word → value ∈ arguments → Given arguments slot value
  | next (before after : List String) : slot.filling = .value →
    arguments = before ++ slot.long :: value :: after → Given arguments slot value
  | behind : slot.filling = .value ∨ slot.filling = .switch →
    slot.long ++ "=" ++ value ∈ arguments → Given arguments slot value
  | alone : slot.filling = .switch ∨ slot.filling = .mark → value = "true" →
    slot.long ∈ arguments → Given arguments slot value

/-- Some slots with values that are given. -/
def AllGiven (arguments : List String) (filled : List Filled) : Prop :=
  ∀ entry ∈ filled, Given arguments entry.1 entry.2

/-- What some arguments give, more of them give as well. -/
theorem Given.extend (h : Given part slot value) (front back : List String) :
    Given (front ++ part ++ back) slot value := by
  have hmem : ∀ argument ∈ part, argument ∈ front ++ part ++ back := fun argument hargument =>
    List.mem_append_left _ (List.mem_append_right _ hargument)
  cases h with
  | word hfilling hword => exact .word hfilling (hmem _ hword)
  | next before after hfilling hsplit =>
    exact .next (front ++ before) (after ++ back) hfilling (by simp [hsplit])
  | behind hfilling hargument => exact .behind hfilling (hmem _ hargument)
  | alone hfilling htrue hargument => exact .alone hfilling htrue (hmem _ hargument)

/-! ## Lines -/

/-- A piece gives its slot the value that it is a piece of. -/
theorem Piece.given (h : Piece level entry part) : Given part entry.1 entry.2 := by
  cases h with
  | whole _ _ hspells =>
    cases hspells with
    | behind hfilling => exact .behind hfilling (List.mem_singleton_self _)
    | alone hfilling => exact .alone hfilling rfl (List.mem_singleton_self _)
  | split _ hfilling _ => exact .next [] [] hfilling rfl
  | placed hplace _ => exact .word (filling_of_place? hplace) (List.mem_singleton_self _)

/-- The values at all levels of a line are given by its arguments. -/
theorem Line.given (h : Line level arguments leaf levels) :
    ∀ filled ∈ levels, AllGiven arguments filled := by
  induction h with
  | ended | divided =>
    rintro filled hfilled
    rw [List.mem_singleton.mp hfilled]
    exact nofun
  | behind hplace =>
    rintro filled hfilled entry hentry
    rw [List.mem_singleton.mp hfilled] at hentry
    rw [List.mem_singleton.mp hentry]
    exact .word (filling_of_place? hplace) (by simp)
  | @piece level entry part rest l filled deeper hpiece _ ih =>
    have hrest : ∀ other ∈ filled :: deeper, AllGiven (part ++ rest) other := by
      intro other hother given hgiven
      have hlater := (ih other hother given hgiven).extend part []
      rwa [List.append_nil] at hlater
    intro other hother
    rcases List.mem_cons.mp hother with rfl | hother
    · intro given hgiven
      -- The first slot is given by the piece, the others by what stands behind it.
      rcases List.mem_cons.mp hgiven with rfl | hgiven
      · exact hpiece.given.extend [] rest
      · exact hrest filled List.mem_cons_self given hgiven
    · exact hrest other (List.mem_cons_of_mem _ hother)
  | @word g next word rest l levels _ _ ih =>
    intro filled hfilled
    rcases List.mem_cons.mp hfilled with rfl | hfilled
    · exact nofun
    · intro given hgiven
      have hlater := (ih filled hfilled given hgiven).extend [word] []
      rwa [List.append_nil] at hlater

/-- The value that is given innermost is given. -/
theorem Line.given_of_innermost (h : Line level arguments leaf levels)
    (hinnermost : Innermost slot levels (some value)) : Given arguments slot value := by
  cases hinnermost with
  | here hmem _ => exact h.given _ (List.mem_append_right _ List.mem_cons_self) _ hmem

/-! ## Invocations -/

/-- A text of an invocation: none that counts, or one that is given. -/
def Verbatim (arguments : List String) (slot : Slot) (text : String) : Prop :=
  text = "" ∨ Given arguments slot text

/-- The text of a slot is given by the arguments, or is empty where they leave the slot out. -/
theorem Line.verbatim (h : Line level arguments leaf levels) {text : String}
    (htext : HasText slot levels text) : Verbatim arguments slot text := by
  obtain ⟨given, hinnermost, rfl⟩ := htext
  cases given with
  | none => exact .inl rfl
  | some text => exact .inr (h.given_of_innermost hinnermost)

/-- The texts of an invocation stand among the arguments. -/
structure TextsGiven (arguments : List String) (i : Invocation) : Prop where
  serverAddress : ∀ text, i.flags.serverAddress = some text → Given arguments .serverAddress text
  caFile : ∀ text, i.flags.caFile = some text → Given arguments .caFile text
  configFile : ∀ text, i.flags.configFile = some text → Given arguments .config text
  backup : ∀ options, i.task = .command (.backup options) →
    Verbatim arguments .backupType options.kind ∧
      Verbatim arguments .destinationType options.destination ∧
      Verbatim arguments .compressionAlgorithm options.compression ∧
      Verbatim arguments .encryptionAlgorithm options.cipher ∧
      Verbatim arguments .description options.description
  restore : ∀ options, i.task = .command (.restore options) →
    Verbatim arguments .metadataFile options.metadataFile

/-- Whatever arguments ask for, its texts are taken from them as they are. -/
theorem textsGiven_of_reading (h : Reading arguments i) : TextsGiven arguments i := by
  obtain ⟨leaf, levels, hline, -, htakes, hasks⟩ := h
  refine ⟨fun text h => ?_, fun text h => ?_, fun text h => ?_, fun options htask => ?_,
    fun options htask => ?_⟩
  · exact hline.given_of_innermost ((htakes.serverAddress _).mp h)
  · exact hline.given_of_innermost ((htakes.caFile _).mp h)
  · exact hline.given_of_innermost ((htakes.config _).mp h)
  · rw [htask] at hasks
    cases hasks with
    | backup hkind hdestination hcompression hcipher hdescription =>
      exact ⟨hline.verbatim hkind, hline.verbatim hdestination, hline.verbatim hcompression,
        hline.verbatim hcipher, hline.verbatim hdescription⟩
  · rw [htask] at hasks
    cases hasks with
    | restore hfile _ => exact hline.verbatim hfile

end BackupConsole.Arguments
