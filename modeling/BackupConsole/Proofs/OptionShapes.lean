/-
  How an argument looks, and what its looks say.

  1. **Specification** — `Spells`: an option and its value as one argument. `IsPlain`: an argument that does
     not look like an option at all.

  2. **Program** — `shapeOf` sees in an argument what was written: `Spells.shape` and
     `shapeOf_eq_plain_iff` for whole arguments, and `eq_of_shapeOf_long` for the way back, from the looks to
     the letters. A name of an option is that of one slot only (`Slot.name_injective`), so that the looks
     decide which slot is meant (`option?_name`).
-/
import BackupConsole.Arguments.Invocation

namespace BackupConsole.Arguments

variable {level : Level} {slot : Slot} {value argument : String}

/-! ## Options and words -/

/-- The name of an option as it stands among the arguments. -/
def Slot.long (s : Slot) : String := "--" ++ s.name

/-- How an option and its value are written as one argument: behind an equals sign, or, if it is true,
by standing alone. -/
inductive Spells : Filled → String → Prop
  | behind {slot : Slot} {value : String} : slot.filling = .value ∨ slot.filling = .switch →
    Spells (slot, value) (slot.long ++ "=" ++ value)
  | alone {slot : Slot} : slot.filling = .switch ∨ slot.filling = .mark →
    Spells (slot, "true") slot.long

/-- Options that ask for a value rather than for an answer. -/
def Slot.IsSet (s : Slot) : Prop := s ≠ .help ∧ s ≠ .version

/-- An argument that does not look like an option. A dash alone does not. -/
def IsPlain (argument : String) : Prop := argument = "-" ∨ argument.toList.head? ≠ some '-'

/-! ## The looks of an option -/

/-- A name without an equals sign has no value behind it. -/
theorem splitAtEquals_of_not_mem {name : List Char} (h : '=' ∉ name) :
    splitAtEquals name = (name, none) := by
  induction name with
  | nil => rfl
  | cons c name ih =>
    obtain ⟨hc, hname⟩ : '=' ≠ c ∧ '=' ∉ name := by simpa using h
    rw [splitAtEquals, if_neg (Ne.symm hc), ih hname]

/-- The value begins behind the first equals sign, which is not one of the name. -/
theorem splitAtEquals_append {name : List Char} (h : '=' ∉ name) (value : List Char) :
    splitAtEquals (name ++ '=' :: value) = (name, some value) := by
  induction name with
  | nil => rfl
  | cons c name ih =>
    obtain ⟨hc, hname⟩ : '=' ≠ c ∧ '=' ∉ name := by simpa using h
    rw [List.cons_append, splitAtEquals, if_neg (Ne.symm hc), ih hname]

theorem Slot.name_ne_nil (slot : Slot) : slot.name.toList ≠ [] := by cases slot <;> decide

theorem Slot.not_mem_name (slot : Slot) : '=' ∉ slot.name.toList := by cases slot <;> decide

theorem Slot.name_injective {s t : Slot} (h : s.name = t.name) : s = t := by
  cases s <;> cases t <;> first | rfl | exact absurd h (by decide)

/-- Two dashes with more behind them are the long form. -/
theorem shapeOf_dashes {text : List Char} (h : text ≠ []) :
    shapeOf (String.ofList ('-' :: '-' :: text)) =
      .long (String.ofList (splitAtEquals text).1) ((splitAtEquals text).2.map String.ofList) := by
  cases text with
  | nil => exact absurd rfl h
  | cons c text => simp [shapeOf]

/-- A slot's name behind two dashes has the look of an option. -/
theorem shapeOf_long (slot : Slot) : shapeOf slot.long = .long slot.name none := by
  have htext : slot.long = String.ofList ('-' :: '-' :: slot.name.toList) := by
    rw [← String.toList_inj]
    simp [Slot.long]
  rw [htext, shapeOf_dashes slot.name_ne_nil, splitAtEquals_of_not_mem slot.not_mem_name]
  simp

theorem shapeOf_long_value (slot : Slot) (value : String) :
    shapeOf (slot.long ++ "=" ++ value) = .long slot.name (some value) := by
  have htext : slot.long ++ "=" ++ value =
      String.ofList ('-' :: '-' :: (slot.name.toList ++ '=' :: value.toList)) := by
    rw [← String.toList_inj]
    simp [Slot.long]
  have hne : slot.name.toList ++ '=' :: value.toList ≠ [] := by simp
  rw [htext, shapeOf_dashes hne, splitAtEquals_append slot.not_mem_name]
  simp

/-- No command word begins with a dash. -/
theorem next?_eq_none_of_dashes {word : String} (h : word.toList.head? = some '-') (level : Level) :
    level.next? word = none := by
  cases hnext : level.next? word with
  | none => rfl
  | some next =>
    exfalso
    cases level with
    | leaf l => cases hnext
    | group g =>
      obtain ⟨before, after, hwords, -⟩ := List.lookup_eq_some_iff.mp hnext
      have hmem : (word, next) ∈ g.words := by simp [hwords]
      have hplain : ∀ entry ∈ g.words, entry.1.toList.head? ≠ some '-' := by cases g <;> decide
      exact hplain _ hmem h

/-- An argument that spells an option has the long form of its name. -/
theorem Spells.shape (h : Spells (slot, value) argument) :
    argument.toList.head? = some '-' ∧
      ∃ given, shapeOf argument = .long slot.name given ∧
        (given = some value ∧ (slot.filling = .value ∨ slot.filling = .switch) ∨
          given = none ∧ value = "true" ∧ (slot.filling = .switch ∨ slot.filling = .mark)) := by
  cases h with
  | behind hfilling =>
    exact ⟨by simp [Slot.long], _, shapeOf_long_value slot value, .inl ⟨rfl, hfilling⟩⟩
  | alone hfilling =>
    exact ⟨by simp [Slot.long], _, shapeOf_long slot, .inr ⟨rfl, rfl, hfilling⟩⟩

/-- Nothing is lost where a name is cut from its value. -/
theorem append_splitAtEquals (text : List Char) :
    (splitAtEquals text).1 ++ ((splitAtEquals text).2.map ('=' :: ·)).getD [] = text := by
  induction text with
  | nil => rfl
  | cons c text ih =>
    by_cases hc : c = '='
    · simp [splitAtEquals, hc]
    · simpa [splitAtEquals, hc] using ih

/-- An argument in the long form is its dashes, its name, and its value behind the equals sign. -/
theorem eq_of_shapeOf_long {name : String} {value : Option String}
    (h : shapeOf argument = .long name value) :
    argument = "--" ++ name ++ (value.map ("=" ++ ·)).getD "" := by
  unfold shapeOf at h
  split at h
  · cases h
  · next rest _ hargument =>
    cases h
    have htext := append_splitAtEquals rest
    rw [← String.toList_inj, hargument]
    cases hvalue : (splitAtEquals rest).2 with
    | none =>
      rw [hvalue] at htext
      simpa using htext.symm
    | some text =>
      rw [hvalue] at htext
      simpa using htext.symm
  · cases h
  · cases h

/-! ## The looks of anything else -/

/-- The program takes as plain words what looks like one. -/
theorem shapeOf_eq_plain_iff : shapeOf argument = .plain ↔ IsPlain argument := by
  have hdash : argument = "-" ↔ argument.toList = ['-'] := by
    rw [← String.toList_inj]
    rfl
  rw [IsPlain, hdash]
  unfold shapeOf
  split
  · next hchars => simp [hchars]
  · next hchars => simp [hchars]
  · next hlonger hchars => simp [hchars]
  · next hdivider hlong hshort =>
    refine iff_of_true rfl ?_
    -- Only the dash alone begins with a dash and is neither short nor long.
    cases hchars : argument.toList with
    | nil => simp
    | cons c others =>
      cases others with
      | nil =>
        by_cases hc : c = '-'
        · exact .inl (by rw [hc])
        · exact .inr (by simpa using hc)
      | cons d others =>
        refine .inr ?_
        intro hhead
        obtain rfl : c = '-' := by simpa using hhead
        exact hshort d others hchars

/-- The divider is two dashes. -/
theorem eq_of_shapeOf_divider (h : shapeOf argument = .divider) : argument = "--" := by
  unfold shapeOf at h
  split at h
  · next hchars => exact String.toList_inj.mp hchars
  · cases h
  · cases h
  · cases h

/-! ## Slots of a level -/

/-- An option that is found by a name has that name. -/
theorem name_of_option? {name : String} (h : level.option? name = some slot) : slot.name = name := by
  simpa using List.find?_some h

/-- Each option of a level is found by its own name. -/
theorem option?_name (h : slot ∈ level.options) : level.option? slot.name = some slot := by
  cases hfound : level.option? slot.name with
  | none =>
    have hnone := List.find?_eq_none.mp hfound slot h
    simp at hnone
  | some other => rw [Slot.name_injective (name_of_option? hfound)]

/-- Places are filled by plain words. -/
theorem filling_of_place? (h : level.place? = some slot) : slot.filling = .word := by
  unfold Level.place? at h
  split at h <;> cases h <;> rfl

/-- Letters belong to options that ask for an answer. -/
theorem eq_of_letter? {c : Char} (h : level.letter? c = some slot) : slot = .help ∨ slot = .version := by
  have hletter : slot.letter = some c := by simpa using List.find?_some h
  cases slot <;> simp_all [Slot.letter]

end BackupConsole.Arguments
