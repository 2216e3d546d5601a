/-
  The grammar of command lines.

  1. **Specification** — `Piece`: how a slot is given its value at a level, in one argument or in two.
     `Line`: level by level the pieces stand in any order, and behind them the word that leads on; a
     command may end in `--`, with a word for its place behind it. `Sound`: what is asked of the slots.

  2. **Unambiguity** — `Line.unique`: the looks of the first argument decide what the next piece is, so a
     command line has one reading, whether it is sound or not.

  3. **Invariant** — `Rests` holds between two pieces of a level: the level has been given the slots of its
     pieces, in their order, the last of them perhaps still waiting with its value.

  4. **Correctness** — `line_of_readLevel`: what is read is a sound line, by induction on the arguments.
     `readLevel_line`: a line whose values are accepted is read, or a slot that is given twice at a level
     is named, by induction on the line. Together (`read_eq_ok_iff`): the sound lines are read, and
     nothing else is.
-/
import BackupConsole.Proofs.OptionShapes
import Mathlib.Data.List.Nodup

namespace BackupConsole.Arguments

variable {level : Level} {leaf : Leaf} {p q : Progress} {slot : Slot} {value argument word : String}
  {entry : Filled} {arguments part rest : List String} {filled done : List Filled}
  {levels deeper : List (List Filled)} {c : CommandLine}

/-! ## Lines -/

/-- How a slot is given its value at a level. -/
inductive Piece (level : Level) : Filled → List String → Prop
  /-- An option and its value are one argument. -/
  | whole {slot : Slot} {value argument : String} : slot ∈ level.options → slot.IsSet →
    Spells (slot, value) argument → Piece level (slot, value) [argument]
  /-- The value of an option is the next argument. -/
  | split {slot : Slot} {value : String} : slot ∈ level.options → slot.filling = .value →
    IsPlain value → Piece level (slot, value) [slot.long, value]
  /-- A word stands in the place of the level. -/
  | placed {slot : Slot} {word : String} : level.place? = some slot → IsPlain word →
    Piece level (slot, word) [word]

/-- The arguments of a level and of those below it, the command they lead to, and the slots that are
given their values at each of these levels. -/
inductive Line : Level → List String → Leaf → List (List Filled) → Prop
  | ended {l : Leaf} : Line (.leaf l) [] l [[]]
  | divided {l : Leaf} : Line (.leaf l) ["--"] l [[]]
  /-- Behind `--` any word will do. -/
  | behind {l : Leaf} {slot : Slot} {word : String} : (Level.leaf l).place? = some slot →
    Line (.leaf l) ["--", word] l [[(slot, word)]]
  | piece {level : Level} {entry : Filled} {part rest : List String} {l : Leaf} {filled : List Filled}
    {deeper : List (List Filled)} : Piece level entry part → Line level rest l (filled :: deeper) →
    Line level (part ++ rest) l ((entry :: filled) :: deeper)
  | word {g : Group} {next : Level} {word : String} {rest : List String} {l : Leaf}
    {levels : List (List Filled)} : g.next? word = some (.level next) → Line next rest l levels →
    Line (.group g) (word :: rest) l ([] :: levels)

/-- The slots of some filled ones. -/
def slotsOf (filled : List Filled) : List Slot := filled.map Prod.fst

/-- Slots that can be filled at one level: none is given twice, and each has a value it accepts. -/
structure Checked (filled : List Filled) : Prop where
  distinct : (slotsOf filled).Nodup
  accepted : ∀ entry ∈ filled, entry.1.accepts entry.2 = true

/-- A command line whose slots can be filled, those among them that its command needs. -/
structure Sound (c : CommandLine) : Prop where
  checked : ∀ filled ∈ c.levels, Checked filled
  complete : ∀ slot ∈ (Level.leaf c.leaf).needs, slot ∈ slotsOf (c.levels.getLastD [])

/-! ## The looks of a piece -/

/-- What the first argument of a piece looks like says how the piece goes on and what it gives. -/
theorem Piece.look (h : Piece level (slot, value) part) :
    ∃ first others, part = first :: others ∧ level.next? first = none ∧
      ((∃ given, shapeOf first = .long slot.name given ∧
          (given = some value ∧ others = [] ∨
            given = none ∧ slot.filling = .value ∧ others = [value] ∨
            given = none ∧ slot.filling ≠ .value ∧ value = "true" ∧ others = [])) ∨
        shapeOf first = .plain ∧ level.place? = some slot ∧ value = first ∧ others = []) := by
  cases h with
  | @whole slot value argument hoption hset hspells =>
    obtain ⟨hdash, given, hshape, hgiven⟩ := hspells.shape
    refine ⟨argument, [], rfl, next?_eq_none_of_dashes hdash level, .inl ⟨given, hshape, ?_⟩⟩
    rcases hgiven with ⟨hvalue, -⟩ | ⟨hnone, htrue, hfilling⟩
    · exact .inl ⟨hvalue, rfl⟩
    · refine .inr (.inr ⟨hnone, ?_, htrue, rfl⟩)
      rcases hfilling with hfilling | hfilling
      · rw [hfilling]
        decide
      · rw [hfilling]
        decide
  | @split slot value hoption hfilling hplain =>
    have hdash : slot.long.toList.head? = some '-' := by simp [Slot.long]
    refine ⟨slot.long, [value], rfl, next?_eq_none_of_dashes hdash level, .inl ⟨none, shapeOf_long slot, ?_⟩⟩
    exact .inr (.inl ⟨rfl, hfilling, rfl⟩)
  -- Words that lead on are read at groups only, and groups have no place.
  | placed hplace hplain =>
    refine ⟨value, [], rfl, ?_, .inr ⟨shapeOf_eq_plain_iff.mpr hplain, hplace, rfl, rfl⟩⟩
    cases level with
    | group g => cases hplace
    | leaf l => rfl

/-- What stands at the front of some arguments is one piece at most. -/
theorem Piece.unique {entry' : Filled} {part' rest' : List String} (h : Piece level entry part)
    (h' : Piece level entry' part') (heq : part ++ rest = part' ++ rest') :
    entry = entry' ∧ rest = rest' := by
  obtain ⟨slot, value⟩ := entry
  obtain ⟨slot', value'⟩ := entry'
  obtain ⟨first, others, rfl, -, hlook⟩ := h.look
  obtain ⟨first', others', rfl, -, hlook'⟩ := h'.look
  obtain ⟨rfl, heq⟩ : first = first' ∧ others ++ rest = others' ++ rest' := by simpa using heq
  rcases hlook with ⟨given, hshape, hgiven⟩ | ⟨hplain, hplace, rfl, rfl⟩
  · rcases hlook' with ⟨given', hshape', hgiven'⟩ | ⟨hplain', -⟩
    · obtain ⟨hname, rfl⟩ : slot.name = slot'.name ∧ given = given' := by
        simpa [hshape] using hshape'
      obtain rfl := Slot.name_injective hname
      -- Options of one name take their values in one way, so what follows the name decides.
      rcases hgiven with ⟨rfl, rfl⟩ | ⟨rfl, hfilling, rfl⟩ | ⟨rfl, hfilling, rfl, rfl⟩
      · simp_all
      · simp_all
      · simp_all
    · rw [hshape] at hplain'
      cases hplain'
  · rcases hlook' with ⟨given', hshape', -⟩ | ⟨-, hplace', rfl, rfl⟩
    · rw [hplain] at hshape'
      cases hshape'
    · obtain rfl : slot = slot' := Option.some.inj (hplace.symm.trans hplace')
      simp_all

theorem Line.exists_level (h : Line level arguments leaf levels) :
    ∃ filled deeper, levels = filled :: deeper := by
  cases h <;> exact ⟨_, _, rfl⟩

/-- No piece begins with `--`. -/
theorem Piece.ne_divider (h : Piece level entry part) : part ++ rest ≠ "--" :: arguments := by
  intro heq
  obtain ⟨first, others, rfl, -, ⟨given, hshape, -⟩ | ⟨hplain, -⟩⟩ := h.look
  · obtain rfl : first = "--" := by simpa using congrArg List.head? heq
    exact absurd hshape (by simp [shapeOf])
  · obtain rfl : first = "--" := by simpa using congrArg List.head? heq
    exact absurd hplain (by simp [shapeOf])

theorem Piece.append_ne_nil (h : Piece level entry part) : part ++ rest ≠ [] := by
  obtain ⟨first, others, rfl, -⟩ := h.look
  simp

/-- No piece of a level begins with a word that leads on from there. -/
theorem Piece.ne_word {next : Next} (h : Piece level entry part) (hnext : level.next? word = some next) :
    part ++ rest ≠ word :: arguments := by
  obtain ⟨first, others, rfl, hfirst, -⟩ := h.look
  intro heq
  obtain rfl : first = word := by simpa using congrArg List.head? heq
  rw [hfirst] at hnext
  cases hnext

/-- A line has one reading. -/
theorem Line.unique {leaf' : Leaf} {levels' : List (List Filled)} (h : Line level arguments leaf levels)
    (h' : Line level arguments leaf' levels') : leaf = leaf' ∧ levels = levels' := by
  -- By induction on one reading; the other begins in the same way, for the looks of the first argument
  -- allow no other.
  generalize hsame : arguments = arguments' at h'
  induction h generalizing arguments' leaf' levels' with
  | ended =>
    cases h' with
    | ended => exact ⟨rfl, rfl⟩
    | divided => cases hsame
    | behind => cases hsame
    | piece hpiece => exact absurd hsame.symm hpiece.append_ne_nil
  | divided =>
    cases h' with
    | ended => cases hsame
    | divided => exact ⟨rfl, rfl⟩
    | behind => cases hsame
    | piece hpiece => exact absurd hsame.symm hpiece.ne_divider
  | behind hplace =>
    cases h' with
    | ended => cases hsame
    | divided => cases hsame
    | behind hplace' =>
      obtain rfl := Option.some.inj (hplace.symm.trans hplace')
      cases hsame
      exact ⟨rfl, rfl⟩
    | piece hpiece => exact absurd hsame.symm hpiece.ne_divider
  | piece hpiece hrest ih =>
    cases h' with
    | ended => exact absurd hsame hpiece.append_ne_nil
    | divided => exact absurd hsame hpiece.ne_divider
    | behind => exact absurd hsame hpiece.ne_divider
    | piece hpiece' hrest' =>
      obtain ⟨rfl, rfl⟩ := hpiece.unique hpiece' hsame
      obtain ⟨rfl, hlevels⟩ := ih _ rfl hrest'
      cases hlevels
      exact ⟨rfl, rfl⟩
    | word hnext => exact absurd hsame (hpiece.ne_word hnext)
  | word hnext hrest ih =>
    cases h' with
    | piece hpiece => exact absurd hsame.symm (hpiece.ne_word hnext)
    | word hnext' hrest' =>
      cases hsame
      rw [hnext] at hnext'
      cases hnext'
      obtain ⟨rfl, rfl⟩ := ih _ rfl hrest'
      exact ⟨rfl, rfl⟩

/-! ## Single steps -/

/-- A slot that is given a value more than once. -/
def Twice (done : List Filled) (slot : Slot) : Prop := 2 ≤ (slotsOf done).count slot

theorem Checked.not_twice (h : Checked done) : ¬ Twice done slot := by
  intro htwice
  have hone := List.nodup_iff_count_le_one.mp h.distinct slot
  unfold Twice at htwice
  omega

theorem slotsOf_append (filled others : List Filled) :
    slotsOf (filled ++ others) = slotsOf filled ++ slotsOf others := List.map_append

theorem slotsOf_concat (done : List Filled) (entry : Filled) :
    slotsOf (done ++ [entry]) = slotsOf done ++ [entry.1] := slotsOf_append ..

theorem twice_concat (h : entry.1 ∈ slotsOf done) : Twice (done ++ [entry]) entry.1 := by
  have hone : 1 ≤ (slotsOf done).count entry.1 := List.count_pos_iff.mpr h
  rw [Twice, slotsOf_concat, List.count_append, List.count_singleton_self]
  omega

theorem Twice.mono (h : Twice done slot) (hbegins : done <+: filled) : Twice filled slot :=
  Nat.le_trans h ((hbegins.sublist.map Prod.fst).count_le slot)

/-- A further slot passes the checks if it is new and accepts its value. -/
theorem checked_concat (h : Checked done) (hfresh : entry.1 ∉ slotsOf done)
    (haccepts : entry.1.accepts entry.2 = true) : Checked (done ++ [entry]) := by
  constructor
  · rw [slotsOf_concat, ← List.concat_eq_append, List.nodup_concat]
    exact ⟨hfresh, h.distinct⟩
  · intro other hother
    rcases List.mem_append.mp hother with hother | hother
    · exact h.accepted other hother
    · rw [List.mem_singleton.mp hother]
      exact haccepts

/-- The result of a step by which some slots have been filled. The step fails if one of them is given
twice, which it names, or does not accept its value. -/
inductive Fills {α : Type} (done : List Filled) (a : α) : Except ArgumentError α → Prop
  | ok : Checked done → Fills done a (.ok a)
  | repeated {slot : Slot} : Twice done slot → Fills done a (.error (.repeated slot))
  | refused {entry : Filled} {e : ArgumentError} : entry ∈ done → entry.1.accepts entry.2 = false →
    Fills done a (.error e)

section

variable {α β : Type} {a : α} {result : Except ArgumentError α}

/-- A step that succeeds has filled slots that pass the checks. -/
theorem Fills.of_ok {b : α} (h : Fills done a (.ok b)) : Checked done ∧ b = a := by
  cases h with
  | ok hchecked => exact ⟨hchecked, rfl⟩

/-- Where all values are accepted, a step fails only on a slot that is given twice. -/
theorem Fills.of_accepted (h : Fills done a result)
    (haccepted : ∀ entry ∈ done, entry.1.accepts entry.2 = true) :
    Checked done ∧ result = .ok a ∨ ∃ slot, Twice done slot ∧ result = .error (.repeated slot) := by
  cases h with
  | ok hchecked => exact .inl ⟨hchecked, rfl⟩
  | repeated htwice => exact .inr ⟨_, htwice, rfl⟩
  | refused hentry hrefused => exact absurd (haccepted _ hentry) (by simp [hrefused])

/-- A step that is followed by another one. What goes wrong in the first is wrong whatever the second
would add. -/
theorem Fills.bind {next : α → Except ArgumentError β} {b : β} (h : Fills done a result)
    (hbegins : done <+: filled) (hnext : Checked done → Fills filled b (next a)) :
    Fills filled b (result.bind next) := by
  cases h with
  | ok hchecked => exact hnext hchecked
  | repeated htwice => exact .repeated (htwice.mono hbegins)
  | refused hentry hrefused => exact .refused (hbegins.subset hentry) hrefused

end

/-- Filling a slot fills that slot. -/
theorem fills_fill (hchecked : Checked p.filled) (slot : Slot) (value : String) :
    Fills (p.filled ++ [(slot, value)]) { p with filled := p.filled ++ [(slot, value)] }
      (p.fill slot value) := by
  -- Whether a slot has been filled is asked of its name alone.
  have hany : (p.filled.any fun entry => entry.1 == slot) = decide (slot ∈ slotsOf p.filled) := by
    rw [Bool.eq_iff_iff, List.any_eq_true, decide_eq_true_iff, slotsOf, List.mem_map]
    simp only [beq_iff_eq]
  rw [Progress.fill, hany]
  by_cases hfresh : slot ∈ slotsOf p.filled
  · rw [if_pos (decide_eq_true hfresh)]
    have htwice : Twice (p.filled ++ [(slot, value)]) slot := twice_concat hfresh
    exact .repeated htwice
  · rw [if_neg (by simpa using hfresh)]
    cases haccepts : slot.accepts value with
    | true => exact .ok (checked_concat hchecked hfresh haccepts)
    | false =>
      have hlast : (slot, value) ∈ p.filled ++ [(slot, value)] := by simp
      by_cases hempty : value = ""
      · rw [if_neg Bool.false_ne_true, if_pos hempty]
        exact .refused hlast haccepts
      · rw [if_neg Bool.false_ne_true, if_neg hempty]
        exact .refused hlast haccepts

/-- The slots that have their values, the one that waits with its value included. -/
def Progress.given (p : Progress) : List Filled :=
  match p.waiting with
  | some (slot, some value) => p.filled ++ [(slot, value)]
  | _ => p.filled

/-- Settling fills the slot that waits with its value. -/
theorem fills_settle (hchecked : Checked p.filled) (hclosed : p.isOpen = false) :
    Fills p.given { p with filled := p.given, waiting := none } p.settle := by
  obtain ⟨before, waiting, divided, placed⟩ := p
  cases waiting with
  | none => exact .ok hchecked
  | some waiting =>
    obtain ⟨slot, _ | value⟩ := waiting
    · cases hclosed
    · exact fills_fill (p := ⟨before, none, divided, placed⟩) hchecked slot value

theorem fills_settleAndFill (hchecked : Checked p.filled) (hclosed : p.isOpen = false) (slot : Slot)
    (value : String) :
    Fills (p.given ++ [(slot, value)])
      { p with filled := p.given ++ [(slot, value)], waiting := none } (p.settleAndFill slot value) := by
  have hbind : p.settleAndFill slot value = p.settle.bind fun q => q.fill slot value := by
    unfold Progress.settleAndFill
    cases p.settle <;> rfl
  rw [hbind]
  refine (fills_settle hchecked hclosed).bind (List.prefix_append ..) fun hgiven => ?_
  exact fills_fill (p := { p with filled := p.given, waiting := none }) hgiven slot value

/-- A slot that has to wait settles the one before it. -/
theorem fills_await (hchecked : Checked p.filled) (hclosed : p.isOpen = false) (slot : Slot)
    (value : Option String) :
    Fills p.given { p with filled := p.given, waiting := some (slot, value) } (p.await slot value) := by
  have hbind : p.await slot value = p.settle.bind fun q => .ok { q with waiting := some (slot, value) } := by
    unfold Progress.await
    cases p.settle <;> rfl
  rw [hbind]
  exact (fills_settle hchecked hclosed).bind List.prefix_rfl .ok

theorem fills_finish (hchecked : Checked p.filled) (hclosed : p.isOpen = false) :
    Fills p.given p.given p.finish := by
  have hbind : p.finish = p.settle.bind fun q => .ok q.filled := by
    unfold Progress.finish
    cases p.settle <;> rfl
  rw [hbind]
  exact (fills_settle hchecked hclosed).bind List.prefix_rfl .ok

/-! ## Between two pieces -/

/-- A level between two of its pieces, when these have given some slots their values. -/
structure Rests (level : Level) (p : Progress) (done : List Filled) : Prop where
  given : p.given = done
  checked : Checked p.filled
  closed : p.isOpen = false
  undivided : p.divided = false
  placed : p.placed = true → ∃ slot ∈ slotsOf done, level.place? = some slot

theorem rests_start (level : Level) : Rests level .start [] :=
  ⟨rfl, ⟨List.nodup_nil, nofun⟩, rfl, rfl, nofun⟩

/-- The slot a piece has just filled is settled with those before it. -/
theorem Rests.fills (h : Rests level p done) (hchecked : Checked (done ++ [(slot, value)])) :
    Rests level { p with filled := done ++ [(slot, value)], waiting := none } (done ++ [(slot, value)]) where
  given := rfl
  checked := hchecked
  closed := rfl
  undivided := h.undivided
  placed := by
    intro hplaced
    obtain ⟨s, hs, hplace⟩ := h.placed hplaced
    exact ⟨s, slotsOf_concat .. ▸ List.mem_append_left _ hs, hplace⟩

/-- The slot of the last piece waits with its value. -/
theorem Rests.waits (h : Rests level p done) (hchecked : Checked done) {placed : Bool}
    (hplaced : placed = true → p.placed = true ∨ level.place? = some slot) :
    Rests level { p with filled := done, waiting := some (slot, some value), placed := placed }
      (done ++ [(slot, value)]) where
  given := rfl
  checked := hchecked
  closed := rfl
  undivided := h.undivided
  placed := by
    intro htrue
    rw [slotsOf_concat]
    rcases hplaced htrue with hbefore | hplace
    · obtain ⟨s, hs, hplace⟩ := h.placed hbefore
      exact ⟨s, List.mem_append_left _ hs, hplace⟩
    · exact ⟨slot, by simp, hplace⟩

/-- A place that has no word yet is free. -/
theorem Rests.placed_eq_false (h : Rests level p done) (hplace : level.place? = some slot)
    (hfresh : slot ∉ slotsOf done) : p.placed = false := by
  by_contra hplaced
  obtain ⟨s, hs, hsame⟩ := h.placed (by simpa using hplaced)
  rw [hplace] at hsame
  cases hsame
  exact hfresh hs

/-- Where nothing is open, an argument leads on exactly if it is a command word. -/
theorem Rests.descends_eq (h : Rests level p done) (argument : String) :
    descends level p argument = level.next? argument := by
  rw [descends, h.undivided, h.closed]
  rfl

/-- A mark fills its slot, unless it asks for an answer. -/
theorem readLong_mark (hfilling : slot.filling = .mark) (hset : slot.IsSet) :
    readLong level p slot none = p.settleAndFill slot "true" := by
  rw [readLong, hfilling]
  unfold Progress.settleAndFill
  cases hsettled : p.settle with
  | ok settled => simp only [if_neg hset.1, if_neg hset.2]
  | error e => rfl

/-- An option with its value in one argument fills its slot. -/
theorem readArgument_whole (hundivided : p.divided = false) (hoption : slot ∈ level.options)
    (hset : slot.IsSet) (hspells : Spells (slot, value) argument) :
    readArgument level p argument = p.settleAndFill slot value := by
  obtain ⟨-, given, hshape, hgiven⟩ := hspells.shape
  have hread : readArgument level p argument = readLong level p slot given := by
    have hdivided : (p.divided = true) = False := by simp [hundivided]
    simp only [readArgument, hdivided, if_false, hshape, option?_name hoption]
  rw [hread]
  rcases hgiven with ⟨rfl, hfilling | hfilling⟩ | ⟨rfl, rfl, hfilling | hfilling⟩
  · rw [readLong, hfilling]
  · rw [readLong, hfilling]
    rfl
  · rw [readLong, hfilling]
    rfl
  · exact readLong_mark hfilling hset

/-- An option that takes its value from the next argument waits for it. -/
theorem readArgument_name (hundivided : p.divided = false) (hoption : slot ∈ level.options)
    (hfilling : slot.filling = .value) : readArgument level p slot.long = p.await slot none := by
  have hdivided : (p.divided = true) = False := by simp [hundivided]
  simp only [readArgument, hdivided, if_false, shapeOf_long, option?_name hoption]
  rw [readLong, hfilling]

/-- A letter asks for an answer, so reading ends there. -/
theorem readLetter_ne_ok (h : slot = .help ∨ slot = .version) : readLetter level p slot ≠ .ok q := by
  unfold readLetter
  split
  · exact nofun
  · rcases h with rfl | rfl <;> exact nofun

/-- An option that does not stand alone asks neither for help nor for the version. -/
theorem isSet_of_filling (h : slot.filling ≠ .mark) : slot.IsSet := by
  constructor
  · rintro rfl
    exact h rfl
  · rintro rfl
    exact h rfl

theorem Rests.readArgument_plain (h : Rests level p done) (hplain : IsPlain argument) :
    readArgument level p argument = readWord level p argument := by
  have hdivided : (p.divided = true) = False := by simp [h.undivided]
  simp only [readArgument, hdivided, if_false, shapeOf_eq_plain_iff.mpr hplain]
  split
  · next slot hwaiting =>
    -- Nothing is open between two pieces.
    have hclosed := h.closed
    simp [Progress.isOpen, hwaiting] at hclosed
  · rfl

/-- An option in the long form fills its slot, or it waits for the next argument. -/
theorem of_readLong {given : Option String} (h : readLong level p slot given = .ok q)
    (hargument : argument = slot.long ++ (given.map ("=" ++ ·)).getD "") :
    (∃ value, slot.IsSet ∧ Spells (slot, value) argument ∧ p.settleAndFill slot value = .ok q) ∨
      slot.filling = .value ∧ argument = slot.long ∧ p.await slot none = .ok q := by
  have hread := h
  unfold readLong at h
  split at h
  · -- A switch stands alone or has its value behind the equals sign.
    next hswitch =>
    have hset : slot.IsSet := isSet_of_filling (by simp [hswitch])
    cases given with
    | none =>
      obtain rfl : argument = slot.long := by simpa using hargument
      exact .inl ⟨"true", hset, .alone (.inl hswitch), h⟩
    | some text =>
      obtain rfl : argument = slot.long ++ "=" ++ text := by
        simpa [String.append_assoc] using hargument
      exact .inl ⟨text, hset, .behind (.inr hswitch), h⟩
  · -- An option with a value has it behind the equals sign, or waits for the next argument.
    next hvalue =>
    cases given with
    | none => exact .inr ⟨hvalue, by simpa using hargument, h⟩
    | some text =>
      obtain rfl : argument = slot.long ++ "=" ++ text := by
        simpa [String.append_assoc] using hargument
      exact .inl ⟨text, isSet_of_filling (by simp [hvalue]), .behind (.inl hvalue), h⟩
  · -- A mark stands alone. Help and version are marks too, but they answer instead of being set.
    next hmark =>
    cases given with
    | some text => cases h
    | none =>
      obtain rfl : argument = slot.long := by simpa using hargument
      have hset : slot.IsSet := by
        simp only at h
        split at h
        · cases h
        · split at h
          · cases h
          · next hhelp =>
            split at h
            · cases h
            · next hversion => exact ⟨hhelp, hversion⟩
      exact .inl ⟨"true", hset, .alone (.inr hmark), readLong_mark hmark hset ▸ hread⟩
  · cases h

/-- Only a level with a place that is still free takes a word. -/
theorem of_readWord (h : readWord level p word = .ok q) :
    ∃ slot, level.place? = some slot ∧ p.placed = false := by
  unfold readWord at h
  split at h
  · next slot hplace =>
    split at h
    · cases h
    · next hplaced => exact ⟨slot, hplace, by simpa using hplaced⟩
  · split at h
    · cases h
    · split at h <;> cases h

/-- A word fills the place of its level, once. -/
theorem fills_readWord (hchecked : Checked p.filled) (hclosed : p.isOpen = false)
    (hplace : level.place? = some slot) (hplaced : p.placed = false) (word : String) :
    Fills p.given { p with filled := p.given, waiting := some (slot, some word), placed := true }
      (readWord level p word) := by
  have hbind : readWord level p word = (p.await slot (some word)).bind fun q => .ok { q with placed := true } := by
    simp only [readWord, hplace, hplaced, Bool.false_eq_true, if_false]
    cases p.await slot (some word) <;> rfl
  rw [hbind]
  exact (fills_await hchecked hclosed slot (some word)).bind List.prefix_rfl .ok

/-! ## Lines are read -/

/-- An argument that is read leaves the rest of the level to read. -/
theorem readLevel_of_ok (hstays : descends level p argument = none)
    (hread : readArgument level p argument = .ok q) (rest : List String) :
    readLevel level p (argument :: rest) = readLevel level q rest := by
  rw [readLevel, hstays]
  simp only [hread]

theorem readLevel_of_error {e : ArgumentError} (hstays : descends level p argument = none)
    (hread : readArgument level p argument = .error e) (rest : List String) :
    readLevel level p (argument :: rest) = .error e := by
  rw [readLevel, hstays]
  simp only [hread]

/-- The value of an option that waits is the next argument, even if it is a command word. -/
theorem readLevel_value {before : List Filled} {placed : Bool} (hplain : IsPlain value)
    (rest : List String) :
    readLevel level ⟨before, some (slot, none), false, placed⟩ (value :: rest) =
      readLevel level ⟨before, some (slot, some value), false, placed⟩ rest := by
  refine readLevel_of_ok rfl ?_ rest
  simp only [readArgument, Bool.false_eq_true, if_false, shapeOf_eq_plain_iff.mpr hplain]

/-- A piece gives its slot the value, unless it or a piece before it repeats a slot. -/
theorem readLevel_piece (h : Rests level p done) (hpiece : Piece level entry part)
    (haccepted : ∀ e ∈ done ++ [entry], e.1.accepts e.2 = true)
    (hfresh : entry.1.filling = .word → entry.1 ∉ slotsOf done) :
    (∃ q, Rests level q (done ++ [entry]) ∧
        ∀ rest, readLevel level p (part ++ rest) = readLevel level q rest) ∨
      ∃ slot, Twice (done ++ [entry]) slot ∧
        ∀ rest, readLevel level p (part ++ rest) = .error (.repeated slot) := by
  have hbefore : ∀ e ∈ done, e.1.accepts e.2 = true :=
    fun e he => haccepted e (List.mem_append_left _ he)
  obtain ⟨first, others, hpart, hstays, -⟩ := hpiece.look
  have hstays : descends level p first = none := by rw [h.descends_eq, hstays]
  cases hpiece with
  -- One argument, which settles what waited and fills its slot at once.
  | @whole slot value argument hoption hset hspells =>
    cases hpart
    have hread := readArgument_whole h.undivided hoption hset hspells
    have hfills := fills_settleAndFill h.checked h.closed slot value
    rw [h.given] at hfills
    rcases hfills.of_accepted haccepted with ⟨hchecked, hfilled⟩ | ⟨s, htwice, herror⟩
    · exact .inl ⟨_, h.fills hchecked, readLevel_of_ok hstays (hread.trans hfilled)⟩
    · exact .inr ⟨s, htwice, readLevel_of_error hstays (hread.trans herror)⟩
  -- Two arguments: the name waits, and then the value is taken without being looked at again.
  | @split slot value hoption hfilling hplain =>
    cases hpart
    have hread := readArgument_name h.undivided hoption hfilling
    have hfills := fills_await h.checked h.closed slot none
    rw [h.given] at hfills
    rcases hfills.of_accepted hbefore with ⟨hchecked, hawaited⟩ | ⟨s, htwice, herror⟩
    · refine .inl ⟨_, h.waits hchecked .inl, ?_⟩
      intro rest
      have hopen := readLevel_of_ok hstays (hread.trans hawaited) (value :: rest)
      rw [h.undivided] at hopen ⊢
      exact hopen.trans (readLevel_value hplain rest)
    · refine .inr ⟨s, htwice.mono (List.prefix_append ..), ?_⟩
      intro rest
      exact readLevel_of_error hstays (hread.trans herror) _
  | @placed slot word hplace hplain =>
    obtain ⟨rfl, rfl⟩ : word = first ∧ [] = others := by simpa using hpart
    have hplaced := h.placed_eq_false hplace (hfresh (filling_of_place? hplace))
    have hread := h.readArgument_plain hplain
    -- A word waits in its place until the next argument settles it.
    have hfills := fills_readWord h.checked h.closed hplace hplaced word
    rw [h.given] at hfills
    rcases hfills.of_accepted hbefore with ⟨hchecked, hawaited⟩ | ⟨s, htwice, herror⟩
    · have hq : Rests level { p with filled := done, waiting := some (slot, some word), placed := true }
          (done ++ [(slot, word)]) := h.waits hchecked fun _ => .inr hplace
      exact .inl ⟨_, hq, readLevel_of_ok hstays (hread.trans hawaited)⟩
    · refine .inr ⟨s, htwice.mono (List.prefix_append ..), ?_⟩
      exact readLevel_of_error hstays (hread.trans herror)

/-- Behind `--` all arguments are words. -/
theorem Rests.readLevel_divider (h : Rests level p done) (rest : List String) :
    readLevel level p ("--" :: rest) = readLevel level { p with divided := true } rest := by
  have hstays : descends level p "--" = none := by
    rw [h.descends_eq]
    exact next?_eq_none_of_dashes rfl level
  have hdivided : (p.divided = true) = False := by simp [h.undivided]
  have hshape : shapeOf "--" = .divider := rfl
  refine readLevel_of_ok hstays ?_ rest
  simp only [readArgument, hdivided, if_false, hshape]

theorem descends_divided (h : p.divided = true) (argument : String) :
    descends level p argument = none := by
  rw [descends, h]
  rfl

theorem readArgument_divided (h : p.divided = true) (argument : String) :
    readArgument level p argument = readWord level p argument := by
  rw [readArgument, if_pos h]

/-- The slots at a level of a line that can be read unless one is given twice: each has a value it
accepts, and a place has one word. -/
structure Acceptable (filled : List Filled) : Prop where
  accepted : ∀ entry ∈ filled, entry.1.accepts entry.2 = true
  placed : ∀ slot, slot.filling = .word → (slotsOf filled).count slot ≤ 1

/-- A place has one word, so it is still open where that word comes. -/
theorem Acceptable.fresh (h : Acceptable (done ++ entry :: filled)) (hword : entry.1.filling = .word) :
    entry.1 ∉ slotsOf done := by
  intro hmem
  have hbefore : 1 ≤ (slotsOf done).count entry.1 := List.count_pos_iff.mpr hmem
  have hone := h.placed entry.1 hword
  rw [slotsOf_append, List.count_append, slotsOf, slotsOf, List.map_cons, List.count_cons_self] at hone
  rw [slotsOf] at hbefore
  omega

/-- The result of reading a line: what is written, or the error that names a slot given twice at a level. -/
def ReadAs (c : CommandLine) (result : Except ArgumentError CommandLine) : Prop :=
  result = .ok c ∨ ∃ filled ∈ c.levels, ∃ slot, Twice filled slot ∧ result = .error (.repeated slot)

/-- A command ends with the slots that it needs. -/
theorem endLevel_leaf {leaf : Leaf} (h : p.finish = .ok filled)
    (hneeds : ∀ slot ∈ (Level.leaf leaf).needs, slot ∈ slotsOf filled) :
    endLevel (.leaf leaf) p = .ok ⟨leaf, [filled]⟩ := by
  have hlacking : lacking (.leaf leaf) filled = [] := by
    rw [lacking, List.filter_eq_nil_iff]
    intro slot hslot
    obtain ⟨entry, hentry, rfl⟩ := List.mem_map.mp (hneeds slot hslot)
    simp only [Bool.not_eq_true', Bool.not_eq_false, List.any_eq_true]
    exact ⟨entry, hentry, by simp⟩
  rw [endLevel, h]
  simp only [hlacking]

/-- A level of a command ends. -/
theorem readAs_endLevel (hfills : Fills done done p.finish) (hacceptable : Acceptable done)
    (hneeds : ∀ slot ∈ (Level.leaf leaf).needs, slot ∈ slotsOf done) :
    ReadAs ⟨leaf, [done]⟩ (endLevel (.leaf leaf) p) := by
  rcases hfills.of_accepted hacceptable.accepted with ⟨-, hfinish⟩ | ⟨slot, htwice, herror⟩
  · exact .inl (endLevel_leaf hfinish hneeds)
  · refine .inr ⟨done, List.mem_singleton_self _, slot, htwice, ?_⟩
    rw [endLevel, herror]

/-- A word behind `--` fills the place of a command, whose level ends there. -/
theorem readAs_behind (hp : Rests (.leaf leaf) p done) (hplace : (Level.leaf leaf).place? = some slot)
    (hacceptable : Acceptable (done ++ [(slot, word)]))
    (hneeds : ∀ s ∈ (Level.leaf leaf).needs, s ∈ slotsOf (done ++ [(slot, word)])) :
    ReadAs ⟨leaf, [done ++ [(slot, word)]]⟩
      (readLevel (.leaf leaf) { p with divided := true } [word]) := by
  have hplaced := hp.placed_eq_false hplace (hacceptable.fresh (filling_of_place? hplace))
  have hfills := fills_readWord (p := { p with divided := true }) hp.checked hp.closed hplace hplaced word
  rw [show Progress.given { p with divided := true } = done from hp.given] at hfills
  have hbefore : ∀ e ∈ done, e.1.accepts e.2 = true :=
    fun e he => hacceptable.accepted e (List.mem_append_left _ he)
  have hread : readArgument (.leaf leaf) { p with divided := true } word =
      readWord (.leaf leaf) { p with divided := true } word := readArgument_divided rfl word
  rcases hfills.of_accepted hbefore with ⟨hchecked, hawaited⟩ | ⟨s, htwice, herror⟩
  · rw [readLevel_of_ok (descends_divided rfl word) (hread.trans hawaited)]
    have hfinish := fills_finish (p := ⟨done, some (slot, some word), true, true⟩) hchecked rfl
    exact readAs_endLevel hfinish hacceptable hneeds
  · refine .inr ⟨_, List.mem_singleton_self _, s, htwice.mono (List.prefix_append ..), ?_⟩
    exact readLevel_of_error (descends_divided rfl word) (hread.trans herror) _

/-- A word that leads on: when the levels below have been read, what waits at this one is settled. -/
theorem readAs_word {g : Group} {next : Level} (hp : Rests (.group g) p done)
    (hnext : g.next? word = some (.level next)) (hacceptable : Acceptable done)
    (hbelow : ReadAs ⟨leaf, levels⟩ (readLevel next .start rest)) :
    ReadAs ⟨leaf, done :: levels⟩ (readLevel (.group g) p (word :: rest)) := by
  have hleads : descends (.group g) p word = some (.level next) := (hp.descends_eq word).trans hnext
  rw [readLevel, hleads]
  rcases hbelow with hread | ⟨f, hf, slot, htwice, herror⟩
  · have hfinish := fills_finish hp.checked hp.closed
    rw [hp.given] at hfinish
    simp only [hread, surround]
    rcases hfinish.of_accepted hacceptable.accepted with ⟨-, hdone⟩ | ⟨slot, htwice, herror⟩
    · rw [hdone]
      exact .inl rfl
    · rw [herror]
      exact .inr ⟨done, List.mem_cons_self, slot, htwice, rfl⟩
  · simp only [herror]
    exact .inr ⟨f, List.mem_cons_of_mem _ hf, slot, htwice, rfl⟩

/-- A line is read from any point between two pieces on, unless it repeats a slot. -/
theorem readLevel_line (h : Line level arguments leaf levels) (hlevels : levels = filled :: deeper)
    (hp : Rests level p done) (hacceptable : ∀ f ∈ (done ++ filled) :: deeper, Acceptable f)
    (hneeds : ∀ slot ∈ (Level.leaf leaf).needs,
      slot ∈ slotsOf (((done ++ filled) :: deeper).getLastD [])) :
    ReadAs ⟨leaf, (done ++ filled) :: deeper⟩ (readLevel level p arguments) := by
  -- By induction on the line; `Rests` holds before each piece, and at the start of each level.
  induction h generalizing p done filled deeper with
  | ended =>
    cases hlevels
    rw [List.append_nil] at hacceptable hneeds ⊢
    have hfinish := fills_finish hp.checked hp.closed
    rw [hp.given] at hfinish
    exact readAs_endLevel hfinish (hacceptable _ List.mem_cons_self) hneeds
  | divided =>
    cases hlevels
    rw [List.append_nil] at hacceptable hneeds ⊢
    rw [hp.readLevel_divider]
    have hfinish := fills_finish (p := { p with divided := true }) hp.checked hp.closed
    rw [show Progress.given { p with divided := true } = done from hp.given] at hfinish
    exact readAs_endLevel hfinish (hacceptable _ List.mem_cons_self) hneeds
  | @behind l slot word hplace =>
    cases hlevels
    rw [hp.readLevel_divider]
    exact readAs_behind hp hplace (hacceptable _ List.mem_cons_self) hneeds
  | @piece level entry part rest l more below hpiece hrest ih =>
    cases hlevels
    have hhere := hacceptable _ List.mem_cons_self
    have hsplit : done ++ entry :: more = done ++ [entry] ++ more := by simp
    have haccepted : ∀ e ∈ done ++ [entry], e.1.accepts e.2 = true := by
      intro e he
      exact hhere.accepted e (hsplit ▸ List.mem_append_left _ he)
    rcases readLevel_piece hp hpiece haccepted hhere.fresh with ⟨q, hq, hread⟩ | ⟨slot, htwice, herror⟩
    · rw [hread, hsplit]
      rw [hsplit] at hacceptable hneeds
      exact ih rfl hq hacceptable hneeds
    · refine .inr ⟨_, List.mem_cons_self, slot, ?_, herror rest⟩
      exact htwice.mono (hsplit ▸ List.prefix_append ..)
  | @word g next word rest l below hnext hrest ih =>
    cases hlevels
    obtain ⟨inner, deeper, rfl⟩ := hrest.exists_level
    rw [List.append_nil] at hacceptable hneeds ⊢
    have hbelow : ReadAs ⟨l, inner :: deeper⟩ (readLevel next .start rest) :=
      ih rfl (rests_start next) (fun f hf => hacceptable f (List.mem_cons_of_mem _ hf)) hneeds
    exact readAs_word hp hnext (hacceptable _ List.mem_cons_self) hbelow

/-! ## What is read is a line -/

/-- A level that is read has its first argument read first. -/
theorem readLevel_cons_of_ok (hstays : descends level p argument = none)
    (h : readLevel level p (argument :: rest) = .ok c) :
    ∃ q, readArgument level p argument = .ok q ∧ readLevel level q rest = .ok c := by
  cases hread : readArgument level p argument with
  | ok q =>
    rw [readLevel_of_ok hstays hread] at h
    exact ⟨q, rfl, h⟩
  | error e =>
    rw [readLevel_of_error hstays hread] at h
    cases h

/-- An option that waits for its value when `--` comes waits in vain. -/
theorem readLevel_ne_ok_of_open_divided {before : List Filled} {placed : Bool} :
    readLevel level ⟨before, some (slot, none), true, placed⟩ arguments ≠ .ok c := by
  intro h
  cases arguments with
  | nil => cases h
  | cons argument rest =>
    obtain ⟨q, hread, -⟩ := readLevel_cons_of_ok (descends_divided rfl argument) h
    rw [readArgument_divided rfl] at hread
    obtain ⟨s, hplace, hplaced⟩ := of_readWord hread
    have hfree : placed = false := hplaced
    rw [hfree] at hread
    simp only [readWord, hplace, Bool.false_eq_true, if_false] at hread
    cases hread

/-- An option that waits for its value takes it from the next argument, which does not look like an
option. -/
theorem exists_value_of_open {before : List Filled} {placed : Bool}
    (h : readLevel level ⟨before, some (slot, none), false, placed⟩ arguments = .ok c) :
    ∃ value rest, arguments = value :: rest ∧ IsPlain value := by
  cases arguments with
  | nil => cases h
  | cons argument rest =>
    obtain ⟨q, hread, hrest⟩ := readLevel_cons_of_ok rfl h
    refine ⟨argument, rest, rfl, ?_⟩
    simp only [readArgument, Bool.false_eq_true, if_false] at hread
    split at hread
    · cases hread
      exact absurd hrest readLevel_ne_ok_of_open_divided
    · split at hread
      · next other hother =>
        -- Whatever option comes, what waits would have to be settled first.
        unfold readLong at hread
        split at hread
        · cases hread
        · split at hread <;> cases hread
        · split at hread <;> cases hread
        · cases hread
      · cases hread
    · split at hread
      · next other hletter => exact absurd hread (readLetter_ne_ok (eq_of_letter? hletter))
      · cases hread
    · next hshape => exact shapeOf_eq_plain_iff.mp hshape

/-- A level that ends without error is a command with all that it needs. -/
theorem of_endLevel (hfills : Fills done done p.finish) (h : endLevel level p = .ok c) :
    ∃ l, level = .leaf l ∧ c = ⟨l, [done]⟩ ∧ Sound c := by
  unfold endLevel at h
  split at h
  · cases h
  · next filled hfinish =>
    rw [hfinish] at hfills
    obtain ⟨hchecked, rfl⟩ := hfills.of_ok
    split at h
    · split at h <;> cases h
    · next l =>
      split at h
      · next hlacking =>
        -- Nothing is lacking: every needed slot is among those that have been filled.
        cases h
        refine ⟨l, rfl, rfl, ?_, ?_⟩
        · intro f hf
          rw [List.mem_singleton.mp hf]
          exact hchecked
        · intro s hs
          have hgiven := List.filter_eq_nil_iff.mp hlacking s hs
          simp only [Bool.not_eq_true', Bool.not_eq_false, List.any_eq_true] at hgiven
          obtain ⟨entry, hentry, heq⟩ := hgiven
          exact List.mem_map.mpr ⟨entry, hentry, by simpa using heq⟩
      · cases h

/-- Behind `--` nothing is left, or one word for the place of a command. -/
theorem line_of_divided (hp : Rests level p done)
    (h : readLevel level { p with divided := true } arguments = .ok c) :
    ∃ filled, c.levels = [done ++ filled] ∧ Line level ("--" :: arguments) c.leaf [filled] ∧ Sound c := by
  have hgiven : Progress.given { p with divided := true } = done := hp.given
  cases arguments with
  | nil =>
    have hfinish := fills_finish (p := { p with divided := true }) hp.checked hp.closed
    rw [hgiven] at hfinish
    obtain ⟨l, rfl, rfl, hsound⟩ := of_endLevel hfinish h
    exact ⟨[], by simp, .divided, hsound⟩
  | cons word rest =>
    obtain ⟨q, hread, hrest⟩ := readLevel_cons_of_ok (descends_divided rfl word) h
    rw [readArgument_divided rfl] at hread
    obtain ⟨slot, hplace, hplaced⟩ := of_readWord hread
    have hfills := fills_readWord (p := { p with divided := true }) hp.checked hp.closed hplace hplaced word
    rw [hgiven, hread] at hfills
    obtain ⟨hchecked, rfl⟩ := hfills.of_ok
    cases rest with
    | nil =>
      have hfinish := fills_finish (p := ⟨done, some (slot, some word), true, true⟩) hchecked rfl
      obtain ⟨l, rfl, rfl, hsound⟩ := of_endLevel hfinish hrest
      exact ⟨[(slot, word)], rfl, .behind hplace, hsound⟩
    | cons surplus more =>
      -- The place has its word.
      obtain ⟨_, hsurplus, -⟩ := readLevel_cons_of_ok (descends_divided rfl surplus) hrest
      rw [readArgument_divided rfl] at hsurplus
      obtain ⟨_, -, hfree⟩ := of_readWord hsurplus
      cases hfree

/-- An argument that does not lead on is `--`, or a piece begins with it. -/
theorem piece_of_readLevel (hp : Rests level p done) (hnext : level.next? argument = none)
    (h : readLevel level p (argument :: rest) = .ok c) :
    (argument = "--" ∧ readLevel level { p with divided := true } rest = .ok c) ∨
      ∃ entry part more q, argument :: rest = part ++ more ∧ Piece level entry part ∧
        more.length ≤ rest.length ∧ Rests level q (done ++ [entry]) ∧ readLevel level q more = .ok c := by
  have hstays : descends level p argument = none := (hp.descends_eq argument).trans hnext
  obtain ⟨q, hread, hrest⟩ := readLevel_cons_of_ok hstays h
  have hargument := hread
  simp only [readArgument, hp.undivided, Bool.false_eq_true, if_false] at hread
  split at hread
  · next hshape =>
    cases hread
    exact .inl ⟨eq_of_shapeOf_divider hshape, hrest⟩
  · next name given hshape =>
    refine .inr ?_
    split at hread
    · next slot hfound =>
      have hoption : slot ∈ level.options := List.mem_of_find?_eq_some hfound
      have htext : argument = slot.long ++ (given.map ("=" ++ ·)).getD "" := by
        rw [eq_of_shapeOf_long hshape, Slot.long, name_of_option? hfound]
      rcases of_readLong hread htext with ⟨value, hset, hspells, hfill⟩ | ⟨hfilling, rfl, hawait⟩
      · -- Reading can only go on if the slot has been filled, so it was new and accepts its value.
        have hfills := fills_settleAndFill hp.checked hp.closed slot value
        rw [hp.given, hfill] at hfills
        obtain ⟨hchecked, rfl⟩ := hfills.of_ok
        exact ⟨_, [argument], rest, _, rfl, .whole hoption hset hspells, Nat.le_refl _,
          hp.fills hchecked, hrest⟩
      · have hfills := fills_await hp.checked hp.closed slot none
        rw [hp.given, hawait] at hfills
        obtain ⟨hchecked, rfl⟩ := hfills.of_ok
        -- The option waits with nothing, so the next argument has to be there and to look like a value.
        rw [hp.undivided] at hrest
        obtain ⟨value, more, rfl, hplain⟩ := exists_value_of_open hrest
        rw [readLevel_value hplain] at hrest
        have hq : Rests level ⟨done, some (slot, some value), p.divided, p.placed⟩ (done ++ [(slot, value)]) :=
          hp.waits hchecked .inl
        rw [hp.undivided] at hq
        exact ⟨_, [slot.long, value], more, _, rfl, .split hoption hfilling hplain, by simp, hq, hrest⟩
    · cases hread
  · split at hread
    · next slot hletter => exact absurd hread (readLetter_ne_ok (eq_of_letter? hletter))
    · cases hread
  · next hshape =>
    have hplain := shapeOf_eq_plain_iff.mp hshape
    -- A plain word that leads nowhere fills the place of its level.
    rw [hp.readArgument_plain hplain] at hargument
    obtain ⟨slot, hplace, hplaced⟩ := of_readWord hargument
    have hfills := fills_readWord hp.checked hp.closed hplace hplaced argument
    rw [hp.given, hargument] at hfills
    obtain ⟨hchecked, rfl⟩ := hfills.of_ok
    have hq : Rests level { p with filled := done, waiting := some (slot, some argument), placed := true }
        (done ++ [(slot, argument)]) := hp.waits hchecked fun _ => .inr hplace
    exact .inr ⟨_, [argument], rest, _, rfl, .placed hplace hplain, Nat.le_refl _, hq, hrest⟩

/-- A word that leads on settles its level when the levels below have been read. -/
theorem inner_of_readLevel {next : Next} (hp : Rests level p done) (hnext : level.next? word = some next)
    (h : readLevel level p (word :: rest) = .ok c) :
    ∃ g lower inner, level = .group g ∧ next = .level lower ∧ Checked done ∧
      readLevel lower .start rest = .ok inner ∧ c = { inner with levels := done :: inner.levels } := by
  have hleads : descends level p word = some next := (hp.descends_eq word).trans hnext
  rw [readLevel, hleads] at h
  cases level with
  | leaf l => cases hnext
  | group g =>
    cases next with
    -- The word for help ends the reading; only a word for a level leads on.
    | help => cases h
    | level lower =>
      simp only at h
      split at h
      · next inner hinner =>
        have hfinish := fills_finish hp.checked hp.closed
        rw [hp.given] at hfinish
        unfold surround at h
        split at h
        · cases h
        · next filled hdone =>
          rw [hdone] at hfinish
          obtain ⟨hchecked, rfl⟩ := hfinish.of_ok
          cases h
          exact ⟨g, lower, inner, rfl, rfl, hchecked, hinner, rfl⟩
      · cases h

/-- What is read from a point between two pieces on is a sound line. -/
theorem line_of_readLevel (hp : Rests level p done) (h : readLevel level p arguments = .ok c) :
    ∃ filled deeper, c.levels = (done ++ filled) :: deeper ∧
      Line level arguments c.leaf (filled :: deeper) ∧ Sound c := by
  -- By induction on the number of arguments, for a piece may take two of them.
  induction hn : arguments.length using Nat.strongRecOn generalizing level p done arguments c with
  | _ n ih =>
    cases arguments with
    | nil =>
      have hfinish := fills_finish hp.checked hp.closed
      rw [hp.given] at hfinish
      obtain ⟨l, rfl, rfl, hsound⟩ := of_endLevel hfinish h
      exact ⟨[], [], by simp, .ended, hsound⟩
    | cons argument rest =>
      have hn : rest.length + 1 = n := hn
      cases hnext : level.next? argument with
      | some next =>
        obtain ⟨g, lower, inner, rfl, rfl, hchecked, hread, rfl⟩ := inner_of_readLevel hp hnext h
        obtain ⟨filled, deeper, hlevels, hline, hsound⟩ := ih _ (by omega) (rests_start lower) hread rfl
        refine ⟨[], inner.levels, by simp, ?_, ?_, ?_⟩
        · rw [hlevels]
          exact .word hnext hline
        · intro f hf
          rcases List.mem_cons.mp hf with rfl | hf
          · exact hchecked
          · exact hsound.checked f hf
        · intro slot hslot
          have hneeded := hsound.complete slot hslot
          rw [hlevels] at hneeded
          rw [hlevels]
          exact hneeded
      | none =>
        rcases piece_of_readLevel hp hnext h with
          ⟨rfl, hdivided⟩ | ⟨entry, part, more, q, hsplit, hpiece, hmore, hq, hread⟩
        · obtain ⟨filled, hlevels, hline, hsound⟩ := line_of_divided hp hdivided
          exact ⟨filled, [], hlevels, hline, hsound⟩
        · obtain ⟨filled, deeper, hlevels, hline, hsound⟩ := ih _ (by omega) hq hread rfl
          refine ⟨entry :: filled, deeper, by simpa using hlevels, ?_, hsound⟩
          rw [hsplit]
          exact .piece hpiece hline

/-! ## Whole command lines -/

theorem Checked.acceptable (h : Checked filled) : Acceptable filled :=
  ⟨h.accepted, fun slot _ => List.nodup_iff_count_le_one.mp h.distinct slot⟩

/-- A line is read as it is, or refused because a slot is given twice. -/
theorem read_of_line (h : Line Level.program arguments leaf levels)
    (hacceptable : ∀ filled ∈ levels, Acceptable filled)
    (hneeds : ∀ slot ∈ (Level.leaf leaf).needs, slot ∈ slotsOf (levels.getLastD [])) :
    ReadAs ⟨leaf, levels⟩ (read arguments) := by
  obtain ⟨filled, deeper, rfl⟩ := h.exists_level
  exact readLevel_line h rfl (rests_start Level.program) hacceptable hneeds

/-- The sound lines are read, each in its one way, and nothing else is. -/
theorem read_eq_ok_iff :
    read arguments = .ok c ↔ Line Level.program arguments c.leaf c.levels ∧ Sound c := by
  constructor
  · intro h
    obtain ⟨filled, deeper, hlevels, hline, hsound⟩ := line_of_readLevel (rests_start Level.program) h
    rw [hlevels]
    exact ⟨hline, hsound⟩
  · rintro ⟨hline, hsound⟩
    rcases read_of_line hline (fun f hf => (hsound.checked f hf).acceptable) hsound.complete with
      hread | ⟨f, hf, slot, htwice, -⟩
    · exact hread
    · exact absurd htwice (hsound.checked f hf).not_twice

end BackupConsole.Arguments
