/-
  Words that can complete a command line.

  1. **Program** — `candidates` goes through the words before the last and offers what the last one can
     become: command words, words of a slot, or filenames of backups. `candidateCalls` are the calls made
     for these.

  2. **Specification** — any command word leads to its level, wherever it stands; any other word fills a
     place or the option before it. The words offered begin with what has been written so far. Below
     `help` the command words are those of the commands themselves.
-/
import BackupConsole.Arguments.Invocation
import BackupConsole.Completion.Hints

namespace BackupConsole.Completion

open Arguments Connection Settings

/-- A word on offer, with what the help says of it. -/
structure Candidate where
  word : String
  about : Option String
  deriving DecidableEq, Repr

/-! ## Command words on the way -/

/-- Where the words lead: to a level, or to a level of which help is wanted. -/
inductive Stand where
  | within (level : Level)
  | helpOn (level : Level)
  /-- At the word `help` behind the word `help`. -/
  | helpOnHelp
  deriving DecidableEq, Repr

namespace Stand

/-- The command words that lead on, with what each leads to. -/
def words : Stand → List (String × Stand × String)
  | within (.group g) =>
    g.words.map fun (word, next) =>
      (word, (match next with
        | .level l => within l
        | .help => helpOn (.group g)), next.about)
  | helpOn (.group g) =>
    g.words.filterMap fun (word, next) =>
      match next with
      | .level l => some (word, helpOn l, l.about)
      | .help => if g = .program then some (word, helpOnHelp, aboutHelp) else none
  | _ => []

/-- Where a command word leads from here. -/
def next? (s : Stand) (word : String) : Option Stand := (s.words.lookup word).map Prod.fst

/-- The option with a name at a level; where only help is wanted there are none. -/
def option? (s : Stand) (name : String) : Option Slot :=
  match s with
  | within l => l.option? name
  | _ => none

/-- The place for the plain word of the given number. -/
def place? (s : Stand) (number : Nat) : Option Slot :=
  match s with
  | within l => if number = 0 then l.place? else none
  | _ => none

end Stand

/-- What the words so far amount to. -/
structure Progress where
  stand : Stand
  /-- How many plain words have been given at this level. -/
  plain : Nat
  /-- The option that the next word may be a value of. -/
  option : Option Slot
  deriving DecidableEq, Repr

/-- Nothing has been typed behind the program's name. -/
def Progress.start : Progress := ⟨.within Level.program, 0, none⟩

/-- Whether an option may be followed by its value in a word of its own, as far as completion sees. -/
def mayTakeWord (s : Slot) : Bool :=
  match s.filling with
  | .value => true
  | .switch => true
  | _ => false

/-- One word further. -/
def Progress.step (p : Progress) (word : String) : Progress :=
  match p.stand.next? word with
  | some stand => ⟨stand, 0, none⟩
  | none =>
    match shapeOf word with
    | .divider => { p with option := none }
    | .long name value =>
      match p.stand.option? name with
      | some s => { p with option := if mayTakeWord s && value.isNone then some s else none }
      | none => { p with option := none }
    | .short _ => { p with option := none }
    | .plain =>
      if p.option.isSome then { p with option := none } else { p with plain := p.plain + 1 }

/-! ## What is offered -/

/-- Whether a word begins with what has been written. -/
def continues (written word : String) : Bool := written.toList.isPrefixOf word.toList

/-- The words that a slot offers. -/
def slotCandidates (hints : List Hint) (s : Slot) : List Candidate :=
  if s = .metadataFile then hints.map fun h => ⟨h.filename, some h.description⟩
  else s.words.map fun word => ⟨word, none⟩

/-- The words offered where no value is expected. -/
def openCandidates (hints : List Hint) (p : Progress) : List Candidate :=
  let words := p.stand.words.map fun (word, _, about) => (⟨word, some about⟩ : Candidate)
  let values :=
    match p.stand.place? p.plain with
    | some s => slotCandidates hints s
    | none => []
  words ++ values

/-- The words offered after some words. A switch may also stand alone, so all else goes on behind it. -/
def offered (hints : List Hint) (p : Progress) : List Candidate :=
  match p.option with
  | none => openCandidates hints p
  | some s =>
    slotCandidates hints s ++ if s.filling = .switch then openCandidates hints p else []

/-- Whether filenames of backups are among what is offered. -/
def asksHints (p : Progress) : Bool :=
  let atPlace := decide (p.stand.place? p.plain = some .metadataFile)
  match p.option with
  | none => atPlace
  | some s => decide (s = .metadataFile) || (decide (s.filling = .switch) && atPlace)

/-- The words that the last of some words can become, options apart. -/
def candidates (s : Surroundings) (network : Network) (words : List String) : List Candidate :=
  let p := words.dropLast.foldl Progress.step Progress.start
  let written := words.getLastD ""
  (offered (metadataFileHints s network) p).filter fun c => continues written c.word

/-- The calls that are made to find those words: the coordinator is asked where filenames are offered. -/
def candidateCalls (s : Surroundings) (network : Network) (words : List String) : List Call :=
  if asksHints (words.dropLast.foldl Progress.step Progress.start) then
    hintCalls network (hintAddress s) false
  else []

/-- One call is enough to find them. -/
theorem length_candidateCalls (s : Surroundings) (network : Network) (words : List String) :
    (candidateCalls s network words).length ≤ 1 := by
  unfold candidateCalls
  split
  · exact length_hintCalls ..
  · exact Nat.zero_le 1

end BackupConsole.Completion
