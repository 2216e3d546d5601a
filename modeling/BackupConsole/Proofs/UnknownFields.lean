/-
  Bytes that say the same.

  1. **Specification** — `Step`: what later versions may do to the bytes of a message without changing what
     it says. They may insert a field of a number that is not declared, and put fields into another order
     as long as those of one number keep theirs; both at any place, and in any message or map entry
     within, with the length in front counted anew.

  2. **Program** — `mergeParts_eq`: the order in which fields are merged matters only among those of one
     number, by induction on the fields. `readInto_eq_of_step`: after one step the bytes are read as before,
     into any message, by induction on how deep the step lies.

  3. **Correctness** — `same_views_of_steps`: after any number of steps an agent or a catalog entry is read
     as before, or refused as before, and so is what is shown of it.
-/
import BackupConsole.Listing.Backups
import BackupConsole.Listing.Nodes
import BackupConsole.Proofs.MessageKinds
import Mathlib.Logic.Relation

namespace BackupConsole.Wire

open Listing

/-! ## Specification -/

/-- A field in full, within a message of some kind. -/
structure Part (room : Nat) (k : Kind) where
  bytes : List UInt8
  field : Field
  isField : IsField k.prefixed room bytes field

namespace Part

variable {room : Nat} {k : Kind}

/-- What is read from bytes and leaves none of them. -/
def ofRead (bytes : List UInt8) (field : Field) (h : readField k.prefixed room bytes = some (field, [])) :
    Part room k where
  bytes := bytes
  field := field
  isField := isField_of_readField h

/-- Those that have a number, in their order. -/
def numbered (number : Nat) (parts : List (Part room k)) : List (Part room k) :=
  parts.filter fun part => part.field.number = number

theorem numbered_append (number : Nat) (parts others : List (Part room k)) :
    numbered number (parts ++ others) = numbered number parts ++ numbered number others :=
  List.filter_append parts others

theorem numbered_cons_self (part : Part room k) (parts : List (Part room k)) :
    numbered part.field.number (part :: parts) = part :: numbered part.field.number parts :=
  List.filter_cons_of_pos (decide_eq_true rfl)

theorem numbered_cons_of_ne {number : Nat} {part : Part room k} (h : part.field.number ≠ number)
    (parts : List (Part room k)) : numbered number (part :: parts) = numbered number parts :=
  List.filter_cons_of_neg (by simpa using h)

theorem numbered_eq_nil_iff {number : Nat} {parts : List (Part room k)} :
    numbered number parts = [] ↔ ∀ part ∈ parts, part.field.number ≠ number := by
  simp only [numbered, List.filter_eq_nil_iff, decide_eq_true_eq]

/-- The first field of a number stands behind fields of other numbers. -/
theorem exists_of_numbered_eq_cons {number : Nat} {part : Part room k} {parts rest : List (Part room k)}
    (h : numbered number parts = part :: rest) :
    ∃ front back, parts = front ++ part :: back ∧ numbered number front = [] ∧ numbered number back = rest := by
  obtain ⟨front, back, rfl, hfront, -, hback⟩ := List.filter_eq_cons_iff.mp h
  exact ⟨front, back, rfl, List.filter_eq_nil_iff.mpr hfront, hback⟩

/-- Fields one behind the other. -/
def joined (parts : List (Part room k)) : List UInt8 := parts.flatMap bytes

end Part

/-- One change of bytes that leaves alone what they say. -/
inductive Step : Nat → Kind → List UInt8 → List UInt8 → Prop
  | insert {room : Nat} {k : Kind} (part : Part room k) (rest : List UInt8) :
    k.content? part.field.number = none → Step room k rest (part.bytes ++ rest)
  | reorder {room : Nat} {k : Kind} (parts others : List (Part room k)) (rest : List UInt8) :
    (∀ number, Part.numbered number parts = Part.numbered number others) →
    Step room k (Part.joined parts ++ rest) (Part.joined others ++ rest)
  | within {room number : Nat} {k inner : Kind} {body body' : List UInt8} (part part' : Part room k)
    (rest : List UInt8) :
    part.field = ⟨number, .delimited body⟩ → part'.field = ⟨number, .delimited body'⟩ →
    k.content? number = some (.message inner) ∨ k.content? number = some (.entry inner) →
    Step k.within inner body body' → Step room k (part.bytes ++ rest) (part'.bytes ++ rest)
  | behind {room : Nat} {k : Kind} {rest rest' : List UInt8} (part : Part room k) :
    Step room k rest rest' → Step room k (part.bytes ++ rest) (part.bytes ++ rest')

variable {room : Nat} {k : Kind} {bytes bytes' : List UInt8}

/-- Two fields of different numbers may change places. -/
theorem Step.swap (part other : Part room k) (rest : List UInt8)
    (h : part.field.number ≠ other.field.number) :
    Step room k (part.bytes ++ (other.bytes ++ rest)) (other.bytes ++ (part.bytes ++ rest)) := by
  have hstep : Step room k (Part.joined [part, other] ++ rest) (Part.joined [other, part] ++ rest) := by
    refine .reorder _ _ rest fun number => ?_
    show Part.numbered number ([part] ++ [other]) = Part.numbered number ([other] ++ [part])
    rw [Part.numbered_append, Part.numbered_append]
    obtain hpart | hother : part.field.number ≠ number ∨ other.field.number ≠ number := by omega
    · have hnone : Part.numbered number [part] = [] := Part.numbered_cons_of_ne hpart []
      rw [hnone, List.nil_append, List.append_nil]
    · have hnone : Part.numbered number [other] = [] := Part.numbered_cons_of_ne hother []
      rw [hnone, List.nil_append, List.append_nil]
  simpa only [Part.joined, List.flatMap_cons, List.flatMap_nil, List.append_nil, List.append_assoc] using hstep

/-! ## Fields in another order -/

/-- Merges fields one after the other. -/
def mergeParts (old : k.Message) (parts : List (Part room k)) : Option k.Message :=
  parts.foldlM (fun m part => k.merge m part.field) old

theorem mergeParts_cons (old : k.Message) (part : Part room k) (parts : List (Part room k)) :
    mergeParts old (part :: parts) = (k.merge old part.field).bind fun m => mergeParts m parts := rfl

/-- A field may be moved in front of fields of other numbers. -/
theorem mergeParts_move (part : Part room k) (front back : List (Part room k))
    (h : ∀ other ∈ front, other.field.number ≠ part.field.number) (old : k.Message) :
    mergeParts old (front ++ part :: back) = mergeParts old (part :: (front ++ back)) := by
  induction front generalizing old with
  | nil => rfl
  | cons other front ih =>
    obtain ⟨hother, hfront⟩ := List.forall_mem_cons.mp h
    calc mergeParts old (other :: (front ++ part :: back))
        = (k.merge old other.field).bind fun m =>
            (k.merge m part.field).bind fun m => mergeParts m (front ++ back) := by
          simp only [mergeParts_cons, ih hfront]
      _ = ((k.merge old other.field).bind fun m => k.merge m part.field).bind fun m =>
            mergeParts m (front ++ back) := (Option.bind_assoc ..).symm
      _ = ((k.merge old part.field).bind fun m => k.merge m other.field).bind fun m =>
            mergeParts m (front ++ back) := by rw [Kind.merge_comm hother]
      _ = mergeParts old (part :: other :: (front ++ back)) := by
          simp only [mergeParts_cons, Option.bind_assoc]

/-- Only the order among fields of one number matters. -/
theorem mergeParts_eq {parts others : List (Part room k)}
    (h : ∀ number, Part.numbered number parts = Part.numbered number others) (old : k.Message) :
    mergeParts old parts = mergeParts old others := by
  induction parts generalizing others old with
  | nil =>
    cases others with
    | nil => rfl
    | cons other others =>
      have hother := h other.field.number
      rw [Part.numbered_cons_self] at hother
      cases hother
  | cons part parts ih =>
    -- the first field of this number among the others is this one, and it may be moved to the front
    have hpart := h part.field.number
    rw [Part.numbered_cons_self] at hpart
    obtain ⟨front, back, rfl, hfront, hback⟩ := Part.exists_of_numbered_eq_cons hpart.symm
    have hrest : ∀ number, Part.numbered number parts = Part.numbered number (front ++ back) := by
      intro number
      by_cases hsame : part.field.number = number
      · subst hsame
        rw [Part.numbered_append, hfront, hback, List.nil_append]
      · have hnumber := h number
        rwa [Part.numbered_append, Part.numbered_cons_of_ne hsame, Part.numbered_cons_of_ne hsame,
          ← Part.numbered_append] at hnumber
    rw [mergeParts_move part front back (Part.numbered_eq_nil_iff.mp hfront), mergeParts_cons, mergeParts_cons]
    simp only [ih hrest]

/-! ## One step -/

/-- Joined parts are read by merging their fields. -/
theorem readInto_joined (parts : List (Part room k)) (old : k.Message) (rest : List UInt8) :
    k.readInto room old (Part.joined parts ++ rest) =
      (mergeParts old parts).bind fun m => k.readInto room m rest := by
  induction parts generalizing old with
  | nil => rfl
  | cons part parts ih =>
    rw [Part.joined, List.flatMap_cons, List.append_assoc, Kind.readInto_cons part.isField, mergeParts_cons,
      Option.bind_assoc]
    exact congrArg _ (funext fun m => ih m)

/-- After one step the bytes are read as before, into any message. -/
theorem readInto_eq_of_step (h : Step room k bytes bytes') (old : k.Message) :
    k.readInto room old bytes' = k.readInto room old bytes := by
  induction h with
  | insert part rest hnone => rw [Kind.readInto_cons part.isField, Kind.merge_of_undeclared hnone, Option.bind_some]
  | reorder parts others rest horder => rw [readInto_joined, readInto_joined, mergeParts_eq horder]
  | within part part' rest hfield hfield' hcontent _ ih =>
    rw [Kind.readInto_cons part.isField, Kind.readInto_cons part'.isField, hfield, hfield',
      Kind.merge_nested_congr hcontent ih]
  | behind part _ ih =>
    rw [Kind.readInto_cons part.isField, Kind.readInto_cons part.isField]
    exact congrArg _ (funext fun m => ih m)

/-! ## Any number of steps -/

/-- Bytes that come from others in any number of steps. -/
def Steps (room : Nat) (k : Kind) : List UInt8 → List UInt8 → Prop := Relation.ReflTransGen (Step room k)

/-- Any number of steps leaves the message that is read as it was. -/
theorem readInto_eq_of_steps (h : Steps room k bytes bytes') (old : k.Message) :
    k.readInto room old bytes' = k.readInto room old bytes := by
  induction h with
  | refl => rfl
  | tail _ hstep ih => exact (readInto_eq_of_step hstep old).trans ih

/-- Agents and catalog entries are read as before, or refused as before, and are shown as before. -/
theorem same_views_of_steps (bytes bytes' : List UInt8) :
    (Steps nestingLimit .agent bytes bytes' →
      readAgent bytes' = readAgent bytes ∧
        (readAgent bytes').map NodeView.ofAgent = (readAgent bytes).map NodeView.ofAgent) ∧
      (Steps nestingLimit .catalogEntry bytes bytes' →
        readCatalogEntry bytes' = readCatalogEntry bytes ∧
          (readCatalogEntry bytes').map (fun entry => BackupView.ofRecord entry.filename entry.record) =
            (readCatalogEntry bytes).map fun entry => BackupView.ofRecord entry.filename entry.record) := by
  constructor
  · intro h
    have hread : readAgent bytes' = readAgent bytes := readInto_eq_of_steps h _
    exact ⟨hread, by rw [hread]⟩
  · intro h
    have hread : readCatalogEntry bytes' = readCatalogEntry bytes := readInto_eq_of_steps h _
    exact ⟨hread, by rw [hread]⟩

/-- An unknown field at the end of an agent, and one within a map entry of a catalog entry whose own fields
change places. -/
theorem unknown_fields_read_over :
    ((readAgent [0x22, 0x01, 0x61]).isSome ∧
      readAgent [0x22, 0x01, 0x61, 0x78, 0x01] = readAgent [0x22, 0x01, 0x61]) ∧
      (readCatalogEntry [0x0A, 0x01, 0x61, 0x12, 0x05, 0x42, 0x03, 0x0A, 0x01, 0x72]).isSome ∧
      readCatalogEntry [0x12, 0x07, 0x42, 0x05, 0x78, 0x01, 0x0A, 0x01, 0x72, 0x0A, 0x01, 0x61] =
        readCatalogEntry [0x0A, 0x01, 0x61, 0x12, 0x05, 0x42, 0x03, 0x0A, 0x01, 0x72] := by
  have hagent : Steps nestingLimit .agent [0x22, 0x01, 0x61] [0x22, 0x01, 0x61, 0x78, 0x01] :=
    .single (.behind (.ofRead [0x22, 0x01, 0x61] ⟨4, .delimited [0x61]⟩ rfl)
      (.insert (.ofRead [0x78, 0x01] ⟨15, .varint 1⟩ rfl) [] rfl))
  have hmap : Step (nestingLimit - 2) .replicasetEntry [0x0A, 0x01, 0x72] [0x78, 0x01, 0x0A, 0x01, 0x72] :=
    .insert (.ofRead [0x78, 0x01] ⟨15, .varint 1⟩ rfl) _ rfl
  have hrecord : Step (nestingLimit - 1) .backupRecord [0x42, 0x03, 0x0A, 0x01, 0x72]
      [0x42, 0x05, 0x78, 0x01, 0x0A, 0x01, 0x72] :=
    .within (.ofRead [0x42, 0x03, 0x0A, 0x01, 0x72] ⟨8, .delimited _⟩ rfl)
      (.ofRead [0x42, 0x05, 0x78, 0x01, 0x0A, 0x01, 0x72] ⟨8, .delimited _⟩ rfl) [] rfl rfl (.inr rfl) hmap
  have hmetadata : Step nestingLimit .catalogEntry
      [0x0A, 0x01, 0x61, 0x12, 0x05, 0x42, 0x03, 0x0A, 0x01, 0x72]
      [0x0A, 0x01, 0x61, 0x12, 0x07, 0x42, 0x05, 0x78, 0x01, 0x0A, 0x01, 0x72] :=
    .behind (.ofRead [0x0A, 0x01, 0x61] ⟨1, .delimited [0x61]⟩ rfl)
      (.within (.ofRead [0x12, 0x05, 0x42, 0x03, 0x0A, 0x01, 0x72] ⟨2, .delimited _⟩ rfl)
        (.ofRead [0x12, 0x07, 0x42, 0x05, 0x78, 0x01, 0x0A, 0x01, 0x72] ⟨2, .delimited _⟩ rfl) [] rfl rfl
        (.inl rfl) hrecord)
  have hswap : Step nestingLimit .catalogEntry
      [0x0A, 0x01, 0x61, 0x12, 0x07, 0x42, 0x05, 0x78, 0x01, 0x0A, 0x01, 0x72]
      [0x12, 0x07, 0x42, 0x05, 0x78, 0x01, 0x0A, 0x01, 0x72, 0x0A, 0x01, 0x61] :=
    .swap (.ofRead [0x0A, 0x01, 0x61] ⟨1, .delimited [0x61]⟩ rfl)
      (.ofRead [0x12, 0x07, 0x42, 0x05, 0x78, 0x01, 0x0A, 0x01, 0x72] ⟨2, .delimited _⟩ rfl) [] (by decide)
  exact ⟨⟨by decide, ((same_views_of_steps _ _).1 hagent).1⟩, by decide,
    ((same_views_of_steps _ _).2 (.tail (.single hmetadata) hswap)).1⟩

end BackupConsole.Wire
