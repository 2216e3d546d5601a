/-
  Kinds of messages, by the fields that are declared for them.

  1. **Specification** — `Kind.content?` says of every kind of message which field numbers are declared and
     what stands under each: a number, a text, a message within, or an entry of a map.

  2. **Program** — all kinds are read alike: a field whose number is declared sets a place in the message
     (`Slot`), and any other field changes nothing (`Kind.merge_eq`). The places are those that are declared
     (`Kind.content?_eq`), and different places are apart from one another (`Kind.apart`): what is set in
     one shows in none of the others.

  3. **Consequences** — fields of different numbers may be merged in either order (`Kind.merge_comm`), and
     a field can be merged if it holds what is declared for it (`Kind.exists_merge`, `Kind.fills_of_merge`).
     Bytes are read field by field (`Kind.readInto_cons`, `Kind.exists_field_of_readInto`).
-/
import BackupConsole.Proofs.FieldGrammar
import BackupConsole.Proofs.FieldRuns
import BackupConsole.Wire.Catalog

namespace BackupConsole.Wire

open Calendar Text

/-! ## Declared fields -/

/-- The kinds of message that agents and catalogs are made of. -/
inductive Kind where
  | timestamp
  | agentStatus
  | agent
  | replicaset
  /-- An entry of the map of replicasets. -/
  | replicasetEntry
  | backupRecord
  | catalogEntry
  deriving DecidableEq, Repr

/-- What stands under a declared field number. -/
inductive Content where
  | number
  | text
  | message (kind : Kind)
  /-- An entry of a map. -/
  | entry (kind : Kind)
  deriving DecidableEq, Repr

namespace Kind

/-- What the declaration of a kind has under a field number. -/
def content? (k : Kind) (number : Nat) : Option Content :=
  match k with
  | .timestamp =>
    match number with
    | 1 => some .number
    | 2 => some .number
    | _ => none
  | .agentStatus =>
    match number with
    | 1 => some .number
    | 2 => some .number
    | _ => none
  | .agent =>
    match number with
    | 1 => some .number
    | 2 => some .text
    | 3 => some .number
    | 4 => some .text
    | 5 => some .text
    | 6 => some .text
    | 7 => some .text
    | 8 => some .number
    | 9 => some (.message .timestamp)
    | 10 => some (.message .agentStatus)
    | _ => none
  | .replicaset =>
    match number with
    | 1 => some .text
    | 2 => some .text
    | 3 => some .text
    | 4 => some .text
    | 5 => some .text
    | 6 => some .number
    | _ => none
  | .replicasetEntry =>
    match number with
    | 1 => some .text
    | 2 => some (.message .replicaset)
    | _ => none
  | .backupRecord =>
    match number with
    | 1 => some (.message .timestamp)
    | 2 => some (.message .timestamp)
    | 3 => some .number
    | 4 => some .number
    | 5 => some .number
    | 6 => some .number
    | 7 => some .text
    | 8 => some (.entry .replicasetEntry)
    | _ => none
  | .catalogEntry =>
    match number with
    | 1 => some .text
    | 2 => some (.message .backupRecord)
    | _ => none

/-! ## Kinds as they are read -/

/-- What a message of a kind is read into. -/
abbrev Message : Kind → Type
  | .timestamp => Timestamp
  | .agentStatus => AgentStatus
  | .agent => Agent
  | .replicaset => ReplicasetRecord
  | .replicasetEntry => String × ReplicasetRecord
  | .backupRecord => BackupRecord
  | .catalogEntry => CatalogEntry

/-- The numbers of map entries, which are length-prefixed whatever their key says. -/
def prefixed : Kind → List Nat
  | .backupRecord => [8]
  | _ => []

/-- How deep groups may lie in a message within one of this kind. -/
def within : Kind → Nat
  | .backupRecord => nestingLimit - 2
  | .replicasetEntry => nestingLimit - 3
  | _ => nestingLimit - 1

/-- Merges a field into a message of a kind. -/
def merge : (k : Kind) → k.Message → Field → Option k.Message
  | .timestamp => mergeTimestamp
  | .agentStatus => mergeAgentStatus
  | .agent => mergeAgent
  | .replicaset => mergeReplicaset
  | .replicasetEntry => mergeReplicasetEntry
  | .backupRecord => mergeBackupRecord
  | .catalogEntry => mergeCatalogEntry

/-- Reads bytes into a message. -/
def readInto (k : Kind) (room : Nat) (old : k.Message) (bytes : List UInt8) : Option k.Message :=
  mergeBytes k.prefixed room k.merge old bytes

end Kind

/-! ## Places in a message -/

/-- A place in a message: how it is set, and what a message that comes there is read into. -/
inductive Slot (α : Type) where
  | number (set : Nat → α → α)
  | text (set : String → α → α)
  | message (kind : Kind) (get : α → kind.Message) (set : kind.Message → α → α)
  | entry (kind : Kind) (blank : kind.Message) (set : kind.Message → α → α)

namespace Slot

variable {α : Type}

/-- What stands under the field number of a place. -/
def content : Slot α → Content
  | .number _ => .number
  | .text _ => .text
  | .message kind _ _ => .message kind
  | .entry kind _ _ => .entry kind

/-- The change that a field makes, if it holds what belongs there. -/
def update? (room : Nat) (f : Field) (m : α) : Slot α → Option (α → α)
  | .number set => f.varint?.map set
  | .text set => f.text?.map set
  | .message kind get set => (f.delimited?.bind (kind.readInto room (get m))).map set
  | .entry kind blank set => (f.delimited?.bind (kind.readInto room blank)).map set

/-- Whether a change is made by setting the place. -/
def Sets : Slot α → (α → α) → Prop
  | .number set, u => ∃ n, u = set n
  | .text set, u => ∃ text, u = set text
  | .message _ _ set, u => ∃ message, u = set message
  | .entry _ _ set, u => ∃ entry, u = set entry

/-- A field changes a message by setting its place. -/
theorem sets_of_update? {slot : Slot α} {room : Nat} {f : Field} {m : α} {u : α → α}
    (h : slot.update? room f m = some u) : slot.Sets u := by
  cases slot <;> obtain ⟨value, -, rfl⟩ := Option.map_eq_some_iff.mp h <;> exact ⟨value, rfl⟩

/-- Places are apart if they can be set in either order, and what is set in one has no part in what a
field changes in the other. -/
structure Apart (s t : Slot α) : Prop where
  comm : ∀ u v, s.Sets u → t.Sets v → ∀ m, u (v m) = v (u m)
  left : ∀ v, t.Sets v → ∀ room f m, s.update? room f (v m) = s.update? room f m
  right : ∀ u, s.Sets u → ∀ room f m, t.update? room f (u m) = t.update? room f m

/-- Fields of places that are apart change a message in either order. -/
theorem Apart.update?_comm {s t : Slot α} (h : s.Apart t) (room : Nat) (f g : Field) (m : α) :
    ((s.update? room f m).map fun u => u m).bind (fun m => (t.update? room g m).map fun v => v m) =
      ((t.update? room g m).map fun v => v m).bind fun m => (s.update? room f m).map fun u => u m := by
  cases hs : s.update? room f m with
  | none =>
    cases ht : t.update? room g m with
    | none => rfl
    | some v =>
      have hkeep := h.left v (sets_of_update? ht) room f m
      simp only [Option.map_some, Option.map_none, Option.bind_some, Option.bind_none, hkeep, hs]
  | some u =>
    have hkeep := h.right u (sets_of_update? hs) room g m
    cases ht : t.update? room g m with
    | none => simp only [Option.map_some, Option.map_none, Option.bind_some, Option.bind_none, hkeep, ht]
    | some v =>
      have hkeep' := h.left v (sets_of_update? ht) room f m
      have hcomm := h.comm u v (sets_of_update? hs) (sets_of_update? ht) m
      simp only [Option.map_some, Option.bind_some, hkeep, hkeep', hs, ht, hcomm]

end Slot

namespace Kind

/-- The place that a field of a declared number sets. -/
def slot? (k : Kind) (number : Nat) : Option (Slot k.Message) :=
  match k with
  | .timestamp =>
    match number with
    | 1 => some (.number fun n ts => { ts with seconds := int64OfWord n })
    | 2 => some (.number fun n ts => { ts with nanos := int32OfWord n })
    | _ => none
  | .agentStatus =>
    match number with
    | 1 => some (.number fun n s => { s with backupRunning := boolOfWord n })
    | 2 => some (.number fun n s => { s with restoreRunning := boolOfWord n })
    | _ => none
  | .agent =>
    match number with
    | 1 => some (.number fun n a => { a with version := int32OfWord n })
    | 2 => some (.text fun text a => { a with id := text })
    | 3 => some (.number fun n a => { a with nodeKind := int32OfWord n })
    | 4 => some (.text fun text a => { a with nodeName := text })
    | 5 => some (.text fun text a => { a with clusterId := text })
    | 6 => some (.text fun text a => { a with replicasetName := text })
    | 7 => some (.text fun text a => { a with replicasetId := text })
    | 8 => some (.number fun n a => { a with lastCommandSent := int64OfWord n })
    | 9 => some (.message .timestamp (fun a => a.lastSeen.getD ⟨0, 0⟩) fun ts a =>
      { a with lastSeen := some ts })
    | 10 => some (.message .agentStatus (fun a => a.status.getD AgentStatus.blank) fun s a =>
      { a with status := some s })
    | _ => none
  | .replicaset =>
    match number with
    | 1 => some (.text fun text r => { r with clusterId := text })
    | 2 => some (.text fun text r => { r with replicasetUuid := text })
    | 3 => some (.text fun text r => { r with replicasetName := text })
    | 4 => some (.text fun text r => { r with dumpName := text })
    | 5 => some (.text fun text r => { r with oplogName := text })
    | 6 => some (.number fun n r => { r with isConfigServer := boolOfWord n })
    | _ => none
  | .replicasetEntry =>
    match number with
    | 1 => some (.text fun name entry => (name, entry.2))
    | 2 => some (.message .replicaset (fun entry => entry.2) fun r entry => (entry.1, r))
    | _ => none
  | .backupRecord =>
    match number with
    | 1 => some (.message .timestamp (fun b => b.started.getD ⟨0, 0⟩) fun ts b =>
      { b with started := some ts })
    | 2 => some (.message .timestamp (fun b => b.finished.getD ⟨0, 0⟩) fun ts b =>
      { b with finished := some ts })
    | 3 => some (.number fun n b => { b with kind := int32OfWord n })
    | 4 => some (.number fun n b => { b with destination := int32OfWord n })
    | 5 => some (.number fun n b => { b with compression := int32OfWord n })
    | 6 => some (.number fun n b => { b with cipher := int32OfWord n })
    | 7 => some (.text fun text b => { b with description := text })
    | 8 => some (.entry .replicasetEntry ("", ReplicasetRecord.blank) fun entry b =>
      { b with replicasets := NameMap.set b.replicasets entry.1 entry.2 })
    | _ => none
  | .catalogEntry =>
    match number with
    | 1 => some (.text fun text entry => { entry with filename := text })
    | 2 => some (.message .backupRecord (fun entry => entry.record) fun b entry =>
      { entry with metadata := some b })
    | _ => none

/-- The places are those that are declared. -/
theorem content?_eq (k : Kind) (number : Nat) :
    k.content? number = (k.slot? number).map Slot.content := by
  cases k <;> unfold content? slot? <;> dsimp only <;> split <;> rfl

/-- All kinds of messages are read alike: a field of a declared number sets its place. -/
theorem merge_eq (k : Kind) (m : k.Message) (f : Field) :
    k.merge m f =
      match k.slot? f.number with
      | none => some m
      | some slot => (slot.update? k.within f m).map fun u => u m := by
  obtain ⟨number, payload⟩ := f
  cases k <;>
    simp only [merge, slot?, mergeTimestamp, mergeAgentStatus, mergeAgent, mergeReplicaset,
      mergeReplicasetEntry, mergeBackupRecord, mergeCatalogEntry] <;>
    split <;>
    simp only [Slot.update?, Option.map_map, Option.map_bind, Function.comp_def, mergeTimestampField,
      mergeAgentStatusField, readReplicasetEntry, readInto, merge, prefixed, within]

/-- Different fields of a message have places that are apart. -/
theorem apart {k : Kind} {number other : Nat} {s t : Slot k.Message} (hs : k.slot? number = some s)
    (ht : k.slot? other = some t) (hne : number ≠ other) : s.Apart t := by
  cases k <;> simp only [slot?] at hs ht <;> split at hs <;> split at ht <;> (try omega) <;>
    cases hs <;> cases ht <;>
    exact ⟨by rintro u v ⟨x, rfl⟩ ⟨y, rfl⟩; exact fun m => rfl,
      by rintro v ⟨y, rfl⟩; exact fun room f m => rfl, by rintro u ⟨x, rfl⟩; exact fun room f m => rfl⟩

/-! ## One field -/

variable {k inner : Kind} {m new : k.Message} {f g : Field} {content : Content} {number room : Nat}

/-- A field of a number that is not declared changes nothing. -/
theorem merge_of_undeclared (h : k.content? f.number = none) (m : k.Message) : k.merge m f = some m := by
  rw [content?_eq, Option.map_eq_none_iff] at h
  rw [merge_eq, h]

/-- Fields of different numbers may be merged in either order. -/
theorem merge_comm (h : f.number ≠ g.number) (m : k.Message) :
    ((k.merge m f).bind fun m => k.merge m g) = (k.merge m g).bind fun m => k.merge m f := by
  simp only [merge_eq]
  cases hf : k.slot? f.number with
  | none => simp only [Option.bind_some, Option.bind_fun_some]
  | some s =>
    cases hg : k.slot? g.number with
    | none => simp only [Option.bind_some, Option.bind_fun_some]
    | some t => exact (apart hf hg h).update?_comm k.within f g m

/-- What a field must hold where some content is declared, by what may stand within. -/
inductive Fills (may : Kind → List UInt8 → Prop) : Content → Payload → Prop
  | number (n : Nat) : Fills may .number (.varint n)
  | text (text : String) : Fills may .text (.delimited (utf8Bytes text))
  | message {kind : Kind} {body : List UInt8} : may kind body → Fills may (.message kind) (.delimited body)
  | entry {kind : Kind} {body : List UInt8} : may kind body → Fills may (.entry kind) (.delimited body)

/-- Every declared number has a place in the message. -/
theorem exists_slot (h : k.content? number = some content) :
    ∃ slot, k.slot? number = some slot ∧ slot.content = content := by
  rwa [content?_eq, Option.map_eq_some_iff] at h

/-- A field that holds what is declared for it can be merged, if what stands within can always be read. -/
theorem exists_merge (h : k.content? f.number = some content)
    (hfills : Fills (fun inner body => ∀ old, ∃ new, inner.readInto k.within old body = some new)
      content f.payload) (m : k.Message) : ∃ new, k.merge m f = some new := by
  obtain ⟨slot, hslot, rfl⟩ := exists_slot h
  obtain ⟨number, payload⟩ := f
  rw [merge_eq, hslot]
  -- In each place there is one way to fill it, and what fills it is read.
  cases slot with
  | number set =>
    cases hfills
    exact ⟨_, rfl⟩
  | text set =>
    cases hfills with
    | text text =>
      simp only [Slot.update?, Field.text?, Field.delimited?, Option.bind_some, ofUtf8?_utf8Bytes,
        Option.map_some]
      exact ⟨_, rfl⟩
  | message kind get set =>
    cases hfills with
    | message hbody =>
      -- A message within is read into the one before it, whatever that is.
      obtain ⟨new, hnew⟩ := hbody (get m)
      simp only [Slot.update?, Field.delimited?, Option.bind_some, hnew, Option.map_some]
      exact ⟨_, rfl⟩
  | entry kind blank set =>
    cases hfills with
    | entry hbody =>
      -- An entry is read into a blank one.
      obtain ⟨new, hnew⟩ := hbody blank
      simp only [Slot.update?, Field.delimited?, Option.bind_some, hnew, Option.map_some]
      exact ⟨_, rfl⟩

theorem payload_of_varint? {n : Nat} (h : f.varint? = some n) : f.payload = .varint n := by
  unfold Field.varint? at h
  split at h <;> cases h
  assumption

theorem payload_of_delimited? {bytes : List UInt8} (h : f.delimited? = some bytes) :
    f.payload = .delimited bytes := by
  unfold Field.delimited? at h
  split at h <;> cases h
  assumption

/-- A field that is merged holds what is declared for it. -/
theorem fills_of_merge (h : k.content? f.number = some content) (hmerge : k.merge m f = some new) :
    Fills (fun inner body => ∃ old new, inner.readInto k.within old body = some new) content f.payload := by
  obtain ⟨slot, hslot, rfl⟩ := exists_slot h
  rw [merge_eq, hslot] at hmerge
  obtain ⟨u, hupdate, -⟩ := Option.map_eq_some_iff.mp hmerge
  cases slot with
  | number set =>
    obtain ⟨n, hn, -⟩ := Option.map_eq_some_iff.mp hupdate
    rw [payload_of_varint? hn]
    exact .number n
  | text set =>
    obtain ⟨text, htext, -⟩ := Option.map_eq_some_iff.mp hupdate
    obtain ⟨bytes, hbytes, hutf8⟩ := Option.bind_eq_some_iff.mp htext
    rw [payload_of_delimited? hbytes, ← utf8Bytes_of_ofUtf8? hutf8]
    exact .text text
  | message kind get set =>
    obtain ⟨message, hmessage, -⟩ := Option.map_eq_some_iff.mp hupdate
    obtain ⟨body, hbody, hread⟩ := Option.bind_eq_some_iff.mp hmessage
    rw [payload_of_delimited? hbody]
    exact .message ⟨_, message, hread⟩
  | entry kind blank set =>
    obtain ⟨entry, hentry, -⟩ := Option.map_eq_some_iff.mp hupdate
    obtain ⟨body, hbody, hread⟩ := Option.bind_eq_some_iff.mp hentry
    rw [payload_of_delimited? hbody]
    exact .entry ⟨_, entry, hread⟩

/-- What a nested message does to the one around it depends only on how it is read. -/
theorem merge_nested_congr {body other : List UInt8}
    (h : k.content? number = some (.message inner) ∨ k.content? number = some (.entry inner))
    (hread : ∀ old, inner.readInto k.within old other = inner.readInto k.within old body) (m : k.Message) :
    k.merge m ⟨number, .delimited other⟩ = k.merge m ⟨number, .delimited body⟩ := by
  rw [merge_eq, merge_eq]
  obtain h | h := h <;> obtain ⟨slot, hslot, hcontent⟩ := exists_slot h <;> rw [hslot] <;>
    cases slot <;> cases hcontent <;>
    simp only [Slot.update?, Field.delimited?, Option.bind_some, hread]

/-! ## Field by field -/

/-- The numbers of map entries are those that are length-prefixed whatever their keys say. -/
theorem mem_prefixed_iff : number ∈ k.prefixed ↔ ∃ inner, k.content? number = some (.entry inner) := by
  cases k <;> unfold prefixed content? <;> dsimp only <;> split <;> simp
  assumption

variable {bytes piece rest : List UInt8}

theorem readInto_nil (k : Kind) (room : Nat) (old : k.Message) : k.readInto room old [] = some old :=
  mergeBytes_nil

/-- A run of fields that begins with a field is that field and a run of the others. -/
theorem splits_append_iff {prefixed : List Nat} {fields : List Field} (h : IsField prefixed room piece f) :
    Splits prefixed room (piece ++ rest) fields ↔
      ∃ others, fields = f :: others ∧ Splits prefixed room rest others := by
  constructor
  · intro hsplits
    generalize hwhole : piece ++ rest = whole at hsplits
    cases hsplits with
    | nil =>
      have hpos := h.length_pos
      rw [(List.append_eq_nil_iff.mp hwhole).1] at hpos
      cases hpos
    | cons hread hothers =>
      rw [← hwhole, h.read] at hread
      cases hread
      exact ⟨_, rfl, hothers⟩
  · rintro ⟨others, rfl, hothers⟩
    exact .cons (h.read rest) hothers

/-- A field in front is merged first. -/
theorem readInto_cons (h : IsField k.prefixed room piece f) (old : k.Message) (rest : List UInt8) :
    k.readInto room old (piece ++ rest) = (k.merge old f).bind fun m => k.readInto room m rest := by
  refine Option.ext fun new => ?_
  simp only [readInto, Option.bind_eq_some_iff, mergeBytes_eq_some_iff, splits_append_iff h]
  constructor
  · rintro ⟨_, ⟨others, rfl, hothers⟩, hfold⟩
    rw [List.foldlM_cons] at hfold
    obtain ⟨mid, hmid, hfold⟩ := Option.bind_eq_some_iff.mp hfold
    exact ⟨mid, hmid, others, hothers, hfold⟩
  · rintro ⟨mid, hmid, others, hothers, hfold⟩
    refine ⟨f :: others, ⟨others, rfl, hothers⟩, ?_⟩
    rw [List.foldlM_cons, hmid]
    exact hfold

/-- Bytes that can be read are none, or have a field in front that can be merged. -/
theorem exists_field_of_readInto {old : k.Message} (h : k.readInto room old bytes = some new) :
    bytes = [] ∨ ∃ piece f rest mid, bytes = piece ++ rest ∧ IsField k.prefixed room piece f ∧
      k.merge old f = some mid ∧ k.readInto room mid rest = some new := by
  obtain ⟨fields, hsplits, hfold⟩ := mergeBytes_eq_some_iff.mp h
  cases hsplits with
  | nil => exact .inl rfl
  | @cons _ rest f fields hread hrest =>
    obtain ⟨piece, rfl, hfield⟩ := readField_eq_some_iff.mp hread
    rw [List.foldlM_cons] at hfold
    obtain ⟨mid, hmid, hfold⟩ := Option.bind_eq_some_iff.mp hfold
    exact .inr ⟨piece, f, rest, mid, rfl, hfield, hmid, mergeBytes_eq_some_iff.mpr ⟨fields, hrest, hfold⟩⟩

end Kind

end BackupConsole.Wire
