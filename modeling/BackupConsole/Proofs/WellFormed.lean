/-
  Which bytes are messages.

  1. **Specification** — `WellFormed`: bytes are fields from end to end, and every field of a declared
     number holds what is declared for it, in the form that belongs to it. The same holds of the messages
     and map entries within. What a key may announce for a map entry is left open (`entryKey`).

  2. **Program** — `wellFormed_of_readInto`: bytes that can be read are well-formed, by induction on how many
     there are. `WellFormed.readable`: well-formed bytes can be read into any message, by induction on how
     they are well-formed.

  3. **Correctness** — `readable_iff_wellFormed`: agents and catalog entries are read from well-formed bytes
     and from no others, where a map entry may stand under any form. Every other declared field is refused
     under a form that is not its own; a map entry is not (`entry_read_under_number_form`).
-/
import BackupConsole.Proofs.MessageKinds

namespace BackupConsole.Wire

open Text

/-! ## Specification -/

/-- Messages of a kind as bytes. Groups may lie within one another up to `room`. The keys of map entries may
announce the forms that `entryKey` allows. -/
inductive WellFormed (entryKey : Form → Prop) : Nat → Kind → List UInt8 → Prop
  | empty {room : Nat} {k : Kind} : WellFormed entryKey room k []
  | undeclared {room number : Nat} {k : Kind} {piece rest : List UInt8} {payload : Payload} :
    k.content? number = none → IsPiece room piece number payload.form payload →
    WellFormed entryKey room k rest → WellFormed entryKey room k (piece ++ rest)
  | number {room number n : Nat} {k : Kind} {piece rest : List UInt8} :
    k.content? number = some .number → IsPiece room piece number .varint (.varint n) →
    WellFormed entryKey room k rest → WellFormed entryKey room k (piece ++ rest)
  | text {room number : Nat} {k : Kind} {piece rest : List UInt8} {text : String} :
    k.content? number = some .text → IsPiece room piece number .delimited (.delimited (utf8Bytes text)) →
    WellFormed entryKey room k rest → WellFormed entryKey room k (piece ++ rest)
  | message {room number : Nat} {k inner : Kind} {piece body rest : List UInt8} :
    k.content? number = some (.message inner) → IsPiece room piece number .delimited (.delimited body) →
    WellFormed entryKey k.within inner body →
    WellFormed entryKey room k rest → WellFormed entryKey room k (piece ++ rest)
  | entry {room number : Nat} {k inner : Kind} {piece body rest : List UInt8} {form : Form} :
    k.content? number = some (.entry inner) → entryKey form →
    IsPiece room piece number form (.delimited body) → WellFormed entryKey k.within inner body →
    WellFormed entryKey room k rest → WellFormed entryKey room k (piece ++ rest)

/-- Every form may stand in the key of a map entry. -/
def AnyForm (_form : Form) : Prop := True

/-- A map entry stands under the form of a message, as the grammar has it. -/
def OnlyDelimited (form : Form) : Prop := form = .delimited

variable {entryKey : Form → Prop} {room number : Nat} {k inner : Kind} {piece bytes : List UInt8}
  {payload : Payload} {f : Field}

/-! ## Fields of messages -/

/-- Only entries of maps are read as length-prefixed whatever their key says. -/
theorem not_mem_prefixed {content : Content} (h : k.content? number = some content)
    (hentry : ∀ inner, content ≠ .entry inner) : number ∉ k.prefixed := by
  intro hmem
  obtain ⟨inner, hinner⟩ := Kind.mem_prefixed_iff.mp hmem
  rw [h, Option.some_inj] at hinner
  exact hentry inner hinner

theorem not_mem_prefixed_of_undeclared (h : k.content? number = none) : number ∉ k.prefixed := by
  intro hmem
  obtain ⟨inner, hinner⟩ := Kind.mem_prefixed_iff.mp hmem
  rw [h] at hinner
  cases hinner

/-- A piece under the form of its payload is a field of any message. -/
theorem isField_of_isPiece (payload : Payload) (h : IsPiece room piece number payload.form payload)
    (hmem : number ∉ k.prefixed) : IsField k.prefixed room piece ⟨number, payload⟩ :=
  ⟨payload.form, h, (if_neg hmem).symm⟩

/-- A map entry is a field whatever its key announces. -/
theorem IsPiece.isField_of_entry {form : Form} {body : List UInt8}
    (h : IsPiece room piece number form (.delimited body)) (hentry : k.content? number = some (.entry inner)) :
    IsField k.prefixed room piece ⟨number, .delimited body⟩ :=
  ⟨form, h, (if_pos (Kind.mem_prefixed_iff.mpr ⟨inner, hentry⟩)).symm⟩

/-- A field that is read by its key has the form that its key announces. -/
theorem IsField.isPiece (h : IsField k.prefixed room piece f) (hmem : f.number ∉ k.prefixed) :
    IsPiece room piece f.number f.payload.form f.payload := by
  obtain ⟨form, hpiece, hform⟩ := h
  rw [if_neg hmem] at hform
  exact hform ▸ hpiece

/-- What is length-prefixed is shorter than the field that holds it. -/
theorem IsPiece.length_lt {form : Form} {body : List UInt8}
    (h : IsPiece room piece number form (.delimited body)) : body.length < piece.length := by
  obtain ⟨key, rest, rfl, hkey, hbody⟩ := h
  have hpos := hkey.length_pos
  cases hbody with
  | plain hplain =>
    cases hplain with
    | delimited hcount =>
      simp only [List.length_append]
      omega

/-! ## Well-formed bytes can be read -/

/-- Whatever message they are read into. -/
def Readable (room : Nat) (k : Kind) (bytes : List UInt8) : Prop :=
  ∀ old, ∃ new, k.readInto room old bytes = some new

/-- A field that can always be merged leaves the bytes readable. -/
theorem readable_of_merge {rest : List UInt8} (hfield : IsField k.prefixed room piece f)
    (hmerge : ∀ m, ∃ new, k.merge m f = some new) (hrest : Readable room k rest) :
    Readable room k (piece ++ rest) := by
  intro old
  obtain ⟨mid, hmid⟩ := hmerge old
  obtain ⟨new, hnew⟩ := hrest mid
  rw [Kind.readInto_cons hfield, hmid, Option.bind_some]
  exact ⟨new, hnew⟩

/-- Well-formed bytes are read into a message, whatever it was before. -/
theorem WellFormed.readable (h : WellFormed entryKey room k bytes) : Readable room k bytes := by
  -- By induction along the fields. Each is read off the front and merged, whatever was read before.
  induction h with
  | empty => exact fun old => ⟨old, Kind.readInto_nil _ _ old⟩
  | undeclared hcontent hpiece _ ih =>
    have hfield := isField_of_isPiece _ hpiece (not_mem_prefixed_of_undeclared hcontent)
    exact readable_of_merge hfield (fun m => ⟨m, Kind.merge_of_undeclared hcontent m⟩) ih
  | @number _ number n _ _ _ hcontent hpiece _ ih =>
    have hfield := isField_of_isPiece (.varint n) hpiece (not_mem_prefixed hcontent nofun)
    exact readable_of_merge hfield (Kind.exists_merge hcontent (.number n)) ih
  | @text _ number _ _ _ text hcontent hpiece _ ih =>
    have hfield :=
      isField_of_isPiece (.delimited (utf8Bytes text)) hpiece (not_mem_prefixed hcontent nofun)
    exact readable_of_merge hfield (Kind.exists_merge hcontent (.text text)) ih
  | @message _ number _ _ _ body _ hcontent hpiece _ _ ihBody ih =>
    have hfield := isField_of_isPiece (.delimited body) hpiece (not_mem_prefixed hcontent nofun)
    exact readable_of_merge hfield (Kind.exists_merge hcontent (.message ihBody)) ih
  | entry hcontent _ hpiece _ _ ihBody ih =>
    have hfield := hpiece.isField_of_entry hcontent
    exact readable_of_merge hfield (Kind.exists_merge hcontent (.entry ihBody)) ih

/-! ## Bytes that can be read are well-formed -/

/-- By induction on a bound of how many bytes there are: what stands within a field is shorter than the field,
and so is what stands behind it. -/
theorem wellFormed_of_readInto {count : Nat} {old new : k.Message} (hcount : bytes.length ≤ count)
    (h : k.readInto room old bytes = some new) : WellFormed AnyForm room k bytes := by
  -- By induction on a bound of the bytes; what stands within a field is shorter than the field.
  induction count generalizing k room bytes old new with
  | zero =>
    rw [List.eq_nil_of_length_eq_zero (Nat.le_zero.mp hcount)]
    exact .empty
  | succ count ih =>
    obtain rfl | ⟨piece, f, rest, mid, rfl, hfield, hmerge, hread⟩ := Kind.exists_field_of_readInto h
    · exact .empty
    · rw [List.length_append] at hcount
      have hpos := hfield.length_pos
      have hrest : WellFormed AnyForm room k rest := ih (by omega) hread
      cases hcontent : k.content? f.number with
      | none =>
        exact .undeclared hcontent (hfield.isPiece (not_mem_prefixed_of_undeclared hcontent)) hrest
      | some content =>
        have hfills := Kind.fills_of_merge hcontent hmerge
        obtain ⟨number, payload⟩ := f
        cases hfills with
        | number n => exact .number hcontent (hfield.isPiece (not_mem_prefixed hcontent nofun)) hrest
        | text text => exact .text hcontent (hfield.isPiece (not_mem_prefixed hcontent nofun)) hrest
        | @message kind body hbody =>
          obtain ⟨_, _, hbody⟩ := hbody
          have hpiece := hfield.isPiece (not_mem_prefixed hcontent nofun)
          have hlt : body.length < piece.length := hpiece.length_lt
          exact .message hcontent hpiece (ih (by omega) hbody) hrest
        | @entry kind body hbody =>
          obtain ⟨_, _, hbody⟩ := hbody
          obtain ⟨form, hpiece, -⟩ := hfield
          have hlt : body.length < piece.length := hpiece.length_lt
          exact .entry hcontent trivial hpiece (ih (by omega) hbody) hrest

/-! ## Agents and catalog entries -/

/-- More forms under the keys of map entries make no bytes malformed. -/
theorem WellFormed.mono {entryKey' : Form → Prop} (hle : ∀ form, entryKey form → entryKey' form)
    (h : WellFormed entryKey room k bytes) : WellFormed entryKey' room k bytes := by
  induction h with
  | empty => exact .empty
  | undeclared hcontent hpiece _ ih => exact .undeclared hcontent hpiece ih
  | number hcontent hpiece _ ih => exact .number hcontent hpiece ih
  | text hcontent hpiece _ ih => exact .text hcontent hpiece ih
  | message hcontent hpiece _ _ ihBody ih => exact .message hcontent hpiece ihBody ih
  | entry hcontent hform hpiece _ _ ihBody ih => exact .entry hcontent (hle _ hform) hpiece ihBody ih

/-- Agents, and the messages within them, have no maps. -/
def Mapless (k : Kind) : Prop := k = .agent ∨ k = .agentStatus ∨ k = .timestamp

/-- In a kind without maps no field is an entry of one, and the messages within have no maps either. -/
theorem Mapless.content? (h : Mapless k) :
    k.content? number ≠ some (.entry inner) ∧
      (k.content? number = some (.message inner) → Mapless inner) := by
  obtain rfl | rfl | rfl := h <;> unfold Kind.content? Mapless <;> dsimp only <;> split <;> simp +contextual

/-- Without maps the keys of their entries do not matter. -/
theorem WellFormed.of_mapless (hk : Mapless k) (h : WellFormed AnyForm room k bytes) :
    WellFormed entryKey room k bytes := by
  induction h with
  | empty => exact .empty
  | undeclared hcontent hpiece _ ih => exact .undeclared hcontent hpiece (ih hk)
  | number hcontent hpiece _ ih => exact .number hcontent hpiece (ih hk)
  | text hcontent hpiece _ ih => exact .text hcontent hpiece (ih hk)
  | message hcontent hpiece _ _ ihBody ih =>
    exact .message hcontent hpiece (ihBody (hk.content?.2 hcontent)) (ih hk)
  | entry hcontent => exact absurd hcontent hk.content?.1

/-- Bytes are readable where they are well-formed, the keys of map entries aside. -/
theorem readable_iff {blank : k.Message} :
    (∃ m, k.readInto room blank bytes = some m) ↔ WellFormed AnyForm room k bytes := by
  constructor
  · rintro ⟨m, hm⟩
    exact wellFormed_of_readInto (Nat.le_refl _) hm
  · exact fun h => h.readable blank

/-- Agents are read from well-formed bytes and from no others. Catalog entries are read from well-formed bytes,
and beyond them only from bytes that would be well-formed if a map entry could stand under any form. -/
theorem readable_iff_wellFormed (bytes : List UInt8) :
    ((∃ a, readAgent bytes = some a) ↔ WellFormed OnlyDelimited nestingLimit .agent bytes) ∧
      (WellFormed OnlyDelimited nestingLimit .catalogEntry bytes →
        ∃ entry, readCatalogEntry bytes = some entry) ∧
      ((∃ entry, readCatalogEntry bytes = some entry) ↔
        WellFormed AnyForm nestingLimit .catalogEntry bytes) := by
  have hany : ∀ {k : Kind}, WellFormed OnlyDelimited nestingLimit k bytes →
      WellFormed AnyForm nestingLimit k bytes := fun h => h.mono fun _ _ => trivial
  have hagent : (∃ a, readAgent bytes = some a) ↔ WellFormed AnyForm nestingLimit .agent bytes :=
    readable_iff (k := .agent)
  have hentry : (∃ entry, readCatalogEntry bytes = some entry) ↔
      WellFormed AnyForm nestingLimit .catalogEntry bytes := readable_iff (k := .catalogEntry)
  exact ⟨⟨fun h => (hagent.mp h).of_mapless (.inl rfl), fun h => hagent.mpr (hany h)⟩,
    fun h => hentry.mpr (hany h), hentry⟩

theorem fills_of_content? {may : Kind → List UInt8 → Prop} {content other : Content}
    (hcontent : k.content? number = some content) (hfills : Kind.Fills may content payload)
    (h : k.content? number = some other) : Kind.Fills may other payload := by
  rw [hcontent] at h
  cases h
  exact hfills

/-- Where a message is well-formed, every key can be taken at its word. -/
theorem WellFormed.exists_field (h : WellFormed OnlyDelimited room k bytes) :
    bytes = [] ∨ ∃ f rest, readField [] room bytes = some (f, rest) ∧
      ∀ content, k.content? f.number = some content →
        Kind.Fills (WellFormed OnlyDelimited k.within) content f.payload := by
  -- Without map entries the key says what is read, so the reader without prefixed numbers reads it too.
  have hread : ∀ {piece rest : List UInt8} {number : Nat} {payload : Payload},
      IsPiece room piece number payload.form payload →
      readField [] room (piece ++ rest) = some (⟨number, payload⟩, rest) := by
    intro piece rest number payload hpiece
    exact IsField.read ⟨payload.form, hpiece, (if_neg List.not_mem_nil).symm⟩ rest
  cases h with
  | empty => exact .inl rfl
  | @undeclared _ number _ _ _ payload hcontent hpiece _ =>
    refine .inr ⟨⟨number, payload⟩, _, hread hpiece, fun content h => ?_⟩
    exact absurd (hcontent.symm.trans h) nofun
  | @number _ number n _ _ _ hcontent hpiece _ =>
    exact .inr ⟨⟨number, .varint n⟩, _, hread hpiece, fun _ => fills_of_content? hcontent (.number n)⟩
  | @text _ number _ _ _ text hcontent hpiece _ =>
    exact .inr ⟨⟨number, .delimited (utf8Bytes text)⟩, _, hread hpiece,
      fun _ => fills_of_content? hcontent (.text text)⟩
  | @message _ number _ _ _ body _ hcontent hpiece hbody _ =>
    exact .inr ⟨⟨number, .delimited body⟩, _, hread hpiece,
      fun _ => fills_of_content? hcontent (.message hbody)⟩
  | @entry _ number _ _ _ body _ form hcontent hform hpiece hbody _ =>
    cases hform
    exact .inr ⟨⟨number, .delimited body⟩, _, hread hpiece,
      fun _ => fills_of_content? hcontent (.entry hbody)⟩

/-- A map entry under the form of a number is read all the same. -/
theorem entry_read_under_number_form :
    (∃ entry, readCatalogEntry [0x12, 0x02, 0x40, 0x00] = some entry) ∧
      WellFormed AnyForm nestingLimit .catalogEntry [0x12, 0x02, 0x40, 0x00] ∧
      ¬WellFormed OnlyDelimited nestingLimit .catalogEntry [0x12, 0x02, 0x40, 0x00] := by
  have hread : (readCatalogEntry [0x12, 0x02, 0x40, 0x00]).isSome := by decide
  have hread := Option.isSome_iff_exists.mp hread
  refine ⟨hread, (readable_iff_wellFormed _).2.2.mp hread, fun h => ?_⟩
  -- the entry is the one byte after the key of a number, and the key says so
  have hrecord : WellFormed OnlyDelimited (nestingLimit - 1) .backupRecord [0x40, 0x00] := by
    obtain hnil | ⟨f, rest, hfield, hholds⟩ := h.exists_field
    · cases hnil
    · have houter : readField [] nestingLimit [0x12, 0x02, 0x40, 0x00] =
          some (⟨2, .delimited [0x40, 0x00]⟩, []) := rfl
      rw [houter] at hfield
      cases hfield
      cases hholds _ rfl with
      | message hbody => exact hbody
  obtain hnil | ⟨f, rest, hfield, hholds⟩ := hrecord.exists_field
  · cases hnil
  · have hinner : readField [] (nestingLimit - 1) [0x40, 0x00] = some (⟨8, .varint 0⟩, []) := rfl
    rw [hinner] at hfield
    cases hfield
    cases hholds _ rfl

end BackupConsole.Wire
