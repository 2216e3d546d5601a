/-
  The grammar of fields.

  1. **Specification** — bytes are described piece by piece, each piece as the bytes it is made of and
     without a reader. `IsVarint`: marked bytes and one without a mark, at most ten of them, and a number
     that fits in 64 bits. `IsKey`: a number from 1 and a form, in a varint below 2³². `IsPayload`: what
     stands under a form other than a group's. `GroupEnd`: what is left of a group. `IsPiece`: a key and
     what stands under it.

  2. **Program** — every reader takes off the front exactly the pieces of its grammar:
     `readVarint_eq_some_iff`, `readKey_eq_some_iff`, `readPlain_eq_some_iff`, `readPayload_eq_some_iff`
     and, from these, `readField_eq_some_iff`.

  The program that passes over groups keeps the numbers of all groups that are open. `Closes` describes what
  is left of them, innermost first (`closes_of_skipGroups`, `skipGroups_of_groupEnd`).
-/
import BackupConsole.Wire.Field

namespace BackupConsole.Wire

variable {bytes rest : List UInt8} {number room : Nat} {payload : Payload}

/-! ## Numbers -/

/-- Groups of seven bits, the lowest first, all marked but the last. -/
inductive Grouped : List UInt8 → Nat → Prop
  | last {b : UInt8} : b < 128 → Grouped [b] b.toNat
  | more {b : UInt8} {bytes : List UInt8} {n : Nat} :
    128 ≤ b → Grouped bytes n → Grouped (b :: bytes) (b.toNat - 128 + 128 * n)

/-- A number in at most ten bytes that fits in 64 bits. -/
def IsVarint (bytes : List UInt8) (n : Nat) : Prop :=
  Grouped bytes n ∧ bytes.length ≤ 10 ∧ n < UInt64.size

theorem Grouped.length_pos {n : Nat} (h : Grouped bytes n) : 0 < bytes.length := by
  cases h <;> simp

theorem two_le_capacity (places : Nat) : 2 ≤ capacity places := by
  induction places with
  | zero => exact Nat.le_refl 2
  | succ places ih =>
    rw [capacity]
    omega

/-- What is read as a number is one, and its last group fits in the bits that are left. -/
theorem grouped_of_readGroups {places n : Nat} (h : readGroups (places + 1) bytes = some (n, rest)) :
    ∃ piece, bytes = piece ++ rest ∧ Grouped piece n ∧ piece.length ≤ places + 1 ∧ n < capacity places := by
  induction places generalizing bytes n with
  | zero =>
    cases bytes with
    | nil => cases h
    | cons b tail =>
      rw [readGroups] at h
      split at h
      · -- The last place has room for one bit and for no mark.
        next hlast =>
        split at h
        · cases h
        · next hfits =>
          cases h
          have hbit : b.toNat < 2 := by
            simp only [true_and, UInt8.not_le, UInt8.lt_iff_toNat_lt] at hfits
            exact hfits
          exact ⟨[b], rfl, .last hlast, Nat.le_refl 1, hbit⟩
      · cases h
  | succ places ih =>
    cases bytes with
    | nil => cases h
    | cons b tail =>
      rw [readGroups] at h
      split at h
      · -- A group without a mark is the last one, and the number is as small as the group.
        next hlast =>
        rw [if_neg (fun hfull => by omega)] at h
        cases h
        have hbyte : b.toNat < 128 := UInt8.lt_iff_toNat_lt.mp hlast
        have hcapacity := two_le_capacity places
        refine ⟨[b], rfl, .last hlast, by simp, ?_⟩
        rw [capacity]
        omega
      · -- A marked group is followed by a number for which one place less is left.
        next hmore =>
        split at h
        · next high left hhigh =>
          cases h
          obtain ⟨piece, rfl, hpiece, hlength, hlt⟩ := ih hhigh
          refine ⟨b :: piece, rfl, .more (UInt8.not_lt.mp hmore) hpiece, by simpa using hlength, ?_⟩
          have hbyte : b.toNat < 256 := b.toNat_lt
          rw [capacity]
          omega
        · cases h

/-- A number that fits is read, whatever follows it. -/
theorem readGroups_of_grouped {piece : List UInt8} {places n : Nat} (h : Grouped piece n)
    (hlength : piece.length ≤ places + 1) (hlt : n < capacity places) (rest : List UInt8) :
    readGroups (places + 1) (piece ++ rest) = some (n, rest) := by
  induction h generalizing places with
  | @last b hb =>
    -- In the last place no more than one bit is left, and the number fits.
    have hfits : ¬(places = 0 ∧ 2 ≤ b) := by
      rintro ⟨rfl, htwo⟩
      have htwo : 2 ≤ b.toNat := UInt8.le_iff_toNat_le.mp htwo
      rw [capacity] at hlt
      omega
    rw [List.singleton_append, readGroups, if_pos hb, if_neg hfits]
  | @more b tail high hb htail ih =>
    have hpos := htail.length_pos
    obtain ⟨places, rfl⟩ : ∃ k, places = k + 1 := by
      rw [List.length_cons] at hlength
      exact ⟨places - 1, by omega⟩
    have hhigh : high < capacity places := by
      rw [capacity] at hlt
      omega
    rw [List.cons_append, readGroups, if_neg (UInt8.not_lt.mpr hb),
      ih (Nat.le_of_succ_le_succ hlength) hhigh]

theorem IsVarint.read {n : Nat} (h : IsVarint bytes n) (rest : List UInt8) :
    readVarint (bytes ++ rest) = some (n, rest) :=
  readGroups_of_grouped h.1 h.2.1 h.2.2 rest

/-- The reader of numbers takes exactly the numbers of the grammar. -/
theorem readVarint_eq_some_iff {n : Nat} :
    readVarint bytes = some (n, rest) ↔ ∃ piece, bytes = piece ++ rest ∧ IsVarint piece n := by
  constructor
  · exact grouped_of_readGroups
  · rintro ⟨piece, rfl, hpiece⟩
    exact hpiece.read rest

/-! ## Keys and payloads -/

/-- The number of a form in keys. -/
def Form.code : Form → Nat
  | .varint => 0
  | .fixed64 => 1
  | .delimited => 2
  | .startGroup => 3
  | .endGroup => 4
  | .fixed32 => 5

theorem Form.ofNumber?_eq_some_iff {n : Nat} {form : Form} : ofNumber? n = some form ↔ n = form.code := by
  constructor
  · intro h
    unfold ofNumber? at h
    split at h <;> cases h <;> rfl
  · rintro rfl
    cases form <;> rfl

theorem Form.code_lt (form : Form) : form.code < 8 := by cases form <;> decide

/-- The key of a field: its number and the form of its payload, below 2³². -/
def IsKey (bytes : List UInt8) (number : Nat) (form : Form) : Prop :=
  IsVarint bytes (8 * number + form.code) ∧ 8 * number + form.code < UInt32.size ∧ 1 ≤ number

theorem IsKey.length_pos {form : Form} (h : IsKey bytes number form) : 0 < bytes.length :=
  h.1.1.length_pos

theorem IsKey.read {form : Form} (h : IsKey bytes number form) (rest : List UInt8) :
    readKey (bytes ++ rest) = some (number, form, rest) := by
  obtain ⟨hvarint, hlt, hpos⟩ := h
  have hcode := form.code_lt
  have hnumber : (8 * number + form.code) / 8 = number := by omega
  have hform : Form.ofNumber? ((8 * number + form.code) % 8) = some form :=
    Form.ofNumber?_eq_some_iff.mpr (by omega)
  have hvalid : ¬(UInt32.size ≤ 8 * number + form.code ∨ number = 0) := by omega
  simp only [readKey, hvarint.read rest, hnumber, hform, if_neg hvalid]

/-- The reader of keys takes exactly the keys of the grammar. -/
theorem readKey_eq_some_iff {form : Form} :
    readKey bytes = some (number, form, rest) ↔
      ∃ piece, bytes = piece ++ rest ∧ IsKey piece number form := by
  constructor
  · intro h
    unfold readKey at h
    split at h
    · next key left hvarint =>
      obtain ⟨piece, rfl, hpiece⟩ := readVarint_eq_some_iff.mp hvarint
      split at h
      · cases h
      · next hvalid =>
        split at h
        · next form' hform =>
          cases h
          -- A key is eight times the number, and the form is what is left over.
          have hkey : key = 8 * (key / 8) + form.code := by
            rw [← Form.ofNumber?_eq_some_iff.mp hform]
            omega
          refine ⟨piece, rfl, hkey ▸ hpiece, ?_, ?_⟩ <;> omega
        · cases h
    · cases h
  · rintro ⟨piece, rfl, hkey⟩
    exact hkey.read rest

/-- The form of a payload. -/
def Payload.form : Payload → Form
  | .varint _ => .varint
  | .fixed64 _ => .fixed64
  | .delimited _ => .delimited
  | .group => .startGroup
  | .fixed32 _ => .fixed32

/-- A payload that is no group. -/
inductive IsPayload : List UInt8 → Payload → Prop
  | varint {bytes : List UInt8} {n : Nat} : IsVarint bytes n → IsPayload bytes (.varint n)
  | fixed64 {bytes : List UInt8} : bytes.length = 8 → IsPayload bytes (.fixed64 bytes)
  | delimited {count bytes : List UInt8} :
    IsVarint count bytes.length → IsPayload (count ++ bytes) (.delimited bytes)
  | fixed32 {bytes : List UInt8} : bytes.length = 4 → IsPayload bytes (.fixed32 bytes)

theorem readBytes_eq_some_iff {count : Nat} {taken : List UInt8} :
    readBytes count bytes = some (taken, rest) ↔ bytes = taken ++ rest ∧ taken.length = count := by
  unfold readBytes
  constructor
  · intro h
    split at h
    · cases h
    · next henough =>
      cases h
      refine ⟨(List.take_append_drop count bytes).symm, List.length_take_of_le ?_⟩
      omega
  · rintro ⟨rfl, rfl⟩
    have henough : ¬(taken ++ rest).length < taken.length := by simp
    rw [if_neg henough, List.take_left, List.drop_left]

/-- The reader of length-prefixed bytes takes a length and as many bytes. -/
theorem readDelimited_eq_some_iff {taken : List UInt8} :
    readDelimited bytes = some (taken, rest) ↔
      ∃ count, bytes = count ++ taken ++ rest ∧ IsVarint count taken.length := by
  constructor
  · intro h
    unfold readDelimited at h
    split at h
    · next n left hcount =>
      obtain ⟨count, rfl, hvarint⟩ := readVarint_eq_some_iff.mp hcount
      obtain ⟨rfl, rfl⟩ := readBytes_eq_some_iff.mp h
      exact ⟨count, by rw [List.append_assoc], hvarint⟩
    · cases h
  · rintro ⟨count, rfl, hvarint⟩
    rw [readDelimited, List.append_assoc, hvarint.read]
    exact readBytes_eq_some_iff.mpr ⟨rfl, rfl⟩

/-- A payload of the grammar is read off the front, if the key has announced its form. -/
theorem IsPayload.read (h : IsPayload bytes payload) (rest : List UInt8) :
    readPlain payload.form (bytes ++ rest) = some (payload, rest) := by
  cases h with
  | varint hvarint => rw [Payload.form, readPlain, hvarint.read, Option.map_some]
  | fixed64 hlength | fixed32 hlength =>
    rw [Payload.form, readPlain, readBytes_eq_some_iff.mpr ⟨rfl, hlength⟩, Option.map_some]
  | @delimited count taken hcount =>
    rw [Payload.form, readPlain, readDelimited_eq_some_iff.mpr ⟨count, rfl, hcount⟩, Option.map_some]

/-- The reader of payloads takes exactly those of the form that was announced. -/
theorem readPlain_eq_some_iff {form : Form} :
    readPlain form bytes = some (payload, rest) ↔
      ∃ piece, bytes = piece ++ rest ∧ IsPayload piece payload ∧ payload.form = form := by
  constructor
  · intro h
    cases form with
    | varint =>
      obtain ⟨⟨n, left⟩, hread, heq⟩ := Option.map_eq_some_iff.mp h
      cases heq
      obtain ⟨piece, rfl, hvarint⟩ := readVarint_eq_some_iff.mp hread
      exact ⟨piece, rfl, .varint hvarint, rfl⟩
    | fixed64 =>
      obtain ⟨⟨taken, left⟩, hread, heq⟩ := Option.map_eq_some_iff.mp h
      cases heq
      obtain ⟨rfl, hlength⟩ := readBytes_eq_some_iff.mp hread
      exact ⟨taken, rfl, .fixed64 hlength, rfl⟩
    | delimited =>
      obtain ⟨⟨taken, left⟩, hread, heq⟩ := Option.map_eq_some_iff.mp h
      cases heq
      -- A run of bytes is behind its length, so the piece is both.
      obtain ⟨count, rfl, hcount⟩ := readDelimited_eq_some_iff.mp hread
      exact ⟨count ++ taken, rfl, .delimited hcount, rfl⟩
    | fixed32 =>
      obtain ⟨⟨taken, left⟩, hread, heq⟩ := Option.map_eq_some_iff.mp h
      cases heq
      obtain ⟨rfl, hlength⟩ := readBytes_eq_some_iff.mp hread
      exact ⟨taken, rfl, .fixed32 hlength, rfl⟩
    | startGroup | endGroup => cases h
  · rintro ⟨piece, rfl, hpayload, rfl⟩
    exact hpayload.read rest

/-! ## Groups -/

/-- What is left of a group with the given number behind its start: fields, and the end with the number.
The group is one of `depth` groups that lie within one another, and a field needs room for one more. -/
inductive GroupEnd (room : Nat) : Nat → Nat → List UInt8 → Prop
  | close {depth number : Nat} {key : List UInt8} :
    IsKey key number .endGroup → GroupEnd room depth number key
  | field {depth number inner : Nat} {key body rest : List UInt8} {payload : Payload} :
    depth < room → IsKey key inner payload.form → IsPayload body payload →
    GroupEnd room depth number rest → GroupEnd room depth number (key ++ body ++ rest)
  | group {depth number inner : Nat} {key body rest : List UInt8} :
    depth < room → IsKey key inner .startGroup → GroupEnd room (depth + 1) inner body →
    GroupEnd room depth number rest → GroupEnd room depth number (key ++ body ++ rest)

/-- What is left of the open groups, innermost first. -/
inductive Closes (room : Nat) : List Nat → List UInt8 → Prop
  | nil : Closes room [] []
  | cons {number : Nat} {outer : List Nat} {body rest : List UInt8} :
    GroupEnd room (outer.length + 1) number body → Closes room outer rest →
    Closes room (number :: outer) (body ++ rest)

/-- What is passed over is the rest of the open groups. -/
theorem closes_of_skipGroups {fuel : Nat} {groups : List Nat}
    (h : skipGroups room fuel groups bytes = some rest) :
    ∃ piece, bytes = piece ++ rest ∧ Closes room groups piece := by
  have hpassed := passedOver_of_skipGroups h
  clear h
  induction hpassed with
  | done => exact ⟨[], rfl, .nil⟩
  | close hread _ ih =>
    obtain ⟨key, rfl, hkey⟩ := readKey_eq_some_iff.mp hread
    obtain ⟨piece, rfl, houter⟩ := ih
    exact ⟨key ++ piece, by rw [List.append_assoc], .cons (.close hkey) houter⟩
  | enter hroom hread _ ih =>
    obtain ⟨key, rfl, hkey⟩ := readKey_eq_some_iff.mp hread
    obtain ⟨piece, rfl, hgroups⟩ := ih
    -- The groups that are left begin with the inner one, behind which the outer one goes on.
    cases hgroups with
    | @cons _ _ body _ hinner hopen =>
      cases hopen with
      | @cons _ _ own left hown houter =>
        exact ⟨key ++ body ++ own ++ left, by simp only [List.append_assoc],
          .cons (.group hroom hkey hinner hown) houter⟩
  | field hroom hread hplain _ ih =>
    obtain ⟨key, rfl, hkey⟩ := readKey_eq_some_iff.mp hread
    obtain ⟨body, rfl, hbody, rfl⟩ := readPlain_eq_some_iff.mp hplain
    obtain ⟨piece, rfl, hgroups⟩ := ih
    cases hgroups with
    | @cons _ _ own left hown houter =>
      exact ⟨key ++ body ++ own ++ left, by simp only [List.append_assoc],
        .cons (.field hroom hkey hbody hown) houter⟩

theorem Payload.form_ne_endGroup (payload : Payload) : payload.form ≠ .endGroup := by
  cases payload <;> simp [Payload.form]

/-- A payload that is no group has a form of its own. -/
theorem IsPayload.form_ne_startGroup (h : IsPayload bytes payload) : payload.form ≠ .startGroup := by
  cases h <;> simp [Payload.form]

/-- Every field and every end that is passed over takes one step and at least one byte. -/
theorem skipGroups_of_groupEnd {depth : Nat} {body : List UInt8} (h : GroupEnd room depth number body)
    (outer : List Nat) (hdepth : depth = outer.length + 1) (rest : List UInt8) :
    ∃ steps, steps ≤ body.length ∧ ∀ fuel,
      skipGroups room (fuel + steps) (number :: outer) (body ++ rest) = skipGroups room fuel outer rest := by
  -- By induction along the group. Fuel is counted backwards: a field takes the fuel that its rest does not.
  induction h generalizing outer rest with
  | close hkey =>
    refine ⟨1, hkey.length_pos, fun fuel => ?_⟩
    simp only [skipGroups, hkey.read rest, if_pos]
  | @field depth number inner key body tail payload hroom hkey hbody _ ih =>
    obtain ⟨steps, hsteps, hskip⟩ := ih outer hdepth rest
    have hpos := hkey.length_pos
    refine ⟨steps + 1, by simp only [List.length_append]; omega, fun fuel => ?_⟩
    have hdeep : ¬room ≤ outer.length + 1 := by omega
    rw [← Nat.add_assoc, skipGroups, List.append_assoc, List.append_assoc, hkey.read]
    simp only [if_neg payload.form_ne_endGroup, if_neg hdeep, if_neg hbody.form_ne_startGroup,
      hbody.read (tail ++ rest), hskip fuel]
  | @group depth number inner key body tail hroom hkey _ _ ihInner ihOuter =>
    obtain ⟨steps, hsteps, hskip⟩ := ihOuter outer hdepth rest
    -- The group within is passed over first, and then what is left of the group around it.
    obtain ⟨innerSteps, hinnerSteps, hinnerSkip⟩ :=
      ihInner (number :: outer) (by rw [List.length_cons, hdepth]) (tail ++ rest)
    have hpos := hkey.length_pos
    refine ⟨steps + innerSteps + 1, by simp only [List.length_append]; omega, fun fuel => ?_⟩
    have hdeep : ¬room ≤ outer.length + 1 := by omega
    have hend : Form.startGroup ≠ .endGroup := by decide
    rw [← Nat.add_assoc, ← Nat.add_assoc, skipGroups, List.append_assoc, List.append_assoc, hkey.read]
    simp only [if_neg hend, if_neg hdeep, if_pos, hinnerSkip, hskip]

/-! ## Fields -/

/-- What stands behind the key of a field. -/
inductive IsBody (room number : Nat) : List UInt8 → Payload → Prop
  | plain {body : List UInt8} {payload : Payload} : IsPayload body payload → IsBody room number body payload
  | group {body : List UInt8} : GroupEnd room 1 number body → IsBody room number body .group

/-- A key, and what stands behind it: the form that the key announces is not looked at here. -/
def IsPiece (room : Nat) (bytes : List UInt8) (number : Nat) (form : Form) (payload : Payload) : Prop :=
  ∃ key body, bytes = key ++ body ∧ IsKey key number form ∧ IsBody room number body payload

/-- A field in full. It stands under the form that its key announces, but numbers in `prefixed` are
length-prefixed whatever their key says. -/
def IsField (prefixed : List Nat) (room : Nat) (bytes : List UInt8) (field : Field) : Prop :=
  ∃ form, IsPiece room bytes field.number form field.payload ∧
    field.payload.form = if field.number ∈ prefixed then .delimited else form

theorem IsBody.read {body : List UInt8} (h : IsBody room number body payload) (rest : List UInt8) :
    readPayload room number payload.form (body ++ rest) = some (payload, rest) := by
  cases h with
  | plain hplain => rw [readPayload, if_neg hplain.form_ne_startGroup, hplain.read]
  | group hbody =>
    obtain ⟨steps, hsteps, hskip⟩ := skipGroups_of_groupEnd hbody [] rfl rest
    have hfuel : (body ++ rest).length = (body ++ rest).length - steps + steps := by
      rw [List.length_append]
      omega
    rw [readPayload, Payload.form, if_pos rfl, hfuel, hskip, skipGroups, Option.map_some]

/-- The reader takes exactly what stands under a key, be it a group or a payload. -/
theorem readPayload_eq_some_iff {form : Form} :
    readPayload room number form bytes = some (payload, rest) ↔
      ∃ body, bytes = body ++ rest ∧ IsBody room number body payload ∧ payload.form = form := by
  constructor
  · intro h
    unfold readPayload at h
    split at h
    · next hstart =>
      obtain ⟨left, hskip, heq⟩ := Option.map_eq_some_iff.mp h
      cases heq
      obtain ⟨piece, rfl, hcloses⟩ := closes_of_skipGroups hskip
      -- Behind the one group that was open there is nothing left to close.
      cases hcloses with
      | @cons _ _ body _ hbody hnone =>
        cases hnone
        exact ⟨body, by rw [List.append_nil], .group hbody, hstart.symm⟩
    · obtain ⟨piece, rfl, hplain, hform⟩ := readPlain_eq_some_iff.mp h
      exact ⟨piece, rfl, .plain hplain, hform⟩
  · rintro ⟨body, rfl, hbody, rfl⟩
    exact hbody.read rest

theorem IsField.length_pos {prefixed : List Nat} {field : Field} (h : IsField prefixed room bytes field) :
    0 < bytes.length := by
  obtain ⟨form, ⟨key, body, rfl, hkey, -⟩, -⟩ := h
  have hpos := hkey.length_pos
  rw [List.length_append]
  omega

theorem IsField.read {prefixed : List Nat} {field : Field} (h : IsField prefixed room bytes field)
    (rest : List UInt8) : readField prefixed room (bytes ++ rest) = some (field, rest) := by
  obtain ⟨form, ⟨key, body, rfl, hkey, hbody⟩, hform⟩ := h
  simp only [readField, List.append_assoc, hkey.read]
  rw [← hform, hbody.read, Option.map_some]

/-- The reader of fields takes fields in full off the front, and no others. -/
theorem readField_eq_some_iff {prefixed : List Nat} {field : Field} :
    readField prefixed room bytes = some (field, rest) ↔
      ∃ piece, bytes = piece ++ rest ∧ IsField prefixed room piece field := by
  constructor
  · intro h
    unfold readField at h
    split at h
    · cases h
    · next number form left hread =>
      obtain ⟨key, rfl, hkey⟩ := readKey_eq_some_iff.mp hread
      obtain ⟨⟨payload, behind⟩, hpayload, heq⟩ := Option.map_eq_some_iff.mp h
      cases heq
      obtain ⟨body, rfl, hbody, hform⟩ := readPayload_eq_some_iff.mp hpayload
      exact ⟨key ++ body, by rw [List.append_assoc], form, ⟨key, body, rfl, hkey, hbody⟩, hform⟩
  · rintro ⟨piece, rfl, hfield⟩
    exact hfield.read rest

/-- Bytes that are read as one field are that field. -/
theorem isField_of_readField {prefixed : List Nat} {field : Field}
    (h : readField prefixed room bytes = some (field, [])) : IsField prefixed room bytes field := by
  obtain ⟨piece, hpiece, hfield⟩ := readField_eq_some_iff.mp h
  rwa [hpiece, List.append_nil]

end BackupConsole.Wire
