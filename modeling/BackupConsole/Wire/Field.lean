/-
  Fields: the pieces a message is made of.

  1. **Program** — a field is a number and a payload. `readKey` takes a field's number and payload
     form off the front of some bytes, `readField` the whole field, `splitFields` all fields there
     are. The writers `varintField`, `textField` and `nestedField` put one field into bytes.

  2. **Specification** — a key fits in 32 bits and numbers start at 1. A group is a run of fields
     between a start and an end with its number; groups nest, up to a limit. The fields of two byte
     strings, one after the other, are the fields of each. `readField_append`: a field is read alike
     whatever follows it. `readField_writeVarint`, `readField_nestedField`: what is written is read
     back.

  A message may read some of its fields as length-prefixed whatever form the key announces: the
  entries of its maps. Such numbers are a parameter of the reading.
-/
import BackupConsole.Text.Utf8
import BackupConsole.Wire.Varint

namespace BackupConsole.Wire

open Text

/-- What a field holds. -/
inductive Payload where
  | varint (n : Nat)
  | fixed64 (bytes : List UInt8)
  | delimited (bytes : List UInt8)
  | group
  | fixed32 (bytes : List UInt8)
  deriving DecidableEq, Repr

/-- A number and what stands under it. -/
structure Field where
  number : Nat
  payload : Payload
  deriving DecidableEq, Repr

namespace Field

/-- The number a field holds, if its payload has the form of one. -/
def varint? (f : Field) : Option Nat :=
  match f.payload with
  | .varint n => some n
  | _ => none

/-- The bytes a field holds, if its payload is length-prefixed. -/
def delimited? (f : Field) : Option (List UInt8) :=
  match f.payload with
  | .delimited bytes => some bytes
  | _ => none

/-- The text a field holds, if its payload is length-prefixed and valid as a text. -/
def text? (f : Field) : Option String := f.delimited?.bind ofUtf8?

end Field

/-! ## Reading -/

/-- The forms a payload can take, as keys number them. -/
inductive Form where
  | varint
  | fixed64
  | delimited
  | startGroup
  | endGroup
  | fixed32
  deriving DecidableEq, Repr

/-- The form a number in a key stands for. -/
def Form.ofNumber? : Nat → Option Form
  | 0 => some .varint
  | 1 => some .fixed64
  | 2 => some .delimited
  | 3 => some .startGroup
  | 4 => some .endGroup
  | 5 => some .fixed32
  | _ => none

/-- Takes a key off the front: a field number and the form of its payload. -/
def readKey (bytes : List UInt8) : Option (Nat × Form × List UInt8) :=
  match readVarint bytes with
  | some (key, rest) =>
    if UInt32.size ≤ key ∨ key / 8 = 0 then none
    else
      match Form.ofNumber? (key % 8) with
      | some form => some (key / 8, form, rest)
      | none => none
  | none => none

/-- Takes a fixed count of bytes off the front. -/
def readBytes (count : Nat) (bytes : List UInt8) : Option (List UInt8 × List UInt8) :=
  if bytes.length < count then none else some (bytes.take count, bytes.drop count)

/-- Takes a length and that many bytes off the front. -/
def readDelimited (bytes : List UInt8) : Option (List UInt8 × List UInt8) :=
  match readVarint bytes with
  | some (count, rest) => readBytes count rest
  | none => none

/-- Takes a payload that is no group off the front. -/
def readPlain (form : Form) (bytes : List UInt8) : Option (Payload × List UInt8) :=
  match form with
  | .varint => (readVarint bytes).map fun r => (.varint r.1, r.2)
  | .fixed64 => (readBytes 8 bytes).map fun r => (.fixed64 r.1, r.2)
  | .delimited => (readDelimited bytes).map fun r => (.delimited r.1, r.2)
  | .fixed32 => (readBytes 4 bytes).map fun r => (.fixed32 r.1, r.2)
  | .startGroup => none
  | .endGroup => none

/-- Passes over what is left of the open groups, innermost first. Groups nest below `limit`. The
first argument bounds the fields passed over; a byte count is bound enough. -/
def skipGroups (limit : Nat) : Nat → List Nat → List UInt8 → Option (List UInt8)
  | _, [], bytes => some bytes
  | 0, _ :: _, _ => none
  | fuel + 1, number :: outer, bytes =>
    match readKey bytes with
    | none => none
    | some (inner, form, rest) =>
      if form = .endGroup then
        if inner = number then skipGroups limit fuel outer rest else none
      else if limit ≤ outer.length + 1 then none
      else if form = .startGroup then skipGroups limit fuel (inner :: number :: outer) rest
      else
        match readPlain form rest with
        | some (_, rest) => skipGroups limit fuel (number :: outer) rest
        | none => none

/-- Takes a payload off the front. -/
def readPayload (limit number : Nat) (form : Form) (bytes : List UInt8) :
    Option (Payload × List UInt8) :=
  if form = .startGroup then
    (skipGroups limit bytes.length [number] bytes).map fun rest => (.group, rest)
  else readPlain form bytes

/-- Takes a field off the front. Numbers in `prefixed` are length-prefixed whatever their key
says. -/
def readField (prefixed : List Nat) (limit : Nat) (bytes : List UInt8) :
    Option (Field × List UInt8) :=
  match readKey bytes with
  | none => none
  | some (number, form, rest) =>
    let form := if number ∈ prefixed then .delimited else form
    (readPayload limit number form rest).map fun r => (⟨number, r.1⟩, r.2)

/-- All fields of some bytes; the first argument bounds their count. -/
def splitUpTo (prefixed : List Nat) (limit : Nat) : Nat → List UInt8 → Option (List Field)
  | _, [] => some []
  | 0, _ :: _ => none
  | fuel + 1, bytes =>
    match readField prefixed limit bytes with
    | none => none
    | some (field, rest) => (splitUpTo prefixed limit fuel rest).map (field :: ·)

/-- All fields of some bytes, if the bytes are fields from end to end. -/
def splitFields (prefixed : List Nat) (limit : Nat) (bytes : List UInt8) : Option (List Field) :=
  splitUpTo prefixed limit bytes.length bytes

/-- Reads bytes into a message: each field in turn is merged into what was read before. -/
def mergeBytes {α : Type} (prefixed : List Nat) (limit : Nat) (merge : α → Field → Option α)
    (old : α) (bytes : List UInt8) : Option α :=
  (splitFields prefixed limit bytes).bind fun fields => fields.foldlM merge old

/-! ## What a reading takes, and what it leaves

A key takes bytes from the front and a payload takes no more than there are, so what is left gets
shorter from field to field. What stands behind a field does not change how the field is read. -/

section Reading

variable {bytes rest : List UInt8} {number limit fuel : Nat} {form : Form} {payload : Payload}

/-- A key takes at least one byte. -/
theorem length_lt_of_readKey (h : readKey bytes = some (number, form, rest)) :
    rest.length < bytes.length := by
  unfold readKey at h
  split at h
  · next key rest' hkey =>
    have hlt := length_lt_of_readVarint hkey
    split at h
    · cases h
    · split at h
      · cases h
        exact hlt
      · cases h
  · cases h

theorem length_le_of_readBytes {count : Nat} {taken : List UInt8}
    (h : readBytes count bytes = some (taken, rest)) : rest.length ≤ bytes.length := by
  unfold readBytes at h
  split at h
  · cases h
  · cases h
    simp

theorem length_le_of_readDelimited {taken : List UInt8}
    (h : readDelimited bytes = some (taken, rest)) : rest.length ≤ bytes.length := by
  unfold readDelimited at h
  split at h
  · next count behind hcount =>
    have hlt := length_lt_of_readVarint hcount
    have hle := length_le_of_readBytes h
    omega
  · cases h

theorem length_le_of_readPlain (h : readPlain form bytes = some (payload, rest)) :
    rest.length ≤ bytes.length := by
  cases form with
  | varint =>
    obtain ⟨⟨n, left⟩, hread, heq⟩ := Option.map_eq_some_iff.mp h
    cases heq
    exact Nat.le_of_lt (length_lt_of_readVarint hread)
  | fixed64 | fixed32 =>
    obtain ⟨⟨taken, left⟩, hread, heq⟩ := Option.map_eq_some_iff.mp h
    cases heq
    exact length_le_of_readBytes hread
  | delimited =>
    obtain ⟨⟨taken, left⟩, hread, heq⟩ := Option.map_eq_some_iff.mp h
    cases heq
    exact length_le_of_readDelimited hread
  | startGroup | endGroup => cases h

/-- How groups are passed over until `rest` is left: the steps of `skipGroups` that go on, innermost group
first, each with the fuel that it leaves. -/
inductive PassedOver (limit : Nat) (rest : List UInt8) : Nat → List Nat → List UInt8 → Prop
  | done {fuel : Nat} : PassedOver limit rest fuel [] rest
  | close {fuel number : Nat} {outer : List Nat} {bytes left : List UInt8} :
    readKey bytes = some (number, .endGroup, left) → PassedOver limit rest fuel outer left →
    PassedOver limit rest (fuel + 1) (number :: outer) bytes
  | enter {fuel number inner : Nat} {outer : List Nat} {bytes left : List UInt8} :
    outer.length + 1 < limit → readKey bytes = some (inner, .startGroup, left) →
    PassedOver limit rest fuel (inner :: number :: outer) left →
    PassedOver limit rest (fuel + 1) (number :: outer) bytes
  | field {fuel number inner : Nat} {outer : List Nat} {bytes left behind : List UInt8} {form : Form}
      {payload : Payload} :
    outer.length + 1 < limit → readKey bytes = some (inner, form, left) →
    readPlain form left = some (payload, behind) → PassedOver limit rest fuel (number :: outer) behind →
    PassedOver limit rest (fuel + 1) (number :: outer) bytes

/-- Groups that have been passed over have been passed over step by step. -/
theorem passedOver_of_skipGroups {groups : List Nat}
    (h : skipGroups limit fuel groups bytes = some rest) : PassedOver limit rest fuel groups bytes := by
  induction fuel generalizing groups bytes with
  | zero =>
    cases groups with
    | nil =>
      rw [skipGroups] at h
      cases h
      exact .done
    | cons number outer => cases h
  | succ fuel ih =>
    cases groups with
    | nil =>
      rw [skipGroups] at h
      cases h
      exact .done
    | cons number outer =>
      -- The tests in the order of the program; where one of them fails there is no result.
      rw [skipGroups] at h
      split at h
      · cases h
      · next inner form left hkey =>
        split at h
        · next hend =>
          subst hend
          split at h
          · next hsame =>
            subst hsame
            exact .close hkey (ih h)
          · cases h
        · split at h
          · cases h
          · next hdeep =>
            have hroom : outer.length + 1 < limit := Nat.lt_of_not_le hdeep
            split at h
            · next hstart =>
              subst hstart
              exact .enter hroom hkey (ih h)
            · split at h
              · next payload behind hplain => exact .field hroom hkey hplain (ih h)
              · cases h

/-- Passing over groups never goes back. -/
theorem length_le_of_skipGroups {groups : List Nat}
    (h : skipGroups limit fuel groups bytes = some rest) : rest.length ≤ bytes.length := by
  have hpassed := passedOver_of_skipGroups h
  clear h
  -- Each step begins with a key, which takes a byte.
  induction hpassed with
  | done => exact Nat.le_refl _
  | close hkey _ ih | enter _ hkey _ ih =>
    have hlt := length_lt_of_readKey hkey
    omega
  | field _ hkey hplain _ ih =>
    have hlt := length_lt_of_readKey hkey
    have hle := length_le_of_readPlain hplain
    omega

theorem length_le_of_readPayload (h : readPayload limit number form bytes = some (payload, rest)) :
    rest.length ≤ bytes.length := by
  unfold readPayload at h
  split at h
  · obtain ⟨left, hskip, heq⟩ := Option.map_eq_some_iff.mp h
    cases heq
    exact length_le_of_skipGroups hskip
  · exact length_le_of_readPlain h

/-- A field takes at least one byte: its key does. -/
theorem length_lt_of_readField {prefixed : List Nat} {field : Field}
    (h : readField prefixed limit bytes = some (field, rest)) : rest.length < bytes.length := by
  unfold readField at h
  split at h
  · cases h
  · next number form left hkey =>
    have hlt := length_lt_of_readKey hkey
    obtain ⟨⟨payload, behind⟩, hpayload, heq⟩ := Option.map_eq_some_iff.mp h
    cases heq
    exact Nat.lt_of_le_of_lt (length_le_of_readPayload hpayload) hlt

/-- A key is read alike whatever follows it. -/
theorem readKey_append (h : readKey bytes = some (number, form, rest)) (tail : List UInt8) :
    readKey (bytes ++ tail) = some (number, form, rest ++ tail) := by
  unfold readKey at h
  split at h
  · next key rest' hkey =>
    simp only [readKey, readVarint_append hkey]
    split at h
    · cases h
    · next hvalid =>
      rw [if_neg hvalid]
      split at h
      · cases h
        rfl
      · cases h
  · cases h

theorem readBytes_append {count : Nat} {taken : List UInt8}
    (h : readBytes count bytes = some (taken, rest)) (tail : List UInt8) :
    readBytes count (bytes ++ tail) = some (taken, rest ++ tail) := by
  unfold readBytes at h
  split at h
  · cases h
  · next henough =>
    cases h
    have hle : count ≤ bytes.length := Nat.le_of_not_lt henough
    have hshort : ¬(bytes ++ tail).length < count := by simp; omega
    rw [readBytes, if_neg hshort, List.take_append_of_le_length hle,
      List.drop_append_of_le_length hle]

theorem readDelimited_append {taken : List UInt8}
    (h : readDelimited bytes = some (taken, rest)) (tail : List UInt8) :
    readDelimited (bytes ++ tail) = some (taken, rest ++ tail) := by
  unfold readDelimited at h
  split at h
  · next count behind hcount =>
    rw [readDelimited, readVarint_append hcount]
    exact readBytes_append h tail
  · cases h

theorem readPlain_append (h : readPlain form bytes = some (payload, rest)) (tail : List UInt8) :
    readPlain form (bytes ++ tail) = some (payload, rest ++ tail) := by
  cases form with
  | varint =>
    obtain ⟨⟨n, left⟩, hread, heq⟩ := Option.map_eq_some_iff.mp h
    cases heq
    rw [readPlain, readVarint_append hread, Option.map_some]
  | fixed64 | fixed32 =>
    obtain ⟨⟨taken, left⟩, hread, heq⟩ := Option.map_eq_some_iff.mp h
    cases heq
    rw [readPlain, readBytes_append hread, Option.map_some]
  | delimited =>
    obtain ⟨⟨taken, left⟩, hread, heq⟩ := Option.map_eq_some_iff.mp h
    cases heq
    rw [readPlain, readDelimited_append hread, Option.map_some]
  | startGroup | endGroup => cases h

/-- The form of a payload that is no group is none of the two that enclose a group. -/
theorem form_ne_of_readPlain (h : readPlain form bytes = some (payload, rest)) :
    form ≠ .startGroup ∧ form ≠ .endGroup := by
  constructor <;> rintro rfl <;> cases h

/-- Groups are passed over alike whatever follows them, and with more fuel than it takes. -/
theorem skipGroups_append {groups : List Nat} (h : skipGroups limit fuel groups bytes = some rest)
    {more : Nat} (hle : fuel ≤ more) (tail : List UInt8) :
    skipGroups limit more groups (bytes ++ tail) = some (rest ++ tail) := by
  have hpassed := passedOver_of_skipGroups h
  clear h
  induction hpassed generalizing more with
  | done => rw [skipGroups]
  | @close fuel _ _ _ _ hkey _ ih =>
    obtain ⟨more, rfl⟩ : ∃ k, more = k + 1 := ⟨more - 1, by omega⟩
    have hle : fuel ≤ more := Nat.le_of_succ_le_succ hle
    simp only [skipGroups, readKey_append hkey, if_true, ih hle]
  | @enter fuel _ _ outer _ _ hroom hkey _ ih =>
    obtain ⟨more, rfl⟩ : ∃ k, more = k + 1 := ⟨more - 1, by omega⟩
    have hle : fuel ≤ more := Nat.le_of_succ_le_succ hle
    have hend : Form.startGroup ≠ .endGroup := by decide
    simp only [skipGroups, readKey_append hkey, if_neg hend, if_neg (Nat.not_le.mpr hroom), if_true,
      ih hle]
  | @field fuel _ _ outer _ _ _ form payload hroom hkey hplain _ ih =>
    obtain ⟨more, rfl⟩ : ∃ k, more = k + 1 := ⟨more - 1, by omega⟩
    have hle : fuel ≤ more := Nat.le_of_succ_le_succ hle
    obtain ⟨hstart, hend⟩ := form_ne_of_readPlain hplain
    simp only [skipGroups, readKey_append hkey, if_neg hend, if_neg (Nat.not_le.mpr hroom),
      if_neg hstart, readPlain_append hplain, ih hle]

/-- A payload is read alike whatever follows it. For a group the bytes that follow only raise a bound that
was high enough. -/
theorem readPayload_append (h : readPayload limit number form bytes = some (payload, rest))
    (tail : List UInt8) :
    readPayload limit number form (bytes ++ tail) = some (payload, rest ++ tail) := by
  unfold readPayload at h
  split at h
  · next hstart =>
    obtain ⟨left, hskip, heq⟩ := Option.map_eq_some_iff.mp h
    cases heq
    have hmore : bytes.length ≤ (bytes ++ tail).length := by simp
    rw [readPayload, if_pos hstart, skipGroups_append hskip hmore, Option.map_some]
  · next hstart =>
    rw [readPayload, if_neg hstart]
    exact readPlain_append h tail

/-- A field is read alike whatever follows it. -/
theorem readField_append {prefixed : List Nat} {field : Field}
    (h : readField prefixed limit bytes = some (field, rest)) (tail : List UInt8) :
    readField prefixed limit (bytes ++ tail) = some (field, rest ++ tail) := by
  unfold readField at h
  split at h
  · cases h
  · next number form left hkey =>
    obtain ⟨⟨payload, behind⟩, hpayload, heq⟩ := Option.map_eq_some_iff.mp h
    cases heq
    simp only [readField, readKey_append hkey, readPayload_append hpayload, Option.map_some]

end Reading

/-! ## Writing -/

/-- The key of a field: its number and the form of its payload. -/
def writeKey (number : Nat) (form : Nat) : List UInt8 := writeVarint (number * 8 + form)

/-- Some bytes behind their length. -/
def writeDelimited (bytes : List UInt8) : List UInt8 := writeVarint bytes.length ++ bytes

/-- A number under a field number; zero is left out. -/
def varintField (number n : Nat) : List UInt8 :=
  if n = 0 then [] else writeKey number 0 ++ writeVarint n

/-- A text under a field number; the empty text is left out. -/
def textField (number : Nat) (text : String) : List UInt8 :=
  if text = "" then [] else writeKey number 2 ++ writeDelimited (utf8Bytes text)

/-- A message under a field number, present even when it is empty. -/
def nestedField (number : Nat) (message : List UInt8) : List UInt8 :=
  writeKey number 2 ++ writeDelimited message

/-- A message that may be absent. -/
def optionalField {α : Type} (number : Nat) (write : α → List UInt8) : Option α → List UInt8
  | some message => nestedField number (write message)
  | none => []

/-! ## Numbers of messages as words

Signed numbers are written as 64-bit words, so a negative one always takes ten bytes; a truth value
is written as zero or one and any word but zero reads as true. -/

/-- A signed number of 32 bits as a word, widened with its sign. -/
def wordOfInt32 (n : Int32) : Nat := n.toInt64.toBitVec.toNat

/-- A signed number of 64 bits as a word. -/
def wordOfInt64 (n : Int64) : Nat := n.toBitVec.toNat

/-- A truth value as a word. -/
def wordOfBool (b : Bool) : Nat := if b then 1 else 0

/-- The lowest 32 bits of a word as a signed number. -/
def int32OfWord (n : Nat) : Int32 := Int32.ofNat n

/-- A word as a signed number of 64 bits. -/
def int64OfWord (n : Nat) : Int64 := Int64.ofNat n

/-- A word as a truth value. -/
def boolOfWord (n : Nat) : Bool := n != 0

/-! ### Words and what they stand for -/

/-- A kind of number has its own words: each fits in 64 bits, the default is zero, and from its word a
number is had again. -/
structure HasWords {β : Type} (toWord : β → Nat) (ofWord : Nat → β) (default : β) : Prop where
  toWord_lt : ∀ b, toWord b < UInt64.size
  ofWord_toWord : ∀ b, ofWord (toWord b) = b
  toWord_default : toWord default = 0

/-- Only the default is written as zero. -/
theorem HasWords.toWord_eq_zero_iff {β : Type} {toWord : β → Nat} {ofWord : Nat → β} {default : β}
    (h : HasWords toWord ofWord default) (b : β) : toWord b = 0 ↔ b = default := by
  refine ⟨fun hzero => ?_, fun hdefault => hdefault ▸ h.toWord_default⟩
  rw [← h.ofWord_toWord b, hzero, ← h.toWord_default, h.ofWord_toWord]

/-- From its word a number of 32 bits is had again. -/
@[simp] theorem int32OfWord_wordOfInt32 (n : Int32) : int32OfWord (wordOfInt32 n) = n := by
  -- A signed number that was made wider has its own bits below.
  have hbits : (n.toBitVec.signExtend 64).setWidth 32 = n.toBitVec := by
    ext i hi
    have hwide : i < 64 := by omega
    simp [BitVec.getElem_signExtend, hi, hwide]
  apply Int32.toBitVec_inj.mp
  simp [int32OfWord, wordOfInt32, hbits]

@[simp] theorem int64OfWord_wordOfInt64 (n : Int64) : int64OfWord (wordOfInt64 n) = n := by
  cases n with
  | ofUInt64 u => simp [int64OfWord, wordOfInt64, Int64.ofNat, Int64.toBitVec]

@[simp] theorem boolOfWord_wordOfBool (b : Bool) : boolOfWord (wordOfBool b) = b := by
  cases b <;> decide

theorem hasWords_int32 : HasWords wordOfInt32 int32OfWord 0 :=
  ⟨fun n => n.toInt64.toBitVec.isLt, int32OfWord_wordOfInt32, by decide⟩

theorem hasWords_int64 : HasWords wordOfInt64 int64OfWord 0 :=
  ⟨fun n => n.toBitVec.isLt, int64OfWord_wordOfInt64, by decide⟩

theorem hasWords_bool : HasWords wordOfBool boolOfWord false :=
  ⟨fun b => by cases b <;> decide, boolOfWord_wordOfBool, by decide⟩

/-! ## What is written is read back -/

/-- The numbers that fields can have: those below 2²⁹. -/
def IsFieldNumber (number : Nat) : Prop := 0 < number ∧ number < 536870912

/-- Whether a number can be a field's is seen from its size. -/
instance (number : Nat) : Decidable (IsFieldNumber number) := inferInstanceAs (Decidable (_ ∧ _))

section WriteRead

variable {number : Nat} (rest : List UInt8)

/-- A key that was written is read back. -/
theorem readKey_writeKey {code : Nat} {form : Form} (hn : IsFieldNumber number) (hcode : code < 8)
    (hform : Form.ofNumber? code = some form) :
    readKey (writeKey number code ++ rest) = some (number, form, rest) := by
  obtain ⟨hpos, hlt⟩ := hn
  have hsize : number * 8 + code < UInt64.size := by
    simp only [UInt64.size]
    omega
  have hnumber : (number * 8 + code) / 8 = number := by omega
  have hrest : (number * 8 + code) % 8 = code := by omega
  have hvalid : ¬(UInt32.size ≤ number * 8 + code ∨ number = 0) := by
    simp only [UInt32.size]
    omega
  simp only [readKey, writeKey, readVarint_writeVarint _ _ hsize, hnumber, hrest, if_neg hvalid, hform]

/-- Length-prefixed bytes that were written are read back. -/
theorem readDelimited_writeDelimited {bytes : List UInt8} (h : bytes.length < UInt64.size) :
    readDelimited (writeDelimited bytes ++ rest) = some (bytes, rest) := by
  rw [writeDelimited, List.append_assoc, readDelimited, readVarint_writeVarint _ _ h]
  have henough : ¬(bytes ++ rest).length < bytes.length := by simp
  simp only [readBytes, if_neg henough, List.take_left, List.drop_left]

variable {prefixed : List Nat} {limit : Nat}

/-- A number that was written is read back, unless its field is read as length-prefixed. -/
theorem readField_writeVarint {n : Nat} (hn : IsFieldNumber number) (hplain : number ∉ prefixed)
    (h : n < UInt64.size) :
    readField prefixed limit (writeKey number 0 ++ writeVarint n ++ rest) =
      some (⟨number, .varint n⟩, rest) := by
  have hkey : readKey (writeKey number 0 ++ (writeVarint n ++ rest)) =
      some (number, .varint, writeVarint n ++ rest) := readKey_writeKey _ hn (by decide) rfl
  simp only [readField, List.append_assoc, hkey, if_neg hplain]
  simp [readPayload, readPlain, readVarint_writeVarint _ _ h]

/-- A nested message that was written is read back, whether or not its field is read as length-prefixed. -/
theorem readField_nestedField {message : List UInt8} (hn : IsFieldNumber number)
    (h : message.length < UInt64.size) :
    readField prefixed limit (nestedField number message ++ rest) =
      some (⟨number, .delimited message⟩, rest) := by
  have hkey : readKey (writeKey number 2 ++ (writeDelimited message ++ rest)) =
      some (number, .delimited, writeDelimited message ++ rest) := readKey_writeKey _ hn (by decide) rfl
  simp only [readField, nestedField, List.append_assoc, hkey, ite_self]
  simp [readPayload, readPlain, readDelimited_writeDelimited _ h]

end WriteRead

end BackupConsole.Wire
