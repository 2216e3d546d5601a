/-
  Runs of fields, and what they do to a message.

  1. **Specification** — `Splits`: some bytes are some fields, one behind the other. `Updates`: read into
     one message, some bytes make it another. `latest` and `patched` say what becomes of a value for
     which a message brings a new one.

  2. **Program** — `splits_iff`: the fields of some bytes are found wherever the bytes are fields from end
     to end. `mergeBytes_eq_some_iff`: bytes are read into a message field by field.

  3. **Correctness** — `Updates.append`: bytes one behind the other update one after the other. What a
     single field does that is written under some number is said once for each way of writing one:
     `updates_varintField`, `updates_textField`, `updates_nestedField`, `updates_optionalField`.
-/
import BackupConsole.Wire.Field

namespace BackupConsole.Wire

open Text

variable {α β : Type} {prefixed : List Nat} {limit number : Nat} {bytes more rest : List UInt8}
  {fields others : List Field} {merge : α → Field → Option α} {old middle new : α}

/-! ## Fields one behind the other -/

/-- Some bytes are some fields, one behind the other. -/
inductive Splits (prefixed : List Nat) (limit : Nat) : List UInt8 → List Field → Prop
  | nil : Splits prefixed limit [] []
  | cons {bytes rest : List UInt8} {field : Field} {fields : List Field} :
    readField prefixed limit bytes = some (field, rest) → Splits prefixed limit rest fields →
    Splits prefixed limit bytes (field :: fields)

/-- What is split into fields is a run of those fields. -/
theorem splits_of_splitUpTo {fuel : Nat} (h : splitUpTo prefixed limit fuel bytes = some fields) :
    Splits prefixed limit bytes fields := by
  -- By induction on the fuel, which is spent on one field after the other.
  induction fuel generalizing bytes fields with
  | zero =>
    cases bytes with
    | nil =>
      cases h
      exact .nil
    | cons b bytes => cases h
  | succ fuel ih =>
    cases bytes with
    | nil =>
      cases h
      exact .nil
    | cons b bytes =>
      rw [splitUpTo] at h
      · split at h
        · cases h
        · next field rest hread =>
          obtain ⟨left, hleft, rfl⟩ := Option.map_eq_some_iff.mp h
          exact .cons hread (ih hleft)
      · exact nofun

/-- There are no more fields than bytes. -/
theorem splitUpTo_of_splits (h : Splits prefixed limit bytes fields) {fuel : Nat}
    (hle : bytes.length ≤ fuel) : splitUpTo prefixed limit fuel bytes = some fields := by
  induction h generalizing fuel with
  | nil => rw [splitUpTo]
  | @cons bytes rest field fields hread _ ih =>
    have hlt := length_lt_of_readField hread
    obtain ⟨fuel, rfl⟩ : ∃ k, fuel = k + 1 := ⟨fuel - 1, by omega⟩
    cases bytes with
    | nil => cases hlt
    | cons b bytes =>
      have hrest : splitUpTo prefixed limit fuel rest = some fields := ih (by omega)
      rw [splitUpTo, hread]
      · simp only [hrest, Option.map_some]
      · exact nofun

/-- The program splits bytes into fields exactly where they are a run of them. -/
theorem splits_iff : Splits prefixed limit bytes fields ↔ splitFields prefixed limit bytes = some fields :=
  ⟨fun h => splitUpTo_of_splits h (Nat.le_refl _), splits_of_splitUpTo⟩

/-- Two runs of fields, one after the other, are a run of all their fields. -/
theorem Splits.append (h : Splits prefixed limit bytes fields) (h' : Splits prefixed limit more others) :
    Splits prefixed limit (bytes ++ more) (fields ++ others) := by
  induction h with
  | nil => exact h'
  | cons hread _ ih => exact .cons (readField_append hread more) ih

/-! ## Bytes read into a message -/

/-- A message is read from bytes by merging the fields that they are a run of. -/
theorem mergeBytes_eq_some_iff :
    mergeBytes prefixed limit merge old bytes = some new ↔
      ∃ fields, Splits prefixed limit bytes fields ∧ fields.foldlM merge old = some new := by
  simp only [mergeBytes, Option.bind_eq_some_iff, splits_iff]

/-- What is read from two runs is had by reading them one after the other. -/
theorem mergeBytes_append (h : mergeBytes prefixed limit merge old bytes = some middle)
    (h' : mergeBytes prefixed limit merge middle more = some new) :
    mergeBytes prefixed limit merge old (bytes ++ more) = some new := by
  obtain ⟨fields, hsplits, hfold⟩ := mergeBytes_eq_some_iff.mp h
  obtain ⟨others, hsplits', hfold'⟩ := mergeBytes_eq_some_iff.mp h'
  refine mergeBytes_eq_some_iff.mpr ⟨fields ++ others, hsplits.append hsplits', ?_⟩
  rw [List.foldlM_append, hfold]
  exact hfold'

theorem mergeBytes_nil : mergeBytes prefixed limit merge old [] = some old :=
  mergeBytes_eq_some_iff.mpr ⟨[], .nil, rfl⟩

/-- A single field is merged as it is. -/
theorem mergeBytes_field {field : Field} (h : readField prefixed limit bytes = some (field, []))
    (hmerge : merge old field = some new) : mergeBytes prefixed limit merge old bytes = some new := by
  refine mergeBytes_eq_some_iff.mpr ⟨[field], .cons h .nil, ?_⟩
  rw [List.foldlM_cons, hmerge]
  rfl

/-! ## Updates

Lengths are written as 64-bit words, so only bytes whose count fits in a word can be read back. No
program holds more. -/

/-- Bytes that a program can hold. -/
def Fits (bytes : List UInt8) : Prop := bytes.length < UInt64.size

/-- Whether bytes fit is seen from their count. -/
instance (bytes : List UInt8) : Decidable (Fits bytes) := inferInstanceAs (Decidable (_ < _))

/-- Read into a message, some bytes make it another. -/
def Updates (prefixed : List Nat) (limit : Nat) (merge : α → Field → Option α) (bytes : List UInt8)
    (old new : α) : Prop :=
  Fits bytes → mergeBytes prefixed limit merge old bytes = some new

theorem Updates.append (h : Updates prefixed limit merge bytes old middle)
    (h' : Updates prefixed limit merge more middle new) :
    Updates prefixed limit merge (bytes ++ more) old new := by
  intro hfits
  have hlength : bytes.length + more.length < UInt64.size := by simpa [Fits] using hfits
  have hbytes : Fits bytes := by
    unfold Fits
    omega
  have hmore : Fits more := by
    unfold Fits
    omega
  exact mergeBytes_append (h hbytes) (h' hmore)

theorem updates_nil : Updates prefixed limit merge [] old old := fun _ => mergeBytes_nil

/-! ### Single fields -/

/-- A message is shorter than the field that holds it. -/
theorem fits_of_nestedField {message : List UInt8} (h : Fits (nestedField number message)) :
    Fits message := by
  unfold Fits nestedField writeDelimited at *
  simp only [List.length_append] at h
  omega

/-- A nested message that fits is read back from its field. -/
theorem readField_nestedField_of_fits {message : List UInt8} (hn : IsFieldNumber number)
    (h : Fits (nestedField number message)) :
    readField prefixed limit (nestedField number message) = some (⟨number, .delimited message⟩, []) := by
  have hread : readField prefixed limit (nestedField number message ++ []) =
      some (⟨number, .delimited message⟩, []) := readField_nestedField [] hn (fits_of_nestedField h)
  rwa [List.append_nil] at hread

/-- What becomes of a number or a text: a new one replaces it, unless that is the default. -/
def latest [DecidableEq β] (default old new : β) : β := if new = default then old else new

/-- Where there was nothing but the default, the new value is what there is. -/
theorem latest_default [DecidableEq β] (default new : β) : latest default default new = new := by
  unfold latest
  split
  · next hdefault => exact hdefault.symm
  · rfl

/-- What becomes of a message that may be absent: an absent one leaves it, a present one is merged into
it, or into a blank one. -/
def patched (update : β → β → β) (blank : β) (old : Option β) : Option β → Option β
  | none => old
  | some new => some (update (old.getD blank) new)

/-- A message keeps at a number of its fields a value that is set by what the field holds. -/
theorem updates_varintField [DecidableEq β] {toWord : β → Nat} {ofWord : Nat → β} {default : β}
    (hw : HasWords toWord ofWord default) (hn : IsFieldNumber number) (hplain : number ∉ prefixed)
    (set : β → α) {current value : β}
    (hmerge : ∀ payload, merge (set current) ⟨number, payload⟩ =
      (Field.varint? ⟨number, payload⟩).map fun n => set (ofWord n)) :
    Updates prefixed limit merge (varintField number (toWord value)) (set current)
      (set (latest default current value)) := by
  intro _
  unfold varintField latest
  -- A number is left out exactly where it is the default, and then the newest value is the old one.
  by_cases hdefault : value = default
  · rw [if_pos ((hw.toWord_eq_zero_iff value).mpr hdefault), if_pos hdefault]
    exact mergeBytes_nil
  · rw [if_neg fun hzero => hdefault ((hw.toWord_eq_zero_iff value).mp hzero), if_neg hdefault]
    have hread : readField prefixed limit (writeKey number 0 ++ writeVarint (toWord value) ++ []) =
        some (⟨number, .varint (toWord value)⟩, []) :=
      readField_writeVarint [] hn hplain (hw.toWord_lt value)
    rw [List.append_nil] at hread
    refine mergeBytes_field hread ?_
    rw [hmerge, Field.varint?, Option.map_some, hw.ofWord_toWord]

/-- The same of a text. -/
theorem updates_textField (hn : IsFieldNumber number) (set : String → α) {current text : String}
    (hmerge : ∀ payload, merge (set current) ⟨number, payload⟩ =
      (Field.text? ⟨number, payload⟩).map set) :
    Updates prefixed limit merge (textField number text) (set current)
      (set (latest "" current text)) := by
  intro hfits
  unfold textField latest at *
  by_cases hempty : text = ""
  · rw [if_pos hempty, if_pos hempty]
    exact mergeBytes_nil
  · rw [if_neg hempty] at hfits
    rw [if_neg hempty, if_neg hempty]
    refine mergeBytes_field (readField_nestedField_of_fits hn hfits) ?_
    rw [hmerge, Field.text?, Field.delimited?, Option.bind_some, ofUtf8?_utf8Bytes, Option.map_some]

/-- A message within a message, if it can be merged where it belongs. -/
theorem updates_nestedField {message : List UInt8} (hn : IsFieldNumber number)
    (hmerge : Fits message → merge old ⟨number, .delimited message⟩ = some new) :
    Updates prefixed limit merge (nestedField number message) old new := by
  intro hfits
  exact mergeBytes_field (readField_nestedField_of_fits hn hfits) (hmerge (fits_of_nestedField hfits))

/-- A message within a message that may be absent. -/
theorem updates_optionalField {nestedPrefixed : List Nat} {nestedLimit : Nat}
    {nestedMerge : β → Field → Option β} {write : β → List UInt8} {update : β → β → β} {blank : β}
    (hn : IsFieldNumber number)
    (hnested : ∀ old new, Updates nestedPrefixed nestedLimit nestedMerge (write new) old (update old new))
    (set : Option β → α) {current value : Option β}
    (hmerge : ∀ bytes, merge (set current) ⟨number, .delimited bytes⟩ =
      (mergeBytes nestedPrefixed nestedLimit nestedMerge (current.getD blank) bytes).map fun message =>
        set (some message)) :
    Updates prefixed limit merge (optionalField number write value) (set current)
      (set (patched update blank current value)) := by
  cases value with
  | none => exact updates_nil
  | some message =>
    refine updates_nestedField hn fun hfits => ?_
    rw [hmerge, hnested _ _ hfits]
    rfl

end BackupConsole.Wire
