/-
  Text as bytes: UTF-8, strict for messages and lenient for files.

  1. **Program** — `utf8Bytes` writes a text, `ofUtf8?` reads bytes and refuses what is no UTF-8, and
     `fileChars` reads any bytes, those of a file.

  2. **Specification** — `ofUtf8?_utf8Bytes` and `utf8Bytes_of_ofUtf8?`: reading and writing are
     inverse to each other. The lenient reader puts one replacement character for each longest
     beginning of a character that is cut short or broken.
-/

namespace BackupConsole.Text

/-! ## Strict reading and writing -/

/-- A text as bytes. -/
def utf8Bytes (text : String) : List UInt8 := text.toByteArray.data.toList

/-- The text that some bytes are; not all bytes are one. -/
def ofUtf8? (bytes : List UInt8) : Option String := String.fromUTF8? ⟨bytes.toArray⟩

/-- The bytes of a text are that text. -/
@[simp] theorem ofUtf8?_utf8Bytes (text : String) : ofUtf8? (utf8Bytes text) = some text := by
  have h : (⟨(utf8Bytes text).toArray⟩ : ByteArray) = text.toByteArray := by simp [utf8Bytes]
  simp only [ofUtf8?, String.fromUTF8?]
  rw [dif_pos (h ▸ text.isValidUTF8)]
  simp only [Option.some.injEq]
  cases text
  simp_all [String.fromUTF8]

/-- Bytes that are a text are the bytes of that text, so no text has two encodings. -/
theorem utf8Bytes_of_ofUtf8? {bytes : List UInt8} {text : String} (h : ofUtf8? bytes = some text) :
    utf8Bytes text = bytes := by
  simp only [ofUtf8?, String.fromUTF8?] at h
  split at h
  · simp only [Option.some.injEq] at h
    subst h
    simp [utf8Bytes, String.fromUTF8]
  · cases h

/-! ## Lenient reading

A character starts with a byte that fixes its length and the range of the byte after it; all later
bytes lie between `0x80` and `0xBF`. -/

/-- For a first byte: the bytes still to come, and the range of the next one. -/
def continuation? (first : UInt8) : Option (Nat × UInt8 × UInt8) :=
  if 0xC2 ≤ first ∧ first ≤ 0xDF then some (1, 0x80, 0xBF)
  else if first = 0xE0 then some (2, 0xA0, 0xBF)
  else if first = 0xED then some (2, 0x80, 0x9F)
  else if 0xE1 ≤ first ∧ first ≤ 0xEF then some (2, 0x80, 0xBF)
  else if first = 0xF0 then some (3, 0x90, 0xBF)
  else if 0xF1 ≤ first ∧ first ≤ 0xF3 then some (3, 0x80, 0xBF)
  else if first = 0xF4 then some (3, 0x80, 0x8F)
  else none

/-- The character being read: bits so far, bytes still to come, range of the next one. -/
structure Unfinished where
  bits : Nat
  missing : Nat
  low : UInt8
  high : UInt8

/-- The bits a first byte contributes to a character of the given count of further bytes. -/
def leadBits (first : UInt8) (more : Nat) : Nat :=
  first.toNat % (if more = 1 then 32 else if more = 2 then 16 else 8)

/-- Reads any bytes; what is no UTF-8 becomes the replacement character. -/
def lossyChars : Option Unfinished → List UInt8 → List Char
  | none, [] => []
  | some _, [] => ['\uFFFD']
  | none, b :: rest =>
    if b < 0x80 then Char.ofNat b.toNat :: lossyChars none rest
    else
      match continuation? b with
      | some (more, low, high) => lossyChars (some ⟨leadBits b more, more, low, high⟩) rest
      | none => '\uFFFD' :: lossyChars none rest
  | some u, b :: rest =>
    if u.low ≤ b ∧ b ≤ u.high then
      let bits := u.bits * 64 + b.toNat % 64
      if u.missing ≤ 1 then Char.ofNat bits :: lossyChars none rest
      else lossyChars (some ⟨bits, u.missing - 1, 0x80, 0xBF⟩) rest
    else if b < 0x80 then '\uFFFD' :: Char.ofNat b.toNat :: lossyChars none rest
    else
      match continuation? b with
      | some (more, low, high) =>
        '\uFFFD' :: lossyChars (some ⟨leadBits b more, more, low, high⟩) rest
      | none => '\uFFFD' :: '\uFFFD' :: lossyChars none rest

/-- The characters of a file: lenient reading, without a byte-order mark at the start. -/
def fileChars (bytes : List UInt8) : List Char :=
  match lossyChars none bytes with
  | '\uFEFF' :: rest => rest
  | chars => chars

end BackupConsole.Text
