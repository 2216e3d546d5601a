/-
  Quoted text: a text between double quotes, on one line, from which it can be read back.

  1. **Program** — `quote` writes the two quotes and each character by `escapeChar`: a quote and a
     backslash behind a backslash, the four controls that have letters of their own by their letter,
     an unprintable or extending character by its number, any other as it is.

  2. **Specification** — an escape never holds a bare control character, and no character's escape
     begins like another's, so a quoted text has one reading.
-/
import BackupConsole.Text.Printable

namespace BackupConsole.Text

/-- A character by its number, in the least number of lower-case hexadecimal digits. -/
def escapeByNumber (c : Char) : List Char :=
  ['\\', 'u', '\x7b'] ++ Nat.toDigits 16 c.toNat ++ ['\x7d']

/-- How one character is written inside quotes. -/
def escapeChar (c : Char) : List Char :=
  if c = '\x00' then ['\\', '0']
  else if c = '\t' then ['\\', 't']
  else if c = '\n' then ['\\', 'n']
  else if c = '\r' then ['\\', 'r']
  else if c = '"' then ['\\', '"']
  else if c = '\\' then ['\\', '\\']
  else if isExtending c || isUnprintable c then escapeByNumber c
  else [c]

/-- The characters of a quoted text, quotes included. -/
def quoteChars (text : List Char) : List Char := '"' :: text.flatMap escapeChar ++ ['"']

/-- A text between double quotes. -/
def quote (text : String) : String := String.ofList (quoteChars text.toList)

@[simp] theorem toList_quote (text : String) : (quote text).toList = quoteChars text.toList := by
  simp [quote]

end BackupConsole.Text
