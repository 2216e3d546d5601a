/-
  Blank text: nothing but white space.

  White space is the Unicode property White_Space, so a no-break space or an ideographic space is as
  blank as an ordinary one.
-/
import BackupConsole.Text.CodeRanges

namespace BackupConsole.Text

/-- Code points with the property White_Space. -/
def blankRanges : List (Nat × Nat) := [
  (0x9, 0xD), (0x20, 0x20), (0x85, 0x85), (0xA0, 0xA0), (0x1680, 0x1680),
  (0x2000, 0x200A), (0x2028, 0x2029), (0x202F, 0x202F), (0x205F, 0x205F), (0x3000, 0x3000)]

/-- Whether a character is white space. -/
def isBlankChar (c : Char) : Bool := inRanges blankRanges c.toNat

/-- Whether a text is empty or holds white space only. -/
def isBlank (text : String) : Bool := text.toList.all isBlankChar

/-- An empty text is blank. -/
@[simp] theorem isBlank_empty : isBlank "" = true := by simp [isBlank]

end BackupConsole.Text
