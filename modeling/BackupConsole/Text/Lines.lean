/-
  The lines of a text.

  A line ends at a line feed, which is not part of it; a carriage return just before the line feed
  belongs to the line end too.
-/

namespace BackupConsole.Text

/-- The characters before the first line end. -/
def firstLineChars : List Char → List Char
  | [] => []
  | '\n' :: _ => []
  | '\r' :: '\n' :: _ => []
  | c :: rest => c :: firstLineChars rest

/-- The first line of a text. -/
def firstLine (text : String) : String := String.ofList (firstLineChars text.toList)

end BackupConsole.Text
