/-
  Log events.

  An event has a level and named fields in order, the field `message` first; all values are kept as
  text.
-/

namespace BackupConsole

/-- How grave an event is. The program logs on no other level. -/
inductive LogLevel where
  | error
  | warn
  | info
  deriving DecidableEq, Repr

/-- A level as a line of the log names it. -/
def LogLevel.text : LogLevel → String
  | error => "ERROR"
  | warn => "WARN"
  | info => "INFO"

/-- One event of the log. -/
structure LogEvent where
  level : LogLevel
  fields : List (String × String)
  deriving DecidableEq, Repr

namespace LogEvent

/-- An event with a message and further fields. -/
def of (level : LogLevel) (message : String) (fields : List (String × String)) : LogEvent :=
  ⟨level, ("message", message) :: fields⟩

/-- What a field of an event reads on a log line: a message as it is, another field behind its
name. -/
def fieldText (field : String × String) : String :=
  if field.1 = "message" then field.2 else field.1 ++ "=" ++ field.2

/-- An event as a line of the log, without its time. -/
def line (e : LogEvent) : String :=
  e.level.text ++ " " ++ String.intercalate " " (e.fields.map fieldText)

end LogEvent

/-- What a fault of the program itself leaves behind: its text, if it has one. -/
def faultEvent (text : Option String) : LogEvent :=
  .of .error "Application panicked!" [("message", text.getD "Unknown panic")]

end BackupConsole
