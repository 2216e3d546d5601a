/-
  Failures of calls to the coordinator.

  1. **Program** — a `Status` is the coordinator's own answer to a failed call; a `CallError` says
     which operation failed, by such a status or because the operator cancelled it.

  2. **Specification** — the text of a status names its code by a sentence and adds the message,
     quoted, unless it is empty. A status is never taken for a cancellation by the operator, whatever
     its code.

  3. **Left out** — a status may carry metadata, and an error beneath it. Its text goes on with them, behind
     the message, in a form that is for those who debug the library they come from. Nothing here decides by
     them, and the operation, the code and the message stand in the text before them; so a `Status` has
     neither.
-/
import BackupConsole.Text.Quoted

namespace BackupConsole.Rpc

open Text

/-- The codes of a failed call. -/
inductive StatusCode where
  | completed
  | cancelled
  | unknown
  | invalidArgument
  | deadlineExceeded
  | notFound
  | alreadyExists
  | permissionDenied
  | resourceExhausted
  | failedPrecondition
  | aborted
  | outOfRange
  | unimplemented
  | internal
  | unavailable
  | dataLoss
  | unauthenticated
  deriving DecidableEq, Repr

namespace StatusCode

/-- The codes in the order of their numbers, from 0. -/
def all : List StatusCode :=
  [completed, cancelled, unknown, invalidArgument, deadlineExceeded, notFound, alreadyExists,
    permissionDenied, resourceExhausted, failedPrecondition, aborted, outOfRange, unimplemented,
    internal, unavailable, dataLoss, unauthenticated]

/-- The code of a number; a number without a code is an unknown failure. -/
def ofNumber (n : Int) : StatusCode :=
  if n < 0 then unknown else all.getD n.toNat unknown

/-- The sentence that stands for a code. -/
def description : StatusCode → String
  | completed => "The operation completed successfully"
  | cancelled => "The operation was cancelled"
  | unknown => "Unknown error"
  | invalidArgument => "Client specified an invalid argument"
  | deadlineExceeded => "Deadline expired before operation could complete"
  | notFound => "Some requested entity was not found"
  | alreadyExists => "Some entity that we attempted to create already exists"
  | permissionDenied => "The caller does not have permission to execute the specified operation"
  | resourceExhausted => "Some resource has been exhausted"
  | failedPrecondition => "The system is not in a state required for the operation's execution"
  | aborted => "The operation was aborted"
  | outOfRange => "Operation was attempted past the valid range"
  | unimplemented => "Operation is not implemented or not supported"
  | internal => "Internal error"
  | unavailable => "The service is currently unavailable"
  | dataLoss => "Unrecoverable data loss or corruption"
  | unauthenticated => "The request does not have valid authentication credentials"

end StatusCode

/-- The coordinator's answer to a failed call. -/
structure Status where
  code : StatusCode
  message : String
  deriving DecidableEq, Repr

/-- A status as messages quote it: the sentence of its code, and the message unless it is empty. -/
def Status.text (s : Status) : String :=
  "code: '" ++ s.code.description ++ "'"
    ++ if s.message = "" then "" else ", message: " ++ quote s.message

/-- Why a call came to nothing. -/
inductive CallError where
  | status (operation : String) (source : Status)
  | cancelled (operation : String)
  deriving DecidableEq, Repr

namespace CallError

/-- Which operation came to nothing, and why. -/
def message : CallError → String
  | status operation source => operation ++ ": " ++ source.text
  | cancelled operation => operation ++ ": cancelled"

/-- Whether the operator, not the coordinator, put an end to the call. -/
def isCancelled : CallError → Bool
  | status _ _ => false
  | cancelled _ => true

end CallError

end BackupConsole.Rpc
