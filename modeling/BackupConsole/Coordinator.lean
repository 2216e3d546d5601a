/-
  The coordinator as its clients see it.

  1. **Program** — a `Coordinator` says what comes of each of its four calls; `connectedAgents` and
     `availableBackups` make a listing call and receive its stream.

  2. **Specification** — a call that has been cancelled beforehand is never begun. A listing gives all
     of its messages or, if anything goes wrong with it, none.
-/
import BackupConsole.Request
import BackupConsole.Rpc.Stream

namespace BackupConsole

open Rpc

/-- A stream that has been opened: its events, and whether the token was cancelled meanwhile. -/
structure Opened (α : Type) where
  cancelled : Bool
  events : List (StreamEvent α)
  deriving DecidableEq, Repr

/-- What a coordinator does when it is called. -/
structure Coordinator where
  agents : Reply (Opened Agent)
  catalog : Reply (Opened CatalogEntry)
  backup : BackupRequest → Reply Unit
  restore : RestoreRequest → Reply Unit

/-- A call as the coordinator receives it. -/
inductive Call where
  | agents
  | catalog
  | backup (request : BackupRequest)
  | restore (request : RestoreRequest)
  deriving DecidableEq, Repr

/-- What comes of a listing: whether its call was begun, its result, and what receiving its stream
leaves in the log. -/
structure Listed (β : Type) where
  begun : Bool
  result : Except CallError β
  logs : List LogEvent

namespace Coordinator

/-- Opens a stream and collects what it yields. -/
def listing {α β : Type} (operation : String) (gather : List α → β) (reply : Reply (Opened α))
    (cancelled : Bool) : Listed β :=
  let opening := answer operation cancelled reply
  match opening.result with
  | .ok opened =>
    let collected := collect operation gather opened.cancelled opened.events
    ⟨opening.begun, collected.result, collected.logs⟩
  | .error e => ⟨opening.begun, .error e, []⟩

/-- The connected agents, sorted. -/
def connectedAgents (c : Coordinator) (cancelled : Bool) : Listed (List Agent) :=
  listing listAgents sortAgents c.agents cancelled

/-- The backup catalog. -/
def availableBackups (c : Coordinator) (cancelled : Bool) : Listed Catalog :=
  listing listBackups Catalog.ofEntries c.catalog cancelled

end Coordinator

end BackupConsole
