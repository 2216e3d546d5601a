/-
  Agents: the processes beside the database nodes that do the coordinator's work.

  An agent is described as the coordinator describes it. Its kind of node is kept as a number, because
  a newer coordinator may send one that this program has no name for.
-/
import BackupConsole.Calendar.Timestamp

namespace BackupConsole

open Calendar

/-- What an agent is doing. -/
structure AgentStatus where
  backupRunning : Bool
  restoreRunning : Bool
  deriving DecidableEq, Repr, Inhabited

/-- One connected agent. -/
structure Agent where
  version : Int32
  id : String
  nodeKind : Int32
  nodeName : String
  clusterId : String
  replicasetName : String
  replicasetId : String
  lastCommandSent : Int64
  lastSeen : Option Timestamp
  status : Option AgentStatus
  deriving DecidableEq, Repr, Inhabited

namespace AgentStatus

/-- A status of which nothing has been said. -/
def blank : AgentStatus := ⟨false, false⟩

end AgentStatus

namespace Agent

/-- An agent of which nothing has been said. -/
def blank : Agent := ⟨0, "", 0, "", "", "", "", 0, none, none⟩

end Agent

end BackupConsole
