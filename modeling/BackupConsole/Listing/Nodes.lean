/-
  The listing of connected agents.

  1. **Program** — `NodeView.ofAgent` flattens an agent into what is shown of it. The compact listing
     is a table with a header and one row per agent; the verbose listing has one block per agent.

  2. **Specification** — text stands in the listing as the coordinator sent it. The first three
     columns are 32, 20 and 20 characters wide, counted in code points, and never cut. Without agents
     there is only a neutral line.
-/
import BackupConsole.Agent
import BackupConsole.Symbols

namespace BackupConsole.Listing

open Calendar Text

/-- What is shown of an agent. -/
structure NodeView where
  id : String
  nodeName : String
  nodeKind : String
  clusterId : String
  replicasetName : String
  replicasetId : String
  version : Int32
  backupRunning : Bool
  restoreRunning : Bool
  lastCommandSent : Int64
  lastSeen : String
  deriving DecidableEq, Repr

/-- What is shown of an agent: without a status nothing is running. -/
def NodeView.ofAgent (a : Agent) : NodeView where
  id := a.id
  nodeName := a.nodeName
  nodeKind := (NodeKind.ofNumber a.nodeKind).label
  clusterId := a.clusterId
  replicasetName := a.replicasetName
  replicasetId := a.replicasetId
  version := a.version
  backupRunning := (a.status.getD AgentStatus.blank).backupRunning
  restoreRunning := (a.status.getD AgentStatus.blank).restoreRunning
  lastCommandSent := a.lastCommandSent
  lastSeen := timestampText a.lastSeen

/-- A text filled up with spaces on the right to a width in characters. -/
def pad (width : Nat) (text : String) : String :=
  text ++ String.ofList (List.replicate (width - text.length) ' ')

/-- A row of the compact listing. -/
def row (name kind replicaset cluster : String) : String :=
  pad 32 name ++ " " ++ pad 20 kind ++ " " ++ pad 20 replicaset ++ " " ++ cluster ++ "\n"

/-- The line above the rows of the compact listing. -/
def compactHeader : String := row "Node Name" "Node Type" "Replicaset" "Cluster ID"

/-- The line an agent takes in the compact listing. -/
def NodeView.compactRow (v : NodeView) : String :=
  row v.nodeName v.nodeKind v.replicasetName v.clusterId

/-- The lines an agent takes in the verbose listing, with an empty line after them. -/
def NodeView.verboseBlock (v : NodeView) : String :=
  "Node Name:          " ++ v.nodeName ++ "\n"
    ++ "  ID:               " ++ v.id ++ "\n"
    ++ "  Node Type:        " ++ v.nodeKind ++ "\n"
    ++ "  Cluster ID:       " ++ v.clusterId ++ "\n"
    ++ "  Replicaset:       " ++ v.replicasetName ++ " (" ++ v.replicasetId ++ ")\n"
    ++ "  Agent Version:    " ++ intText v.version.toInt ++ "\n"
    ++ "  Backup Running:   " ++ boolText v.backupRunning ++ "\n"
    ++ "  Restore Running:  " ++ boolText v.restoreRunning ++ "\n"
    ++ "  Last Command:     " ++ intText v.lastCommandSent.toInt ++ "\n"
    ++ "  Last Seen:        " ++ v.lastSeen ++ "\n"
    ++ "\n"

/-- What is printed where no agent is connected. -/
def noNodes : String := "No connected nodes found\n"

/-- The listing of some agents, in their order. -/
def renderNodes (agents : List Agent) (verbose : Bool) : String :=
  if agents.isEmpty then noNodes
  else if verbose then String.join (agents.map fun a => (NodeView.ofAgent a).verboseBlock)
  else compactHeader ++ String.join (agents.map fun a => (NodeView.ofAgent a).compactRow)

end BackupConsole.Listing
