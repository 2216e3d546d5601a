/-
  Agents as messages.

  1. **Program** — `writeAgent` puts the fields of an agent in the order of their numbers and leaves
     defaults out; `readAgent` merges fields in the order in which they come.

  2. **Specification** — a field of an unknown number changes nothing, a scalar replaces the one
     before it, a nested message is merged into the one before it. A known number with a payload of
     another form makes the whole message unreadable.
-/
import BackupConsole.Agent
import BackupConsole.Wire.Field

namespace BackupConsole.Wire

open Calendar

/-! ## Timestamps -/

/-- A timestamp as bytes. -/
def writeTimestamp (ts : Timestamp) : List UInt8 :=
  varintField 1 (wordOfInt64 ts.seconds) ++ varintField 2 (wordOfInt32 ts.nanos)

/-- Merges a field into a timestamp. -/
def mergeTimestamp (ts : Timestamp) (f : Field) : Option Timestamp :=
  match f.number with
  | 1 => f.varint?.map fun n => { ts with seconds := int64OfWord n }
  | 2 => f.varint?.map fun n => { ts with nanos := int32OfWord n }
  | _ => some ts

/-- Merges a length-prefixed timestamp into one that may be there already. -/
def mergeTimestampField (limit : Nat) (old : Option Timestamp) (f : Field) :
    Option (Option Timestamp) :=
  f.delimited?.bind fun bytes =>
    (mergeBytes [] limit mergeTimestamp (old.getD ⟨0, 0⟩) bytes).map some

/-! ## Agent status -/

/-- An agent's status as bytes. -/
def writeAgentStatus (s : AgentStatus) : List UInt8 :=
  varintField 1 (wordOfBool s.backupRunning) ++ varintField 2 (wordOfBool s.restoreRunning)

/-- Merges a field into an agent's status. -/
def mergeAgentStatus (s : AgentStatus) (f : Field) : Option AgentStatus :=
  match f.number with
  | 1 => f.varint?.map fun n => { s with backupRunning := boolOfWord n }
  | 2 => f.varint?.map fun n => { s with restoreRunning := boolOfWord n }
  | _ => some s

/-- Merges a length-prefixed status into one that may be there already. -/
def mergeAgentStatusField (limit : Nat) (old : Option AgentStatus) (f : Field) :
    Option (Option AgentStatus) :=
  f.delimited?.bind fun bytes =>
    (mergeBytes [] limit mergeAgentStatus (old.getD AgentStatus.blank) bytes).map some

/-! ## Agents -/

/-- How deep groups and nested messages may lie within one another. -/
def nestingLimit : Nat := 100

/-- An agent as bytes. -/
def writeAgent (a : Agent) : List UInt8 :=
  varintField 1 (wordOfInt32 a.version) ++ textField 2 a.id
    ++ varintField 3 (wordOfInt32 a.nodeKind) ++ textField 4 a.nodeName
    ++ textField 5 a.clusterId ++ textField 6 a.replicasetName ++ textField 7 a.replicasetId
    ++ varintField 8 (wordOfInt64 a.lastCommandSent)
    ++ optionalField 9 writeTimestamp a.lastSeen ++ optionalField 10 writeAgentStatus a.status

/-- Merges a field into an agent. -/
def mergeAgent (a : Agent) (f : Field) : Option Agent :=
  match f.number with
  | 1 => f.varint?.map fun n => { a with version := int32OfWord n }
  | 2 => f.text?.map fun text => { a with id := text }
  | 3 => f.varint?.map fun n => { a with nodeKind := int32OfWord n }
  | 4 => f.text?.map fun text => { a with nodeName := text }
  | 5 => f.text?.map fun text => { a with clusterId := text }
  | 6 => f.text?.map fun text => { a with replicasetName := text }
  | 7 => f.text?.map fun text => { a with replicasetId := text }
  | 8 => f.varint?.map fun n => { a with lastCommandSent := int64OfWord n }
  | 9 => (mergeTimestampField (nestingLimit - 1) a.lastSeen f).map fun ts => { a with lastSeen := ts }
  | 10 => (mergeAgentStatusField (nestingLimit - 1) a.status f).map fun s => { a with status := s }
  | _ => some a

/-- Merges bytes into an agent. -/
def readAgentInto (old : Agent) (bytes : List UInt8) : Option Agent :=
  mergeBytes [] nestingLimit mergeAgent old bytes

/-- The agent that some bytes describe. -/
def readAgent (bytes : List UInt8) : Option Agent := readAgentInto Agent.blank bytes

end BackupConsole.Wire
