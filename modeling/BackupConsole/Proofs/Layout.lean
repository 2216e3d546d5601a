/-
  How rows and blocks are laid out, field by field.

  1. **Specification** — `rowOfAgent` puts four fields of an agent into columns. A block is a list of labels
     with their values, one line for each (`blockText`); `agentFields` and `backupFields` say which field
     stands behind which label.

  2. **Program** — `compactRow_eq`, `verboseBlock_eq` and `block_eq`: this is what is written.

  3. **Reading** — `columns_of_row`: the columns of a row are at fixed places, unless a text is wider than
     its column; `labelled_injective`: behind its label the value of a line stands whole.
-/
import BackupConsole.Listing.Backups
import BackupConsole.Listing.Nodes

namespace BackupConsole.Listing

open Calendar Text

/-! ## Rows -/

/-- The row of an agent, without its end: three columns, and what is left of the line for the last one. -/
def rowOfAgent (a : Agent) : String :=
  pad 32 a.nodeName ++ " " ++ pad 20 (NodeKind.ofNumber a.nodeKind).label ++ " " ++
    pad 20 a.replicasetName ++ " " ++ a.clusterId

/-- What stands above the rows. -/
def headerLine : String :=
  "Node Name                        Node Type            Replicaset           Cluster ID"

/-- A row shows the four texts of an agent, each in its column. -/
theorem compactRow_eq (a : Agent) : (NodeView.ofAgent a).compactRow = rowOfAgent a ++ "\n" := rfl

/-- The line above the rows has the columns of the rows. -/
theorem compactHeader_eq : compactHeader = headerLine ++ "\n" := by decide

/-- A text that fits into its column is followed by nothing but the spaces that fill the column. -/
theorem toList_pad (width : Nat) (text : String) :
    (pad width text).toList = text.toList ++ List.replicate (width - text.length) ' ' := by
  rw [pad, String.toList_append, String.toList_ofList]

theorem length_toList_pad {width : Nat} {text : String} (h : text.length ≤ width) :
    (pad width text).toList.length = width := by
  rw [toList_pad, List.length_append, List.length_replicate, String.length_toList]
  omega

/-- A column is parted from the next one by one space. -/
theorem take_drop_column {front rest : List Char} {width : Nat} (h : front.length = width) :
    (front ++ ' ' :: rest).take width = front ∧ (front ++ ' ' :: rest).drop (width + 1) = rest := by
  subst h
  exact ⟨List.take_left, by simp⟩

/-- Every kind of node fits its column. -/
theorem length_label_le (k : NodeKind) : k.label.length ≤ 20 := by
  cases k <;> decide

/-- **Columns.** The name of an agent stands in the first thirty-two columns, its kind in the twenty from the
thirty-fourth on, its replicaset in the twenty from the fifty-fifth on, and its cluster behind them, as long
as name and replicaset are no wider than that. -/
theorem columns_of_row {a : Agent} (hname : a.nodeName.length ≤ 32)
    (hset : a.replicasetName.length ≤ 20) :
    (rowOfAgent a).toList.take 32 = (pad 32 a.nodeName).toList ∧
      ((rowOfAgent a).toList.drop 33).take 20 =
        (pad 20 (NodeKind.ofNumber a.nodeKind).label).toList ∧
      ((rowOfAgent a).toList.drop 54).take 20 = (pad 20 a.replicasetName).toList ∧
      (rowOfAgent a).toList.drop 75 = a.clusterId.toList := by
  have hrow : (rowOfAgent a).toList = (pad 32 a.nodeName).toList ++ ' ' ::
      ((pad 20 (NodeKind.ofNumber a.nodeKind).label).toList ++ ' ' ::
        ((pad 20 a.replicasetName).toList ++ ' ' :: a.clusterId.toList)) := by
    simp [rowOfAgent]
  -- Each column is cut off together with the blank behind it, and the next one begins there.
  obtain ⟨hfirst, hbehind⟩ := take_drop_column (length_toList_pad hname)
  obtain ⟨hsecond, hbehind'⟩ := take_drop_column (length_toList_pad (length_label_le _))
  obtain ⟨hthird, hbehind''⟩ := take_drop_column (length_toList_pad hset)
  have h54 : (rowOfAgent a).toList.drop 54 = ((rowOfAgent a).toList.drop 33).drop 21 := by
    rw [List.drop_drop]
  have h75 : (rowOfAgent a).toList.drop 75 = ((rowOfAgent a).toList.drop 54).drop 21 := by
    rw [List.drop_drop]
  rw [h75, h54, hrow, hbehind, hbehind', hbehind'']
  exact ⟨hfirst, hsecond, hthird, rfl⟩

/-! ## Blocks -/

/-- A line of a block: a label, and its value from the twenty-first column on. -/
def labelled (field : String × String) : String := pad 20 field.1 ++ field.2

/-- Lines with labels, and an empty line behind them. -/
def blockText (fields : List (String × String)) : String :=
  String.join (fields.map fun field => labelled field ++ "\n") ++ "\n"

/-- Under one label no two values make the same line. -/
theorem labelled_injective (label : String) : Function.Injective fun value => labelled (label, value) := by
  intro value other h
  exact String.append_right_inj _ |>.mp h

/-- What the verbose listing says of an agent. Without a status nothing is running. -/
def agentFields (a : Agent) : List (String × String) :=
  [("Node Name:", a.nodeName),
    ("  ID:", a.id),
    ("  Node Type:", (NodeKind.ofNumber a.nodeKind).label),
    ("  Cluster ID:", a.clusterId),
    ("  Replicaset:", a.replicasetName ++ " (" ++ a.replicasetId ++ ")"),
    ("  Agent Version:", intText a.version.toInt),
    ("  Backup Running:", boolText (a.status.any AgentStatus.backupRunning)),
    ("  Restore Running:", boolText (a.status.any AgentStatus.restoreRunning)),
    ("  Last Command:", intText a.lastCommandSent.toInt),
    ("  Last Seen:", timestampText a.lastSeen)]

/-- What the listing of the catalog says of a backup, beside its filename. -/
def backupFields (v : BackupView) : List (String × String) :=
  [("  Description:", v.description),
    ("  Backup Type:", v.kind),
    ("  Destination:", v.destination),
    ("  Compression:", v.compression),
    ("  Cipher:", v.cipher),
    ("  Started:", v.started),
    ("  Finished:", v.finished),
    ("  Replicasets:", String.intercalate ", " v.replicasets)]

/-- The block of a backup: its filename on a line of its own, and all else below. -/
def backupText (v : BackupView) : String := v.filename ++ "\n" ++ blockText (backupFields v)

/-- A block begins with its first line, and the block of the others comes behind it. -/
theorem blockText_cons (label value : String) (fields : List (String × String)) :
    blockText ((label, value) :: fields) = pad 20 label ++ value ++ "\n" ++ blockText fields := by
  rw [blockText, blockText, List.map_cons, String.join_cons, labelled, String.append_assoc]

theorem blockText_nil : blockText [] = "\n" := by decide

/-- The verbose listing writes the block of an agent. -/
theorem verboseBlock_eq (a : Agent) : (NodeView.ofAgent a).verboseBlock = blockText (agentFields a) := by
  have hlabels : pad 20 "Node Name:" = "Node Name:          " ∧ pad 20 "  ID:" = "  ID:               " ∧
      pad 20 "  Node Type:" = "  Node Type:        " ∧ pad 20 "  Cluster ID:" = "  Cluster ID:       " ∧
      pad 20 "  Replicaset:" = "  Replicaset:       " ∧
      pad 20 "  Agent Version:" = "  Agent Version:    " ∧
      pad 20 "  Backup Running:" = "  Backup Running:   " ∧
      pad 20 "  Restore Running:" = "  Restore Running:  " ∧
      pad 20 "  Last Command:" = "  Last Command:     " ∧
      pad 20 "  Last Seen:" = "  Last Seen:        " := by decide
  have hstatus : ∀ running : AgentStatus → Bool, running AgentStatus.blank = false →
      running (a.status.getD AgentStatus.blank) = a.status.any running := by
    intro running hblank
    cases a.status with
    | none => exact hblank
    | some status => rfl
  have hbackup := hstatus AgentStatus.backupRunning rfl
  have hrestore := hstatus AgentStatus.restoreRunning rfl
  have hend : ")\n" = ")" ++ "\n" := by decide
  -- Opened as it is, since its equation takes long to derive.
  delta NodeView.verboseBlock
  simp only [agentFields, blockText_cons, blockText_nil, hlabels, NodeView.ofAgent, hbackup, hrestore, hend,
    String.append_assoc]

/-- The listing of the catalog writes the block of a backup. -/
theorem block_eq (v : BackupView) : v.block = backupText v := by
  have hlabels : pad 20 "  Description:" = "  Description:      " ∧
      pad 20 "  Backup Type:" = "  Backup Type:      " ∧ pad 20 "  Destination:" = "  Destination:      " ∧
      pad 20 "  Compression:" = "  Compression:      " ∧ pad 20 "  Cipher:" = "  Cipher:           " ∧
      pad 20 "  Started:" = "  Started:          " ∧ pad 20 "  Finished:" = "  Finished:         " ∧
      pad 20 "  Replicasets:" = "  Replicasets:      " := by decide
  delta BackupView.block
  simp only [backupText, backupFields, blockText_cons, blockText_nil, hlabels, String.append_assoc]

end BackupConsole.Listing
