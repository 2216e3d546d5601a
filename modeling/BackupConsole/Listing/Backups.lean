/-
  The listing of the backup catalog.

  1. **Program** — `BackupView.ofRecord` flattens a catalog entry into what is shown of it;
     `renderBackups` writes one block per entry.

  2. **Specification** — blocks come in ascending code-point order of their filenames, and so do the
     replicaset names within a block. Text stands in the listing as the coordinator sent it. An empty
     catalog gives only a neutral line.
-/
import BackupConsole.Catalog
import BackupConsole.Symbols

namespace BackupConsole.Listing

open Calendar

/-- What is shown of a catalog entry. -/
structure BackupView where
  filename : String
  description : String
  kind : String
  destination : String
  compression : String
  cipher : String
  started : String
  finished : String
  replicasets : List String
  deriving DecidableEq, Repr

/-- What the listing shows of a backup: words for its numbers, and its replicasets in order of name. -/
def BackupView.ofRecord (filename : String) (b : BackupRecord) : BackupView where
  filename := filename
  description := b.description
  kind := (BackupKind.ofNumber b.kind).label
  destination := (Destination.ofNumber b.destination).label
  compression := (Compression.ofNumber b.compression).label
  cipher := (Cipher.ofNumber b.cipher).label
  started := timestampText b.started
  finished := timestampText b.finished
  replicasets := (NameMap.names b.replicasets).mergeSort fun a b => decide (a ≤ b)

/-- The lines a backup takes in the listing, with an empty line after them. -/
def BackupView.block (v : BackupView) : String :=
  v.filename ++ "\n"
    ++ "  Description:      " ++ v.description ++ "\n"
    ++ "  Backup Type:      " ++ v.kind ++ "\n"
    ++ "  Destination:      " ++ v.destination ++ "\n"
    ++ "  Compression:      " ++ v.compression ++ "\n"
    ++ "  Cipher:           " ++ v.cipher ++ "\n"
    ++ "  Started:          " ++ v.started ++ "\n"
    ++ "  Finished:         " ++ v.finished ++ "\n"
    ++ "  Replicasets:      " ++ String.intercalate ", " v.replicasets ++ "\n"
    ++ "\n"

/-- What is printed where the catalog is empty. -/
def noBackups : String := "No backups found\n"

/-- The listing of a catalog. -/
def renderBackups (catalog : Catalog) : String :=
  if catalog.isEmpty then noBackups
  else
    String.join (catalog.sorted.map fun entry => (BackupView.ofRecord entry.1 entry.2).block)

end BackupConsole.Listing
