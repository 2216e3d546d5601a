/-
  The backup catalog: which backups the coordinator knows.

  1. **Program** — the coordinator streams one `CatalogEntry` after another; `Catalog.ofEntries`
     gathers them by filename.

  2. **Specification** — of several entries with one filename the last one counts, with all-default
     metadata if it carries none, even when an earlier one did.
-/
import BackupConsole.Calendar.Timestamp
import BackupConsole.NameMap

namespace BackupConsole

open Calendar

/-- What a backup holds of one replicaset. -/
structure ReplicasetRecord where
  clusterId : String
  replicasetUuid : String
  replicasetName : String
  dumpName : String
  oplogName : String
  isConfigServer : Bool
  deriving DecidableEq, Repr, Inhabited

/-- What the coordinator remembers of one backup. The four vocabularies are kept as numbers, because
a newer coordinator may send members that this program has no name for. -/
structure BackupRecord where
  started : Option Timestamp
  finished : Option Timestamp
  kind : Int32
  destination : Int32
  compression : Int32
  cipher : Int32
  description : String
  replicasets : NameMap ReplicasetRecord
  deriving DecidableEq, Repr, Inhabited

/-- One line of the catalog as it is streamed. -/
structure CatalogEntry where
  filename : String
  metadata : Option BackupRecord
  deriving DecidableEq, Repr, Inhabited

namespace ReplicasetRecord

/-- A replicaset of which nothing has been said. -/
def blank : ReplicasetRecord := ⟨"", "", "", "", "", false⟩

end ReplicasetRecord

namespace BackupRecord

/-- A backup of which nothing has been said. -/
def blank : BackupRecord := ⟨none, none, 0, 0, 0, 0, "", []⟩

end BackupRecord

namespace CatalogEntry

/-- An entry of which nothing has been said. -/
def blank : CatalogEntry := ⟨"", none⟩

/-- The metadata an entry stands for: all defaults if it carries none. -/
def record (entry : CatalogEntry) : BackupRecord := entry.metadata.getD BackupRecord.blank

end CatalogEntry

/-- The catalog by filename. -/
abbrev Catalog := NameMap BackupRecord

namespace Catalog

/-- The catalog that a streamed list of entries describes. -/
def ofEntries (entries : List CatalogEntry) : Catalog :=
  NameMap.ofEntries (entries.map fun entry => (entry.filename, entry.record))

/-- The entries of a catalog in ascending code-point order of their filenames. -/
def sorted (catalog : Catalog) : List (String × BackupRecord) :=
  catalog.mergeSort fun a b => decide (a.1 ≤ b.1)

end Catalog

end BackupConsole
