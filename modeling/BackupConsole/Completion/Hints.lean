/-
  Backups offered while a command line is being completed.

  1. **Program** — `backupHints` lists the catalog of the coordinator at an address, by `hintCalls`;
     `metadataFileHints` does so for the coordinator of the default configuration file.

  2. **Specification** — the hints are the whole catalog, one for each filename in ascending code-point
     order, or none if anything goes wrong. The connection is always in the clear. If the settings
     cannot be resolved, the default address counts.
-/
import BackupConsole.Connection.Open

namespace BackupConsole.Completion

open Connection Settings

/-- A backup on offer. -/
structure Hint where
  filename : String
  description : String
  deriving DecidableEq, Repr

/-- The hints of a catalog, in ascending code-point order of their filenames. -/
def hintsOf (catalog : Catalog) : List Hint :=
  let hints := catalog.map fun entry => (⟨entry.1, entry.2.description⟩ : Hint)
  hints.mergeSort fun a b => decide (a.filename ≤ b.filename)

/-- The backups that the coordinator at an address has. -/
def backupHints (network : Network) (address : String) (cancelled : Bool) : List Hint :=
  match openPlaintext network address with
  | .error _ => []
  | .ok channel =>
    match (channel.coordinator.availableBackups cancelled).result with
    | .ok catalog => hintsOf catalog
    | .error _ => []

/-- The calls that are made to find those backups. -/
def hintCalls (network : Network) (address : String) (cancelled : Bool) : List Call :=
  match openPlaintext network address with
  | .error _ => []
  | .ok channel => if (channel.coordinator.availableBackups cancelled).begun then [.catalog] else []

/-- Asking for hints makes one call at most, and none where no channel can be opened. -/
theorem length_hintCalls (network : Network) (address : String) (cancelled : Bool) :
    (hintCalls network address cancelled).length ≤ 1 := by
  unfold hintCalls
  split
  · exact Nat.zero_le 1
  · split
    · exact Nat.le_refl 1
    · exact Nat.zero_le 1

/-- The address that hints are asked from. -/
def hintAddress (s : Surroundings) : String :=
  match resolve s Flags.none .listBackups with
  | .ok resolved => resolved.serverAddress
  | .error _ => defaultServerAddress

/-- The backups on offer for a restore. -/
def metadataFileHints (s : Surroundings) (network : Network) : List Hint :=
  backupHints network (hintAddress s) false

end BackupConsole.Completion
