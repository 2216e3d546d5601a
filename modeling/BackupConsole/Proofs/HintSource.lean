/-
  Which coordinator the backups on offer come from.

  1. **Specification** — `Asks` says which address is asked, by what the default configuration file
     contributes: the address it sets, or the built-in one if it sets none; and the built-in one again
     if there are no settings to be had from it.

  2. **Directories** — a directory at the default path does not stop the loader, which goes on to the
     files beside it that have an extension more (`load_of_absolute_directory`).

  3. **Correctness** — `candidates_of_asked_coordinator`: the candidates are what the coordinator at the
     one address that is asked has to offer. Where no settings could be resolved that is the coordinator
     at the built-in address, although the operator may have configured another.
-/
import BackupConsole.Completion.Candidates
import BackupConsole.Proofs.BackupHints
import BackupConsole.Proofs.RecordedFile
import BackupConsole.Proofs.SettingLayers

namespace BackupConsole.Completion

open Connection Rpc Settings

variable {s : Surroundings} {network : Network} {address : String} {r : Resolved} {e : ConfigError}

/-! ## The address that is asked -/

/-- The address from which backups on offer are asked. -/
inductive Asks (s : Surroundings) : String → Prop
  /-- The configuration file sets it; where it sets none, or where there is no such file, it is built in. -/
  | configured {layer : Option (String × FileSettings)} {address : String} :
    Contributes s none "~/.pmb-admin.yml" (.ok layer) →
    First (· ≠ "") [(settingsIn layer).serverAddress, some "127.0.0.1:10001"] (some address) →
    Asks s address
  /-- A file that has to be refused counts as one that sets none. -/
  | fallback {e : ConfigError} : Contributes s none "~/.pmb-admin.yml" (.error e) →
    Asks s "127.0.0.1:10001"

/-- The file contributes one thing only. -/
theorem contributes_unique {named : Option String} {default : String}
    {layer other : Except ConfigError (Option (String × FileSettings))}
    (h : Contributes s named default layer) (ho : Contributes s named default other) :
    other = layer :=
  (contributes_iff.mp ho).symm.trans (contributes_iff.mp h)

/-- Without flags it is the file that sets the address. -/
theorem first_of_no_flags {file : FileSettings} (h : Layered Flags.none file r) :
    First (· ≠ "") [file.serverAddress, some "127.0.0.1:10001"] (some r.serverAddress) := by
  have haddress := h.serverAddress
  cases haddress with
  | further _ hbeneath => exact hbeneath

/-- There is nothing to refuse in a listing of backups, so it is for the file to decide whether there are
settings. -/
theorem resolve_cases (s : Surroundings) :
    (∃ layer r, resolve s Flags.none .listBackups = .ok r ∧
      Contributes s none "~/.pmb-admin.yml" (.ok layer) ∧
      First (· ≠ "") [(settingsIn layer).serverAddress, some "127.0.0.1:10001"]
        (some r.serverAddress)) ∨
    ∃ e, resolve s Flags.none .listBackups = .error e ∧
      Contributes s none "~/.pmb-admin.yml" (.error e) := by
  have hresolves := resolves_resolveWith s "~/.pmb-admin.yml" Flags.none .listBackups
  change Resolves s _ _ _ (resolve s Flags.none .listBackups) at hresolves
  generalize resolve s Flags.none .listBackups = result at hresolves
  cases hresolves with
  | unreadable hfile => exact .inr ⟨_, rfl, hfile⟩
  | refused _ hfault => cases hfault
  | layered hfile _ hlayered => exact .inl ⟨_, _, rfl, hfile, first_of_no_flags hlayered⟩

/-- Where the settings of the run can be had, their coordinator is asked. -/
theorem asks_iff_of_ok (h : resolve s Flags.none .listBackups = .ok r) :
    Asks s address ↔ address = r.serverAddress := by
  rcases resolve_cases s with ⟨layer, r', hr', hfile, hfirst⟩ | ⟨e, he, -⟩
  · obtain rfl : r' = r := Except.ok.inj (hr'.symm.trans h)
    constructor
    · intro hasks
      cases hasks with
      | configured hfile' hfirst' =>
        obtain rfl := Except.ok.inj (contributes_unique hfile hfile')
        exact Option.some.inj (hfirst'.unique hfirst)
      | fallback hfile' => cases contributes_unique hfile hfile'
    · rintro rfl
      exact .configured hfile hfirst
  · rw [h] at he
    cases he

/-- Where they cannot, the coordinator on the same machine is asked. -/
theorem asks_iff_of_error (h : resolve s Flags.none .listBackups = .error e) :
    Asks s address ↔ address = "127.0.0.1:10001" := by
  rcases resolve_cases s with ⟨layer, r, hr, -⟩ | ⟨e', -, hfile⟩
  · rw [h] at hr
    cases hr
  · constructor
    · intro hasks
      cases hasks with
      | configured hfile' _ => cases contributes_unique hfile hfile'
      | fallback _ => rfl
    · rintro rfl
      exact .fallback hfile

/-- One address is asked, and the program asks it. -/
theorem asks_iff : Asks s address ↔ address = hintAddress s := by
  cases h : resolve s Flags.none .listBackups with
  | ok r => rw [asks_iff_of_ok h, hintAddress, h]
  | error e =>
    rw [asks_iff_of_error h, hintAddress, h]
    rfl

/-! ## Candidates -/

/-- A hint as a candidate of the command line. -/
def candidateOf (hint : Hint) : Candidate := ⟨hint.filename, some hint.description⟩

theorem metadataFileCandidates_eq (hints : List Hint) :
    slotCandidates hints .metadataFile = hints.map candidateOf := rfl

/-! ## Directories -/

variable {t : FileTree} {path : String}

/-- Where a directory stands at an absolute path, the files beside it are tried. -/
theorem load_of_absolute_directory (ha : isAbsolute path = true) (hd : t.find path = .ok .directory) :
    load t path = loadFirst t path [withExtension path "yaml", withExtension path "yml"] := by
  have hfull : t.fullPath path = path := joinPath_of_isAbsolute ha
  have hnone : t.content? (t.fullPath path) = none := by
    rw [hfull]
    exact FileTree.content?_of_directory hd
  rw [load_of_none hnone, beside, hfull]

/-- Where something is at the default path and the loader refuses it, there are no settings. -/
theorem exists_error_of_load (hpath : expandHome s.home "~/.pmb-admin.yml" = .ok path)
    (hleads : s.files.leadsTo path = true) {reason : LoadError}
    (hload : load s.files path = .error reason) :
    ∃ e, resolve s Flags.none .listBackups = .error e := by
  have hunreadable : Contributes s none "~/.pmb-admin.yml" _ :=
    .unreadable (by decide) hpath hleads hload
  exact ⟨_, resolveWith_of_error (contributes_iff.mp hunreadable)⟩

/-- Where the loader takes it, there are, and the address is the one that the file sets, if it sets any. -/
theorem exists_ok_of_load (hpath : expandHome s.home "~/.pmb-admin.yml" = .ok path)
    (hleads : s.files.leadsTo path = true) {settings : FileSettings}
    (hload : load s.files path = .ok settings) :
    ∃ r, resolve s Flags.none .listBackups = .ok r ∧
      First (· ≠ "") [settings.serverAddress, some "127.0.0.1:10001"] (some r.serverAddress) := by
  have hloaded : Contributes s none "~/.pmb-admin.yml" _ := .loaded (by decide) hpath hleads hload
  rcases resolve_cases s with ⟨layer, r, hr, hcontributes, hfirst⟩ | ⟨e, -, hcontributes⟩
  · cases contributes_unique hloaded hcontributes
    exact ⟨r, hr, hfirst⟩
  · cases contributes_unique hloaded hcontributes

/-! ## The candidates -/

/-- **Whose backups are on offer.** The candidates are what the coordinator at the address that is asked
has to offer, its whole catalog or nothing. Where settings are resolved without flags, theirs is the
address that is asked. Where they cannot be resolved it is the built-in address, and there are candidates
if and only if a coordinator answers there and has any backup. A directory at the default path is such a
case if no file beside it has its name and an extension more, or if that file cannot be read; where there
is such a file and it can be loaded, its settings count. -/
theorem candidates_of_asked_coordinator (s : Surroundings) (network : Network) :
    (∀ offered, slotCandidates (metadataFileHints s network) .metadataFile = offered ↔
      ∃ address hints, Asks s address ∧ Offers network address false hints ∧
        offered = hints.map candidateOf) ∧
    (∀ r, resolve s Flags.none .listBackups = .ok r →
      ∀ address, Asks s address ↔ address = r.serverAddress) ∧
    (∀ e, resolve s Flags.none .listBackups = .error e →
      (∀ address, Asks s address ↔ address = "127.0.0.1:10001") ∧
      (slotCandidates (metadataFileHints s network) .metadataFile ≠ [] ↔
        ∃ c entries, Answers network "127.0.0.1:10001" c ∧
          Ends false c.catalog (.complete entries) ∧ entries ≠ [])) ∧
    ∀ path, expandHome s.home "~/.pmb-admin.yml" = .ok path → isAbsolute path = true →
      s.files.find path = .ok .directory →
      (firstFile s.files [withExtension path "yaml", withExtension path "yml"] = none →
        ∃ e, resolve s Flags.none .listBackups = .error e) ∧
      (∀ file reason,
        firstFile s.files [withExtension path "yaml", withExtension path "yml"] =
          some (file, .error reason) →
        ∃ e, resolve s Flags.none .listBackups = .error e) ∧
      ∀ file bytes settings,
        firstFile s.files [withExtension path "yaml", withExtension path "yml"] =
          some (file, .ok bytes) →
        settingsOfBytes (seenFrom s.files file) bytes = .ok settings →
        ∃ r, resolve s Flags.none .listBackups = .ok r ∧
          First (· ≠ "") [settings.serverAddress, some "127.0.0.1:10001"] (some r.serverAddress) := by
  refine ⟨?_, fun r hr address => asks_iff_of_ok hr, ?_, ?_⟩
  · intro offered
    rw [metadataFileCandidates_eq, metadataFileHints]
    constructor
    · rintro rfl
      exact ⟨hintAddress s, _, asks_iff.mpr rfl, offers_backupHints .., rfl⟩
    · rintro ⟨address, hints, hasks, hoffers, rfl⟩
      rw [← asks_iff.mp hasks, offers_iff.mp hoffers]
  · intro e he
    have haddress : hintAddress s = "127.0.0.1:10001" :=
      (asks_iff.mp ((asks_iff_of_error he).mpr rfl)).symm
    refine ⟨fun address => asks_iff_of_error he, ?_⟩
    rw [metadataFileCandidates_eq, metadataFileHints, haddress, Ne, List.map_eq_nil_iff]
    exact backupHints_ne_nil_iff
  · intro path hpath ha hd
    have hleads : s.files.leadsTo path = true := FileTree.leadsTo_iff.mpr ⟨_, hd⟩
    have hbeside := load_of_absolute_directory ha hd
    -- The directory is there, so it is for the loader to refuse it.
    refine ⟨fun hnone => ?_, fun file reason hfile => ?_, fun file bytes settings hfile hsettings => ?_⟩
    · have hload : load s.files path = .error (.missing (.absent path)) := by
        rw [hbeside, loadFirst, hnone]
      exact exists_error_of_load hpath hleads hload
    · have hload : load s.files path = .error (.missing (.unread reason)) := by
        rw [hbeside, loadFirst, hfile]
        rfl
      exact exists_error_of_load hpath hleads hload
    · have hload : load s.files path = .ok settings := by
        rw [hbeside, loadFirst, hfile]
        exact hsettings
      exact exists_ok_of_load hpath hleads hload

/-- What an operator has whose home directory, `/root`, holds the given files. -/
def homeWith (entries : List (String × FileNode)) : Surroundings :=
  ⟨some "/root", ⟨["root"], entries.map fun entry => (["root", entry.1], entry.2)⟩⟩

/-- An entry without metadata. -/
def soleEntry : CatalogEntry := ⟨"b.json", none⟩

/-- A network with one coordinator, which has one backup. -/
def soleNetwork (uri : String) : Network where
  plain asked :=
    if asked = uri then
      some ⟨.silence, .value ⟨false, messages [soleEntry]⟩, fun _ => .silence, fun _ => .silence⟩
    else none
  encrypted _ _ := none

/-- That backup is on offer at the address of the coordinator. -/
theorem offers_soleNetwork {uri : String} (huri : endpointUri address false = uri)
    (hread : (Uri.read uri).isSome = true) (hclear : isEncrypted uri = false) :
    Offers (soleNetwork uri) address false [⟨"b.json", ""⟩] := by
  subst huri
  have hhints : hintsOf (Catalog.ofEntries [soleEntry]) = [⟨"b.json", ""⟩] :=
    List.mergeSort_singleton _
  have hhinted : Hinted [soleEntry] [⟨"b.json", ""⟩] := hhints ▸ hinted_hintsOf (.refl _)
  exact .whole ⟨.inr hread, hclear, if_pos rfl⟩ (.complete [soleEntry] 0) hhinted

/-- A home whose configuration file is no document. -/
def malformedHome : Surroundings := homeWith [(".pmb-admin.yml", .file (Text.utf8Bytes "tls: [\n"))]

/-- A directory at the default path, and a file beside it. -/
def misplacedHome : Surroundings :=
  homeWith [(".pmb-admin.yml", .directory),
    (".pmb-admin.yml.yml", .file (Text.utf8Bytes "server_addr: 10.0.0.1:1\n"))]

/-- The default file is malformed, so that settings cannot be resolved, and yet the backup of whatever
coordinator is at the built-in address is on offer. A directory has the name of the default file, and yet
settings are resolved, and the backup of the coordinator that a file beside it names is on offer. -/
theorem candidates_without_default_file :
    (resolve malformedHome Flags.none .listBackups =
        .error (.load "/root/.pmb-admin.yml"
          (.document (.malformed .unexpectedToken) ".pmb-admin.yml")) ∧
      slotCandidates (metadataFileHints malformedHome (soleNetwork "http://127.0.0.1:10001"))
        .metadataFile = [⟨"b.json", some ""⟩]) ∧
    misplacedHome.files.find "/root/.pmb-admin.yml" = .ok .directory ∧
      resolve misplacedHome Flags.none .listBackups =
        .ok ⟨false, none, "10.0.0.1:1", some "/root/.pmb-admin.yml", .listBackups⟩ ∧
      slotCandidates (metadataFileHints misplacedHome (soleNetwork "http://10.0.0.1:1"))
        .metadataFile = [⟨"b.json", some ""⟩] := by
  have hmalformed : resolve malformedHome Flags.none .listBackups =
      .error (.load "/root/.pmb-admin.yml"
        (.document (.malformed .unexpectedToken) ".pmb-admin.yml")) := by decide +kernel
  have hmisplaced : resolve misplacedHome Flags.none .listBackups =
      .ok ⟨false, none, "10.0.0.1:1", some "/root/.pmb-admin.yml", .listBackups⟩ := by decide +kernel
  refine ⟨⟨hmalformed, ?_⟩, by decide, hmisplaced, ?_⟩
  · -- The document is malformed, so the default coordinator is asked, and it answers.
    obtain ⟨hcandidates, -⟩ :=
      candidates_of_asked_coordinator malformedHome (soleNetwork "http://127.0.0.1:10001")
    have hasks := (asks_iff_of_error hmalformed).mpr rfl
    exact (hcandidates _).mpr
      ⟨_, _, hasks, offers_soleNetwork (by decide) (by decide) (by decide), rfl⟩
  · -- The file beside the directory is read, so its coordinator is asked.
    obtain ⟨hcandidates, -⟩ :=
      candidates_of_asked_coordinator misplacedHome (soleNetwork "http://10.0.0.1:1")
    have hasks := (asks_iff_of_ok hmisplaced).mpr rfl
    exact (hcandidates _).mpr
      ⟨_, _, hasks, offers_soleNetwork (by decide) (by decide) (by decide), rfl⟩

end BackupConsole.Completion
