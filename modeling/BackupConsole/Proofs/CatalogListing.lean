/-
  The listing of the catalog.

  1. **Specification** — of the entries of a stream the last one of each filename counts (`IsLast`).
     `Catalogued` lists them in strictly ascending order of filenames, each with its metadata or with
     all defaults; `BackupsText` says what is printed of them, one block for each, or a neutral line.
     Blocks are given field by field: `Shows` ties a view to a record, `backupText` its text to the view.
     Two streams are `Agreeing` if their last entries are `Alike`, which leaves open in which order the
     replicasets of a backup come and all that is said of them but their names.

  2. **Program** — collecting is a fold over the entries. `mem_ofEntries_iff` follows it from the last
     entry backwards: the catalog holds what the last entries say, each filename once.

  3. **Two runs** — what is printed is a function of the views, and these are strictly ascending in their
     filenames. So they are known by their members (`Agreeing.viewsOf_eq`), whatever the order of the
     catalog was.

  4. **Correctness** — `catalog_listed_by_last_entry`.
-/
import BackupConsole.Proofs.Layout
import BackupConsole.Proofs.Listings
import BackupConsole.Proofs.NameOrder

namespace BackupConsole

open Listing Rpc Text

/-! ## The entries that count -/

/-- No later entry of a stream has the filename of this one. -/
def IsLast (entries : List CatalogEntry) (entry : CatalogEntry) : Prop :=
  ∃ before after, entries = before ++ entry :: after ∧
    ∀ later ∈ after, later.filename ≠ entry.filename

/-- What is listed of a stream: every filename once, in ascending order, with what the last entry of that
name carries, or all defaults if it carries nothing, whatever an earlier one did. -/
structure Catalogued (entries : List CatalogEntry) (listed : List (String × BackupRecord)) : Prop where
  ascending : StrictlyAscending Prod.fst listed
  mem : ∀ filename record, (filename, record) ∈ listed ↔
    ∃ metadata, IsLast entries ⟨filename, metadata⟩ ∧ record = metadata.getD BackupRecord.blank

/-- A last entry stays the last of its name until another one of that name comes. -/
theorem isLast_concat {entries : List CatalogEntry} {entry last : CatalogEntry} :
    IsLast (entries ++ [last]) entry ↔
      entry = last ∨ entry.filename ≠ last.filename ∧ IsLast entries entry := by
  constructor
  · rintro ⟨before, after, heq, hafter⟩
    -- Either the entry stands at the end, or the last entry is one of those behind it.
    rcases List.eq_nil_or_concat' after with rfl | ⟨after, other, rfl⟩
    · obtain ⟨-, hlast⟩ := List.append_inj' heq rfl
      exact .inl (List.singleton_inj.mp hlast).symm
    · rw [← List.cons_append, ← List.append_assoc] at heq
      obtain ⟨rfl, hlast⟩ := List.append_inj' heq rfl
      obtain rfl := List.singleton_inj.mp hlast
      have hne := hafter last (List.mem_append_right after List.mem_cons_self)
      exact .inr ⟨hne.symm, before, after, rfl, fun later hl => hafter later (List.mem_append_left _ hl)⟩
  · rintro (rfl | ⟨hne, before, after, rfl, hafter⟩)
    · exact ⟨entries, [], rfl, nofun⟩
    · refine ⟨before, after ++ [last], by simp, fun later hl => ?_⟩
      rcases List.mem_append.mp hl with hl | hl
      · exact hafter later hl
      · rw [List.mem_singleton.mp hl]
        exact hne.symm

/-- An entry in front is the last of its name if none of that name comes behind it. -/
theorem isLast_cons {first entry : CatalogEntry} {rest : List CatalogEntry} :
    IsLast (first :: rest) entry ↔
      IsLast rest entry ∨ entry = first ∧ ∀ later ∈ rest, later.filename ≠ first.filename := by
  constructor
  · rintro ⟨before, after, heq, hafter⟩
    cases before with
    | nil =>
      obtain ⟨rfl, rfl⟩ := List.cons.inj heq
      exact .inr ⟨rfl, hafter⟩
    | cons head before =>
      obtain ⟨rfl, rfl⟩ := List.cons.inj heq
      exact .inl ⟨before, after, rfl, hafter⟩
  · rintro (⟨before, after, rfl, hafter⟩ | ⟨rfl, hafter⟩)
    · exact ⟨first :: before, after, rfl, hafter⟩
    · exact ⟨[], rest, rfl, hafter⟩

/-- An empty stream has no last entry. -/
theorem not_isLast_nil {entry : CatalogEntry} : ¬ IsLast [] entry := by
  rintro ⟨before, after, heq, -⟩
  exact absurd heq (by simp)

/-- Whether an entry is the last of its name can be found out by going through the stream. -/
instance decidableIsLast : (entries : List CatalogEntry) → (entry : CatalogEntry) →
    Decidable (IsLast entries entry)
  | [], _ => .isFalse not_isLast_nil
  | _ :: rest, entry =>
    have := decidableIsLast rest entry
    decidable_of_iff _ isLast_cons.symm

/-- A last entry is one of the stream. -/
theorem IsLast.mem {entries : List CatalogEntry} {entry : CatalogEntry} (h : IsLast entries entry) :
    entry ∈ entries := by
  obtain ⟨before, after, rfl, -⟩ := h
  exact List.mem_append_right before List.mem_cons_self

/-! ## The catalog -/

/-- Another entry sets what is held under its filename. -/
theorem ofEntries_concat (entries : List CatalogEntry) (last : CatalogEntry) :
    Catalog.ofEntries (entries ++ [last]) =
      NameMap.set (Catalog.ofEntries entries) last.filename last.record := by
  rw [Catalog.ofEntries, List.map_append]
  exact NameMap.ofEntries_concat _ _

/-- A catalog holds each filename once. -/
theorem distinct_ofEntries (entries : List CatalogEntry) :
    NameMap.Distinct (Catalog.ofEntries entries) := NameMap.distinct_ofEntries _

/-- A collected catalog holds what the last entries say. -/
theorem mem_ofEntries_iff {entries : List CatalogEntry} {filename : String} {record : BackupRecord} :
    (filename, record) ∈ Catalog.ofEntries entries ↔
      ∃ metadata, IsLast entries ⟨filename, metadata⟩ ∧ record = metadata.getD BackupRecord.blank := by
  induction entries using List.reverseRecOn with
  | nil => exact ⟨nofun, fun ⟨metadata, hlast, _⟩ => absurd hlast not_isLast_nil⟩
  | append_singleton entries last ih =>
    rw [ofEntries_concat, NameMap.mem_set (distinct_ofEntries entries), ih]
    constructor
    · rintro (heq | ⟨hne, metadata, hlast, hrecord⟩)
      · cases heq
        exact ⟨last.metadata, isLast_concat.mpr (.inl rfl), rfl⟩
      · exact ⟨metadata, isLast_concat.mpr (.inr ⟨hne, hlast⟩), hrecord⟩
    · rintro ⟨metadata, hlast, rfl⟩
      rcases isLast_concat.mp hlast with rfl | ⟨hne, hlast⟩
      · exact .inl rfl
      · exact .inr ⟨hne, metadata, hlast, rfl⟩

/-- A collected catalog, in whatever order it is gone through, is listed as the stream asks for. -/
theorem catalogued_sorted {entries : List CatalogEntry} {catalog : Catalog}
    (h : catalog.Perm (Catalog.ofEntries entries)) : Catalogued entries catalog.sorted where
  ascending := by
    refine (ascending_mergeSort Prod.fst catalog).strict ?_
    have hnames : (catalog.sorted.map Prod.fst).Perm (NameMap.names (Catalog.ofEntries entries)) :=
      ((List.mergeSort_perm catalog _).trans h).map Prod.fst
    exact hnames.nodup_iff.mpr (distinct_ofEntries entries)
  mem filename record := by
    rw [Catalog.sorted, List.mem_mergeSort, h.mem_iff, mem_ofEntries_iff]

/-- There is one way to list a stream. -/
theorem Catalogued.unique {entries : List CatalogEntry} {listed others : List (String × BackupRecord)}
    (h : Catalogued entries listed) (ho : Catalogued entries others) : others = listed := by
  refine ho.ascending.eq_of_mem_iff h.ascending fun (filename, record) => ?_
  rw [ho.mem, h.mem]

/-! ## The text -/

/-- What is shown of a backup: its replicasets by name, in ascending order, and all else as it stands in
the catalog. -/
structure Shows (filename : String) (b : BackupRecord) (v : BackupView) : Prop where
  filename : v.filename = filename
  description : v.description = b.description
  kind : v.kind = (BackupKind.ofNumber b.kind).label
  destination : v.destination = (Destination.ofNumber b.destination).label
  compression : v.compression = (Compression.ofNumber b.compression).label
  cipher : v.cipher = (Cipher.ofNumber b.cipher).label
  started : v.started = Calendar.timestampText b.started
  finished : v.finished = Calendar.timestampText b.finished
  replicasets : v.replicasets.Perm (NameMap.names b.replicasets)
  ascending : Ascending id v.replicasets

/-- The view of a record shows it. -/
theorem shows_ofRecord (filename : String) (b : BackupRecord) :
    Shows filename b (BackupView.ofRecord filename b) where
  filename := rfl
  description := rfl
  kind := rfl
  destination := rfl
  compression := rfl
  cipher := rfl
  started := rfl
  finished := rfl
  replicasets := List.mergeSort_perm _ _
  ascending := ascending_mergeSort id (NameMap.names b.replicasets)

/-- What is printed of a catalog. -/
inductive BackupsText : List (String × BackupRecord) → String → Prop
  /-- Without entries there is a neutral line. -/
  | neutral : BackupsText [] "No backups found\n"
  /-- Else there is one block for each of them, in their order. -/
  | blocks {listed : List (String × BackupRecord)} {views : List BackupView} : listed ≠ [] →
    List.Forall₂ (fun entry v => Shows entry.1 entry.2 v) listed views →
    BackupsText listed (String.join (views.map backupText))

/-- The views of what is listed. -/
def viewsOf (listed : List (String × BackupRecord)) : List BackupView :=
  listed.map fun entry => BackupView.ofRecord entry.1 entry.2

/-- Each entry has its own view. -/
theorem forall₂_viewsOf (listed : List (String × BackupRecord)) :
    List.Forall₂ (fun entry v => Shows entry.1 entry.2 v) listed (viewsOf listed) := by
  induction listed with
  | nil => exact .nil
  | cons entry listed ih => exact .cons (shows_ofRecord entry.1 entry.2) ih

/-- What is printed of a catalog depends on its views alone. -/
theorem renderBackups_eq (catalog : Catalog) :
    renderBackups catalog =
      if viewsOf catalog.sorted = [] then noBackups
      else String.join ((viewsOf catalog.sorted).map backupText) := by
  have hblocks : BackupView.block = backupText := funext block_eq
  have hempty : viewsOf catalog.sorted = [] ↔ catalog.isEmpty = true := by
    rw [viewsOf, List.map_eq_nil_iff, List.isEmpty_iff, ← List.length_eq_zero_iff, Catalog.sorted,
      List.length_mergeSort, List.length_eq_zero_iff]
  by_cases h : catalog.isEmpty = true
  · rw [renderBackups, if_pos h, if_pos (hempty.mpr h)]
  · rw [renderBackups, if_neg h, if_neg (mt hempty.mp h), viewsOf, List.map_map, ← hblocks]
    rfl

/-- What the renderer writes is the text of its catalog. -/
theorem backupsText_renderBackups (catalog : Catalog) :
    BackupsText catalog.sorted (renderBackups catalog) := by
  rw [renderBackups_eq]
  cases hlisted : catalog.sorted with
  | nil => exact .neutral
  | cons entry listed =>
    have hne : entry :: listed ≠ [] := List.cons_ne_nil entry listed
    rw [if_neg (by simp [viewsOf])]
    exact .blocks hne (forall₂_viewsOf (entry :: listed))

/-! ## Two runs -/

/-- Backups that are shown alike: of their replicasets only the names count, in whatever order. -/
structure Alike (a b : BackupRecord) : Prop where
  started : a.started = b.started
  finished : a.finished = b.finished
  kind : a.kind = b.kind
  destination : a.destination = b.destination
  compression : a.compression = b.compression
  cipher : a.cipher = b.cipher
  description : a.description = b.description
  replicasets : (NameMap.names a.replicasets).Perm (NameMap.names b.replicasets)

/-- Every last entry of one stream has its like among the last entries of the other. -/
def Covered (entries others : List CatalogEntry) : Prop :=
  ∀ entry, IsLast entries entry →
    ∃ other, IsLast others other ∧ other.filename = entry.filename ∧ Alike entry.record other.record

/-- Two streams agree on the last entry of each filename. -/
def Agreeing (entries others : List CatalogEntry) : Prop :=
  Covered entries others ∧ Covered others entries

/-- Being alike as one equality, and the names of the replicasets. -/
theorem alike_iff {a b : BackupRecord} : Alike a b ↔
    (a.started, a.finished, a.kind, a.destination, a.compression, a.cipher, a.description) =
      (b.started, b.finished, b.kind, b.destination, b.compression, b.cipher, b.description) ∧
    (NameMap.names a.replicasets).Perm (NameMap.names b.replicasets) := by
  simp only [Prod.mk.injEq]
  exact ⟨fun ⟨h1, h2, h3, h4, h5, h6, h7, h8⟩ => ⟨⟨h1, h2, h3, h4, h5, h6, h7⟩, h8⟩,
    fun ⟨⟨h1, h2, h3, h4, h5, h6, h7⟩, h8⟩ => ⟨h1, h2, h3, h4, h5, h6, h7, h8⟩⟩

/-- Records are alike if they are listed with the same words, so this can be computed. -/
instance (a b : BackupRecord) : Decidable (Alike a b) := decidable_of_iff _ alike_iff.symm

/-- Only entries of the streams need to be looked at. -/
theorem covered_iff {entries others : List CatalogEntry} : Covered entries others ↔
    ∀ entry ∈ entries, IsLast entries entry → ∃ other ∈ others, IsLast others other ∧
      other.filename = entry.filename ∧ Alike entry.record other.record := by
  constructor
  · intro h entry _ hlast
    obtain ⟨other, hother, hname, halike⟩ := h entry hlast
    exact ⟨other, hother.mem, hother, hname, halike⟩
  · intro h entry hlast
    obtain ⟨other, -, hother, hname, halike⟩ := h entry hlast.mem hlast
    exact ⟨other, hother, hname, halike⟩

/-- Whether streams agree can be computed from their entries. -/
instance (entries others : List CatalogEntry) : Decidable (Agreeing entries others) :=
  decidable_of_iff _ (and_congr covered_iff covered_iff).symm

/-- Backups that are alike have one view. -/
theorem Shows.unique {filename : String} {a b : BackupRecord} {v u : BackupView}
    (hv : Shows filename a v) (hu : Shows filename b u) (h : Alike a b) : v = u := by
  have hnames : v.replicasets = u.replicasets := by
    refine List.Perm.eq_of_pairwise (fun _ _ _ _ => String.le_antisymm) hv.ascending hu.ascending ?_
    exact hv.replicasets.trans (h.replicasets.trans hu.replicasets.symm)
  obtain ⟨_, _, _, _, _, _, _, _, _⟩ := v
  obtain ⟨_, _, _, _, _, _, _, _, _⟩ := u
  obtain ⟨rfl, rfl, rfl, rfl, rfl, rfl, rfl, rfl, -, -⟩ := hv
  obtain ⟨rfl, rfl, rfl, rfl, rfl, rfl, rfl, rfl, -, -⟩ := hu
  simp only at hnames
  rw [hnames, h.started, h.finished, h.kind, h.destination, h.compression, h.cipher, h.description]

/-- The views that are shown are those of the last entries. -/
theorem mem_viewsOf_iff {entries : List CatalogEntry} {listed : List (String × BackupRecord)}
    (h : Catalogued entries listed) {v : BackupView} :
    v ∈ viewsOf listed ↔
      ∃ entry, IsLast entries entry ∧ BackupView.ofRecord entry.filename entry.record = v := by
  rw [viewsOf, List.mem_map]
  constructor
  · rintro ⟨⟨filename, record⟩, hmem, rfl⟩
    obtain ⟨metadata, hlast, rfl⟩ := (h.mem filename record).mp hmem
    exact ⟨⟨filename, metadata⟩, hlast, rfl⟩
  · rintro ⟨⟨filename, metadata⟩, hlast, rfl⟩
    exact ⟨(filename, metadata.getD BackupRecord.blank), (h.mem _ _).mpr ⟨metadata, hlast, rfl⟩, rfl⟩

/-- Filenames of views ascend as those of what is listed. -/
theorem strictlyAscending_viewsOf {entries : List CatalogEntry}
    {listed : List (String × BackupRecord)} (h : Catalogued entries listed) :
    StrictlyAscending BackupView.filename (viewsOf listed) := List.pairwise_map.mpr h.ascending

/-- What one stream has to show the other shows too. -/
theorem Covered.mem_viewsOf {entries others : List CatalogEntry}
    {listed relisted : List (String × BackupRecord)} (hc : Covered entries others)
    (h : Catalogued entries listed) (ho : Catalogued others relisted) {v : BackupView}
    (hv : v ∈ viewsOf listed) : v ∈ viewsOf relisted := by
  obtain ⟨entry, hlast, rfl⟩ := (mem_viewsOf_iff h).mp hv
  obtain ⟨other, hother, hname, halike⟩ := hc entry hlast
  refine (mem_viewsOf_iff ho).mpr ⟨other, hother, ?_⟩
  rw [hname]
  exact ((shows_ofRecord _ _).unique (shows_ofRecord _ _) halike).symm

/-- Streams that agree have the same views, in the same order. -/
theorem Agreeing.viewsOf_eq {entries others : List CatalogEntry}
    {listed relisted : List (String × BackupRecord)} (ha : Agreeing entries others)
    (h : Catalogued entries listed) (ho : Catalogued others relisted) :
    viewsOf relisted = viewsOf listed := by
  refine (strictlyAscending_viewsOf ho).eq_of_mem_iff (strictlyAscending_viewsOf h) fun v => ?_
  exact ⟨ha.2.mem_viewsOf ho h, ha.1.mem_viewsOf h ho⟩

/-- Whatever the order in which the two catalogs are gone through, they are printed alike. -/
theorem Agreeing.renderBackups_eq {entries others : List CatalogEntry} {catalog recatalog : Catalog}
    (ha : Agreeing entries others) (h : catalog.Perm (Catalog.ofEntries entries))
    (ho : recatalog.Perm (Catalog.ofEntries others)) :
    renderBackups recatalog = renderBackups catalog := by
  have hviews := ha.viewsOf_eq (catalogued_sorted h) (catalogued_sorted ho)
  rw [BackupConsole.renderBackups_eq, BackupConsole.renderBackups_eq, hviews]

/-! ## The listing -/

variable {c : Coordinator} {entries : List CatalogEntry}

/-- A complete stream is collected, whatever its order. -/
theorem collectBackups_of_complete {opened : Opened CatalogEntry}
    (h : Ends false (.value opened) (.complete entries)) :
    collectBackups opened.cancelled opened.events = .ok (Catalog.ofEntries entries) :=
  (h.listing listBackups Catalog.ofEntries).result

/-- A complete stream is listed with one call and one write. -/
theorem dispatch_listBackups_of_complete (h : Ends false c.catalog (.complete entries)) (w : Writer) :
    dispatch .listBackups c false w =
      .ofWrite (renderBackups (Catalog.ofEntries entries)) w [.call .catalog] :=
  runListing_of_complete h listBackups Catalog.ofEntries

/-- **The last entry of a name counts.** A stream of catalog entries is received to the end of its data.
What is listed of it is what `Catalogued` says, and nothing else would do: every filename once, in
strictly ascending order, with what its last entry carries. With a writer that never fails one block is
printed for each of them, in that order, with the names of replicasets ascending; or the neutral line if
there is none. A stream that agrees with this one on the last entry of each filename is printed alike,
whatever came before these, in whatever order the entries came, in whatever order the two catalogs are
gone through, and whatever the order of the replicasets and what is said of them. -/
theorem catalog_listed_by_last_entry {opened : Opened CatalogEntry} {entries : List CatalogEntry}
    (h : Ends false (.value opened) (.complete entries)) :
    ∃ catalog listed, collectBackups opened.cancelled opened.events = .ok catalog ∧
      Catalogued entries listed ∧ (∀ relisted, Catalogued entries relisted → relisted = listed) ∧
      (∀ (c : Coordinator) (w : Writer), c.catalog = .value opened → w.Reliable →
        ∃ text, BackupsText listed text ∧
          (dispatch .listBackups c false w).written = w.written ++ utf8Bytes text) ∧
      (∀ (other : Opened CatalogEntry) (others : List CatalogEntry),
        Ends false (.value other) (.complete others) → Agreeing entries others →
        (∀ found iterated reiterated, collectBackups other.cancelled other.events = .ok found →
          iterated.Perm catalog → reiterated.Perm found →
          renderBackups reiterated = renderBackups iterated) ∧
        ∀ (c d : Coordinator) (w : Writer), c.catalog = .value opened → d.catalog = .value other →
          (dispatch .listBackups d false w).written = (dispatch .listBackups c false w).written) := by
  have hlisted : Catalogued entries (Catalog.ofEntries entries).sorted := catalogued_sorted (.refl _)
  refine ⟨Catalog.ofEntries entries, (Catalog.ofEntries entries).sorted, collectBackups_of_complete h,
    hlisted, fun relisted hr => hlisted.unique hr, ?_, ?_⟩
  · intro c w hc hw
    -- What is printed depends on the coordinator only by its catalog.
    rw [← hc] at h
    refine ⟨renderBackups (Catalog.ofEntries entries), backupsText_renderBackups _, ?_⟩
    rw [dispatch_listBackups_of_complete h, Outcome.ofWrite_of_reliable hw]
  · -- Streams that agree have the same last entries, so any orders of their catalogs are sorted alike.
    intro other others ho ha
    refine ⟨fun found iterated reiterated hfound hi hr => ?_, fun c d w hc hd => ?_⟩
    · rw [collectBackups_of_complete ho] at hfound
      cases hfound
      exact ha.renderBackups_eq hi hr
    · rw [← hc] at h
      rw [← hd] at ho
      rw [dispatch_listBackups_of_complete h, dispatch_listBackups_of_complete ho,
        ha.renderBackups_eq (.refl _) (.refl _)]

/-- A backup with a description and some replicasets. -/
def weekly (replicasets : NameMap ReplicasetRecord) : BackupRecord :=
  { BackupRecord.blank with description := "weekly", replicasets := replicasets }

/-- A stream that takes back what it has said of a backup. -/
def correctedStream : List CatalogEntry :=
  [⟨"b.json", some (weekly [])⟩, ⟨"a.json", some (weekly [("rs2", .blank), ("rs1", .blank)])⟩,
    ⟨"b.json", none⟩]

/-- A stream that says the same at once, and more of a replicaset. -/
def directStream : List CatalogEntry :=
  [⟨"b.json", some .blank⟩,
    ⟨"a.json", some (weekly [("rs1", { ReplicasetRecord.blank with isConfigServer := true }),
      ("rs2", .blank)])⟩]

/-- What is listed of either: of the backup that was taken back all defaults. -/
def correctedListing : List (String × BackupRecord) :=
  [("a.json", weekly [("rs2", .blank), ("rs1", .blank)]), ("b.json", .blank)]

/-- That is what the stream asks for. -/
theorem catalogued_correctedListing : Catalogued correctedStream correctedListing where
  ascending := by decide
  mem filename record := by
    constructor
    · intro hmem
      simp only [correctedListing, List.mem_cons, List.not_mem_nil, or_false] at hmem
      rcases hmem with heq | heq
      · cases heq
        exact ⟨some (weekly [("rs2", .blank), ("rs1", .blank)]), by decide, rfl⟩
      · cases heq
        exact ⟨none, by decide, rfl⟩
    · -- The first entry is not the last of its filename; the other two are.
      rintro ⟨metadata, hlast, rfl⟩
      have hmem := hlast.mem
      simp only [correctedStream, List.mem_cons, List.not_mem_nil, or_false] at hmem
      rcases hmem with heq | heq | heq
      · cases heq
        exact absurd hlast (by decide)
      · cases heq
        decide
      · cases heq
        decide

/-- A coordinator that streams some entries. -/
def coordinatorOfCatalog (opened : Opened CatalogEntry) : Coordinator where
  agents := .silence
  catalog := .value opened
  backup _ := .silence
  restore _ := .silence

/-- The filename that comes twice is listed once, and both streams are printed alike, although the second
is cancelled at its very end. -/
theorem corrected_stream_listed :
    Ends false (.value ⟨false, messages correctedStream⟩) (.complete correctedStream) ∧
    Ends false (.value ⟨false, messages directStream ++ cancellations 2⟩) (.complete directStream) ∧
    Agreeing correctedStream directStream ∧
    (∃ text, BackupsText correctedListing text ∧
      (dispatch .listBackups (coordinatorOfCatalog ⟨false, messages correctedStream⟩) false
        (.fresh none)).written = utf8Bytes text) ∧
    (dispatch .listBackups (coordinatorOfCatalog ⟨false, messages directStream ++ cancellations 2⟩) false
        (.fresh none)).written =
      (dispatch .listBackups (coordinatorOfCatalog ⟨false, messages correctedStream⟩) false
        (.fresh none)).written := by
  have hends : Ends false (.value ⟨false, messages correctedStream⟩) (.complete correctedStream) :=
    .complete correctedStream 0
  have hother : Ends false (.value ⟨false, messages directStream ++ cancellations 2⟩)
      (.complete directStream) := .complete directStream 2
  have hagree : Agreeing correctedStream directStream := by decide
  obtain ⟨catalog, listed, -, -, hunique, hprinted, halike⟩ := catalog_listed_by_last_entry hends
  refine ⟨hends, hother, hagree, ?_, (halike _ _ hother hagree).2 _ _ _ rfl rfl⟩
  rw [hunique correctedListing catalogued_correctedListing]
  exact hprinted (coordinatorOfCatalog _) (.fresh none) rfl Writer.reliable_fresh

end BackupConsole
