/-
  Backups on offer: the whole catalog or none of it.

  1. **Specification** — `Answers` says that a connection in the clear is had, and `Hinted` what a stream
     of entries has to offer. `Offers` puts them together: if the stream is received to the end of its
     data there is one hint for each filename, in every other case there is none.

  2. **Two ways to sort** — hints are made first and sorted then, while a listing sorts the catalog and
     makes its text then. `hintsOf_eq`: it comes to the same, so what is known of a listing is known of
     the hints.

  3. **Correctness** — `hints_whole_or_none`.
-/
import BackupConsole.Completion.Hints
import BackupConsole.Proofs.CatalogListing

namespace BackupConsole.Completion

open Connection Rpc Text

/-! ## Connections in the clear -/

/-- A coordinator answers at an address: its URI can be read, asks for no encryption, and leads there. -/
structure Answers (network : Network) (address : String) (c : Coordinator) : Prop where
  readable : isSocket (endpointUri address false) = true ∨
    (Uri.read (endpointUri address false)).isSome = true
  clear : isEncrypted (endpointUri address false) = false
  found : network.plain (endpointUri address false) = some c

variable {network : Network} {address : String} {c d : Coordinator}

/-- One coordinator at most answers at an address. -/
theorem Answers.unique (h : Answers network address c) (hd : Answers network address d) : d = c :=
  Option.some.inj (hd.found.symm.trans h.found)

/-- Where a coordinator answers, a connection is had. -/
theorem openPlaintext_of_answers (h : Answers network address c) :
    openPlaintext network address = .ok ⟨address, endpointUri address false, c⟩ := by
  have hreach : reach network (endpointUri address false) none = some c := by
    rw [reach, h.clear]
    exact h.found
  have hreadable : (!isSocket (endpointUri address false) &&
      (Uri.read (endpointUri address false)).isNone) = false := by
    rcases h.readable with hsocket | hread
    · simp [hsocket]
    · simp [hread]
  simp [openPlaintext, dial, hreadable, hreach]

/-- Only there a connection is had. -/
theorem answers_of_openPlaintext {channel : Channel}
    (h : openPlaintext network address = .ok channel) :
    Answers network address channel.coordinator := by
  simp only [openPlaintext, dial, Option.isSome_none, Option.any_none] at h
  split at h
  · cases h
  · next hreadable =>
    split at h
    · cases h
    · split at h
      · next coordinator hreach =>
        cases h
        rw [reach] at hreach
        -- An encrypted URI leads nowhere without certificates.
        split at hreach
        · cases hreach
        · next hclear =>
          refine ⟨?_, Bool.eq_false_iff.mpr hclear, hreach⟩
          simpa [or_iff_not_imp_left, Option.isSome_iff_ne_none] using hreadable
      · cases h

/-! ## What there is to offer -/

/-- The hints of a stream of entries: every filename once, in strictly ascending order, with the description
that the last entry of that name carries, or an empty one if it carries nothing. -/
structure Hinted (entries : List CatalogEntry) (hints : List Hint) : Prop where
  ascending : StrictlyAscending Hint.filename hints
  mem : ∀ filename description, ⟨filename, description⟩ ∈ hints ↔
    ∃ metadata, IsLast entries ⟨filename, metadata⟩ ∧
      description = (metadata.map BackupRecord.description).getD ""

/-- The entries of a stream settle the hints. -/
theorem Hinted.unique {entries : List CatalogEntry} {hints others : List Hint}
    (h : Hinted entries hints) (ho : Hinted entries others) : others = hints := by
  refine ho.ascending.eq_of_mem_iff h.ascending fun ⟨filename, description⟩ => ?_
  rw [ho.mem, h.mem]

/-- The hints that the coordinator at an address has to give, by what it does and by when the token is
cancelled. -/
inductive Offers (network : Network) (address : String) (cancelled : Bool) : List Hint → Prop
  /-- Those of the whole catalog, if the stream is received to the end of its data. -/
  | whole {c : Coordinator} {entries : List CatalogEntry} {hints : List Hint} :
    Answers network address c → Ends cancelled c.catalog (.complete entries) → Hinted entries hints →
    Offers network address cancelled hints
  /-- None in every other case. -/
  | nothing : (∀ c entries, Answers network address c →
      ¬ Ends cancelled c.catalog (.complete entries)) → Offers network address cancelled []

variable {cancelled : Bool} {entries : List CatalogEntry} {hints : List Hint}

theorem Offers.unique {others : List Hint} (h : Offers network address cancelled hints)
    (ho : Offers network address cancelled others) : others = hints := by
  cases h with
  | whole ha he hh =>
    cases ho with
    | whole ha' he' hh' =>
      obtain rfl := ha.unique ha'
      obtain rfl := Ending.complete.inj ((ends_unique _ _).unique he' he)
      exact hh.unique hh'
    | nothing hn => exact absurd he (hn _ _ ha)
  | nothing hn =>
    cases ho with
    | whole ha he _ => exact absurd he (hn _ _ ha)
    | nothing _ => rfl

/-! ## Two ways to sort -/

/-- The hint of an entry of the catalog. -/
def hintOf (entry : String × BackupRecord) : Hint := ⟨entry.1, entry.2.description⟩

/-- Hints are sorted as the catalog is. -/
theorem hintsOf_eq (catalog : Catalog) : hintsOf catalog = catalog.sorted.map hintOf := by
  have hmap : catalog.sorted.map hintOf =
      (catalog.map hintOf).mergeSort fun a b => decide (a.filename ≤ b.filename) :=
    List.map_mergeSort fun _ _ _ _ => rfl
  exact hmap.symm

theorem map_filename_map_hintOf (listed : List (String × BackupRecord)) :
    (listed.map hintOf).map Hint.filename = listed.map Prod.fst := by
  rw [List.map_map]
  rfl

/-- An entry without metadata has an empty description. -/
theorem description_getD (metadata : Option BackupRecord) :
    (metadata.getD BackupRecord.blank).description =
      (metadata.map BackupRecord.description).getD "" := by
  cases metadata with
  | none => rfl
  | some record => rfl

/-- What is listed of a stream tells its hints. -/
theorem hinted_map_hintOf {listed : List (String × BackupRecord)} (h : Catalogued entries listed) :
    Hinted entries (listed.map hintOf) where
  ascending := List.pairwise_map.mpr h.ascending
  mem filename description := by
    rw [List.mem_map]
    constructor
    · rintro ⟨⟨filename, record⟩, hmem, heq⟩
      cases heq
      obtain ⟨metadata, hlast, rfl⟩ := (h.mem filename record).mp hmem
      exact ⟨metadata, hlast, description_getD metadata⟩
    · rintro ⟨metadata, hlast, rfl⟩
      have hmem := (h.mem filename _).mpr ⟨metadata, hlast, rfl⟩
      exact ⟨_, hmem, by rw [hintOf, description_getD]⟩

/-- The order in which the catalog is gone through does not show in the hints. -/
theorem hinted_hintsOf {catalog : Catalog} (h : catalog.Perm (Catalog.ofEntries entries)) :
    Hinted entries (hintsOf catalog) := by
  rw [hintsOf_eq]
  exact hinted_map_hintOf (catalogued_sorted h)

/-- Only an empty catalog has nothing to offer. -/
theorem Hinted.eq_nil_iff (h : Hinted entries hints) : hints = [] ↔ entries = [] := by
  constructor
  · rintro rfl
    rcases List.eq_nil_or_concat' entries with rfl | ⟨before, last, rfl⟩
    · rfl
    · have hmem := (h.mem last.filename _).mpr ⟨last.metadata, isLast_concat.mpr (.inl rfl), rfl⟩
      cases hmem
  · rintro rfl
    refine List.eq_nil_iff_forall_not_mem.mpr fun ⟨filename, description⟩ hmem => ?_
    obtain ⟨metadata, hlast, -⟩ := (h.mem filename description).mp hmem
    exact not_isLast_nil hlast

/-! ## The lookup -/

/-- A catalog that comes to its end is offered whole. -/
theorem backupHints_of_complete (ha : Answers network address c)
    (he : Ends cancelled c.catalog (.complete entries)) :
    backupHints network address cancelled = hintsOf (Catalog.ofEntries entries) := by
  have hresult : (c.availableBackups cancelled).result = .ok (Catalog.ofEntries entries) :=
    (he.listing listBackups Catalog.ofEntries).result
  simp only [backupHints, openPlaintext_of_answers ha, hresult]

/-- A listing that is not complete gives an error to its caller. -/
theorem exists_error_of_not_complete
    (h : ∀ entries, ¬ Ends cancelled c.catalog (.complete entries)) :
    ∃ e, (c.availableBackups cancelled).result = .error e := by
  obtain ⟨ending, hending⟩ := exists_ends cancelled c.catalog
  have hresult := (hending.listing listBackups Catalog.ofEntries).result
  cases ending with
  | complete entries => exact absurd hending (h entries)
  | interrupted => exact ⟨_, hresult⟩
  | failed status => exact ⟨_, hresult⟩

/-- Whatever came before the failure is not on offer. -/
theorem backupHints_of_not_complete
    (h : ∀ c entries, Answers network address c → ¬ Ends cancelled c.catalog (.complete entries)) :
    backupHints network address cancelled = [] := by
  rw [backupHints]
  cases hopen : openPlaintext network address with
  | error e => rfl
  | ok channel =>
    have ha := answers_of_openPlaintext hopen
    obtain ⟨e, he⟩ := exists_error_of_not_complete fun entries => h _ entries ha
    simp only [he]

/-- The program offers what it should. -/
theorem offers_backupHints (network : Network) (address : String) (cancelled : Bool) :
    Offers network address cancelled (backupHints network address cancelled) := by
  by_cases h : ∃ c entries, Answers network address c ∧ Ends cancelled c.catalog (.complete entries)
  · obtain ⟨c, entries, ha, he⟩ := h
    rw [backupHints_of_complete ha he]
    exact .whole ha he (hinted_hintsOf (.refl _))
  · push Not at h
    rw [backupHints_of_not_complete h]
    exact .nothing h

theorem offers_iff : Offers network address cancelled hints ↔
    backupHints network address cancelled = hints :=
  ⟨fun h => h.unique (offers_backupHints ..), fun h => h ▸ offers_backupHints ..⟩

/-- Something is on offer if and only if a catalog that is not empty is received to its end. -/
theorem backupHints_ne_nil_iff : backupHints network address cancelled ≠ [] ↔
    ∃ c entries, Answers network address c ∧ Ends cancelled c.catalog (.complete entries) ∧
      entries ≠ [] := by
  constructor
  · intro hne
    have hoffers := offers_backupHints network address cancelled
    generalize backupHints network address cancelled = hints at hne hoffers
    cases hoffers with
    | whole ha he hh => exact ⟨_, _, ha, he, mt hh.eq_nil_iff.mpr hne⟩
    | nothing _ => exact absurd rfl hne
  · rintro ⟨c, entries, ha, he, hne⟩
    rw [backupHints_of_complete ha he]
    exact mt (hinted_hintsOf (.refl _)).eq_nil_iff.mp hne

/-! ## The listing of the same catalog -/

/-- A listing that is complete prints its entries. -/
theorem written_of_complete {w : Writer} (hw : w.Reliable)
    (he : Ends cancelled c.catalog (.complete entries)) :
    (dispatch .listBackups c cancelled w).written =
      w.written ++ utf8Bytes (Listing.renderBackups (Catalog.ofEntries entries)) := by
  have hrun : dispatch .listBackups c cancelled w =
      .ofWrite (Listing.renderBackups (Catalog.ofEntries entries)) w [.call .catalog] :=
    runListing_of_complete he listBackups Catalog.ofEntries
  rw [hrun, Outcome.ofWrite_of_reliable hw]

/-- One that is not prints nothing. -/
theorem written_of_not_complete (w : Writer)
    (h : ∀ entries, ¬ Ends cancelled c.catalog (.complete entries)) :
    (dispatch .listBackups c cancelled w).written = w.written := by
  obtain ⟨e, he⟩ := exists_error_of_not_complete h
  exact (runListing_of_error he).1

/-- **The whole catalog or nothing.** Whatever the coordinator at an address does, and whenever the token
is cancelled, the hints are those that `Offers` asks for, and no others would do. They do not depend on
the order in which the catalog is gone through. A coordinator of the same behaviour is asked to list its
backups, with a writer that never fails: if the stream is received to the end of its data, the filenames
of the hints are those that are printed, in the same order; if not, nothing is printed and there is no
hint. -/
theorem hints_whole_or_none (network : Network) (address : String) (cancelled : Bool) :
    (∀ hints, Offers network address cancelled hints ↔
      backupHints network address cancelled = hints) ∧
    (∀ c entries catalog, Answers network address c → Ends cancelled c.catalog (.complete entries) →
      catalog.Perm (Catalog.ofEntries entries) →
      hintsOf catalog = backupHints network address cancelled) ∧
    ∀ (c d : Coordinator) (w : Writer), Answers network address c → d.catalog = c.catalog →
      w.Reliable →
      (∀ entries, Ends cancelled c.catalog (.complete entries) →
        ∃ listed text, Catalogued entries listed ∧ BackupsText listed text ∧
          (dispatch .listBackups d cancelled w).written = w.written ++ utf8Bytes text ∧
          (backupHints network address cancelled).map Hint.filename = listed.map Prod.fst) ∧
      ((∀ entries, ¬ Ends cancelled c.catalog (.complete entries)) →
        (dispatch .listBackups d cancelled w).written = w.written ∧
          backupHints network address cancelled = []) := by
  refine ⟨fun hints => offers_iff, ?_, ?_⟩
  · intro c entries catalog ha he hperm
    rw [backupHints_of_complete ha he]
    exact (hinted_hintsOf (.refl _)).unique (hinted_hintsOf hperm)
  · intro c d w ha hd hw
    rw [← hd]
    constructor
    · intro entries he
      refine ⟨(Catalog.ofEntries entries).sorted, _, catalogued_sorted (.refl _),
        backupsText_renderBackups _, written_of_complete hw he, ?_⟩
      rw [backupHints_of_complete ha (hd ▸ he), hintsOf_eq, map_filename_map_hintOf]
    · -- Hints are asked of the coordinator that answers, and it has the catalog that broke off.
      intro h
      refine ⟨written_of_not_complete w h, backupHints_of_not_complete ?_⟩
      intro c' entries ha' he
      obtain rfl := ha.unique ha'
      exact h entries (hd ▸ he)

end BackupConsole.Completion
