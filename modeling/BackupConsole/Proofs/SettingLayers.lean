/-
  How settings are layered.

  1. **Specification** — `First` finds the setting that counts among the layers on top of one another; a
     layer may be silent, or hold a value that makes no setting. `Contributes` says what the
     configuration file adds, `Fault` what is wrong with a command, and `Resolves` puts the three
     together: the file comes first, then the command, then the layers.

  2. **Program** — `contributes_iff` and `validate_eq_error_iff` tie the first two steps to the program,
     `layered_merge` the third.

  3. **Correctness** — `resolves_iff`: settings are resolved in exactly one way. What
     `settings_resolved_by_layers` says of single settings, and of two runs, follows from it.
-/
import BackupConsole.Settings.Resolve

namespace BackupConsole.Settings

open Text

/-! ## The layer that counts -/

variable {α : Type} {counts : α → Prop} {layers : List (Option α)}

/-- The first of some layers that holds a value that counts, if there is one. -/
inductive First (counts : α → Prop) : List (Option α) → Option α → Prop
  | nothing : First counts [] none
  | here {a : α} {beneath : List (Option α)} : counts a → First counts (some a :: beneath) (some a)
  | further {layer : Option α} {beneath : List (Option α)} {found : Option α} :
    (∀ a, layer = some a → ¬ counts a) → First counts beneath found →
    First counts (layer :: beneath) found

/-- One layer at most is the first that counts. -/
theorem First.unique {found other : Option α} (h : First counts layers found)
    (ho : First counts layers other) : found = other := by
  induction h with
  | nothing =>
    cases ho
    rfl
  | here ha =>
    cases ho with
    | here => rfl
    | further hn => exact absurd ha (hn _ rfl)
  | further hn _ ih =>
    cases ho with
    | here ha => exact absurd ha (hn _ rfl)
    | further _ ho => exact ih ho

/-- What is found counts. -/
theorem First.counts_of_some {a : α} (h : First counts layers (some a)) : counts a := by
  generalize hfound : some a = found at h
  induction h with
  | nothing => cases hfound
  | here ha =>
    cases hfound
    exact ha
  | further _ _ ih => exact ih hfound

/-- One more layer on top, where every value counts. -/
theorem First.present {found : Option α} (h : First (fun _ => True) layers found)
    (layer : Option α) : First (fun _ => True) (layer :: layers) (layer.or found) := by
  cases layer with
  | none => exact .further nofun h
  | some a => exact .here trivial

/-- One more layer on top, where empty texts do not count. -/
theorem First.nonEmpty {texts : List (Option String)} {found : Option String}
    (h : First (· ≠ "") texts found) (text : Option String) :
    First (· ≠ "") (text :: texts) ((Settings.nonEmpty text).or found) := by
  cases text with
  | none => exact .further nofun h
  | some t =>
    by_cases ht : t = ""
    · subst ht
      exact .further (fun _ hempty => by simpa using hempty.symm) h
    · have hcounts : Settings.nonEmpty (some t) = some t := by simp [Settings.nonEmpty, ht]
      rw [hcounts]
      exact .here ht

/-- Settings as the layers make them: of texts the first that is not empty counts, of truth values the
first that is given. -/
structure Layered (flags : Flags) (file : FileSettings) (r : Resolved) : Prop where
  serverAddress : First (· ≠ "") [flags.serverAddress, file.serverAddress, some "127.0.0.1:10001"]
    (some r.serverAddress)
  caFile : First (· ≠ "") [flags.caFile, file.caFile] r.caFile
  useTls : First (fun _ => True) [flags.tls, file.tls, some false] (some r.useTls)

/-! ## The configuration file -/

/-- What the configuration file contributes: its path and its settings, or nothing, or a reason to stop.
The operator may have named a path. -/
inductive Contributes (s : Surroundings) (named : Option String) (default : String) :
    Except ConfigError (Option (String × FileSettings)) → Prop
  /-- An empty path means that there is no such file. -/
  | skipped : named.getD default = "" → Contributes s named default (.ok none)
  /-- A path that leads to something is loaded. -/
  | loaded {path : String} {settings : FileSettings} : named.getD default ≠ "" →
    expandHome s.home (named.getD default) = .ok path → s.files.leadsTo path = true →
    load s.files path = .ok settings → Contributes s named default (.ok (some (path, settings)))
  /-- What cannot be loaded is no settings. -/
  | unreadable {path : String} {reason : LoadError} : named.getD default ≠ "" →
    expandHome s.home (named.getD default) = .ok path → s.files.leadsTo path = true →
    load s.files path = .error reason → Contributes s named default (.error (.load path reason))
  /-- A path that the operator named has to lead to something. -/
  | missing {raw path : String} : named = some raw → raw ≠ "" → expandHome s.home raw = .ok path →
    s.files.leadsTo path = false → Contributes s named default (.error (.notFound path))
  /-- The default path need not. -/
  | absent {path : String} : named = none → default ≠ "" → expandHome s.home default = .ok path →
    s.files.leadsTo path = false → Contributes s named default (.ok none)
  /-- There is no path if the home directory it begins with is not known. -/
  | homeless {e : ConfigError} : named.getD default ≠ "" →
    expandHome s.home (named.getD default) = .error e → Contributes s named default (.error e)

variable {s : Surroundings} {named : Option String} {default : String} {flags : Flags}
  {command : Command}

/-- The configuration file contributes something, if only a reason to stop. -/
theorem exists_contributes (s : Surroundings) (named : Option String) (default : String) :
    ∃ layer, Contributes s named default layer := by
  by_cases hraw : named.getD default = ""
  · exact ⟨_, .skipped hraw⟩
  cases hpath : expandHome s.home (named.getD default) with
  | error e => exact ⟨_, .homeless hraw hpath⟩
  | ok path =>
    cases hleads : s.files.leadsTo path with
    | true =>
      cases hload : load s.files path with
      | ok settings => exact ⟨_, .loaded hraw hpath hleads hload⟩
      | error reason => exact ⟨_, .unreadable hraw hpath hleads hload⟩
    | false =>
      cases named with
      | none => exact ⟨_, .absent rfl hraw hpath hleads⟩
      | some raw => exact ⟨_, .missing rfl hraw hpath hleads⟩

theorem fileLayer_of_contributes {layer : Except ConfigError (Option (String × FileSettings))}
    (h : Contributes s named default layer) : fileLayer s named default = layer := by
  cases h with
  | skipped hraw => simp [fileLayer, hraw]
  | loaded hraw hpath hleads hload => simp [fileLayer, hraw, hpath, hleads, hload]
  | unreadable hraw hpath hleads hload => simp [fileLayer, hraw, hpath, hleads, hload]
  | missing hnamed hraw hpath hleads => simp [fileLayer, hnamed, hraw, hpath, hleads]
  | absent hnamed hraw hpath hleads => simp [fileLayer, hnamed, hraw, hpath, hleads]
  | homeless hraw hpath => simp [fileLayer, hraw, hpath]

theorem contributes_iff {layer : Except ConfigError (Option (String × FileSettings))} :
    Contributes s named default layer ↔ fileLayer s named default = layer := by
  refine ⟨fileLayer_of_contributes, fun h => ?_⟩
  obtain ⟨found, hfound⟩ := exists_contributes s named default
  rwa [← h, fileLayer_of_contributes hfound]

/-! ## Commands -/

/-- What is wrong with a command, whatever else is known. -/
inductive Fault : Command → ConfigError → Prop
  | undescribed {options : BackupOptions} : isBlank options.description = true →
    Fault (.backup options) .missingDescription
  | cipher {options : BackupOptions} : isBlank options.description = false → options.cipher ≠ "" →
    options.cipher ≠ "none" → Fault (.backup options) (.unsupportedCipher ⟨options.cipher⟩)
  | unnamed {options : RestoreOptions} : isBlank options.metadataFile = true →
    Fault (.restore options) .missingMetadataFile

theorem fault_of_validate {e : ConfigError} (h : validate command = .error e) : Fault command e := by
  cases command with
  | backup options =>
    cases hblank : isBlank options.description with
    | true =>
      simp only [validate, hblank, if_true] at h
      cases h
      exact .undescribed hblank
    | false =>
      cases hword : Cipher.ofSymbol? options.cipher with
      | none =>
        simp only [validate, cipherOfSymbol, hblank, hword] at h
        cases h
        obtain ⟨hempty, hnone⟩ := Cipher.ofSymbol?_eq_none_iff.mp hword
        exact .cipher hblank hempty hnone
      | some cipher => simp [validate, cipherOfSymbol, hblank, hword] at h
  | restore options =>
    cases hblank : isBlank options.metadataFile with
    | true =>
      simp only [validate, hblank, if_true] at h
      cases h
      exact .unnamed hblank
    | false => simp [validate, hblank] at h
  | listNodes verbose => cases h
  | listBackups => cases h

/-- A command is refused exactly for its fault. -/
theorem validate_eq_error_iff {e : ConfigError} : validate command = .error e ↔ Fault command e := by
  refine ⟨fault_of_validate, fun h => ?_⟩
  cases h with
  | undescribed hblank => simp [validate, hblank]
  | cipher hblank hempty hnone =>
    simp [validate, cipherOfSymbol, hblank, Cipher.ofSymbol?_eq_none_iff.mpr ⟨hempty, hnone⟩]
  | unnamed hblank => simp [validate, hblank]

/-- A command is in order or has one fault. -/
theorem validate_cases (command : Command) :
    (validate command = .ok () ∧ ∀ e, ¬ Fault command e) ∨
      ∃ e, validate command = .error e ∧ Fault command e := by
  cases h : validate command with
  | ok _ =>
    refine .inl ⟨rfl, fun e he => ?_⟩
    rw [validate_eq_error_iff.mpr he] at h
    cases h
  | error e => exact .inr ⟨e, rfl, validate_eq_error_iff.mp h⟩

/-! ## Layers -/

variable {file : FileSettings} {r r' : Resolved}

/-- An empty text is as good as none. -/
theorem nonEmpty_empty : nonEmpty (some "") = nonEmpty none := by decide

/-- A layered address is never empty, for the default is not. -/
theorem Layered.serverAddress_ne (h : Layered flags file r) : r.serverAddress ≠ "" :=
  h.serverAddress.counts_of_some

/-- The layers settle the settings. -/
theorem Layered.unique (h : Layered flags file r) (h' : Layered flags file r') :
    r'.useTls = r.useTls ∧ r'.caFile = r.caFile ∧ r'.serverAddress = r.serverAddress :=
  ⟨Option.some.inj (h'.useTls.unique h.useTls), h'.caFile.unique h.caFile,
    Option.some.inj (h'.serverAddress.unique h.serverAddress)⟩

/-- A command in order leaves nothing to do but to put the layers on top of one another. -/
theorem layered_merge (flags : Flags) (file : FileSettings) (h : validate command = .ok ()) :
    ∃ r, merge flags file command = .ok r ∧ Layered flags file r ∧ r.configFile = none ∧
      r.command = command := by
  -- Each setting is built from its lowest layer up.
  have haddress : First (· ≠ "") [some defaultServerAddress] (some defaultServerAddress) :=
    .here (by decide)
  have haddress := (haddress.nonEmpty file.serverAddress).nonEmpty flags.serverAddress
  have hcertificates := (First.nothing.nonEmpty file.caFile).nonEmpty flags.caFile
  have hencryption : First (fun _ => True) [some false] (some false) := .here trivial
  have hencryption := (hencryption.present file.tls).present flags.tls
  rw [← Option.or_assoc, Option.or_some] at haddress hencryption
  rw [Option.or_none] at hcertificates
  rw [merge, h]
  exact ⟨_, rfl, ⟨haddress, hcertificates, hencryption⟩, rfl, rfl⟩

/-- An explicit `false` hides the file's `true`, an empty address hides nothing. -/
example :
    merge ⟨some false, none, some "", none⟩ ⟨some true, none, some "10.0.0.1:1"⟩ .listBackups =
      .ok ⟨false, none, "10.0.0.1:1", none, .listBackups⟩ := by
  rfl

/-! ## Resolving -/

/-- What the layer of the configuration file sets, if there is one. -/
def settingsIn (layer : Option (String × FileSettings)) : FileSettings :=
  (layer.map Prod.snd).getD .none

/-- How the settings of a command come about. -/
inductive Resolves (s : Surroundings) (default : String) (flags : Flags) (command : Command) :
    Except ConfigError Resolved → Prop
  /-- What is wrong with the file comes before anything that is wrong with the command. -/
  | unreadable {e : ConfigError} : Contributes s flags.configFile default (.error e) →
    Resolves s default flags command (.error e)
  | refused {layer : Option (String × FileSettings)} {e : ConfigError} :
    Contributes s flags.configFile default (.ok layer) → Fault command e →
    Resolves s default flags command (.error e)
  | layered {layer : Option (String × FileSettings)} {r : Resolved} :
    Contributes s flags.configFile default (.ok layer) → (∀ e, ¬ Fault command e) →
    Layered flags (settingsIn layer) r → r.configFile = layer.map Prod.fst → r.command = command →
    Resolves s default flags command (.ok r)

theorem resolveWith_of_error {e : ConfigError} (h : fileLayer s flags.configFile default = .error e) :
    resolveWith s default flags command = .error e := by
  simp [resolveWith, h]

theorem resolveWith_of_fault {layer : Option (String × FileSettings)} {e : ConfigError}
    (h : fileLayer s flags.configFile default = .ok layer) (hv : validate command = .error e) :
    resolveWith s default flags command = .error e := by
  cases layer <;> simp [resolveWith, h, merge, hv]

/-- A command in order gets the layers of its flags and of the file, which is named. -/
theorem resolveWith_of_valid {layer : Option (String × FileSettings)}
    (h : fileLayer s flags.configFile default = .ok layer) (hv : validate command = .ok ()) :
    ∃ r, resolveWith s default flags command = .ok r ∧ Layered flags (settingsIn layer) r ∧
      r.configFile = layer.map Prod.fst ∧ r.command = command := by
  obtain ⟨r, hmerge, hlayered, hunnamed, hcommand⟩ := layered_merge flags (settingsIn layer) hv
  cases layer with
  | none =>
    refine ⟨r, ?_, hlayered, hunnamed, hcommand⟩
    rw [resolveWith, h]
    exact hmerge
  | some found =>
    refine ⟨{ r with configFile := some found.1 }, ?_, ?_, rfl, hcommand⟩
    · have hmerge' : merge flags found.2 command = .ok r := hmerge
      simp [resolveWith, h, hmerge']
    · exact ⟨hlayered.serverAddress, hlayered.caFile, hlayered.useTls⟩

/-- Settings resolve somehow. -/
theorem resolves_resolveWith (s : Surroundings) (default : String) (flags : Flags)
    (command : Command) : Resolves s default flags command (resolveWith s default flags command) := by
  cases hlayer : fileLayer s flags.configFile default with
  | error e =>
    rw [resolveWith_of_error hlayer]
    exact .unreadable (contributes_iff.mpr hlayer)
  | ok layer =>
    rcases validate_cases command with ⟨hv, hsound⟩ | ⟨e, hv, hfault⟩
    · obtain ⟨r, hr, hlayered, hnamed, hcommand⟩ := resolveWith_of_valid hlayer hv
      rw [hr]
      exact .layered (contributes_iff.mpr hlayer) hsound hlayered hnamed hcommand
    · rw [resolveWith_of_fault hlayer hv]
      exact .refused (contributes_iff.mpr hlayer) hfault

/-- Settings resolve in one way only. -/
theorem resolveWith_of_resolves {result : Except ConfigError Resolved}
    (h : Resolves s default flags command result) :
    resolveWith s default flags command = result := by
  cases h with
  | unreadable hlayer => exact resolveWith_of_error (contributes_iff.mp hlayer)
  | refused hlayer hfault =>
    exact resolveWith_of_fault (contributes_iff.mp hlayer) (validate_eq_error_iff.mpr hfault)
  | @layered layer r hlayer hsound hlayered hnamed hcommand =>
    -- The program's settings are layered as well, and the layers leave no choice.
    rcases validate_cases command with ⟨hv, -⟩ | ⟨e, -, hfault⟩
    · obtain ⟨r', hr, hlayered', hnamed', hcommand'⟩ :=
        resolveWith_of_valid (contributes_iff.mp hlayer) hv
      obtain ⟨huse, hca, haddress⟩ := hlayered.unique hlayered'
      rw [hr, Except.ok.injEq]
      cases r
      cases r'
      simp_all
    · exact absurd hfault (hsound e)

/-- The program resolves settings as specified, and no other result is one. -/
theorem resolves_iff {result : Except ConfigError Resolved} :
    Resolves s default flags command result ↔ resolveWith s default flags command = result :=
  ⟨resolveWith_of_resolves, fun h => h ▸ resolves_resolveWith s default flags command⟩

/-! ## What settings depend on -/

/-- What resolved settings are made of. -/
theorem layered_of_resolveWith (h : resolveWith s default flags command = .ok r) :
    ∃ layer, fileLayer s flags.configFile default = .ok layer ∧ (∀ e, ¬ Fault command e) ∧
      Layered flags (settingsIn layer) r ∧ r.configFile = layer.map Prod.fst ∧
      r.command = command := by
  cases resolves_iff.mpr h with
  | layered hlayer hsound hlayered hnamed hcommand =>
    exact ⟨_, contributes_iff.mp hlayer, hsound, hlayered, hnamed, hcommand⟩

/-- The settings of a connection are the same for every command. -/
theorem settings_of_commands {other : Command} (h : resolveWith s default flags command = .ok r)
    (h' : resolveWith s default flags other = .ok r') : r' = { r with command := other } := by
  obtain ⟨layer, hlayer, -, hlayered, hnamed, -⟩ := layered_of_resolveWith h
  obtain ⟨layer', hlayer', -, hlayered', hnamed', hcommand'⟩ := layered_of_resolveWith h'
  -- Both runs read the same file, so the same layers count.
  obtain rfl : layer = layer' := Except.ok.inj (hlayer.symm.trans hlayer')
  obtain ⟨huse, hca, haddress⟩ := hlayered.unique hlayered'
  cases r'
  simp_all

/-- Where the file contributes what it should, a command is refused for its own fault only. -/
theorem resolveWith_eq_error_iff {layer : Option (String × FileSettings)} {e : ConfigError}
    (h : fileLayer s flags.configFile default = .ok layer) :
    resolveWith s default flags command = .error e ↔ Fault command e := by
  refine ⟨fun hr => ?_, fun hfault => resolveWith_of_fault h (validate_eq_error_iff.mpr hfault)⟩
  cases resolves_iff.mpr hr with
  | unreadable hlayer =>
    rw [contributes_iff.mp hlayer] at h
    cases h
  | refused _ hfault => exact hfault

/-- With a home directory that is known no path fails to expand for want of one. -/
theorem expandHome_ne_homeUnknown {home path unexpanded : String} :
    expandHome (some home) path ≠ .error (.homeUnknown unexpanded) := by
  unfold expandHome
  split <;> exact nofun

/-- The home directory is missed only where it is not known. -/
theorem resolveWith_ne_homeUnknown {home path : String} (hhome : s.home = some home) :
    resolveWith s default flags command ≠ .error (.homeUnknown path) := by
  intro h
  cases resolves_iff.mpr h with
  | unreadable hlayer =>
    cases hlayer with
    | homeless _ hpath => exact expandHome_ne_homeUnknown (hhome ▸ hpath)
  | refused _ hfault => cases hfault

/-- **How settings are resolved.** Exactly as `Resolves` says: the configuration file is passed over,
loaded or refused, then the command is checked, then the layers settle the rest. An address is there
always; a truth value from a flag counts whatever the file says, an empty text from a flag never does.
The settings of the connection are the same for every command; where the files can be had, a command
is refused in one run exactly if it is refused in the other, and for the same reason. -/
theorem settings_resolved_by_layers (s : Surroundings) (default : String) (flags : Flags)
    (command : Command) :
    (∀ result, resolveWith s default flags command = result ↔
      Resolves s default flags command result) ∧
    (∀ home path, s.home = some home →
      resolveWith s default flags command ≠ .error (.homeUnknown path)) ∧
    (∀ r, resolveWith s default flags command = .ok r →
      r.serverAddress ≠ "" ∧ (∀ b, flags.tls = some b → r.useTls = b) ∧ r.command = command) ∧
    (resolveWith s default { flags with serverAddress := some "" } command =
      resolveWith s default { flags with serverAddress := none } command) ∧
    (resolveWith s default { flags with caFile := some "" } command =
      resolveWith s default { flags with caFile := none } command) ∧
    (∀ other r r', resolveWith s default flags command = .ok r →
      resolveWith s default flags other = .ok r' → r' = { r with command := other }) ∧
    (∀ s' default' flags' layer layer', fileLayer s flags.configFile default = .ok layer →
      fileLayer s' flags'.configFile default' = .ok layer' → ∀ e,
      (resolveWith s default flags command = .error e ↔
        resolveWith s' default' flags' command = .error e)) := by
  refine ⟨fun result => resolves_iff.symm, fun home path hhome => resolveWith_ne_homeUnknown hhome,
    fun r hr => ?_, ?_, ?_, fun other r r' h h' => settings_of_commands h h', ?_⟩
  · obtain ⟨layer, -, -, hlayered, -, hcommand⟩ := layered_of_resolveWith hr
    refine ⟨hlayered.serverAddress_ne, fun b hb => ?_, hcommand⟩
    -- A flag is the first layer, so it is the one that counts.
    have hflag := hlayered.useTls
    rw [hb] at hflag
    exact Option.some.inj (hflag.unique (.here trivial))
  · -- An empty text is taken for none before any layer is looked at.
    simp only [resolveWith, merge, nonEmpty_empty]
  · simp only [resolveWith, merge, nonEmpty_empty]
  · -- Which error comes depends on the command alone, once the file is had.
    intro s' default' flags' layer layer' h h' e
    rw [resolveWith_eq_error_iff h, resolveWith_eq_error_iff h']

end BackupConsole.Settings
