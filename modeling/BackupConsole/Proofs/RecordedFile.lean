/-
  Which file the settings come from, and on which files they depend.

  1. **Specification** — `Decodes` says what the bytes of a configuration file set. The file that counts is
     the regular file at exactly the path that is recorded.

  2. **Program** — two checks have to agree: whether the path leads to anything, and whether a regular file
     is there. They differ at a directory. `load_of_file` says what is loaded from a regular file, whatever
     else there is in the tree; `load_of_directory` says that a directory is passed over for the files that
     have its name and an extension more. A file at the path that cannot be read ends the run
     (`resolveWith_of_unreadable`).

  3. **Correctness** — `settings_of_recorded_file`: the settings are those of the recorded file and depend on
     no other file, unless a directory stands at the path. Then they are the settings of a file beside it,
     and no file is at the path that is recorded.
-/
import BackupConsole.Proofs.SettingLayers
import BackupConsole.Proofs.Trees

namespace BackupConsole.Settings

open FileTree Text

variable {t u : FileTree} {path file : String} {bytes : List UInt8}
  {content : Except FileError (List UInt8)} {settings : FileSettings}

/-! ## What a file sets -/

/-- What the bytes of a configuration file set, whatever its name. -/
def Decodes (bytes : List UInt8) (settings : FileSettings) : Prop :=
  ∃ root, rootOfText (fileChars bytes) = .ok root ∧ settingsOfRoot root = .ok settings

/-- Bytes make settings exactly if they decode to them. -/
theorem settingsOfBytes_eq_ok_iff :
    settingsOfBytes file bytes = .ok settings ↔ Decodes bytes settings := by
  unfold settingsOfBytes Decodes
  cases rootOfText (fileChars bytes) with
  | error reason => simp
  | ok root => cases h : settingsOfRoot root <;> simp [h]

/-- A file makes settings exactly if it can be read and its bytes decode to them. -/
theorem settingsOfContent_eq_ok_iff : settingsOfContent file content = .ok settings ↔
    ∃ bytes, content = .ok bytes ∧ Decodes bytes settings := by
  cases content with
  | ok bytes => simp [settingsOfContent, settingsOfBytes_eq_ok_iff]
  | error reason => simp [settingsOfContent]

/-! ## Which file is loaded -/

/-- The files that are tried where no regular file is at a path. -/
def beside (t : FileTree) (path : String) : List String :=
  [withExtension (t.fullPath path) "yaml", withExtension (t.fullPath path) "yml"]

/-- What is loaded: the first file there is. -/
def loadFirst (t : FileTree) (path : String) (paths : List String) : Except LoadError FileSettings :=
  match firstFile t paths with
  | none => .error (.missing (.absent path))
  | some (file, content) => settingsOfContent (seenFrom t file) content

/-- The exact path comes before those beside it. -/
theorem load_eq (t : FileTree) (path : String) :
    load t path = loadFirst t path (t.fullPath path :: beside t path) := by
  -- Opened as it is, since its equation takes long to derive.
  delta load
  rfl

/-- Where there is no regular file, the next path is tried. -/
theorem firstFile_cons_of_none {paths : List String} (h : t.content? file = none) :
    firstFile t (file :: paths) = firstFile t paths := by
  rw [firstFile, h]

/-- Where there is none at all, there is no first one. -/
theorem firstFile_of_none {paths : List String} (h : ∀ file ∈ paths, t.content? file = none) :
    firstFile t paths = none := by
  induction paths with
  | nil => rfl
  | cons file paths ih =>
    rw [firstFile_cons_of_none (h file List.mem_cons_self)]
    exact ih fun other hother => h other (List.mem_cons_of_mem _ hother)

/-- The first file is known by the files at the paths. -/
theorem firstFile_congr {paths : List String}
    (h : ∀ file ∈ paths, u.content? file = t.content? file) : firstFile u paths = firstFile t paths := by
  induction paths with
  | nil => rfl
  | cons file paths ih =>
    rw [firstFile, firstFile, h file List.mem_cons_self,
      ih fun other hother => h other (List.mem_cons_of_mem _ hother)]

/-- The empty path leads nowhere. -/
theorem ne_empty_of_find {node : FileNode} (h : t.find path = .ok node) : path ≠ "" :=
  (find_eq_ok_iff.mp h).2.1

/-- Neither does a path that is too long. -/
theorem content?_of_long (h : pathLimit < path.utf8ByteSize) : t.content? path = none := by
  rw [Option.eq_none_iff_forall_ne_some]
  intro content hcontent
  obtain ⟨-, -, hlimit, -⟩ := find_eq_ok_iff.mp (content?_eq_some_iff.mp hcontent)
  omega

/-- Where a regular file is at a path, an extension makes the path longer. -/
theorem lt_size_of_mem_beside (ht : t.Rooted) (hf : t.find path = .ok (.regular content))
    (hfile : file ∈ beside t path) : (t.fullPath path).utf8ByteSize < file.utf8ByteSize := by
  have hregular : FileNode.regular content ≠ .directory := by cases content <;> exact nofun
  -- Only directories are named by paths that end without a name.
  obtain ⟨front, name, hpieces, hempty, hhere, hup⟩ := exists_name_of_find ht hregular hf
  obtain ⟨before, hfull⟩ : ∃ before, pieces (t.fullPath path) = before ++ [name] := by
    cases hp : isAbsolute path with
    | true => exact ⟨front, by rw [fullPath, joinPath_of_isAbsolute hp, hpieces]⟩
    | false =>
      obtain ⟨above, -, -, hjoined⟩ :=
        pieces_joinPath (directoryPath_ne_empty t.workingDirectory) hp
      exact ⟨above ++ front, by rw [fullPath, hjoined, hpieces, List.append_assoc]⟩
  -- The extension is put behind the name, so the path gets longer.
  have hsize : ∀ extension : String, (t.fullPath path).utf8ByteSize <
      (withExtension (t.fullPath path) extension).utf8ByteSize := by
    intro extension
    have hdot : ".".utf8ByteSize = 1 := by decide
    rw [withExtension_of_name hfull hempty hhere hup, String.utf8ByteSize_append,
      String.utf8ByteSize_append]
    omega
  simp only [beside, List.mem_cons, List.not_mem_nil, or_false] at hfile
  rcases hfile with rfl | rfl
  · exact hsize "yaml"
  · exact hsize "yml"

/-- Where no regular file is at the full path, the files beside it are tried. -/
theorem load_of_none (hnone : t.content? (t.fullPath path) = none) :
    load t path = loadFirst t path (beside t path) := by
  rw [load_eq, loadFirst, firstFile_cons_of_none hnone, loadFirst]

/-- A regular file is loaded, whatever stands beside it. If its full path is too long, nothing is. -/
theorem load_of_file (ht : t.Rooted) (hf : t.find path = .ok (.regular content)) :
    load t path =
      if (t.fullPath path).utf8ByteSize ≤ pathLimit then
        settingsOfContent (seenFrom t (t.fullPath path)) content
      else .error (.missing (.absent path)) := by
  have hfull : t.find (t.fullPath path) = .ok (.regular content) ↔
      (t.fullPath path).utf8ByteSize ≤ pathLimit ∧ t.find path = .ok (.regular content) :=
    ht.find_fullPath (ne_empty_of_find hf)
  rw [load_eq, loadFirst]
  by_cases hlimit : (t.fullPath path).utf8ByteSize ≤ pathLimit
  · have hcontent := content?_eq_some_iff.mpr (hfull.mpr ⟨hlimit, hf⟩)
    rw [firstFile_cons_of_some hcontent, if_pos hlimit]
  · -- What has an extension more is too long as well.
    have hnone : ∀ file ∈ t.fullPath path :: beside t path, t.content? file = none := by
      intro file hfile
      refine content?_of_long ?_
      rcases List.mem_cons.mp hfile with rfl | hfile
      · omega
      · have hlt := lt_size_of_mem_beside ht hf hfile
        omega
    rw [firstFile_of_none hnone, if_neg hlimit]

/-- A file that cannot be read is refused, whatever stands beside it. -/
theorem load_of_unreadable (ht : t.Rooted) {reason : FileError}
    (hf : t.find path = .ok (.unreadable reason)) : ∃ why, load t path = .error (.missing why) := by
  have hregular : t.find path = .ok (.regular (.error reason)) := hf
  rw [load_of_file ht hregular]
  split
  · exact ⟨.unread reason, rfl⟩
  · exact ⟨.absent path, rfl⟩

/-- A directory is passed over for the files beside it. -/
theorem load_of_directory (ht : t.Rooted) (hf : t.find path = .ok .directory) :
    load t path = loadFirst t path (beside t path) := by
  refine load_of_none (Option.eq_none_iff_forall_ne_some.mpr fun content hcontent => ?_)
  have hfull := (ht.find_fullPath (ne_empty_of_find hf)).mp (content?_eq_some_iff.mp hcontent)
  rw [hf] at hfull
  cases content <;> cases hfull.2

/-- What has been loaded comes from the file at the path, or from one beside a directory. -/
theorem decodes_of_load (ht : t.Rooted) (hl : t.leadsTo path = true)
    (h : load t path = .ok settings) :
    ∃ bytes, Decodes bytes settings ∧
      (t.readFile? path = some bytes ∨ t.find path = .ok .directory ∧
        ∃ file, firstFile t (beside t path) = some (file, .ok bytes)) := by
  obtain ⟨node, hf⟩ := leadsTo_iff.mp hl
  -- A regular file is read itself; where a directory has the path, a file beside it is.
  cases hc : t.content? path with
  | some content =>
    rw [load_of_file ht (content?_eq_some_iff.mp hc)] at h
    split at h
    · obtain ⟨bytes, rfl, hdecodes⟩ := settingsOfContent_eq_ok_iff.mp h
      exact ⟨bytes, hdecodes, .inl (readFile?_of_content.mpr hc)⟩
    · cases h
  | none =>
    have hd : t.find path = .ok .directory := find_of_content?_eq_none hf hc
    rw [load_of_directory ht hd, loadFirst] at h
    split at h
    · cases h
    · next file content hfile =>
      obtain ⟨bytes, rfl, hdecodes⟩ := settingsOfContent_eq_ok_iff.mp h
      exact ⟨bytes, hdecodes, .inr ⟨hd, file, hfile⟩⟩

/-! ## Two trees -/

/-- Trees that are the same to one who reads the file at a path: they have the same directories and the
same file there. Where a directory is at the path, the two files beside it count too. -/
structure AgreeAt (path : String) (t u : FileTree) : Prop where
  directories : SameDirectories t u
  file : u.content? path = t.content? path
  beside : t.find path = .ok .directory →
    ∀ file ∈ beside t path, u.content? file = t.content? file

/-- Such trees do not differ in whether the path leads to anything, -/
theorem AgreeAt.leadsTo (h : AgreeAt path t u) : u.leadsTo path = t.leadsTo path := by
  rw [Bool.eq_iff_iff, leadsTo_iff, leadsTo_iff]
  exact ⟨fun ⟨node, hf⟩ => ⟨node, h.directories.symm.find h.file.symm hf⟩,
    fun ⟨node, hf⟩ => ⟨node, h.directories.find h.file hf⟩⟩

/-- nor in what is loaded from there. -/
theorem AgreeAt.load (h : AgreeAt path t u) (ht : t.Rooted) (hl : t.leadsTo path = true) :
    load u path = load t path := by
  obtain ⟨node, hf⟩ := leadsTo_iff.mp hl
  have hu := h.directories.rooted ht
  have hfu := h.directories.find h.file hf
  have hwd := h.directories.workingDirectory
  have hseen : ∀ file, seenFrom u file = seenFrom t file := fun file => by
    rw [seenFrom, seenFrom, hwd]
  have hfull : u.fullPath path = t.fullPath path := by rw [fullPath, fullPath, hwd]
  -- The program looks at the file, and beside it only if it is a directory.
  cases hc : t.content? path with
  | some content =>
    have hcu : u.content? path = some content := h.file.trans hc
    rw [load_of_file ht (content?_eq_some_iff.mp hc), load_of_file hu (content?_eq_some_iff.mp hcu),
      hfull, hseen]
  | none =>
    have hd : t.find path = .ok .directory := find_of_content?_eq_none hf hc
    obtain rfl : node = .directory := Except.ok.inj (hf.symm.trans hd)
    have hbeside : Settings.beside u path = Settings.beside t path := by
      rw [Settings.beside, Settings.beside, hfull]
    rw [load_of_directory ht hf, load_of_directory hu hfu, hbeside, loadFirst, loadFirst,
      firstFile_congr (h.beside hf)]
    simp only [hseen]

/-! ## Resolving -/

variable {s s' : Surroundings} {default : String} {flags : Flags} {command : Command} {r : Resolved}

/-- What was recorded is the expanded path, and what was merged was loaded from it. -/
theorem loaded_of_resolveWith (h : resolveWith s default flags command = .ok r)
    (hp : r.configFile = some path) :
    flags.configFile.getD default ≠ "" ∧
      expandHome s.home (flags.configFile.getD default) = .ok path ∧
      s.files.leadsTo path = true ∧ (∀ e, ¬ Fault command e) ∧
      ∃ settings, load s.files path = .ok settings ∧ Layered flags settings r := by
  obtain ⟨layer, hlayer, hsound, hlayered, hfile, -⟩ := layered_of_resolveWith h
  rw [hp] at hfile
  cases contributes_iff.mpr hlayer with
  | skipped _ => cases hfile
  | absent _ _ _ _ => cases hfile
  | loaded hraw hpath hleads hload =>
    cases hfile
    exact ⟨hraw, hpath, hleads, hsound, _, hload, hlayered⟩

/-- Where the path leads to something that can be loaded, a sound command resolves and the path is
recorded. -/
theorem exists_resolveWith_of_load (hraw : flags.configFile.getD default ≠ "")
    (hpath : expandHome s.home (flags.configFile.getD default) = .ok path)
    (hl : s.files.leadsTo path = true) (hload : load s.files path = .ok settings)
    (hsound : ∀ e, ¬ Fault command e) :
    ∃ r, resolveWith s default flags command = .ok r ∧ r.configFile = some path := by
  have hlayer := contributes_iff.mp (Contributes.loaded hraw hpath hl hload)
  rcases validate_cases command with ⟨hv, -⟩ | ⟨e, -, hfault⟩
  · obtain ⟨r, hr, -, hfile, -⟩ := resolveWith_of_valid hlayer hv
    exact ⟨r, hr, hfile⟩
  · exact absurd hfault (hsound e)

/-- A configuration file that cannot be read ends every run, although files stand beside it or all settings
are given by flags. -/
theorem resolveWith_of_unreadable (ht : s.files.Rooted) (hraw : flags.configFile.getD default ≠ "")
    (hpath : expandHome s.home (flags.configFile.getD default) = .ok path) {reason : FileError}
    (hf : s.files.find path = .ok (.unreadable reason)) :
    ∃ why, resolveWith s default flags command = .error (.load path (.missing why)) := by
  obtain ⟨why, hload⟩ := load_of_unreadable ht hf
  have hl : s.files.leadsTo path = true := leadsTo_iff.mpr ⟨_, hf⟩
  exact ⟨why, resolveWith_of_error (contributes_iff.mp (.unreadable hraw hpath hl hload))⟩

/-- Trees that agree at the path are resolved alike, settings or error. -/
theorem resolveWith_of_agreeAt (ht : s.files.Rooted) (hhome : s'.home = s.home)
    (h : ∀ path, expandHome s.home (flags.configFile.getD default) = .ok path →
      AgreeAt path s.files s'.files) :
    resolveWith s' default flags command = resolveWith s default flags command := by
  have hlayer : fileLayer s' flags.configFile default = fileLayer s flags.configFile default := by
    unfold fileLayer
    dsimp only
    rw [hhome]
    -- Only the file at the path, and those beside it, are ever looked at.
    cases hpath : expandHome s.home (flags.configFile.getD default) with
    | error e => rfl
    | ok path =>
      have hagree := h path hpath
      dsimp only
      rw [hagree.leadsTo]
      cases hl : s.files.leadsTo path with
      | false => rfl
      | true => rw [hagree.load ht hl]
  rw [resolveWith, resolveWith, hlayer]

/-- **The recorded file.** Where settings are resolved and a configuration file is recorded, they are layered
over what the regular file at exactly that path sets, unless a directory is there: then over what the first
file sets that stands beside it and has its name and an extension more. That comes about exactly where
such a file can be decoded and the command is in order, and is the only way in which a path is recorded at
which there is no regular file. Whether settings or an error, the result depends on the directories of the
tree and on the file at the path; no other file counts, but for the two beside a directory. -/
theorem settings_of_recorded_file (s : Surroundings) (default : String) (flags : Flags)
    (command : Command) (ht : s.files.Rooted) :
    (∀ r path, resolveWith s default flags command = .ok r → r.configFile = some path →
      ∃ bytes settings, Decodes bytes settings ∧ Layered flags settings r ∧
        (s.files.readFile? path = some bytes ∨ s.files.find path = .ok .directory ∧
          ∃ file, firstFile s.files (beside s.files path) = some (file, .ok bytes))) ∧
    ((∃ r path, resolveWith s default flags command = .ok r ∧ r.configFile = some path ∧
        s.files.readFile? path = none) ↔
      (∀ e, ¬ Fault command e) ∧ flags.configFile.getD default ≠ "" ∧
        ∃ path file bytes settings, expandHome s.home (flags.configFile.getD default) = .ok path ∧
          s.files.find path = .ok .directory ∧
          firstFile s.files (beside s.files path) = some (file, .ok bytes) ∧
          Decodes bytes settings) ∧
    (∀ s', s'.home = s.home →
      (∀ path, expandHome s.home (flags.configFile.getD default) = .ok path →
        AgreeAt path s.files s'.files) →
      resolveWith s' default flags command = resolveWith s default flags command) := by
  refine ⟨fun r path hr hp => ?_, ⟨?_, ?_⟩, fun s' hhome h => resolveWith_of_agreeAt ht hhome h⟩
  · obtain ⟨-, -, hl, -, settings, hload, hlayered⟩ := loaded_of_resolveWith hr hp
    obtain ⟨bytes, hdecodes, hfile⟩ := decodes_of_load ht hl hload
    exact ⟨bytes, settings, hdecodes, hlayered, hfile⟩
  · rintro ⟨r, path, hr, hp, hnone⟩
    obtain ⟨hraw, hpath, hl, hsound, settings, hload, -⟩ := loaded_of_resolveWith hr hp
    obtain ⟨bytes, hdecodes, hfile | ⟨hd, file, hfile⟩⟩ := decodes_of_load ht hl hload
    · rw [hnone] at hfile
      cases hfile
    · exact ⟨hsound, hraw, path, file, bytes, settings, hpath, hd, hfile, hdecodes⟩
  · -- A directory has no content, so what was loaded is the file beside it.
    rintro ⟨hsound, hraw, path, file, bytes, settings, hpath, hd, hfile, hdecodes⟩
    have hl : s.files.leadsTo path = true := leadsTo_iff.mpr ⟨_, hd⟩
    have hload : load s.files path = .ok settings := by
      rw [load_of_directory ht hd, loadFirst, hfile]
      exact settingsOfContent_eq_ok_iff.mpr ⟨bytes, rfl, hdecodes⟩
    obtain ⟨r, hr, hp⟩ := exists_resolveWith_of_load hraw hpath hl hload hsound
    refine ⟨r, path, hr, hp, ?_⟩
    rw [Option.eq_none_iff_forall_ne_some]
    intro bytes hbytes
    rw [readFile?_eq_some_iff, hd] at hbytes
    cases hbytes

/-- What an operator finds whose home directory, where the program runs, holds the given files. -/
def operatorWith (entries : List (String × FileNode)) : Surroundings :=
  ⟨some "/home/op", ⟨["home", "op"], entries.map fun entry => (["home", "op", entry.1], entry.2)⟩⟩

/-- A configuration file that sets an address. -/
def addressBytes (address : String) : List UInt8 := utf8Bytes ("server_addr: " ++ address ++ "\n")

/-- A directory, and beside it a file that has its name and an extension more. -/
def shadowedDirectory : Surroundings :=
  operatorWith [("conf", .directory), ("conf.yml", .file (addressBytes "10.0.0.1:1"))]

/-- The directory without that file. -/
def directoryAlone : Surroundings := operatorWith [("conf", .directory)]

/-- A regular file in the place of the directory. -/
def regularFile : Surroundings := operatorWith [("conf", .file (addressBytes "10.0.0.2:2"))]

/-- The same with another file beside it. -/
def regularFileShadowed (content : Except FileError (List UInt8)) : Surroundings :=
  { regularFile with files := regularFile.files.withFile ["home", "op", "conf.yml"] content }

/-- The operator names `conf`. -/
def namedConf : Flags := ⟨none, none, none, some "conf"⟩

/-- One who reads `conf` does not notice the file beside it. -/
theorem agreeAt_regularFileShadowed (content : Except FileError (List UInt8)) :
    AgreeAt "conf" regularFile.files (regularFileShadowed content).files := by
  have hrooted : regularFile.files.Rooted := by decide
  have hhome : regularFile.files.nodeAt ["home", "op"] = some .directory := by decide
  have hplain : Plain "conf.yml" := by decide
  have hgrounded := hrooted.grounded.step (step_plain hplain hhome)
  refine ⟨sameDirectories_withFile content hgrounded (by decide), rfl, fun hd => ?_⟩
  have hfile : regularFile.files.find "conf" = .ok (.file (addressBytes "10.0.0.2:2")) := by decide
  rw [hfile] at hd
  cases hd

/-- The operator names a directory, and the settings are those of the file beside it: settings are had and
the directory is recorded. Without that file there are none. Beside a regular file it would not count,
whatever it holds and whether it can be read or not. -/
theorem file_beside_directory_counts :
    (shadowedDirectory.files.Rooted ∧ regularFile.files.Rooted) ∧
    resolveWith shadowedDirectory "" namedConf .listBackups =
      .ok ⟨false, none, "10.0.0.1:1", some "conf", .listBackups⟩ ∧
    (shadowedDirectory.files.readFile? "conf" = none ∧ ∃ file bytes settings,
      firstFile shadowedDirectory.files (beside shadowedDirectory.files "conf") = some (file, .ok bytes) ∧
        Decodes bytes settings) ∧
    resolveWith directoryAlone "" namedConf .listBackups =
      .error (.load "conf" (.missing (.absent "conf"))) ∧
    ∀ content, resolveWith (regularFileShadowed content) "" namedConf .listBackups =
      resolveWith regularFile "" namedConf .listBackups := by
  have hshadowed : shadowedDirectory.files.Rooted := by decide
  have hregular : regularFile.files.Rooted := by decide
  have hresolved : resolveWith shadowedDirectory "" namedConf .listBackups =
      .ok ⟨false, none, "10.0.0.1:1", some "conf", .listBackups⟩ := by decide +kernel
  have hnone : shadowedDirectory.files.readFile? "conf" = none := by decide
  refine ⟨⟨hshadowed, hregular⟩, hresolved, ⟨hnone, ?_⟩, by decide +kernel, fun content => ?_⟩
  · obtain ⟨hrecorded, -, -⟩ :=
      settings_of_recorded_file shadowedDirectory "" namedConf .listBackups hshadowed
    obtain ⟨bytes, settings, hdecodes, -, hfile | ⟨-, file, hfile⟩⟩ := hrecorded _ "conf" hresolved rfl
    · rw [hnone] at hfile
      cases hfile
    · exact ⟨file, bytes, settings, hfile, hdecodes⟩
  · -- The other tree differs in files that are never looked at.
    obtain ⟨-, -, halike⟩ := settings_of_recorded_file regularFile "" namedConf .listBackups hregular
    refine halike (regularFileShadowed content) rfl fun path hpath => ?_
    have hconf : expandHome (some "/home/op") "conf" = .ok "conf" := by decide
    obtain rfl : "conf" = path := Except.ok.inj (hconf.symm.trans hpath)
    exact agreeAt_regularFileShadowed content

end BackupConsole.Settings
