/-
  Paths in trees of files.

  1. **Working directory** — a tree is `Rooted` if the path of its working directory leads there, through
     directories only. Then a relative path and the same path behind that of the working directory lead to
     one place (`Rooted.find_fullPath`), as long as the longer one is no longer than a path may be.

  2. **Ends of paths** — a path that leads to a regular file ends in a plain name
     (`exists_name_of_find`), so that something put behind it makes it longer.

  3. **Two trees** — what a path leads to depends on the directories of a tree and on the file at its very
     end (`SameDirectories.find`).
-/
import BackupConsole.FileTree
import BackupConsole.Settings.File
import Mathlib.Data.List.Basic

namespace BackupConsole

open Settings

/-- A name that a directory may hold. -/
structure Plain (name : String) : Prop where
  ne_empty : name ≠ ""
  ne_here : name ≠ "."
  ne_up : name ≠ ".."
  no_slash : '/' ∉ name.toList
  no_nul : '\x00' ∉ name.toList
  short : name.utf8ByteSize ≤ FileTree.nameLimit

/-- Whether a name is plain can be computed. -/
instance (name : String) : Decidable (Plain name) :=
  decidable_of_iff (name ≠ "" ∧ name ≠ "." ∧ name ≠ ".." ∧ '/' ∉ name.toList ∧ '\x00' ∉ name.toList ∧
      name.utf8ByteSize ≤ FileTree.nameLimit)
    ⟨fun ⟨h1, h2, h3, h4, h5, h6⟩ => ⟨h1, h2, h3, h4, h5, h6⟩,
      fun ⟨h1, h2, h3, h4, h5, h6⟩ => ⟨h1, h2, h3, h4, h5, h6⟩⟩

namespace FileTree

/-- The working directory has a path of plain names, which leads through directories. -/
structure Rooted (t : FileTree) : Prop where
  plain : ∀ name ∈ t.workingDirectory, Plain name
  directory : ∀ n ≤ t.workingDirectory.length, t.nodeAt (t.workingDirectory.take n) = some .directory

/-- Whether a tree is rooted can be computed, directory by directory. -/
instance (t : FileTree) : Decidable t.Rooted :=
  decidable_of_iff ((∀ name ∈ t.workingDirectory, Plain name) ∧
      ∀ n ≤ t.workingDirectory.length, t.nodeAt (t.workingDirectory.take n) = some .directory)
    ⟨fun ⟨hplain, hdirectory⟩ => ⟨hplain, hdirectory⟩, fun h => ⟨h.plain, h.directory⟩⟩

/-- Names with nothing but directories on the way to them. -/
def Grounded (t : FileTree) (names : List String) : Prop :=
  ∀ front back, names = front ++ back → back ≠ [] → t.nodeAt front = some .directory

variable {t u : FileTree} {names reached front back : List String} {piece path base : String}

/-! ## Steps -/

/-- What a step does: it begins at a directory, and stays, goes up, or goes down. -/
theorem step_of_ok (h : t.step names piece = .ok reached) :
    t.nodeAt names = some .directory ∧
      ((piece = "" ∨ piece = ".") ∧ reached = names ∨ piece = ".." ∧ reached = names.dropLast ∨
        (piece ≠ "" ∧ piece ≠ "." ∧ piece ≠ "..") ∧ reached = names ++ [piece]) := by
  unfold step at h
  split at h
  · cases h
  · cases h
  · cases h
  · next hd =>
    refine ⟨hd, ?_⟩
    split at h
    · next hstay =>
      cases h
      exact .inl ⟨hstay, rfl⟩
    · next hmove =>
      rw [not_or] at hmove
      split at h
      · next hup =>
        cases h
        exact .inr (.inl ⟨hup, rfl⟩)
      · next hdown =>
        split at h
        · cases h
        · cases h
          exact .inr (.inr ⟨⟨hmove.1, hmove.2, hdown⟩, rfl⟩)

theorem step_empty (h : t.nodeAt names = some .directory) : t.step names "" = .ok names := by
  unfold step
  rw [h]
  exact if_pos (.inl rfl)

/-- A plain name goes one step down. -/
theorem step_plain (hp : Plain piece) (h : t.nodeAt names = some .directory) :
    t.step names piece = .ok (names ++ [piece]) := by
  unfold step
  rw [h]
  simp [hp.ne_empty, hp.ne_here, hp.ne_up, Nat.not_lt.mpr hp.short]

/-- A step from directories leads to names that have directories before them. -/
theorem Grounded.step (hg : t.Grounded names) (h : t.step names piece = .ok reached) :
    t.Grounded reached := by
  intro front back hsplit hback
  obtain ⟨hd, ⟨-, rfl⟩ | ⟨-, rfl⟩ | ⟨-, rfl⟩⟩ := step_of_ok h
  · -- The step stays in its directory, goes up out of it, or goes down to a name in it.
    exact hg front back hsplit hback
  · have hnames : names ≠ [] := by
      rintro rfl
      rw [List.dropLast_nil] at hsplit
      exact hback (List.append_eq_nil_iff.mp hsplit.symm).2
    refine hg front (back ++ [names.getLast hnames]) ?_ (by simp)
    rw [← List.append_assoc, ← hsplit, List.dropLast_append_getLast]
  · rcases List.eq_nil_or_concat' back with rfl | ⟨back, last, rfl⟩
    · exact absurd rfl hback
    · rw [← List.append_assoc] at hsplit
      obtain ⟨rfl, -⟩ := List.append_inj' hsplit rfl
      cases back with
      | nil => rwa [List.append_nil] at hd
      | cons name back => exact hg front (name :: back) rfl (List.cons_ne_nil _ _)

theorem Grounded.walk {pieces : List String} (hg : t.Grounded names)
    (h : t.walk names pieces = .ok reached) : t.Grounded reached := by
  induction pieces generalizing names with
  | nil =>
    cases h
    exact hg
  | cons piece rest ih =>
    rw [FileTree.walk] at h
    cases hstep : t.step names piece with
    | error e =>
      rw [hstep] at h
      cases h
    | ok next =>
      rw [hstep] at h
      exact ih (hg.step hstep) h

/-- Directories lie above a directory that has only directories on the way to it; the root is above itself. -/
theorem Grounded.nodeAt_dropLast (hg : t.Grounded names) (hd : t.nodeAt names = some .directory) :
    t.nodeAt names.dropLast = some .directory := by
  rcases List.eq_nil_or_concat' names with rfl | ⟨above, name, rfl⟩
  · exact hd
  · rw [List.dropLast_concat]
    exact hg above [name] rfl (List.cons_ne_nil _ _)

/-- A walk ends with a step from where all pieces but the last one lead. -/
theorem exists_step_of_walk_concat {last : List String}
    (h : t.walk names (front ++ [piece]) = .ok last) :
    ∃ reached, t.walk names front = .ok reached ∧ t.step reached piece = .ok last := by
  rw [walk_append] at h
  cases hfront : t.walk names front with
  | error e =>
    rw [hfront] at h
    cases h
  | ok reached =>
    rw [hfront] at h
    refine ⟨reached, rfl, ?_⟩
    cases hstep : t.step reached piece with
    | error e => simp [Except.bind, walk, hstep] at h
    | ok next => simpa [Except.bind, walk, hstep] using h

/-! ## The working directory -/

/-- Every part of the working directory's path is a directory. -/
theorem Rooted.nodeAt_front (ht : t.Rooted) (h : t.workingDirectory = front ++ back) :
    t.nodeAt front = some .directory := by
  have hfront := ht.directory front.length (by rw [h, List.length_append]; omega)
  rwa [h, List.take_left] at hfront

theorem Rooted.grounded (ht : t.Rooted) : t.Grounded t.workingDirectory :=
  fun _ _ hsplit _ => ht.nodeAt_front hsplit

/-- Each name of the working directory leads one directory further. -/
theorem Rooted.walk_names (ht : t.Rooted) :
    ∀ back front, t.workingDirectory = front ++ back → t.walk front back = .ok t.workingDirectory := by
  intro back
  induction back with
  | nil =>
    intro front hsplit
    rw [hsplit, List.append_nil]
    rfl
  | cons name back ih =>
    intro front hsplit
    have hname : Plain name := ht.plain name (hsplit ▸ List.mem_append_right _ List.mem_cons_self)
    rw [FileTree.walk, step_plain hname (ht.nodeAt_front hsplit)]
    exact ih (front ++ [name]) (by rw [hsplit, List.append_assoc]; rfl)

/-- An empty piece stays where it is. -/
theorem walk_empty_piece (h : t.nodeAt names = some .directory) : t.walk names [""] = .ok names := by
  rw [FileTree.walk, step_empty h]
  rfl

end FileTree

/-- Names without slashes are the pieces of the text that has slashes between them. -/
theorem pieces_intercalate {names : List String} (hne : names ≠ []) (h : ∀ n ∈ names, '/' ∉ n.toList) :
    pieces (String.intercalate "/" names) = names := by
  induction names with
  | nil => exact absurd rfl hne
  | cons name rest ih =>
    cases rest with
    | nil => rw [String.intercalate_singleton, pieces_of_not_mem (h name List.mem_cons_self)]
    | cons next rest =>
      rw [String.intercalate_cons_cons, pieces_append_slash,
        pieces_of_not_mem (h name List.mem_cons_self),
        ih (List.cons_ne_nil _ _) fun n hn => h n (List.mem_cons_of_mem _ hn)]
      rfl

theorem isAbsolute_slash (text : String) : isAbsolute ("/" ++ text) = true := by
  rw [isAbsolute, String.toList_append]
  rfl

namespace FileTree

variable {t u : FileTree} {path : String}

/-- The path of the working directory leads there. -/
theorem Rooted.walk_directoryPath (ht : t.Rooted) :
    t.walk [] (pieces (directoryPath t.workingDirectory)) = .ok t.workingDirectory := by
  have hsplit : t.workingDirectory = [] ++ t.workingDirectory := rfl
  have hroot : t.nodeAt [] = some .directory := ht.nodeAt_front hsplit
  have hslash : ∀ text, pieces ("/" ++ text) = "" :: pieces text := fun text => by
    rw [← String.empty_append (s := "/"), pieces_append_slash]
    rfl
  have hfrom : t.walk [] (pieces (String.intercalate "/" t.workingDirectory)) =
      .ok t.workingDirectory := by
    by_cases hwd : t.workingDirectory = []
    · rw [hwd, String.intercalate_nil]
      exact walk_empty_piece hroot
    · rw [pieces_intercalate hwd fun n hn => (ht.plain n hn).no_slash]
      exact ht.walk_names t.workingDirectory [] rfl
  rw [directoryPath, hslash, ← List.singleton_append, walk_append, walk_empty_piece hroot]
  exact hfrom

/-! ## What a path leads to -/

/-- A path leads to a node if it is neither empty nor too long, and its pieces lead there step by step. -/
theorem find_eq_ok_iff {node : FileNode} : t.find path = .ok node ↔
    '\x00' ∉ path.toList ∧ path ≠ "" ∧ path.utf8ByteSize ≤ pathLimit ∧ ∃ names,
      t.walk (if isAbsolute path then [] else t.workingDirectory) (pieces path) = .ok names ∧
        t.nodeAt names = some node := by
  -- The conditions are looked at in the order in which the program looks at them.
  unfold find
  by_cases hnul : '\x00' ∈ path.toList
  · simp [hnul]
  by_cases hempty : path = ""
  · simp [hempty]
  by_cases hlong : pathLimit < path.utf8ByteSize
  · simp [hnul, hempty, hlong, Nat.not_le.mpr hlong]
  rw [if_neg (by simpa using hnul), if_neg hempty, if_neg hlong]
  cases hwalk : t.walk (if isAbsolute path then [] else t.workingDirectory) (pieces path) with
  | error e => simp
  | ok names =>
    cases hnode : t.nodeAt names with
    | none => simp [hnode]
    | some found => simp [hnode, hnul, hempty, Nat.not_lt.mp hlong]

/-- A file is read where a path leads to one that can be read. -/
theorem readFile?_eq_some_iff {bytes : List UInt8} :
    t.readFile? path = some bytes ↔ t.find path = .ok (.file bytes) := by
  unfold readFile? read
  cases t.find path with
  | error e => simp [Except.toOption]
  | ok node => cases node <;> simp [Except.toOption]

/-- A path has a content, readable or not, where it leads to a regular file. -/
theorem content?_eq_some_iff {content : Except FileError (List UInt8)} :
    t.content? path = some content ↔ t.find path = .ok (.regular content) := by
  unfold content?
  cases t.find path with
  | error e => simp
  | ok node => simp [FileNode.content?_eq_some_iff]

/-- There is nothing to be had of a directory. -/
theorem content?_of_directory (h : t.find path = .ok .directory) : t.content? path = none := by
  rw [content?, h]
  rfl

/-- Where something stands of which nothing is to be had, it is a directory. -/
theorem find_of_content?_eq_none {node : FileNode} (h : t.find path = .ok node)
    (hc : t.content? path = none) : t.find path = .ok .directory := by
  rw [content?, h] at hc
  cases node with
  | directory => exact h
  | file bytes => cases hc
  | unreadable reason => cases hc

/-- What can be read are the bytes of a regular file. -/
theorem readFile?_of_content {bytes : List UInt8} :
    t.readFile? path = some bytes ↔ t.content? path = some (.ok bytes) := by
  rw [readFile?_eq_some_iff, content?_eq_some_iff, FileNode.regular]

theorem leadsTo_iff : t.leadsTo path = true ↔ ∃ node, t.find path = .ok node := by
  unfold leadsTo
  cases t.find path <;> simp

/-- A path that leads to a regular file ends in a plain name: from a directory, neither staying nor going
up leads to one. -/
theorem exists_name_of_find (ht : t.Rooted) {node : FileNode} (hn : node ≠ .directory)
    (h : t.find path = .ok node) :
    ∃ front name, pieces path = front ++ [name] ∧ name ≠ "" ∧ name ≠ "." ∧ name ≠ ".." := by
  obtain ⟨-, -, -, names, hwalk, hnode⟩ := find_eq_ok_iff.mp h
  -- A walk begins at the root or at the working directory, and both have directories before them.
  have hstart : t.Grounded (if isAbsolute path then [] else t.workingDirectory) := by
    split
    · intro front back hsplit hback
      exact absurd (List.append_eq_nil_iff.mp hsplit.symm).2 hback
    · exact ht.grounded
  have hother : ∀ {reached}, t.nodeAt reached = some .directory → reached ≠ names := by
    rintro _ hd rfl
    exact hn (Option.some.inj (hnode.symm.trans hd))
  rcases List.eq_nil_or_concat' (pieces path) with hnil | ⟨front, name, hpieces⟩
  · exact absurd hnil (pieces_ne_nil path)
  rw [hpieces] at hwalk
  obtain ⟨reached, hfront, hstep⟩ := exists_step_of_walk_concat hwalk
  refine ⟨front, name, hpieces, ?_⟩
  -- Staying and going up both end at a directory, which this node is not; so the last piece went down to
  -- a name.
  obtain ⟨hd, ⟨-, rfl⟩ | ⟨-, rfl⟩ | ⟨hplain, -⟩⟩ := step_of_ok hstep
  · exact absurd rfl (hother hd)
  · exact absurd rfl (hother ((hstart.walk hfront).nodeAt_dropLast hd))
  · exact hplain

/-! ## Full paths -/

/-- A path seen from the root. -/
def fullPath (t : FileTree) (path : String) : String :=
  joinPath (directoryPath t.workingDirectory) path

theorem directoryPath_ne_empty (names : List String) : directoryPath names ≠ "" := by
  rw [directoryPath, Ne, String.append_eq_empty_iff]
  exact fun h => absurd h.1 (by decide)

/-- A directory's path has no characters but slashes and those of its names. -/
theorem not_mem_directoryPath {names : List String} {c : Char} (hc : c ≠ '/')
    (h : ∀ n ∈ names, c ∉ n.toList) : c ∉ (directoryPath names).toList := by
  have hnames : c ∉ (String.intercalate "/" names).toList := by
    induction names with
    | nil =>
      rw [String.intercalate_nil]
      exact List.not_mem_nil
    | cons name rest ih =>
      have hname : c ∉ name.toList := h name List.mem_cons_self
      cases rest with
      | nil => rwa [String.intercalate_singleton]
      | cons next rest =>
        have hrest := ih fun n hn => h n (List.mem_cons_of_mem _ hn)
        rw [String.intercalate_cons_cons, String.toList_append, String.toList_append]
        simpa [hname, hc] using hrest
  rw [directoryPath, String.toList_append]
  simpa [hc] using hnames

/-- At most a slash is put between the two. -/
theorem exists_fullPath_eq (hp : isAbsolute path = false) :
    ∃ between, (between = "" ∨ between = "/") ∧
      t.fullPath path = directoryPath t.workingDirectory ++ between ++ path := by
  rw [fullPath, joinPath, hp, if_neg Bool.false_ne_true]
  split
  · exact ⟨"", .inl rfl, by rw [String.append_empty]⟩
  · exact ⟨"/", .inr rfl, rfl⟩

/-- A full path is absolute, whatever path it is made of. -/
theorem isAbsolute_fullPath (t : FileTree) (path : String) : isAbsolute (t.fullPath path) = true := by
  cases hp : isAbsolute path with
  | true => rwa [fullPath, joinPath_of_isAbsolute hp]
  | false =>
    obtain ⟨between, -, hfull⟩ := exists_fullPath_eq (t := t) hp
    rw [hfull, directoryPath, String.append_assoc, String.append_assoc]
    exact isAbsolute_slash _

/-- From the root a full path goes the way that its path goes from the working directory. -/
theorem Rooted.walk_fullPath (ht : t.Rooted) (hp : isAbsolute path = false) :
    t.walk [] (pieces (t.fullPath path)) = t.walk t.workingDirectory (pieces path) := by
  obtain ⟨front, -, hbase, hjoined⟩ := pieces_joinPath (directoryPath_ne_empty t.workingDirectory) hp
  have hwalk := ht.walk_directoryPath
  -- An empty piece at the end of the directory's own path leads no further.
  have hfront : t.walk [] front = .ok t.workingDirectory := by
    rcases hbase with h | h
    · rwa [h] at hwalk
    · rw [h, walk_append] at hwalk
      cases hreached : t.walk [] front with
      | error e =>
        rw [hreached] at hwalk
        cases hwalk
      | ok reached =>
        rw [hreached] at hwalk
        cases hstep : t.step reached "" with
        | error e => simp [Except.bind, walk, hstep] at hwalk
        | ok last =>
          obtain ⟨hd, -⟩ := step_of_ok hstep
          rw [Except.bind, walk_empty_piece hd] at hwalk
          exact hwalk
  rw [fullPath, hjoined, walk_append, hfront]
  rfl

/-- A path and its full path lead to one place, unless the full path is too long. -/
theorem Rooted.find_fullPath (ht : t.Rooted) (hne : path ≠ "") {node : FileNode} :
    t.find (t.fullPath path) = .ok node ↔
      (t.fullPath path).utf8ByteSize ≤ pathLimit ∧ t.find path = .ok node := by
  cases hp : isAbsolute path with
  | true =>
    have hfull : t.fullPath path = path := joinPath_of_isAbsolute hp
    rw [hfull]
    exact ⟨fun h => ⟨(find_eq_ok_iff.mp h).2.2.1, h⟩, And.right⟩
  | false =>
    obtain ⟨between, hbetween, hfull⟩ := exists_fullPath_eq (t := t) hp
    -- What stands before the path is a directory's path, which has no bad character.
    have hnul : '\x00' ∈ (t.fullPath path).toList ↔ '\x00' ∈ path.toList := by
      have hnone := not_mem_directoryPath (c := '\x00') (by decide)
        fun n hn => (ht.plain n hn).no_nul
      have hslash : '\x00' ∉ between.toList := by rcases hbetween with rfl | rfl <;> decide
      rw [hfull, String.toList_append, String.toList_append, List.mem_append, List.mem_append]
      exact ⟨fun h => h.resolve_left fun h => h.elim hnone hslash, .inr⟩
    have hempty : t.fullPath path ≠ "" := by
      intro h
      have habsolute := isAbsolute_fullPath t path
      rw [h] at habsolute
      cases habsolute
    -- The full path is no shorter, so its limit is the stricter one.
    have hsize : path.utf8ByteSize ≤ (t.fullPath path).utf8ByteSize := by
      rw [hfull, String.utf8ByteSize_append]
      omega
    rw [find_eq_ok_iff, find_eq_ok_iff, isAbsolute_fullPath, hnul, hp, if_pos rfl,
      if_neg Bool.false_ne_true, ht.walk_fullPath hp]
    constructor
    · rintro ⟨h, -, hlimit, hnames⟩
      exact ⟨hlimit, h, hne, by omega, hnames⟩
    · rintro ⟨hlimit, h, -, -, hnames⟩
      exact ⟨h, hempty, hlimit, hnames⟩

/-! ## Two trees -/

/-- Trees whose directories are the same, and which may hold any files. -/
structure SameDirectories (t u : FileTree) : Prop where
  workingDirectory : u.workingDirectory = t.workingDirectory
  directory : ∀ names, u.nodeAt names = some .directory ↔ t.nodeAt names = some .directory

theorem SameDirectories.symm (h : SameDirectories t u) : SameDirectories u t :=
  ⟨h.workingDirectory.symm, fun names => (h.directory names).symm⟩

theorem SameDirectories.rooted (h : SameDirectories t u) (ht : t.Rooted) : u.Rooted where
  plain name hname := ht.plain name (h.workingDirectory ▸ hname)
  directory n hn := by
    rw [h.workingDirectory] at hn ⊢
    exact (h.directory _).mpr (ht.directory n hn)

/-- A tree with one more file, which hides what was at its place. -/
def withFile (t : FileTree) (names : List String) (content : Except FileError (List UInt8)) : FileTree :=
  { t with entries := (names, .regular content) :: t.entries }

/-- To put a file into a directory, or in the place of another file, leaves the directories as they are. -/
theorem sameDirectories_withFile {names : List String} (content : Except FileError (List UInt8))
    (hg : t.Grounded names) (hn : t.nodeAt names ≠ some .directory) :
    SameDirectories t (t.withFile names content) where
  workingDirectory := rfl
  directory asked := by
    by_cases hasked : asked = names
    · subst hasked
      have hfile : (t.withFile asked content).nodeAt asked = some (.regular content) := by
        simp [nodeAt, withFile]
      rw [hfile]
      exact iff_of_false (by cases content <;> exact nofun) hn
    · have hlookup : (t.withFile names content).entries.lookup asked = t.entries.lookup asked := by
        rw [withFile, List.lookup_cons, beq_eq_false_iff_ne.mpr hasked]
      by_cases hprefix : asked <+: names
      · -- On the way to the file there are directories, in the old tree and so in the new one.
        obtain ⟨back, rfl⟩ := hprefix
        have hback : back ≠ [] := fun h => hasked (by rw [h, List.append_nil])
        have hd := hg asked back rfl hback
        refine iff_of_true ?_ hd
        unfold nodeAt at hd ⊢
        rw [hlookup]
        cases hl : t.entries.lookup asked with
        | some node => rwa [hl] at hd
        | none => simp [withFile]
      · have hnone : asked.isPrefixOf names = false := by
          rw [← Bool.not_eq_true, List.isPrefixOf_iff_prefix]
          exact hprefix
        unfold nodeAt
        rw [hlookup]
        simp only [withFile, List.any_cons, hnone, Bool.false_or]

/-- In trees with the same directories the same steps can be taken. -/
theorem SameDirectories.step (h : SameDirectories t u) {names reached : List String} {piece : String}
    (hs : t.step names piece = .ok reached) : u.step names piece = .ok reached := by
  obtain ⟨hd, -⟩ := step_of_ok hs
  have hu : u.nodeAt names = some .directory := (h.directory names).mpr hd
  unfold FileTree.step at hs ⊢
  rw [hd] at hs
  rwa [hu]

theorem SameDirectories.walk (h : SameDirectories t u) {names reached pieces : List String}
    (hw : t.walk names pieces = .ok reached) : u.walk names pieces = .ok reached := by
  induction pieces generalizing names with
  | nil => exact hw
  | cons piece rest ih =>
    rw [FileTree.walk] at hw ⊢
    cases hstep : t.step names piece with
    | error e =>
      rw [hstep] at hw
      cases hw
    | ok next =>
      rw [hstep] at hw
      rw [h.step hstep]
      exact ih hw

/-- Where a directory is found in one tree it is found in the other. -/
theorem SameDirectories.find_directory (h : SameDirectories t u) (hf : t.find path = .ok .directory) :
    u.find path = .ok .directory := by
  obtain ⟨hnul, hne, hlimit, names, hwalk, hnode⟩ := find_eq_ok_iff.mp hf
  refine find_eq_ok_iff.mpr ⟨hnul, hne, hlimit, names, ?_, (h.directory names).mpr hnode⟩
  rw [h.workingDirectory]
  exact h.walk hwalk

/-- A path leads to the same, if it leads to the same file where it leads to one. -/
theorem SameDirectories.find (h : SameDirectories t u) (hr : u.content? path = t.content? path)
    {node : FileNode} (hf : t.find path = .ok node) : u.find path = .ok node := by
  cases hc : node.content? with
  | none =>
    cases node with
    | directory => exact h.find_directory hf
    | file bytes => cases hc
    | unreadable reason => cases hc
  | some content =>
    obtain rfl := FileNode.content?_eq_some_iff.mp hc
    rw [← content?_eq_some_iff] at hf ⊢
    rw [hr, hf]

end FileTree

/-! ## Extensions -/

/-- A path is its pieces with slashes between them. -/
theorem intercalate_pieces (path : String) : String.intercalate "/" (pieces path) = path := by
  -- By induction on the characters that have not been cut yet.
  have hfrom : ∀ text piece, String.intercalate "/" (piecesFrom piece text) =
      String.ofList (piece.reverse ++ text) := by
    intro text
    induction text with
    | nil =>
      intro piece
      rw [piecesFrom, String.intercalate_singleton, List.append_nil]
    | cons c text ih =>
      intro piece
      rw [piecesFrom]
      split
      · next hc =>
        have hne : piecesFrom [] text ≠ [] := by
          have h := pieces_ne_nil (String.ofList text)
          rwa [pieces, String.toList_ofList] at h
        rw [String.intercalate_cons_of_ne_nil hne, ih [], hc, ← String.toList_inj]
        simp
      · rw [ih (c :: piece), List.reverse_cons, List.append_assoc]
        rfl
  rw [pieces, hfrom, List.reverse_nil, List.nil_append, String.ofList_toList]

/-- An extension stands right behind a plain name. -/
theorem withExtension_of_name {path name extension : String} {front : List String}
    (hp : pieces path = front ++ [name]) (hempty : name ≠ "") (hhere : name ≠ ".") (hup : name ≠ "..") :
    withExtension path extension = path ++ "." ++ extension := by
  have hpart : [name].filterMap partOfPiece = [.name name] := by
    simp [partOfPiece, hempty, hhere, hup]
  -- The last part is the name itself, as it is neither empty nor a dot.
  have hlast : (pathParts path).getLast? = some (.name name) := by
    unfold pathParts
    rw [hp, List.filterMap_append, hpart]
    dsimp only
    split
    · rw [← List.cons_append, List.getLast?_concat]
    · split
      · rw [← List.cons_append, List.getLast?_concat]
      · rw [List.getLast?_concat]
  have hkept : (pieces path).reverse.dropWhile (fun piece => piece == "" || piece == ".") =
      (pieces path).reverse := by
    rw [hp, List.reverse_append]
    simp [hempty, hhere]
  rw [withExtension, hlast]
  dsimp only
  rw [hkept, List.reverse_reverse, intercalate_pieces]

end BackupConsole
