/-
  Trees of files: what a program finds on its disk, and how paths lead through them.

  1. **Program** — `FileTree.find` follows a path from piece to piece; `FileTree.read` gives the bytes
     of the file it ends at.

  2. **Specification** — every piece but the last has to lead to a directory; `.` and an empty piece
     stay where they are, `..` goes up. A directory holds what lies under its name, so every path on
     the way to an entry is a directory.

  3. **Permissions** — a file that may not be read, or whose disk fails, is there for all that, and is
     asked for its bytes in vain (`FileNode.unreadable`). A directory that may not be searched hides what
     it holds: whether a path exists is answered there as for a missing file. So a tree does not list it.
-/

namespace BackupConsole

/-- Why a path leads to nothing that can be read. -/
inductive FileError where
  | notFound
  | notADirectory
  | isADirectory
  | nameTooLong
  | permissionDenied
  | inputOutput
  | nulInName
  deriving DecidableEq, Repr

/-- A reason in the words of the operating system, with its number; the last one never gets that far. -/
def FileError.message : FileError → String
  | notFound => "No such file or directory (os error 2)"
  | notADirectory => "Not a directory (os error 20)"
  | isADirectory => "Is a directory (os error 21)"
  | nameTooLong => "File name too long (os error 36)"
  | permissionDenied => "Permission denied (os error 13)"
  | inputOutput => "Input/output error (os error 5)"
  | nulInName => "file name contained an unexpected NUL byte"

/-- What stands at a place of a tree. -/
inductive FileNode where
  | file (bytes : List UInt8)
  | directory
  /-- A regular file whose bytes cannot be had. -/
  | unreadable (reason : FileError)
  deriving DecidableEq, Repr

/-- What there is to be had of a regular file: its bytes, or the reason why they cannot be read. -/
def FileNode.content? : FileNode → Option (Except FileError (List UInt8))
  | file bytes => some (.ok bytes)
  | unreadable reason => some (.error reason)
  | directory => none

/-- The regular file of which that is to be had. -/
def FileNode.regular : Except FileError (List UInt8) → FileNode
  | .ok bytes => file bytes
  | .error reason => unreadable reason

/-- What stands at a place is a directory or a regular file. -/
theorem FileNode.content?_eq_some_iff {node : FileNode} {content : Except FileError (List UInt8)} :
    node.content? = some content ↔ node = regular content := by
  cases node <;> cases content <;> simp [content?, regular]

/-! ## Paths as text -/

/-- The pieces of a text between its slashes, the first of which has been read already, from its end to its
beginning. -/
def piecesFrom (piece : List Char) : List Char → List String
  | [] => [String.ofList piece.reverse]
  | c :: rest =>
    if c = '/' then String.ofList piece.reverse :: piecesFrom [] rest
    else piecesFrom (c :: piece) rest

/-- The pieces of a path; an absolute one begins with an empty piece. -/
def pieces (path : String) : List String := piecesFrom [] path.toList

/-- Whether a path begins at the root. -/
def isAbsolute (path : String) : Bool := path.toList.head? == some '/'

/-- A path behind another: an absolute one stands alone, else one slash parts the two. -/
def joinPath (base path : String) : String :=
  if isAbsolute path then path
  else if base = "" ∨ base.toList.getLast? = some '/' then base ++ path
  else base ++ "/" ++ path

/-- The parts of a path that mean something. -/
inductive PathPart where
  | root
  | here
  | up
  | name (s : String)
  deriving DecidableEq, Repr

/-- What a piece within a path means; an empty piece and `.` mean nothing there. -/
def partOfPiece (piece : String) : Option PathPart :=
  if piece = "" ∨ piece = "." then none
  else if piece = ".." then some .up
  else some (.name piece)

/-- The parts of a path. A `.` counts only where a relative path begins with it. -/
def pathParts (path : String) : List PathPart :=
  let inner := (pieces path).filterMap partOfPiece
  if isAbsolute path then .root :: inner
  else if (pieces path).head? = some "." then .here :: inner
  else inner

/-! ## Pieces of joined paths -/

/-- A slash parts the pieces before it from those behind it. -/
theorem piecesFrom_append_slash (piece text rest : List Char) :
    piecesFrom piece (text ++ '/' :: rest) = piecesFrom piece text ++ piecesFrom [] rest := by
  induction text generalizing piece with
  | nil => simp [piecesFrom]
  | cons c text ih =>
    rw [List.cons_append, piecesFrom, piecesFrom]
    split
    · rw [ih, List.cons_append]
    · exact ih (c :: piece)

/-- A slash parts the pieces of two paths. -/
theorem pieces_append_slash (front back : String) :
    pieces (front ++ "/" ++ back) = pieces front ++ pieces back := by
  rw [pieces, String.toList_append, String.toList_append, List.append_assoc]
  exact piecesFrom_append_slash [] front.toList back.toList

/-- Without a slash there is one piece. -/
theorem piecesFrom_of_not_mem {piece text : List Char} (h : '/' ∉ text) :
    piecesFrom piece text = [String.ofList (piece.reverse ++ text)] := by
  induction text generalizing piece with
  | nil => simp [piecesFrom]
  | cons c text ih =>
    rw [List.mem_cons, not_or] at h
    obtain ⟨hc, ht⟩ := h
    rw [piecesFrom, if_neg (Ne.symm hc), ih ht, List.reverse_cons, List.append_assoc]
    rfl

/-- A name is its own only piece. -/
theorem pieces_of_not_mem {name : String} (h : '/' ∉ name.toList) : pieces name = [name] := by
  rw [pieces, piecesFrom_of_not_mem h, List.reverse_nil, List.nil_append, String.ofList_toList]

/-- Even the empty path has a piece, an empty one. -/
theorem pieces_ne_nil (path : String) : pieces path ≠ [] := by
  have hfrom : ∀ text piece, piecesFrom piece text ≠ [] := by
    intro text
    induction text with
    | nil => exact fun _ => List.cons_ne_nil _ _
    | cons c text ih =>
      intro piece
      rw [piecesFrom]
      split
      · exact List.cons_ne_nil _ _
      · exact ih _
  exact hfrom _ _

/-- A relative path behind another keeps the pieces of both, but for the empty piece that stands behind
a slash at the end of the first. -/
theorem pieces_joinPath {base path : String} (hb : base ≠ "") (hp : isAbsolute path = false) :
    ∃ front, front ≠ [] ∧ (pieces base = front ∨ pieces base = front ++ [""]) ∧
      pieces (joinPath base path) = front ++ pieces path := by
  by_cases hlast : base.toList.getLast? = some '/'
  · obtain ⟨text, htext⟩ := List.getLast?_eq_some_iff.mp hlast
    have hbase : base = String.ofList text ++ "/" ++ "" := by
      rw [← String.toList_inj]
      simpa using htext
    refine ⟨pieces (String.ofList text), pieces_ne_nil _, .inr ?_, ?_⟩
    · rw [hbase, pieces_append_slash]
      rfl
    · rw [joinPath, hp, if_neg Bool.false_ne_true, if_pos (.inr hlast), hbase, String.append_empty,
        pieces_append_slash]
  · refine ⟨pieces base, pieces_ne_nil base, .inl rfl, ?_⟩
    rw [joinPath, hp, if_neg Bool.false_ne_true, if_neg (not_or.mpr ⟨hb, hlast⟩), pieces_append_slash]

/-- An absolute path loses nothing and gains nothing by what stands before it. -/
theorem joinPath_of_isAbsolute {base path : String} (h : isAbsolute path = true) :
    joinPath base path = path := if_pos h

/-- No slash is put behind nothing. -/
theorem joinPath_empty (path : String) : joinPath "" path = path := by
  unfold joinPath
  split
  · rfl
  · rw [if_pos (.inl rfl), String.empty_append]

/-! ## Trees -/

/-- A tree of files, as the names on the way to each entry; directories that hold an entry need not be
listed. -/
structure FileTree where
  workingDirectory : List String
  entries : List (List String × FileNode)
  deriving DecidableEq, Repr

namespace FileTree

/-- What stands at the end of some names. -/
def nodeAt (t : FileTree) (names : List String) : Option FileNode :=
  match t.entries.lookup names with
  | some node => some node
  | none =>
    if names.isPrefixOf t.workingDirectory || t.entries.any fun e => names.isPrefixOf e.1 then
      some .directory
    else none

/-- The longest name, in bytes. -/
def nameLimit : Nat := 255

/-- The longest path, in bytes. -/
def pathLimit : Nat := 4095

/-- One piece further. -/
def step (t : FileTree) (names : List String) (piece : String) : Except FileError (List String) :=
  match t.nodeAt names with
  | none => .error .notFound
  | some (.file _) => .error .notADirectory
  | some (.unreadable _) => .error .notADirectory
  | some .directory =>
    if piece = "" ∨ piece = "." then .ok names
    else if piece = ".." then .ok names.dropLast
    else if nameLimit < piece.utf8ByteSize then .error .nameTooLong
    else .ok (names ++ [piece])

/-- The names a path leads to. -/
def walk (t : FileTree) : List String → List String → Except FileError (List String)
  | names, [] => .ok names
  | names, piece :: rest =>
    match t.step names piece with
    | .ok names => walk t names rest
    | .error e => .error e

/-- A walk is taken one part after the other. -/
theorem walk_append (t : FileTree) (names front back : List String) :
    t.walk names (front ++ back) = (t.walk names front).bind fun reached => t.walk reached back := by
  induction front generalizing names with
  | nil => rfl
  | cons piece front ih =>
    rw [List.cons_append, walk, walk]
    cases t.step names piece with
    | ok reached => exact ih reached
    | error e => rfl

/-- What a path leads to. -/
def find (t : FileTree) (path : String) : Except FileError FileNode :=
  if path.toList.contains '\x00' then .error .nulInName
  else if path = "" then .error .notFound
  else if pathLimit < path.utf8ByteSize then .error .nameTooLong
  else
    match t.walk (if isAbsolute path then [] else t.workingDirectory) (pieces path) with
    | .error e => .error e
    | .ok names =>
      match t.nodeAt names with
      | some node => .ok node
      | none => .error .notFound

/-- Whether a path leads to anything. -/
def leadsTo (t : FileTree) (path : String) : Bool :=
  match t.find path with
  | .ok _ => true
  | .error _ => false

/-- The bytes of the file a path leads to. -/
def read (t : FileTree) (path : String) : Except FileError (List UInt8) :=
  match t.find path with
  | .ok (.file bytes) => .ok bytes
  | .ok (.unreadable reason) => .error reason
  | .ok .directory => .error .isADirectory
  | .error e => .error e

/-- What there is to be had of the regular file that a path leads to, if it leads to one. -/
def content? (t : FileTree) (path : String) : Option (Except FileError (List UInt8)) :=
  match t.find path with
  | .ok node => node.content?
  | .error _ => none

/-- The bytes of a file, if a path leads to one that can be read. -/
def readFile? (t : FileTree) (path : String) : Option (List UInt8) := (t.read path).toOption

end FileTree

end BackupConsole
