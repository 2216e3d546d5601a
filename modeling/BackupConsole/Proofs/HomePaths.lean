/-
  Where a path that begins with `~/` leads.

  1. **Specification** — `partsBehind` reads a path as one that stands behind another: an empty piece and a
     `.` mean nothing there, wherever they are. What begins with `~/` should have the parts of the home
     directory and then those of the rest.

  2. **Joining** — `pathParts_joinPath`: joining keeps the parts of both paths, however many slashes the
     first one ends with. An absolute path is no path behind another: it stands alone.

  3. **Correctness** — `parts_of_expanded_home` says for which paths the parts come out as they should. They
     do unless the rest begins with a slash of its own: then the home directory is left out.
-/
import BackupConsole.Settings.Resolve
import Mathlib.Data.List.Basic

namespace BackupConsole

variable {base path : String}

/-! ## Parts of joined paths -/

/-- The parts of a path that stands behind another. -/
def partsBehind (path : String) : List PathPart := (pieces path).filterMap partOfPiece

theorem pathParts_of_isAbsolute (h : isAbsolute path = true) :
    pathParts path = .root :: partsBehind path := if_pos h

/-- What stands behind a path does not change where it begins. -/
theorem isAbsolute_joinPath (hb : base ≠ "") (hp : isAbsolute path = false) :
    isAbsolute (joinPath base path) = isAbsolute base := by
  have hne : base.toList ≠ [] := fun h => hb (String.toList_eq_nil_iff.mp h)
  have happend : ∀ back : String, isAbsolute (base ++ back) = isAbsolute base := by
    intro back
    rw [isAbsolute, String.toList_append, List.head?_append_of_ne_nil _ hne, isAbsolute]
  rw [joinPath, hp, if_neg Bool.false_ne_true]
  split
  · exact happend path
  · rw [String.append_assoc, happend]

/-- A relative path behind another adds its parts. -/
theorem pathParts_joinPath (hb : base ≠ "") (hp : isAbsolute path = false) :
    pathParts (joinPath base path) = pathParts base ++ partsBehind path := by
  obtain ⟨front, hfront, hbase, hjoined⟩ := pieces_joinPath hb hp
  -- Joining leaves one empty piece less where the base ends in a slash; an empty piece is no part.
  have hinner : (pieces base).filterMap partOfPiece = front.filterMap partOfPiece := by
    rcases hbase with h | h
    · rw [h]
    · rw [h, List.filterMap_append]
      exact List.append_nil _
  have hhead : (pieces base).head? = front.head? := by
    rcases hbase with h | h
    · rw [h]
    · rw [h, List.head?_append_of_ne_nil _ hfront]
  unfold pathParts
  rw [isAbsolute_joinPath hb hp, hjoined, hinner, hhead, List.filterMap_append,
    List.head?_append_of_ne_nil _ hfront]
  -- Only the first piece decides whether a path begins at the root or at the directory it stands in.
  show _ = _ ++ (pieces path).filterMap partOfPiece
  split
  · rfl
  · split <;> rfl

/-! ## The home directory -/

namespace Settings

variable {home rest raw : String}

/-- Behind a tilde and a slash the rest is joined to the home directory. -/
theorem expandHome_tilde (home rest : String) :
    expandHome (some home) ("~/" ++ rest) = .ok (joinPath home rest) := by
  have hrest : ("~/" ++ rest).toList = '~' :: '/' :: rest.toList := by
    rw [String.toList_append]
    rfl
  simp only [expandHome, hrest, String.ofList_toList]

/-- No other path is expanded. -/
theorem expandHome_of_not_tilde (known : Option String) (h : ¬ ['~', '/'] <+: raw.toList) :
    expandHome known raw = .ok raw := by
  unfold expandHome
  split
  · next rest hraw => exact absurd ⟨rest, hraw.symm⟩ h
  · rfl

/-- **Paths under the home directory.** The home directory is known. What stands behind `~/` is put
behind it: the path has the parts of the home directory and then those of the rest. This is so for every
rest that does not begin with a slash. One that does is an absolute path, and stands alone: the home
directory is no part of it, so that the parts are as they should be only where it is the root itself. The
same goes for an empty home directory, which has no parts. A path that does not begin with `~/` stays as it
is, whatever the home directory. -/
theorem parts_of_expanded_home (home rest raw : String) :
    (∃ path, expandHome (some home) ("~/" ++ rest) = .ok path ∧
      (home ≠ "" → isAbsolute rest = false →
        pathParts path = pathParts home ++ partsBehind rest) ∧
      (home = "" ∨ isAbsolute rest = true → path = rest) ∧
      (home ≠ "" → (pathParts path = pathParts home ++ partsBehind rest ↔
        isAbsolute rest = false ∨ pathParts home = [.root]))) ∧
    (¬ ['~', '/'] <+: raw.toList → ∀ known, expandHome known raw = .ok raw) := by
  refine ⟨⟨joinPath home rest, expandHome_tilde home rest, pathParts_joinPath, ?_, fun hhome => ?_⟩,
    fun hraw known => expandHome_of_not_tilde known hraw⟩
  · rintro (rfl | habsolute)
    · exact joinPath_empty rest
    · exact joinPath_of_isAbsolute habsolute
  · cases habsolute : isAbsolute rest with
    | false => exact iff_of_true (pathParts_joinPath hhome habsolute) (.inl rfl)
    | true =>
      -- The rest has its own root, so the home directory must have no other part.
      rw [joinPath_of_isAbsolute habsolute, pathParts_of_isAbsolute habsolute, ← List.singleton_append,
        List.append_left_inj]
      exact ⟨fun h => .inr h.symm, fun h => h.elim nofun Eq.symm⟩

/-- Two slashes lose the home directory; slashes and dots further on do not. -/
theorem home_lost_behind_two_slashes :
    ("/home/op" ≠ "" ∧ isAbsolute "/etc/x.yml" = true ∧
      ¬ ['~', '/'] <+: "a/~/b".toList) ∧
    (∃ path, expandHome (some "/home/op") "~//etc/x.yml" = .ok path ∧ path = "/etc/x.yml" ∧
      pathParts path ≠ pathParts "/home/op" ++ partsBehind "/etc/x.yml") ∧
    (∃ path, expandHome (some "/home/op") "~/./a//../b/" = .ok path ∧
      pathParts path = [.root, .name "home", .name "op", .name "a", .up, .name "b"]) ∧
    expandHome none "a/~/b" = .ok "a/~/b" := by
  have hhome : "/home/op" ≠ "" := by decide
  have hplain : ¬ ['~', '/'] <+: "a/~/b".toList := by decide
  obtain ⟨⟨path, hpath, -, hlost, hiff⟩, hsame⟩ :=
    parts_of_expanded_home "/home/op" "/etc/x.yml" "a/~/b"
  obtain ⟨⟨kept, hkept, hparts, -⟩, -⟩ := parts_of_expanded_home "/home/op" "./a//../b/" ""
  refine ⟨⟨hhome, by decide, hplain⟩, ⟨path, hpath, hlost (.inr (by decide)), ?_⟩,
    ⟨kept, hkept, ?_⟩, hsame hplain none⟩
  · rw [Ne, hiff hhome]
    decide
  · rw [hparts hhome (by decide)]
    decide

end Settings

end BackupConsole
