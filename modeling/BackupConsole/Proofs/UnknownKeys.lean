/-
  Which entries of a configuration file count.

  1. **Specification** — of the entries of a root, those count that stand under the key of a setting
     (`Names`). The order of entries and all other entries should not matter. But keys are paths, and a key
     such as `tls.x` leads into a setting (`LeadsInto`): where one is entered and the setting's own entry is
     not entered behind it, the root ends astray (`EndsAstray`).

  2. **Program** — for each setting the last entry decides that reaches it. One that stands under the
     setting's key gives its value (`says_of_not_endsAstray`); from one that leads into the setting comes a
     table or a list, which no setting can be (`unusable_of_endsAstray`).

  3. **Correctness** — `load_of_changed_root`: when entries are inserted, removed and put into another order,
     but for those under the keys of settings, the same settings are loaded if the root does not end astray
     and none are loaded if it does. Some order of the entries ends astray if any key leads into a setting,
     and every order does if nothing else is said about the setting.
-/
import BackupConsole.Proofs.DistinctKeys
import BackupConsole.Proofs.RecordedFile

namespace BackupConsole.Settings

open Text
open Yaml (Node)

variable {s : Setting} {key : String} {value : Node} {entry : Node × Node}
  {root root' order : List (Node × Node)}

/-! ## Specification -/

/-- An entry stands under the key of a setting. -/
def Names (s : Setting) (entry : Node × Node) : Prop := keyText entry.1 = .ok s.key

/-- A key is a path that begins with the key of a setting and has steps behind it. -/
def IsPathInto (s : Setting) (key : String) : Prop :=
  KeyState.start.completes key.toList = true ∧
    ∃ mark rest, key.toList = s.key.toList ++ mark :: rest ∧ (mark = '.' ∨ mark = '[')

/-- The key of an entry leads into a setting. -/
def LeadsInto (s : Setting) (entry : Node × Node) : Prop :=
  ∃ key, keyText entry.1 = .ok key ∧ IsPathInto s key

/-- A key leads into a setting, and behind it there is no entry under the setting's own key. -/
def EndsAstray (s : Setting) (root : List (Node × Node)) : Prop :=
  ∃ front entry back, root = front ++ entry :: back ∧ LeadsInto s entry ∧ ∀ other ∈ back, ¬Names s other

/-- What a root says about a setting under the setting's own key. -/
def Says (root : List (Node × Node)) (s : Setting) (held : Held) : Prop :=
  ∃ entry ∈ root, Names s entry ∧ Held.ofNode entry.2 = held

/-! ## Keys as paths -/

theorem ofKey?_eq_some_iff : Setting.ofKey? key = some s ↔ key = s.key := by
  constructor
  · intro h
    have hsame := List.find?_some h
    exact (beq_iff_eq.mp hsame).symm
  · rintro rfl
    exact Setting.ofKey?_key s

theorem ofKey_key (s : Setting) : KeyPath.ofKey s.key = ⟨s.key, .whole⟩ := by cases s <;> decide

/-- A setting's key is what stands before the mark that leads into it. -/
theorem takeWhile_key (s : Setting) {mark : Char} (h : mark = '.' ∨ mark = '[') (rest : List Char) :
    (s.key.toList ++ mark :: rest).takeWhile isIdentifierChar = s.key.toList ∧
      (s.key.toList ++ mark :: rest).dropWhile isIdentifierChar = mark :: rest := by
  have hkey : ∀ c ∈ s.key.toList, isIdentifierChar c = true :=
    List.all_eq_true.mp (by cases s <;> decide)
  have hmark : isIdentifierChar mark = false := by obtain rfl | rfl := h <;> decide
  constructor
  · rw [List.takeWhile_append_of_pos hkey, List.takeWhile_cons_of_neg (by simp [hmark]), List.append_nil]
  · rw [List.dropWhile_append_of_pos hkey, List.dropWhile_cons_of_neg (by simp [hmark])]

/-- Behind an identifier only a dot or a bracket leads on. -/
theorem dropWhile_of_completes {rest : List Char} (h : KeyState.identifier.completes rest = true) :
    rest.dropWhile isIdentifierChar = [] ∨
      ∃ mark tail, rest.dropWhile isIdentifierChar = mark :: tail ∧ (mark = '.' ∨ mark = '[') := by
  induction rest with
  | nil => exact .inl rfl
  | cons c rest ih =>
    rw [KeyState.completes, KeyState.next] at h
    by_cases hc : isIdentifierChar c = true
    · rw [if_pos hc] at h
      rw [List.dropWhile_cons_of_pos hc]
      exact ih h
    · rw [if_neg hc] at h
      rw [List.dropWhile_cons_of_neg hc]
      refine .inr ⟨c, rest, rfl, ?_⟩
      by_contra hmark
      rw [not_or] at hmark
      rw [if_neg hmark.1, if_neg hmark.2] at h
      cases h

/-- A path begins with an identifier. -/
theorem dropWhile_of_isPath {text : List Char} (h : KeyState.start.completes text = true) :
    text.dropWhile isIdentifierChar = [] ∨
      ∃ mark tail, text.dropWhile isIdentifierChar = mark :: tail ∧ (mark = '.' ∨ mark = '[') := by
  cases text with
  | nil => cases h
  | cons c rest =>
    rw [KeyState.completes, KeyState.next] at h
    by_cases hc : isIdentifierChar c = true
    · rw [if_pos hc] at h
      rw [List.dropWhile_cons_of_pos hc]
      exact dropWhile_of_completes h
    · rw [if_neg hc] at h
      cases h

/-- What a key sets is its identifier where it is a path, else the whole key. -/
theorem setting_ofKey (key : String) :
    (KeyPath.ofKey key).setting =
      if KeyState.start.completes key.toList = true then
        String.ofList (key.toList.takeWhile isIdentifierChar)
      else key := by
  unfold KeyPath.ofKey
  dsimp only
  split
  · split <;> rfl
  · rfl

/-- The keys that reach a setting are its own and the paths into it. -/
theorem eq_key_or_isPathInto (h : (KeyPath.ofKey key).setting = s.key) : key = s.key ∨ IsPathInto s key := by
  rw [setting_ofKey] at h
  split at h
  · next hpath =>
    have hwhole : key.toList = s.key.toList ++ key.toList.dropWhile isIdentifierChar := by
      rw [← h, String.toList_ofList, List.takeWhile_append_dropWhile]
    obtain hnil | ⟨mark, rest, hrest, hmark⟩ := dropWhile_of_isPath hpath
    · rw [hnil, List.append_nil] at hwhole
      exact .inl (String.toList_injective hwhole)
    · rw [hrest] at hwhole
      exact .inr ⟨hpath, mark, rest, hwhole, hmark⟩
  · exact .inl h

/-- A path into a setting leads to a field or an item of it. -/
theorem IsPathInto.ofKey (h : IsPathInto s key) :
    KeyPath.ofKey key = ⟨s.key, .field⟩ ∨ KeyPath.ofKey key = ⟨s.key, .item⟩ := by
  obtain ⟨hpath, mark, rest, hkey, hmark⟩ := h
  obtain ⟨htake, hdrop⟩ := takeWhile_key s hmark rest
  rw [hkey] at hpath
  simp only [KeyPath.ofKey, hkey, hpath, if_pos, htake, hdrop, String.ofList_toList]
  obtain rfl | rfl := hmark
  · exact .inl rfl
  · exact .inr rfl

/-! ## One entry -/

/-- Neither a truth value nor a text comes of it. -/
def Unusable (held : Held) : Prop := held = .table ∨ ∃ spelledOut, held = .list spelledOut

variable {t : SettingTable}

theorem enter_of_ne (h : (KeyPath.ofKey key).setting ≠ s.key) : t.enter key value s = t s := by
  rw [SettingTable.enter]
  cases hother : Setting.ofKey? (KeyPath.ofKey key).setting with
  | none => rfl
  | some other =>
    refine if_neg ?_
    rintro rfl
    exact h (ofKey?_eq_some_iff.mp hother)

theorem enter_key : t.enter s.key value s = Held.ofNode value := by
  simp only [SettingTable.enter, ofKey_key, Setting.ofKey?_key, if_pos]

/-- An entry under a path into a setting makes it unusable. -/
theorem unusable_enter (h : IsPathInto s key) : Unusable (t.enter key value s) := by
  obtain h | h := h.ofKey
  · simp only [SettingTable.enter, h, Setting.ofKey?_key, if_pos]
    exact .inl rfl
  · simp only [SettingTable.enter, h, Setting.ofKey?_key, if_pos]
    split
    · exact .inr ⟨_, rfl⟩
    · exact .inr ⟨_, rfl⟩

/-- Enters an entry, if its key has a text. -/
def SettingTable.enterEntry (t : SettingTable) (entry : Node × Node) : SettingTable :=
  match keyText entry.1 with
  | .ok key => t.enter key entry.2
  | .error _ => t

theorem enterAll_cons (t : SettingTable) (entry : Node × Node) (rest : List (Node × Node)) :
    t.enterAll (entry :: rest) = (t.enterEntry entry).enterAll rest := by
  obtain ⟨key, value⟩ := entry
  rw [SettingTable.enterAll, SettingTable.enterEntry]
  cases keyText key <;> rfl

theorem enterEntry_of_names (h : Names s entry) : t.enterEntry entry s = Held.ofNode entry.2 := by
  rw [SettingTable.enterEntry, h]
  exact enter_key

/-- An entry that leads into a setting makes it unusable. -/
theorem unusable_enterEntry (h : LeadsInto s entry) : Unusable (t.enterEntry entry s) := by
  obtain ⟨key, hkey, hpath⟩ := h
  rw [SettingTable.enterEntry, hkey]
  exact unusable_enter hpath

/-- Other entries do not reach the setting. -/
theorem enterEntry_of_neither (hnames : ¬Names s entry) (hleads : ¬LeadsInto s entry) :
    t.enterEntry entry s = t s := by
  rw [SettingTable.enterEntry]
  cases hkey : keyText entry.1 with
  | error e => rfl
  | ok key =>
    refine enter_of_ne fun hsetting => ?_
    obtain rfl | hpath := eq_key_or_isPathInto hsetting
    · exact hnames hkey
    · exact hleads ⟨key, hkey, hpath⟩

/-! ## All entries

What a setting is held to be is settled by the last entry that reaches it. -/

/-- What is unusable stays so until an entry names the setting. -/
theorem unusable_enterAll (h : Unusable (t s)) (hroot : ∀ entry ∈ root, ¬Names s entry) :
    Unusable (t.enterAll root s) := by
  induction root generalizing t with
  | nil => exact h
  | cons entry rest ih =>
    obtain ⟨hnames, hrest⟩ := List.forall_mem_cons.mp hroot
    rw [enterAll_cons]
    refine ih ?_ hrest
    by_cases hleads : LeadsInto s entry
    · exact unusable_enterEntry hleads
    · rwa [enterEntry_of_neither hnames hleads]

/-- Where a root ends astray, what is held can not be used. -/
theorem unusable_of_endsAstray (h : EndsAstray s root) : Unusable (t.enterAll root s) := by
  obtain ⟨front, entry, back, rfl, hleads, hback⟩ := h
  induction front generalizing t with
  | nil =>
    rw [List.nil_append, enterAll_cons]
    exact unusable_enterAll (unusable_enterEntry hleads) hback
  | cons first front ih =>
    rw [List.cons_append, enterAll_cons]
    exact ih

/-- Where it does not, what is held is what the root says, or what was held before. -/
theorem says_of_not_endsAstray (h : ¬EndsAstray s root) :
    Says root s (t.enterAll root s) ∨ (∀ entry ∈ root, ¬Names s entry) ∧ t.enterAll root s = t s := by
  induction root generalizing t with
  | nil => exact .inr ⟨nofun, rfl⟩
  | cons entry rest ih =>
    have hrest : ¬EndsAstray s rest := by
      rintro ⟨front, other, back, rfl, hother⟩
      exact h ⟨entry :: front, other, back, rfl, hother⟩
    rw [enterAll_cons]
    obtain ⟨other, hmem, hother⟩ | ⟨hnone, hheld⟩ := @ih (t.enterEntry entry) hrest
    · exact .inl ⟨other, List.mem_cons_of_mem _ hmem, hother⟩
    · rw [hheld]
      by_cases hnames : Names s entry
      · exact .inl ⟨entry, List.mem_cons_self, hnames, (enterEntry_of_names hnames).symm⟩
      · have hleads : ¬LeadsInto s entry := fun hleads => h ⟨[], entry, rest, rfl, hleads, hnone⟩
        exact .inr ⟨List.forall_mem_cons.mpr ⟨hnames, hnone⟩, enterEntry_of_neither hnames hleads⟩

/-! ## Settings from what is held -/

/-- What is unusable is neither a truth value nor a text. -/
theorem exists_mismatch_of_unusable {held : Held} (h : Unusable held) (s : Setting) :
    (∃ reason, held.toBool s = .error reason) ∧ ∃ reason, held.toText s = .error reason := by
  obtain rfl | ⟨spelledOut, rfl⟩ := h
  · exact ⟨⟨_, rfl⟩, _, rfl⟩
  · exact ⟨⟨_, rfl⟩, _, rfl⟩

theorem exists_error_of_unusable (h : Unusable (t s)) : ∃ reason, FileSettings.ofTable t = .error reason := by
  obtain ⟨⟨boolReason, hbool⟩, textReason, htext⟩ := exists_mismatch_of_unusable h s
  unfold FileSettings.ofTable
  split
  · exact ⟨_, rfl⟩
  · next tls htls =>
    split
    · exact ⟨_, rfl⟩
    · next caFile hcaFile =>
      split
      · exact ⟨_, rfl⟩
      · next serverAddress hserverAddress =>
        -- one of the three was the mismatch
        cases s with
        | tls => cases hbool.symm.trans htls
        | caFile => cases htext.symm.trans hcaFile
        | serverAddress => cases htext.symm.trans hserverAddress

theorem exists_error_of_endsAstray (h : EndsAstray s root) : ∃ reason, settingsOfRoot root = .error reason :=
  exists_error_of_unusable (unusable_of_endsAstray h)

/-- A root says one thing at most about each setting. -/
def Univocal (root : List (Node × Node)) : Prop := ∀ s a b, Says root s a → Says root s b → a = b

/-- Roots that say the same and do not end astray settle the same. -/
theorem settingsOfRoot_congr (hsame : ∀ s held, Says root' s held ↔ Says root s held) (hone : Univocal root)
    (h : ∀ s, ¬EndsAstray s root) (h' : ∀ s, ¬EndsAstray s root') :
    settingsOfRoot root' = settingsOfRoot root := by
  refine congrArg FileSettings.ofTable (funext fun s => ?_)
  obtain hsays' | ⟨hnone', hheld'⟩ := says_of_not_endsAstray (t := fun _ => .nothing) (h' s)
  · obtain hsays | ⟨hnone, -⟩ := says_of_not_endsAstray (t := fun _ => .nothing) (h s)
    · exact hone s _ _ ((hsame s _).mp hsays') hsays
    · obtain ⟨entry, hmem, hnames, -⟩ := (hsame s _).mp hsays'
      exact absurd hnames (hnone entry hmem)
  · obtain hsays | ⟨-, hheld⟩ := says_of_not_endsAstray (t := fun _ => .nothing) (h s)
    · obtain ⟨entry, hmem, hnames, -⟩ := (hsame s _).mpr hsays
      exact absurd hnames (hnone' entry hmem)
    · rw [hheld, hheld']

/-! ## Orders of the entries -/

theorem says_of_perm {held : Held} (h : order.Perm root) : Says order s held ↔ Says root s held := by
  simp only [Says, h.mem_iff]

/-- A path into a setting is longer than the setting's key. -/
theorem not_names_of_leadsInto (h : LeadsInto s entry) : ¬Names s entry := by
  obtain ⟨key, hkey, -, mark, rest, hlist, -⟩ := h
  intro hnames
  have hsame : key = s.key := Except.ok.inj (hkey.symm.trans hnames)
  have hlength := congrArg List.length hlist
  rw [hsame, List.length_append, List.length_cons] at hlength
  omega

/-- What is entered last is entered behind all other entries. -/
theorem perm_last (front back : List (Node × Node)) (entry : Node × Node) :
    (front ++ back ++ [entry]).Perm (front ++ entry :: back) := by
  rw [List.append_assoc]
  exact (List.perm_append_singleton entry back).append_left front

/-- Some order of the entries ends astray if there is a path into the setting at all. -/
theorem exists_order_endsAstray_iff :
    (∃ order, order.Perm root ∧ EndsAstray s order) ↔ ∃ entry ∈ root, LeadsInto s entry := by
  constructor
  · rintro ⟨order, hperm, front, entry, back, rfl, hleads, -⟩
    exact ⟨entry, hperm.mem_iff.mp (List.mem_append_right _ List.mem_cons_self), hleads⟩
  · rintro ⟨entry, hmem, hleads⟩
    obtain ⟨front, back, rfl⟩ := List.append_of_mem hmem
    exact ⟨_, perm_last front back entry, front ++ back, entry, [], rfl, hleads, nofun⟩

/-- Where the last entry stands under the key of the setting, the root does not end astray. -/
theorem not_endsAstray_concat (h : Names s entry) (front : List (Node × Node)) :
    ¬EndsAstray s (front ++ [entry]) := by
  rintro ⟨before, other, back, heq, hleads, hback⟩
  obtain rfl | ⟨back, last, rfl⟩ := List.eq_nil_or_concat' back
  · obtain ⟨-, hlast⟩ := List.append_inj' heq rfl
    cases hlast
    exact not_names_of_leadsInto hleads h
  · rw [← List.cons_append, ← List.append_assoc] at heq
    obtain ⟨-, hlast⟩ := List.append_inj' heq rfl
    cases hlast
    exact hback entry (List.mem_append_right _ List.mem_cons_self) h

/-- All orders end astray if besides such a path there is nothing under the setting's own key. -/
theorem all_orders_endAstray_iff :
    (∀ order, order.Perm root → EndsAstray s order) ↔
      (∃ entry ∈ root, LeadsInto s entry) ∧ ∀ entry ∈ root, ¬Names s entry := by
  constructor
  · intro h
    refine ⟨exists_order_endsAstray_iff.mp ⟨root, .refl root, h root (.refl root)⟩, ?_⟩
    intro entry hmem hnames
    obtain ⟨front, back, rfl⟩ := List.append_of_mem hmem
    exact not_endsAstray_concat hnames _ (h _ (perm_last front back entry))
  · rintro ⟨⟨entry, hmem, hleads⟩, hnone⟩ order hperm
    obtain ⟨front, back, rfl⟩ := List.append_of_mem (hperm.mem_iff.mpr hmem)
    refine ⟨front, entry, back, rfl, hleads, fun other hother => hnone other ?_⟩
    exact hperm.mem_iff.mp (List.mem_append_right _ (List.mem_cons_of_mem _ hother))

/-! ## Documents -/

/-- No setting has a number for its key. -/
theorem intText_ne_key (n : Int) (s : Setting) : intText n ≠ s.key := by
  intro h
  have hchars : ∀ c ∈ (intText n).toList, c.isDigit = true ∨ c = '-' := by
    intro c hc
    cases n with
    | ofNat n =>
      rw [intText, natText, String.toList_ofList] at hc
      exact .inl (isDigit_of_mem_natDigits hc)
    | negSucc n =>
      rw [intText, natText, String.toList_append, List.mem_append] at hc
      obtain hc | hc := hc
      · exact .inr (List.mem_singleton.mp hc)
      · rw [String.toList_ofList] at hc
        exact .inl (isDigit_of_mem_natDigits hc)
  -- Every key has a letter, and a number has none.
  have hletter : (s.key.toList.any fun c => !c.isDigit && c != '-') = true := by cases s <;> decide
  obtain ⟨c, hc, hne⟩ := List.any_eq_true.mp hletter
  rw [← h] at hc
  obtain hdigit | rfl := hchars c hc
  · rw [hdigit] at hne
    cases hne
  · cases hne

/-- Only a text is the key of a setting. -/
theorem eq_text_of_keyText {n : Node} (htidy : n.Tidy) (h : keyText n = .ok s.key) : n = .text s.key := by
  cases htidy with
  | null | void => cases h
  | list _ | map _ _ _ => cases h
  | text text =>
    cases h
    rfl
  | int n => exact absurd (Except.ok.inj h) (intText_ne_key n s)
  | bool b =>
    have hword : boolText b ≠ s.key := by cases b <;> cases s <;> decide
    exact absurd (Except.ok.inj h) hword
  | real hreal =>
    cases h
    have hnone : Node.isReal s.key = false := by cases s <;> decide
    rw [hnone] at hreal
    cases hreal

/-- A mapping whose keys are distinct says one thing at most about each setting. -/
theorem univocal_of_tidy (h : (Node.map root).Tidy) : Univocal root := by
  cases h with
  | map hkeys _ hdiffer =>
    rintro s _ _ ⟨a, ha, hnamesA, rfl⟩ ⟨b, hb, hnamesB, rfl⟩
    have hdistinct : ∀ x ∈ root, ∀ y ∈ root, Node.KeysDiffer x y → Names s x → ¬Names s y := by
      intro x hx y hy hdiffer hnamesX hnamesY
      rw [Node.KeysDiffer, eq_text_of_keyText (hkeys x hx) hnamesX, eq_text_of_keyText (hkeys y hy) hnamesY,
        Node.sameScalar, beq_self_eq_true] at hdiffer
      cases hdiffer
    have hone : root.Pairwise fun a b => Names s a → Names s b → a = b :=
      hdiffer.imp_of_mem fun hx hy hdiffer hnamesX hnamesY =>
        absurd hnamesY (hdistinct _ hx _ hy hdiffer hnamesX)
    have hsame : a = b := by
      refine hone.forall_of_forall_of_flip (fun _ _ _ _ => rfl) ?_ ha hb hnamesA hnamesB
      exact hone.imp fun h hnames hnames' => (h hnames' hnames).symm
    rw [hsame]

/-- There is no document, or there is one that is a mapping. -/
theorem documents_of_rootOf {documents : List Node} (h : rootOf documents = .ok root) :
    root = [] ∨ documents = [.map root] := by
  unfold rootOf at h
  split at h
  · cases h
    exact .inl rfl
  · next document =>
    split at h
    · cases h
    · split at h
      case h_1 =>
        cases h
        exact .inr rfl
      case h_6 => split at h <;> cases h
      all_goals cases h
  · cases h

/-- The root of a text says one thing at most about each setting. -/
theorem univocal_of_rootOfText {text : List Char} (h : rootOfText text = .ok root) : Univocal root := by
  unfold rootOfText at h
  split at h
  · cases h
  · next documents hdocuments =>
    obtain rfl | rfl := documents_of_rootOf h
    · rintro s _ _ ⟨entry, hentry, -⟩
      cases hentry
    · exact univocal_of_tidy (Node.tidy_of_ofText hdocuments _ List.mem_cons_self)

/-- The file that a path stands for has these entries at its root. -/
def HasRoot (t : FileTree) (path : String) (root : List (Node × Node)) : Prop :=
  ∃ file bytes, firstFile t (candidates t path) = some (file, .ok bytes) ∧
    rootOfText (fileChars bytes) = .ok root

theorem HasRoot.univocal {t : FileTree} {path : String} (h : HasRoot t path root) : Univocal root := by
  obtain ⟨file, bytes, -, hroot⟩ := h
  exact univocal_of_rootOfText hroot

/-- A file with a root loads as its root settles. -/
theorem HasRoot.load_eq_ok_iff {t : FileTree} {path : String} (h : HasRoot t path root)
    (settings : FileSettings) : load t path = .ok settings ↔ settingsOfRoot root = .ok settings := by
  obtain ⟨file, bytes, hfile, hroot⟩ := h
  have hload : load t path = settingsOfBytes (seenFrom t file) bytes := by
    delta load
    rw [hfile]
    rfl
  rw [hload, settingsOfBytes_eq_ok_iff, Decodes]
  constructor
  · rintro ⟨other, hother, hsettings⟩
    rw [hroot] at hother
    cases hother
    exact hsettings
  · exact fun hsettings => ⟨root, hroot, hsettings⟩

/-- A file whose root settles nothing does not load. -/
theorem HasRoot.load_eq_error {t : FileTree} {path : String} (h : HasRoot t path root) {reason : TypeMismatch}
    (hreason : settingsOfRoot root = .error reason) : ∃ reason, load t path = .error reason := by
  cases hload : load t path with
  | error reason => exact ⟨reason, rfl⟩
  | ok settings =>
    rw [h.load_eq_ok_iff, hreason] at hload
    cases hload

/-- **Unknown keys.** A configuration file can be loaded, and its entries are changed, but for what they say
about settings under the settings' own keys. In whatever order the new entries are entered, the same settings
come of them unless some setting ends astray; then none come of them. Some order ends astray in a setting if
any key leads into the setting, and every order does if besides there is no entry under the setting's own
key. -/
theorem load_of_changed_root {t u : FileTree} {path path' : String} {settings : FileSettings}
    (hroot : HasRoot t path root) (hroot' : HasRoot u path' root')
    (hsame : ∀ s held, Says root' s held ↔ Says root s held) (hload : load t path = .ok settings) :
    (((∀ s, ¬EndsAstray s root') → load u path' = .ok settings) ∧
        ∀ s, EndsAstray s root' → ∃ reason, load u path' = .error reason) ∧
      (∀ order, order.Perm root' →
        ((∀ s, ¬EndsAstray s order) → settingsOfRoot order = .ok settings) ∧
          ∀ s, EndsAstray s order → ∃ reason, settingsOfRoot order = .error reason) ∧
      ∀ s, ((∃ order, order.Perm root' ∧ EndsAstray s order) ↔ ∃ entry ∈ root', LeadsInto s entry) ∧
        ((∀ order, order.Perm root' → EndsAstray s order) ↔
          (∃ entry ∈ root', LeadsInto s entry) ∧ ∀ entry ∈ root', ¬Names s entry) := by
  rw [hroot.load_eq_ok_iff] at hload
  -- Where a file is loaded its root cannot have ended astray.
  have hsound : ∀ s, ¬EndsAstray s root := by
    intro s hastray
    obtain ⟨reason, hreason⟩ := exists_error_of_endsAstray hastray
    rw [hload] at hreason
    cases hreason
  -- An order that ends nowhere astray settles the same as the root that was loaded.
  have horder : ∀ order, order.Perm root' → (∀ s, ¬EndsAstray s order) →
      settingsOfRoot order = .ok settings := by
    intro order hperm hnone
    have hsays : ∀ s held, Says order s held ↔ Says root s held :=
      fun s held => (says_of_perm hperm).trans (hsame s held)
    rw [settingsOfRoot_congr hsays hroot.univocal hsound hnone, hload]
  refine ⟨⟨fun hnone => ?_, fun s hastray => ?_⟩, ?_, ?_⟩
  · exact (hroot'.load_eq_ok_iff settings).mpr (horder root' (.refl root') hnone)
  · obtain ⟨reason, hreason⟩ := exists_error_of_endsAstray hastray
    exact hroot'.load_eq_error hreason
  · exact fun order hperm => ⟨horder order hperm, fun s => exists_error_of_endsAstray⟩
  · exact fun s => ⟨exists_order_endsAstray_iff, all_orders_endAstray_iff⟩

/-- What the entries of a root come to: the texts of their keys, and what their values mean. -/
def readings (root : List (Node × Node)) : List (Except DocumentError String × Held) :=
  root.map fun entry => (keyText entry.1, Held.ofNode entry.2)

/-- What a root says can be read off a table of its entries. -/
theorem says_iff_mem_readings {held : Held} : Says root s held ↔ (.ok s.key, held) ∈ readings root := by
  simp only [Says, Names, readings, List.mem_map, Prod.mk.injEq]

/-- A text with such a table has a root. -/
theorem exists_root_of_readings {text : List Char} {lines : List (Except DocumentError String × Held)}
    (h : (rootOfText text).map readings = .ok lines) :
    ∃ root, rootOfText text = .ok root ∧ readings root = lines := by
  cases hroot : rootOfText text with
  | error e =>
    rw [hroot] at h
    cases h
  | ok root =>
    rw [hroot] at h
    exact ⟨root, rfl, Except.ok.inj h⟩

/-- A home directory with a configuration file that says this. -/
def configuredWith (text : String) : FileTree := (operatorWith [("c.yml", .file (utf8Bytes text))]).files

/-- With `tls.x` added to it, a configuration file cannot be loaded any more, whatever the order in which its
entries are entered. -/
theorem dotted_key_refused :
    load (configuredWith "server_addr: a\n") "c.yml" = .ok ⟨none, none, some "a"⟩ ∧
      ∃ root, HasRoot (configuredWith "server_addr: a\ntls.x: 1\n") "c.yml" root ∧
        (∃ reason, load (configuredWith "server_addr: a\ntls.x: 1\n") "c.yml" = .error reason) ∧
        ∀ order, order.Perm root → ∃ reason, settingsOfRoot order = .error reason := by
  have hload : load (configuredWith "server_addr: a\n") "c.yml" = .ok ⟨none, none, some "a"⟩ := by
    decide +kernel
  have hreadings : (rootOfText (fileChars (utf8Bytes "server_addr: a\n"))).map readings =
      .ok [(.ok "server_addr", .text "a")] := by decide +kernel
  have hreadings' : (rootOfText (fileChars (utf8Bytes "server_addr: a\ntls.x: 1\n"))).map readings =
      .ok [(.ok "server_addr", .text "a"), (.ok "tls.x", .int 1)] := by decide +kernel
  obtain ⟨root, hroot, hlines⟩ := exists_root_of_readings hreadings
  obtain ⟨root', hroot', hlines'⟩ := exists_root_of_readings hreadings'
  have hfile : HasRoot (configuredWith "server_addr: a\n") "c.yml" root :=
    ⟨"/home/op/c.yml", utf8Bytes "server_addr: a\n", by decide +kernel, hroot⟩
  have hfile' : HasRoot (configuredWith "server_addr: a\ntls.x: 1\n") "c.yml" root' :=
    ⟨"/home/op/c.yml", utf8Bytes "server_addr: a\ntls.x: 1\n", by decide +kernel, hroot'⟩
  have hsame : ∀ s held, Says root' s held ↔ Says root s held := by
    intro s held
    rw [says_iff_mem_readings, says_iff_mem_readings, hlines, hlines']
    cases s <;> simp [Setting.key]
  obtain ⟨⟨-, hrefused⟩, horders, hastray⟩ := load_of_changed_root hfile hfile' hsame hload
  have hleads : ∃ entry ∈ root', LeadsInto .tls entry := by
    have hmem : (.ok "tls.x", .int 1) ∈ readings root' := hlines' ▸ List.mem_of_getLast? rfl
    obtain ⟨entry, hentry, heq⟩ := List.mem_map.mp hmem
    exact ⟨entry, hentry, "tls.x", (Prod.mk.inj heq).1, by decide, '.', ['x'], by decide, .inl rfl⟩
  have hnames : ∀ entry ∈ root', ¬Names .tls entry := by
    intro entry hentry hnames
    have hsays : Says root' .tls (Held.ofNode entry.2) := ⟨entry, hentry, hnames, rfl⟩
    rw [says_iff_mem_readings, hlines'] at hsays
    simp [Setting.key] at hsays
  have hevery := (hastray .tls).2.mpr ⟨hleads, hnames⟩
  refine ⟨hload, root', hfile', hrefused .tls (hevery root' (.refl root')), ?_⟩
  exact fun order hperm => (horders order hperm).2 .tls (hevery order hperm)

end BackupConsole.Settings
