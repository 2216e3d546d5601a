/-
  What is checked before a backup, and what its request needs.

  A backup's cipher is looked at twice: when the settings are resolved, before anything is connected, and
  when the request is built. Descriptions are looked at only the first time.

  1. **Specification** — `requestFor`: the request that a backup's options ask for, word by word.

  2. **Program** — `ofOptions_eq_error_iff` and `merge_eq_error_iff` say when each of the two refuses,
     `ofOptions_of_sound` what is built otherwise.

  3. **Correctness** — `refused_early_iff_not_built`: the first check refuses for its cipher every backup,
     if it is described, that the second would refuse, and no other, for the same word and in the same
     words. So what passes the first check can be built.
-/
import BackupConsole.Proofs.Calls
import BackupConsole.Proofs.SettingLayers

namespace BackupConsole.Settings

open Text

variable {flags : Flags} {file : FileSettings} {command : Command} {options : BackupOptions}
  {word : String}

/-- The request that a backup's options ask for: a word counts only if it is spelled exactly so. -/
def requestFor (options : BackupOptions) : BackupRequest where
  kind := if options.kind = "hot" then BackupKind.hot.number else 0
  destination := if options.destination = "aws" then Destination.aws.number else 0
  compression := if options.compression = "gzip" then Compression.gzip.number else 0
  cipher := Cipher.clear.number
  description := options.description

/-! ## The two checks -/

/-- A word is refused that is neither missing nor `none`, and it is named. -/
theorem cipherOfSymbol_eq_error_iff {e : UnsupportedCipher} :
    cipherOfSymbol word = .error e ↔ word ≠ "" ∧ word ≠ "none" ∧ e = ⟨word⟩ := by
  unfold cipherOfSymbol
  cases hword : Cipher.ofSymbol? word with
  | none =>
    obtain ⟨hempty, hnone⟩ := Cipher.ofSymbol?_eq_none_iff.mp hword
    simp [hempty, hnone, eq_comm]
  | some cipher =>
    have hnamed : ¬(word ≠ "" ∧ word ≠ "none") := by
      rw [← Cipher.ofSymbol?_eq_none_iff, hword]
      exact nofun
    simp only [reduceCtorEq, false_iff]
    exact fun h => hnamed ⟨h.1, h.2.1⟩

/-- A request fails on a cipher word that is neither empty nor `none`, and the error quotes that word. -/
theorem ofOptions_eq_error_iff {e : UnsupportedCipher} :
    BackupRequest.ofOptions options = .error e ↔
      options.cipher ≠ "" ∧ options.cipher ≠ "none" ∧ e = ⟨options.cipher⟩ := by
  rw [← cipherOfSymbol_eq_error_iff, BackupRequest.ofOptions]
  cases cipherOfSymbol options.cipher with
  | ok cipher => simp
  | error e' => simp

/-- The layers never are a reason to refuse. -/
theorem merge_eq_error_iff {e : ConfigError} :
    merge flags file command = .error e ↔ Fault command e := by
  rw [← validate_eq_error_iff, merge]
  cases validate command with
  | ok _ => simp
  | error e' => simp

/-- When settings are resolved a cipher is found at fault exactly if the request could not be built,
provided that there is a description. -/
theorem fault_unsupportedCipher_iff {e : UnsupportedCipher} :
    Fault (.backup options) (.unsupportedCipher e) ↔
      isBlank options.description = false ∧ BackupRequest.ofOptions options = .error e := by
  rw [ofOptions_eq_error_iff]
  constructor
  · intro h
    cases h with
    | cipher hdescribed hempty hnone => exact ⟨hdescribed, hempty, hnone, rfl⟩
  · rintro ⟨hdescribed, hempty, hnone, rfl⟩
    exact .cipher hdescribed hempty hnone

/-! ## What is built -/

/-- A backup without fault has its request built. -/
theorem ofOptions_of_sound (h : ∀ e, ¬ Fault (.backup options) e) :
    BackupRequest.ofOptions options = .ok (requestFor options) := by
  have hdescribed : isBlank options.description = false :=
    Bool.eq_false_iff.mpr fun hblank => h _ (.undescribed hblank)
  have hcipher : Cipher.ofSymbol? options.cipher ≠ none := by
    intro hnone
    obtain ⟨hempty, hnone⟩ := Cipher.ofSymbol?_eq_none_iff.mp hnone
    exact h _ (.cipher hdescribed hempty hnone)
  obtain ⟨request, hrequest, hrequested⟩ := ofOptions_of_cipher hcipher
  rw [hrequest, ← Call.backup.inj hrequested]
  rfl

/-- **Refused early exactly if it could not be built.** Whatever the flags and the file say, a backup is
refused for its cipher when settings are resolved exactly if it is described and its request cannot be
built; both times the word it was given is refused, with the same message. The request of a backup
that is accepted is always built: its description is the one given, to the letter, it has no cipher,
and the other words count only if they are spelled exactly `hot`, `aws` and `gzip`. -/
theorem refused_early_iff_not_built (flags : Flags) (file : FileSettings) :
    (∀ (options : BackupOptions) (e : UnsupportedCipher),
      merge flags file (.backup options) = .error (.unsupportedCipher e) ↔
        isBlank options.description = false ∧ BackupRequest.ofOptions options = .error e) ∧
    (∀ (options : BackupOptions) (e : UnsupportedCipher),
      BackupRequest.ofOptions options = .error e →
        e.word = options.cipher ∧ (ConfigError.unsupportedCipher e).message = e.message) ∧
    (∀ (command : Command) (resolved : Resolved), merge flags file command = .ok resolved →
      resolved.command = command ∧ ∀ options, command = .backup options →
        BackupRequest.ofOptions options = .ok (requestFor options)) := by
  refine ⟨fun options e => ?_, fun options e he => ?_, fun command resolved h => ?_⟩
  · rw [merge_eq_error_iff, fault_unsupportedCipher_iff]
  · obtain ⟨-, -, rfl⟩ := ofOptions_eq_error_iff.mp he
    exact ⟨rfl, rfl⟩
  · -- Where settings were resolved nothing was found at fault, and the cipher would have been.
    have hsound : ∀ e, ¬ Fault command e := by
      intro e he
      rw [merge_eq_error_iff.mpr he] at h
      cases h
    rcases validate_cases command with ⟨hv, -⟩ | ⟨e, -, he⟩
    · obtain ⟨r, hr, -, -, hcommand⟩ := layered_merge flags file hv
      obtain rfl : r = resolved := Except.ok.inj (hr.symm.trans h)
      exact ⟨hcommand, fun options hbackup => ofOptions_of_sound (hbackup ▸ hsound)⟩
    · exact absurd he (hsound e)

/-- A cipher that does not exist is refused at once; a backup whose other words are close to the known
ones is accepted, and only `gzip` among them counts. -/
theorem near_words_checked :
    merge Flags.none FileSettings.none (.backup ⟨"", "", "", "aes", "x"⟩) =
        .error (.unsupportedCipher ⟨"aes"⟩) ∧
      (merge Flags.none FileSettings.none (.backup ⟨" hot", "AWS", "gzip", "none", " x "⟩)).isOk ∧
      BackupRequest.ofOptions ⟨" hot", "AWS", "gzip", "none", " x "⟩ = .ok ⟨0, 0, 1, 0, " x "⟩ := by
  obtain ⟨hrefused, -, hbuilt⟩ := refused_early_iff_not_built Flags.none FileSettings.none
  have haccepted : merge Flags.none FileSettings.none (.backup ⟨" hot", "AWS", "gzip", "none", " x "⟩) =
      .ok ⟨false, none, defaultServerAddress, none,
        .backup ⟨" hot", "AWS", "gzip", "none", " x "⟩⟩ := by decide
  refine ⟨(hrefused _ _).mpr ⟨by decide, by decide⟩, by rw [haccepted]; rfl, ?_⟩
  exact (hbuilt _ _ haccepted).2 _ rfl

end BackupConsole.Settings
