/-
  The texts of errors that quote what others have written.

  1. **Specification** — `IsOneLine`: neither a control character nor a line separator stands in a text.
     `operations`: what a call can be made for (`operation_mem_of_listing`, `operation_mem_of_dispatch`).
     `countedAs`: the number for which a number counts as a code. `RefusesCipher`: the two errors that
     refuse a cipher have one text.

  2. **Reading back** — `readChar?` takes one character off the front of quoted text. No escape begins
     like another one, so quoted text ends where its second quote stands (`quote_append_inj`).

  3. **Correctness** — `error_texts_cannot_be_forged`: whatever is quoted, the text of a failed call and
     that of a refused cipher are one line, and what was quoted can be told from them.
-/
import BackupConsole.Dispatch
import BackupConsole.Proofs.Receiving
import BackupConsole.Settings.Resolve

namespace BackupConsole

open Rpc Text

variable {α β : Type} {c d : Char} {n m : Nat} {s t : List Char} {a b text rest : String}
  {operation : String} {cancelled : Bool} {e : CallError}

/-! ## Specification -/

/-- The control characters of Unicode. -/
def IsControl (c : Char) : Prop := c.toNat ≤ 0x1F ∨ 0x7F ≤ c.toNat ∧ c.toNat ≤ 0x9F

/-- The separators of lines and of paragraphs. Whatever else ends a line is a control character. -/
def IsSeparator (c : Char) : Prop := c.toNat = 0x2028 ∨ c.toNat = 0x2029

/-- A character that leaves a line as it is. -/
def IsTame (c : Char) : Prop := ¬ IsControl c ∧ ¬ IsSeparator c

/-- Whether a character is a control character is seen from its number. -/
instance : DecidablePred IsControl := fun _ => inferInstanceAs (Decidable (_ ∨ _))

/-- So it is for separators. -/
instance : DecidablePred IsSeparator := fun _ => inferInstanceAs (Decidable (_ ∨ _))

/-- And for characters that leave a line as it is. -/
instance : DecidablePred IsTame := fun _ => inferInstanceAs (Decidable (_ ∧ _))

/-- A text on a single line, without control characters. -/
def IsOneLine (text : String) : Prop := ∀ c ∈ text.toList, IsTame c

/-- A text is searched character by character. -/
instance : DecidablePred IsOneLine := fun text => List.decidableBAll IsTame text.toList

/-- What the calls are made for. -/
def operations : List String := [listAgents, listBackups, runBackupOperation, runRestoreOperation]

/-- The number of the code that a number stands for. -/
def countedAs (n : Int) : Int := if 0 ≤ n ∧ n ≤ 16 then n else 2

/-- A text by which a cipher word is refused, be it when settings are resolved or when a request is
built. -/
inductive RefusesCipher (word : String) : String → Prop
  | settings : RefusesCipher word (Settings.ConfigError.unsupportedCipher ⟨word⟩).message
  | request : RefusesCipher word (UnsupportedCipher.mk word).message

/-! ## Operations -/

/-- What a call was made for. -/
def operationOf : CallError → String
  | .status operation _ => operation
  | .cancelled operation => operation

theorem operation_of_answer {reply : Reply α} (h : (answer operation cancelled reply).result = .error e) :
    operationOf e = operation := by
  unfold answer at h
  cases cancelled with
  | true =>
    cases h
    rfl
  | false =>
    cases reply with
    | value => cases h
    | failure => cases h; rfl
    | silence => cases h; rfl

/-- A listing that fails names its own operation, whether opening its stream or receiving it failed. -/
theorem operation_of_listing {gather : List α → β} {reply : Reply (Opened α)}
    (h : (Coordinator.listing operation gather reply cancelled).result = .error e) :
    operationOf e = operation := by
  unfold Coordinator.listing at h
  simp only at h
  -- Either the call was answered and its stream was not received whole, or the call failed.
  split at h
  · next opened hopened =>
    have hdrains := drains_drain operation opened.cancelled opened.events
    rw [collect, Received.complete] at h
    cases hverdict : (drain operation opened.cancelled opened.events).verdict with
    | ok k =>
      rw [hverdict] at h
      cases h
    | error e' =>
      rw [hverdict] at h
      cases h
      rcases hdrains.eq_cancelled_or_status hverdict with rfl | ⟨_, _, rfl, -⟩ <;> rfl
  · next e' hfailed =>
    cases h
    exact operation_of_answer hfailed

/-- Listings are made for two of these operations. -/
theorem operation_mem_of_listing {coordinator : Coordinator}
    (h : (coordinator.connectedAgents cancelled).result = .error e ∨
      (coordinator.availableBackups cancelled).result = .error e) : operationOf e ∈ operations := by
  rcases h with h | h
  · rw [operation_of_listing h]
    decide
  · rw [operation_of_listing h]
    decide

theorem result_ofWrite_ne_call {w : Writer} {before : List Effect} :
    (Outcome.ofWrite text w before).result ≠ .error (.call e) := by
  unfold Outcome.ofWrite
  simp only
  split <;> nofun

/-- The command of a call fails as that call does, if it fails by the call at all. -/
theorem operation_of_runCall {call : Call} {reply : Reply Unit} {sending : LogEvent} {w : Writer}
    {before : List Effect}
    (h : (runCall operation cancelled call reply sending text w before).result = .error (.call e)) :
    operationOf e = operation := by
  unfold runCall at h
  simp only at h
  split at h
  · next e' hfailed =>
    cases h
    exact operation_of_answer hfailed
  · exact absurd h result_ofWrite_ne_call

/-- Whatever call it is by which a command fails, it is made for one of the operations. -/
theorem operation_mem_of_dispatch {command : Command} {coordinator : Coordinator} {w : Writer}
    (h : (dispatch command coordinator cancelled w).result = .error (.call e)) :
    operationOf e ∈ operations := by
  -- A listing whose call fails logs this and carries through.
  have hlisting : ∀ {γ : Type} {listed : Listed γ} {call interrupted failed render},
      (runListing listed call interrupted failed render w).result ≠ .error (.call e) := by
    intro γ listed call interrupted failed render
    unfold runListing
    simp only
    split
    · nofun
    · exact result_ofWrite_ne_call
  cases command with
  | backup options =>
    have hbackup : (runBackup coordinator cancelled options w).result = .error (.call e) := h
    unfold runBackup at hbackup
    split at hbackup
    · cases hbackup
    · rw [operation_of_runCall hbackup]
      decide
  | restore options =>
    have hrestore : (runRestore coordinator cancelled options w).result = .error (.call e) := h
    unfold runRestore at hrestore
    simp only at hrestore
    split at hrestore
    · rw [operation_of_runCall hrestore]
      decide
    · cases hrestore
  | listNodes verbose => exact absurd h hlisting
  | listBackups => exact absurd h hlisting

/-! ## Tame characters -/

/-- Characters that would break a line are not printable, so they are escaped. -/
theorem isUnprintable_of_not_isTame (h : ¬ IsTame c) : isUnprintable c = true := by
  have hranges : (0x0, 0x1F) ∈ unprintableRanges ∧ (0x7F, 0xA0) ∈ unprintableRanges ∧
      (0x2028, 0x202F) ∈ unprintableRanges := by decide
  obtain ⟨hlow, hhigh, hseparators⟩ := hranges
  rw [isUnprintable, inRanges_iff]
  unfold IsTame IsControl IsSeparator at h
  by_cases hdelete : c.toNat < 0x7F
  · exact ⟨_, hlow, by simp only; omega⟩
  · by_cases hcontrol : c.toNat ≤ 0x9F
    · exact ⟨_, hhigh, by simp only; omega⟩
    · exact ⟨_, hseparators, by simp only; omega⟩

/-- Hexadecimal digits are those below 16. -/
theorem exists_digit_of_mem (h : c ∈ Nat.toDigits 16 n) : ∃ digit < 16, c = Nat.digitChar digit := by
  induction n using Nat.strongRecOn with
  | _ n ih =>
    rw [Nat.toDigits_eq_if (by decide)] at h
    split at h
    · next hn => exact ⟨n, hn, List.mem_singleton.mp h⟩
    · next hn =>
      rcases List.mem_append.mp h with h | h
      · exact ih (n / 16) (by omega) h
      · exact ⟨n % 16, by omega, List.mem_singleton.mp h⟩

/-- Whatever a character is, its escape is tame. -/
theorem isTame_of_mem_escapeChar (h : d ∈ escapeChar c) : IsTame d := by
  have hbackslash : IsTame '\\' := by decide
  have hpair : ∀ letter, IsTame letter → d ∈ ['\\', letter] → IsTame d := by
    intro letter hletter hd
    rcases List.mem_pair.mp hd with rfl | rfl
    · exact hbackslash
    · exact hletter
  unfold escapeChar at h
  split_ifs at h with hnul htab hfeed hreturn hquote hslash hnumber
  · exact hpair '0' (by decide) h
  · exact hpair 't' (by decide) h
  · exact hpair 'n' (by decide) h
  · exact hpair 'r' (by decide) h
  · exact hpair '"' (by decide) h
  · exact hpair '\\' hbackslash h
  · have hdigits : ∀ digit < 16, IsTame (Nat.digitChar digit) := by decide
    rw [escapeByNumber, List.mem_append, List.mem_append, List.mem_singleton] at h
    rcases h with (h | h) | rfl
    · rcases List.mem_cons.mp h with rfl | h
      · exact hbackslash
      · rcases List.mem_pair.mp h with rfl | rfl
        · decide
        · decide
    · obtain ⟨digit, hdigit, rfl⟩ := exists_digit_of_mem h
      exact hdigits digit hdigit
    · decide
  · obtain rfl := List.mem_singleton.mp h
    by_contra hwild
    exact hnumber (by simp [isUnprintable_of_not_isTame hwild])

@[simp] theorem isOneLine_append : IsOneLine (a ++ b) ↔ IsOneLine a ∧ IsOneLine b := by
  rw [IsOneLine, String.toList_append, List.forall_mem_append]
  rfl

/-- Quoted text is one line, whatever is quoted. -/
theorem isOneLine_quote (text : String) : IsOneLine (quote text) := by
  intro d hd
  have hquote : IsTame '"' := by decide
  rw [toList_quote, quoteChars, List.mem_append, List.mem_cons, List.mem_singleton, List.mem_flatMap] at hd
  rcases hd with (rfl | ⟨c, -, hc⟩) | rfl
  · exact hquote
  · exact isTame_of_mem_escapeChar hc
  · exact hquote

/-! ## Reading back -/

/-- The value of a hexadecimal digit in small letters. -/
def hexValue (c : Char) : Nat := if c.isDigit then c.toNat - 48 else c.toNat - 87

/-- The number that hexadecimal digits write. -/
def readHex (digits : List Char) : Nat := digits.foldl (fun number c => number * 16 + hexValue c) 0

/-- The character that stands behind a backslash by a letter, or by itself. -/
def lettered (letter : Char) : Char :=
  if letter = '0' then '\x00'
  else if letter = 't' then '\t'
  else if letter = 'n' then '\n'
  else if letter = 'r' then '\r'
  else letter

/-- The first character of quoted text, read back, and what is left behind it. -/
def readChar? : List Char → Option (Char × List Char)
  | '\\' :: 'u' :: '\x7b' :: rest =>
    some (Char.ofNat (readHex (rest.takeWhile (· ≠ '\x7d'))), (rest.dropWhile (· ≠ '\x7d')).tail)
  | '\\' :: letter :: rest => some (lettered letter, rest)
  | c :: rest => some (c, rest)
  | [] => none

theorem readHex_toDigits (n : Nat) : readHex (Nat.toDigits 16 n) = n := by
  have hvalue : ∀ digit < 16, hexValue (Nat.digitChar digit) = digit := by decide
  induction n using Nat.strongRecOn with
  | _ n ih =>
    rw [Nat.toDigits_eq_if (by decide)]
    split
    · next hn =>
      rw [readHex, List.foldl_cons, List.foldl_nil, hvalue n hn]
      omega
    · next hn =>
      have hdigits := ih (n / 16) (by omega)
      unfold readHex at hdigits ⊢
      rw [List.foldl_append, hdigits, List.foldl_cons, List.foldl_nil, hvalue _ (by omega)]
      omega

/-- A character is read back from its escape. -/
theorem readChar?_escapeChar (c : Char) (s : List Char) : readChar? (escapeChar c ++ s) = some (c, s) := by
  unfold escapeChar
  split_ifs with hnul htab hfeed hreturn hquote hslash hnumber
  · rw [hnul]; rfl
  · rw [htab]; rfl
  · rw [hfeed]; rfl
  · rw [hreturn]; rfl
  · rw [hquote]; rfl
  · rw [hslash]; rfl
  · -- The number ends where the brace is closed, for no digit is a brace.
    have hclose : ∀ digit ∈ Nat.toDigits 16 c.toNat, (decide (digit ≠ '\x7d')) = true := by
      intro digit hdigit
      obtain ⟨value, hvalue, rfl⟩ := exists_digit_of_mem hdigit
      have hall : ∀ v < 16, decide (Nat.digitChar v ≠ '\x7d') = true := by decide
      exact hall value hvalue
    have hrest : escapeByNumber c ++ s =
        '\\' :: 'u' :: '\x7b' :: (Nat.toDigits 16 c.toNat ++ '\x7d' :: s) := by
      simp [escapeByNumber]
    rw [hrest, readChar?, List.takeWhile_append_of_pos hclose, List.dropWhile_append_of_pos hclose]
    simp [readHex_toDigits]
  · simp [readChar?, hslash]

/-- No escape begins like another one. -/
theorem escapeChar_append_inj (h : escapeChar c ++ s = escapeChar d ++ t) : c = d ∧ s = t := by
  have hread := readChar?_escapeChar d t
  rw [← h, readChar?_escapeChar] at hread
  simpa using hread

/-- An escape does not begin with a quote, so the second quote ends the text. -/
theorem escapeChar_append_ne_quote : escapeChar c ++ s ≠ '"' :: t := by
  intro h
  have hread := readChar?_escapeChar c s
  rw [h] at hread
  obtain ⟨rfl, -⟩ : '"' = c ∧ t = s := by simpa [readChar?] using hread
  -- A quote is not written as it is.
  cases h

/-- Quoted characters are read up to the second quote. -/
theorem flatMap_escapeChar_inj {these those : List Char}
    (h : these.flatMap escapeChar ++ '"' :: s = those.flatMap escapeChar ++ '"' :: t) :
    these = those ∧ s = t := by
  -- By induction on the characters of the one text; where it ends, so must the other one.
  induction these generalizing those with
  | nil =>
    cases those with
    | nil => exact ⟨rfl, (List.cons.inj h).2⟩
    | cons d those =>
      rw [List.flatMap_cons, List.append_assoc] at h
      exact absurd h.symm escapeChar_append_ne_quote
  | cons c these ih =>
    rw [List.flatMap_cons, List.append_assoc] at h
    cases those with
    | nil => exact absurd h escapeChar_append_ne_quote
    | cons d those =>
      rw [List.flatMap_cons, List.append_assoc] at h
      obtain ⟨rfl, hrest⟩ := escapeChar_append_inj h
      obtain ⟨rfl, rfl⟩ := ih hrest
      exact ⟨rfl, rfl⟩

/-- Quoted text ends where its second quote stands, so what is quoted can be told, and what follows. -/
theorem quote_append_inj (h : quote a ++ text = quote b ++ rest) : a = b ∧ text = rest := by
  have hchars := congrArg String.toList h
  simp only [String.toList_append, toList_quote, quoteChars, List.cons_append, List.append_assoc,
    List.nil_append, List.cons.injEq, true_and] at hchars
  obtain ⟨hsame, hrest⟩ := flatMap_escapeChar_inj hchars
  exact ⟨String.toList_inj.mp hsame, String.toList_inj.mp hrest⟩

/-! ## Statuses -/

theorem mem_all (code : StatusCode) : code ∈ StatusCode.all := by cases code <;> decide

/-- What holds of the descriptions with the apostrophe behind them: they are tame, and none begins with
another one. -/
theorem descriptions : ∀ p ∈ StatusCode.all, IsOneLine (p.description ++ "'") ∧
    ∀ q ∈ StatusCode.all, (p.description ++ "'").toList <+: (q.description ++ "'").toList → p = q := by
  decide +kernel

/-- Behind its apostrophe no description goes on like another one. -/
theorem description_append_inj {code other : StatusCode}
    (h : code.description ++ "'" ++ text = other.description ++ "'" ++ rest) : code = other ∧ text = rest := by
  have hchars : (code.description ++ "'").toList ++ text.toList =
      (other.description ++ "'").toList ++ rest.toList := by
    rw [← String.toList_append, ← String.toList_append, h]
  have hsame : code = other := by
    -- Of two beginnings of one text the shorter one begins the longer one.
    rcases List.prefix_or_prefix_of_prefix (List.prefix_append _ _) (hchars ▸ List.prefix_append _ _)
      with hother | hcode
    · exact ((descriptions other (mem_all other)).2 code (mem_all code) hother).symm
    · exact (descriptions code (mem_all code)).2 other (mem_all other) hcode
  subst hsame
  exact ⟨rfl, String.toList_inj.mp (List.append_cancel_left hchars)⟩

/-- What the text of a status says about its message. -/
def messagePart (message : String) : String := if message = "" then "" else ", message: " ++ quote message

/-- What is said about a message says which message it is; about an empty one nothing is said. -/
theorem messagePart_inj (h : messagePart a = messagePart b) : a = b := by
  have hsilent : ∀ message : String, message ≠ "" → messagePart message ≠ "" := by
    intro message hmessage
    rw [messagePart, if_neg hmessage]
    simp
  by_cases ha : a = ""
  · by_contra hne
    have hb : b ≠ "" := fun hb => hne (ha.trans hb.symm)
    rw [ha, messagePart, if_pos rfl] at h
    exact hsilent b hb h.symm
  · by_cases hb : b = ""
    · rw [hb] at h
      exact absurd h (hsilent a ha)
    · rw [messagePart, messagePart, if_neg ha, if_neg hb, String.append_right_inj] at h
      have hquotes : quote a ++ "" = quote b ++ "" := by rw [h]
      exact (quote_append_inj hquotes).1

/-- The text of a status from its pieces, grouped for reading them off the front. -/
theorem status_text_eq (status : Status) :
    status.text = "code: '" ++ (status.code.description ++ "'" ++ messagePart status.message) := by
  simp only [Status.text, messagePart, String.append_assoc]

/-- The text of a status says which status it is. -/
theorem status_text_inj {status other : Status} (h : status.text = other.text) : status = other := by
  rw [status_text_eq, status_text_eq, String.append_right_inj] at h
  obtain ⟨hcode, hpart⟩ := description_append_inj h
  obtain ⟨code, a⟩ := status
  obtain ⟨code', b⟩ := other
  obtain rfl : code = code' := hcode
  obtain rfl : a = b := messagePart_inj hpart
  rfl

/-- The number of a code. -/
def numberOf (code : StatusCode) : Nat := StatusCode.all.idxOf code

/-- A number stands for the code that it counts as. -/
theorem countedAs_eq (n : Int) : countedAs n = numberOf (.ofNumber n) := by
  have hlisted : ∀ k < 17, numberOf (StatusCode.all.getD k .unknown) = k := by decide
  have hunknown : numberOf .unknown = 2 := by decide
  unfold countedAs StatusCode.ofNumber
  by_cases hnegative : n < 0
  · rw [if_neg (by omega), if_pos hnegative, hunknown]
    rfl
  · rw [if_neg hnegative]
    by_cases hcode : n ≤ 16
    · rw [if_pos (by omega), hlisted _ (by omega)]
      omega
    · have hbeyond : StatusCode.all.length ≤ n.toNat := by
        have hlength : StatusCode.all.length = 17 := rfl
        omega
      rw [if_neg (by omega), List.getD_eq_getElem?_getD, List.getElem?_eq_none hbeyond, Option.getD_none,
        hunknown]
      rfl

/-- Numbers have one code if they count as one number. -/
theorem ofNumber_eq_iff {n m : Int} :
    StatusCode.ofNumber n = StatusCode.ofNumber m ↔ countedAs n = countedAs m := by
  have hcodes : ∀ p ∈ StatusCode.all, ∀ q ∈ StatusCode.all, numberOf p = numberOf q → p = q := by decide
  constructor
  · intro h
    rw [countedAs_eq, countedAs_eq, h]
  · intro h
    rw [countedAs_eq, countedAs_eq, Int.natCast_inj] at h
    exact hcodes _ (mem_all _) _ (mem_all _) h

/-! ## Correctness -/

/-- The text of a status is one line, whatever its message. -/
theorem isOneLine_status_text (status : Status) : IsOneLine status.text := by
  have hcode : IsOneLine "code: '" := by decide
  have hmessage : IsOneLine ", message: " := by decide
  have hpart : IsOneLine (messagePart status.message) := by
    unfold messagePart
    split
    · nofun
    · exact isOneLine_append.mpr ⟨hmessage, isOneLine_quote _⟩
  rw [status_text_eq, isOneLine_append, isOneLine_append]
  exact ⟨hcode, (descriptions _ (mem_all _)).1, hpart⟩

/-- The two texts that refuse a cipher are the same. -/
theorem RefusesCipher.text_eq {word : String} (h : RefusesCipher word text) :
    text = "encryption algorithm " ++ (quote word ++ " is not yet supported") := by
  cases h with
  | settings => exact String.append_assoc
  | request => exact String.append_assoc

/-- **Quoted text forges nothing.** Whatever message comes with the status of a failed call, and
whatever word is refused as a cipher, the text of the error is one line without control characters. For
an operation it says which code and which message the status has; numbers that are no code count as 2.
Of a refused cipher it says which word it is. -/
theorem error_texts_cannot_be_forged :
    (∀ operation ∈ operations, ∀ status, IsOneLine (CallError.status operation status).message) ∧
      (∀ (operation : String) (n m : Int) (a b : String),
        (CallError.status operation ⟨.ofNumber n, a⟩).message =
            (CallError.status operation ⟨.ofNumber m, b⟩).message ↔
          countedAs n = countedAs m ∧ a = b) ∧
      (∀ word text, RefusesCipher word text → IsOneLine text) ∧
      (∀ word other text, RefusesCipher word text → RefusesCipher other text → word = other) := by
  refine ⟨?_, ?_, ?_, ?_⟩
  · intro operation hoperation status
    have hnames : ∀ name ∈ operations, IsOneLine name := by decide +kernel
    have hcolon : IsOneLine ": " := by decide
    rw [CallError.message, isOneLine_append, isOneLine_append]
    exact ⟨⟨hnames operation hoperation, hcolon⟩, isOneLine_status_text status⟩
  · intro operation n m a b
    rw [CallError.message, CallError.message, String.append_right_inj, ← ofNumber_eq_iff]
    constructor
    · intro h
      have hsame := status_text_inj h
      exact ⟨congrArg Status.code hsame, congrArg Status.message hsame⟩
    · rintro ⟨hcode, rfl⟩
      rw [hcode]
  · intro word text h
    have hframe : IsOneLine "encryption algorithm " ∧ IsOneLine " is not yet supported" := by decide
    simp only [h.text_eq, isOneLine_append]
    exact ⟨hframe.1, isOneLine_quote word, hframe.2⟩
  · intro word other text h h'
    have hsame := h.text_eq.symm.trans h'.text_eq
    rw [String.append_right_inj] at hsame
    exact (quote_append_inj hsame).1

/-- A line feed is not taken for the two characters by which it is written, and 99 is not told from 2. -/
theorem line_feed_and_its_escape_differ :
    listAgents ∈ operations ∧
      IsOneLine (CallError.status listAgents ⟨.ofNumber 99, "gone\n"⟩).message ∧
      (CallError.status listAgents ⟨.ofNumber 99, "gone\n"⟩).message =
        (CallError.status listAgents ⟨.ofNumber 2, "gone\n"⟩).message ∧
      (CallError.status listAgents ⟨.ofNumber 2, "gone\n"⟩).message ≠
        (CallError.status listAgents ⟨.ofNumber 2, "gone\\n"⟩).message ∧
      RefusesCipher "aes\n" (UnsupportedCipher.mk "aes\n").message ∧
      IsOneLine (UnsupportedCipher.mk "aes\n").message ∧
      ¬ RefusesCipher "aes\\n" (UnsupportedCipher.mk "aes\n").message := by
  obtain ⟨hstatus, hsame, hrefused, hword⟩ := error_texts_cannot_be_forged
  have hlisted : listAgents ∈ operations := List.mem_cons_self
  have hcipher : RefusesCipher "aes\n" (UnsupportedCipher.mk "aes\n").message := .request
  refine ⟨hlisted, hstatus _ hlisted _, (hsame ..).mpr ⟨by decide, rfl⟩, ?_, hcipher, hrefused _ _ hcipher, ?_⟩
  · intro h
    exact absurd ((hsame ..).mp h).2 (by decide)
  · intro h
    exact absurd (hword _ _ _ hcipher h) (by decide)

end BackupConsole
