/-
  Which connections are encrypted when encryption is asked for.

  1. **Schemes** — `read_scheme_iff`: a URI has the scheme `https` exactly if it begins with `https://`
     in letters of either case. It says so of the text alone, whatever the reader of URIs does with it.

  2. **Channels** — two decisions have to agree: certificates are loaded because encryption is asked for,
     and the scheme of the dialed URI is put there only where the address brings none. They agree for
     an address without a scheme and for one that brings `https`; `encryption_of_channel` says that the
     channel is encrypted then, and that it is in the clear for an address with any other scheme,
     certificates or not.

  3. **Order** — without a file of certificates nothing is read and nothing is dialed.
-/
import BackupConsole.Connection.Open
import Mathlib.Tactic

namespace BackupConsole.Connection

open Settings (Resolved)

/-! ## Beginnings of texts -/

theorem beginsWith_iff {text start : List Char} : beginsWith text start = true ↔ start <+: text := by
  induction start generalizing text with
  | nil => cases text <;> simp [beginsWith]
  | cons d start ih =>
    cases text with
    | nil => simp [beginsWith]
    | cons c text =>
      rw [beginsWith, Bool.and_eq_true, beq_iff_eq, ih, List.cons_prefix_cons]
      exact and_congr_left' eq_comm

theorem isLetter_asciiLower {c : Char} (h : 'A' ≤ c ∧ c ≤ 'Z') : isLetter (asciiLower c) = true := by
  have hall : ∀ n < 91, 65 ≤ n → isLetter (asciiLower (Char.ofNat n)) = true := by decide
  have hlo : 65 ≤ c.toNat := h.1
  have hhi : c.toNat ≤ 90 := h.2
  have hc := hall c.toNat (Nat.lt_succ_of_le hhi) hlo
  rwa [Char.ofNat_toNat] at hc

/-- Only letters change. -/
theorem eq_of_asciiLower_eq {c d : Char} (h : asciiLower c = d) (hd : isLetter d = false) : c = d := by
  by_cases hc : 'A' ≤ c ∧ c ≤ 'Z'
  · rw [← h, isLetter_asciiLower hc] at hd
    cases hd
  · rwa [asciiLower, if_neg hc] at h

theorem isSchemeChar_of_isLetter_asciiLower {c : Char} (h : isLetter (asciiLower c) = true) :
    isSchemeChar c = true := by
  by_cases hc : 'A' ≤ c ∧ c ≤ 'Z'
  · simp [isSchemeChar, isLetter, hc]
  · rw [asciiLower, if_neg hc] at h
    simp [isSchemeChar, h]

/-- A mark without letters is written in one way only. -/
theorem eq_of_map_asciiLower_eq {text mark : List Char} (h : text.map asciiLower = mark)
    (hm : ∀ c ∈ mark, isLetter c = false) : text = mark := by
  subst h
  induction text with
  | nil => rfl
  | cons c text ih =>
    have hc := eq_of_asciiLower_eq rfl (hm (asciiLower c) List.mem_cons_self)
    have ht := ih fun d hd => hm d (List.mem_cons_of_mem _ hd)
    rw [List.map_cons, ← hc, ← ht]

/-! ## Schemes -/

/-- The beginning of an encrypted URI. -/
def httpsMark : List Char := ['h', 't', 't', 'p', 's', ':', '/', '/']

theorem isLetter_of_mem_schemeMark (c : Char) (h : c ∈ schemeMark) : isLetter c = false := by
  simp only [schemeMark, List.mem_cons, List.not_mem_nil, or_false] at h
  rcases h with rfl | rfl | rfl <;> decide

theorem isSchemeChar_of_map_eq_https {name : List Char}
    (h : name.map asciiLower = ['h', 't', 't', 'p', 's']) :
    ∀ c ∈ name, isSchemeChar c = true := by
  intro c hc
  have hmem : asciiLower c ∈ ['h', 't', 't', 'p', 's'] := h ▸ List.mem_map_of_mem hc
  refine isSchemeChar_of_isLetter_asciiLower ?_
  revert hmem
  generalize asciiLower c = d
  intro hmem
  simp only [List.mem_cons, List.not_mem_nil, or_false] at hmem
  rcases hmem with rfl | rfl | rfl | rfl | rfl <;> decide

/-- The name of a scheme ends where the mark begins, since a colon is in no scheme. -/
theorem takeWhile_append_schemeMark {name : List Char} (h : ∀ c ∈ name, isSchemeChar c = true)
    (rest : List Char) :
    (name ++ (schemeMark ++ rest)).takeWhile isSchemeChar = name ∧
      (name ++ (schemeMark ++ rest)).dropWhile isSchemeChar = schemeMark ++ rest := by
  constructor
  · rw [List.takeWhile_append_of_pos h]
    show name ++ [] = name
    exact List.append_nil name
  · rw [List.dropWhile_append_of_pos h]
    rfl

/-- An address begins like `https://` in any case if its scheme's name is that one. -/
theorem https_prefix_iff {text : List Char} :
    httpsMark <+: text.map asciiLower ↔
      (text.takeWhile isSchemeChar).map asciiLower = ['h', 't', 't', 'p', 's'] ∧
        schemeMark <+: text.dropWhile isSchemeChar := by
  constructor
  · rintro ⟨rest, h⟩
    have hsplit : text.map asciiLower = ['h', 't', 't', 'p', 's'] ++ (schemeMark ++ rest) := h.symm
    obtain ⟨name, tail, rfl, hname, htail⟩ := List.map_eq_append_iff.mp hsplit
    obtain ⟨mark, rest, rfl, hmark, -⟩ := List.map_eq_append_iff.mp htail
    obtain rfl : mark = schemeMark := eq_of_map_asciiLower_eq hmark isLetter_of_mem_schemeMark
    obtain ⟨htake, hdrop⟩ := takeWhile_append_schemeMark (isSchemeChar_of_map_eq_https hname) rest
    rw [htake, hdrop]
    exact ⟨hname, List.prefix_append ..⟩
  · rintro ⟨hname, rest, hrest⟩
    rw [← List.takeWhile_append_dropWhile (p := isSchemeChar) (l := text), List.map_append, hname,
      ← hrest, List.map_append]
    exact ⟨rest.map asciiLower, rfl⟩

/-- The scheme that is read is the secure one exactly where the text begins like `https://`. -/
theorem readScheme_https_iff {text rest : List Char} {scheme : Option Scheme}
    (h : readScheme text = some (scheme, rest)) :
    scheme = some .https ↔ httpsMark <+: text.map asciiLower := by
  rw [https_prefix_iff]
  -- A text too short to have a scheme is too short for the mark.
  simp only [readScheme] at h
  split at h
  · next hmark =>
    have hp : schemeMark <+: text.dropWhile isSchemeChar := beginsWith_iff.mp hmark.2
    split at h
    · next hname =>
      cases h
      refine ⟨nofun, fun hs => ?_⟩
      rw [hs.1] at hname
      cases hname
    · split at h
      · next hname =>
        cases h
        exact ⟨fun _ => ⟨hname, hp⟩, fun _ => rfl⟩
      · next hname =>
        split at h
        · cases h
        · cases h
          exact ⟨nofun, fun hs => absurd hs.1 hname⟩
  · next hmark =>
    cases h
    refine ⟨nofun, fun hs => absurd ⟨?_, beginsWith_iff.mpr hs.2⟩ hmark⟩
    have hlen : (text.takeWhile isSchemeChar).length = 5 := by
      rw [← List.length_map (f := asciiLower), hs.1]
      rfl
    have := (List.takeWhile_prefix (l := text) isSchemeChar).length_le
    omega

/-- A URI has the scheme `https` exactly if it begins with its mark, in letters of either case. -/
theorem read_scheme_iff {text : String} {u : Uri} (h : Uri.read text = some u) :
    u.scheme = some .https ↔ httpsMark <+: text.toList.map asciiLower := by
  unfold Uri.read at h
  split at h
  · cases h
  · split at h
    · cases h
    · next rest heq =>
      -- A URI that begins with a slash is a path without a scheme.
      split at h
      · cases h
        rw [heq]
        refine ⟨nofun, fun hs => ?_⟩
        obtain ⟨t, ht⟩ := hs
        cases ht
      · cases h
    · -- Any other one has the scheme at its front, unless it is read as an authority alone.
      split at h
      · cases h
      · next scheme rest hread =>
        rw [← readScheme_https_iff hread]
        split at h
        · cases h
        · split at h
          · next hnone =>
            split at h
            · cases h
              simp_all
            · cases h
          · split at h
            · cases h
            · split at h
              · cases h
                rfl
              · cases h

/-- Whether an address brings a scheme of its own that is not `https`. -/
def bringsOtherScheme (address : String) : Bool :=
  hasSchemeMark address.toList && !beginsWith (address.toList.map asciiLower) httpsMark

/-- A channel is encrypted if its URI leads to another machine and has the secure scheme. -/
theorem isEncrypted_iff {uri : String} :
    isEncrypted uri = true ↔
      isSocket uri = false ∧ ∃ u, Uri.read uri = some u ∧ u.scheme = some .https := by
  unfold isEncrypted
  cases hu : Uri.read uri with
  | none => simp
  | some u => simp [Uri.isSecure]

/-- Certificates fit a URI that leads to another machine, if the file can be read and the host can be the
name on a certificate. -/
theorem credentialsFit_iff {uri : String} {bytes : List UInt8} :
    credentialsFit uri bytes = true ↔
      isSocket uri = false ∧ isReadablePem bytes = true ∧
        ∃ u, Uri.read uri = some u ∧ isServerName u.host = true := by
  unfold credentialsFit
  cases hu : Uri.read uri with
  | none => simp
  | some u => simp [and_assoc]

/-- Where certificates fit, the scheme of the URI is the address's own or the one that fits. -/
theorem isEncrypted_endpointUri {address : String} {bytes : List UInt8}
    (h : credentialsFit (endpointUri address true) bytes = true) :
    isEncrypted (endpointUri address true) = true ↔ bringsOtherScheme address = false := by
  obtain ⟨hsocket, -, u, hu, -⟩ := credentialsFit_iff.mp h
  have hs : isEncrypted (endpointUri address true) = true ↔ u.scheme = some .https := by
    rw [isEncrypted_iff]
    refine ⟨fun ⟨_, v, hv, hsv⟩ => ?_, fun hsu => ⟨hsocket, u, hu, hsu⟩⟩
    rw [hu] at hv
    rwa [Option.some.inj hv]
  rw [hs, read_scheme_iff hu]
  cases hm : hasSchemeMark address.toList with
  | true => simp [endpointUri, bringsOtherScheme, hm, beginsWith_iff]
  | false =>
    refine ⟨fun _ => by simp [bringsOtherScheme, hm], fun _ => ?_⟩
    refine ⟨address.toList.map asciiLower, ?_⟩
    simp [endpointUri, hm, httpsMark]
    decide

/-! ## Channels -/

/-- What an attempt with certificates needs to succeed, and what it does then. -/
theorem dial_eq_ok_iff {network : Network} {address : String} {bytes : List UInt8}
    {channel : Channel} :
    (dial network address (some bytes)).result = .ok channel ↔
      credentialsFit (endpointUri address true) bytes = true ∧
        reach network (endpointUri address true) (some bytes) = some channel.coordinator ∧
        channel.address = address ∧ channel.uri = endpointUri address true := by
  simp only [dial, Option.isSome_some, Option.any_some]
  constructor
  · intro h
    split at h
    · cases h
    · split at h
      · cases h
      · next hfit =>
        split at h
        · next hreach =>
          cases h
          exact ⟨by simpa using hfit, hreach, rfl, rfl⟩
        · cases h
  · rintro ⟨hfit, hreach, haddress, huri⟩
    obtain ⟨hsocket, -, u, hu, -⟩ := credentialsFit_iff.mp hfit
    obtain ⟨_, _, coordinator⟩ := channel
    have hreach' : reach network (endpointUri address true) (some bytes) = some coordinator := hreach
    simpa [hsocket, hu, hfit, hreach'] using And.intro haddress.symm huri.symm

/-- Going to a coordinator with certificates sends out nothing but the call to the channel's own URI. -/
theorem errands_of_dial_ok {network : Network} {address : String} {bytes : List UInt8}
    {channel : Channel} (h : (dial network address (some bytes)).result = .ok channel) :
    (dial network address (some bytes)).errands = [.dial channel.uri] := by
  obtain ⟨hfit, hreach, -, huri⟩ := dial_eq_ok_iff.mp h
  obtain ⟨hsocket, -, u, hu, -⟩ := credentialsFit_iff.mp hfit
  rw [huri]
  simp [dial, hsocket, hu, hfit, hreach]

/-- A connection for which encryption is asked for reads its certificates and then dials. -/
theorem open_eq_ok_iff {network : Network} {files : FileTree} {r : Resolved} {channel : Channel}
    (hTls : r.useTls = true) :
    openConnection network files r = .ok channel ↔
      ∃ path bytes, r.caFile = some path ∧ files.read path = .ok bytes ∧
        (dial network r.serverAddress (some bytes)).result = .ok channel := by
  simp only [openConnection, attempt, hTls, if_true]
  cases hp : r.caFile with
  | none => simp
  | some path =>
    cases hb : files.read path with
    | error reason => simp [hb]
    | ok bytes => simp [hb]

/-- Opening a connection with a file of certificates reads that file and then calls. -/
theorem errands_of_open_ok {network : Network} {files : FileTree} {r : Resolved} {channel : Channel}
    {path : String} {bytes : List UInt8} (hTls : r.useTls = true) (hp : r.caFile = some path)
    (hb : files.read path = .ok bytes)
    (h : (dial network r.serverAddress (some bytes)).result = .ok channel) :
    (attempt network files r).errands = [.read path, .dial channel.uri] := by
  simp [attempt, hTls, hp, hb, errands_of_dial_ok h]

/-- An address that brings a scheme is dialed as it is. -/
theorem endpointUri_of_bringsOtherScheme {address : String} (h : bringsOtherScheme address = true) :
    endpointUri address true = address := by
  have hm : hasSchemeMark address.toList = true := (Bool.and_eq_true_iff.mp h).1
  rw [endpointUri, if_pos hm]

/-- What the channels are, over certificates that have been read. -/
theorem encryption_of_dial {network : Network} {address : String} {bytes : List UInt8}
    {channel : Channel} (h : (dial network address (some bytes)).result = .ok channel) :
    (bringsOtherScheme address = false ∧ isEncrypted channel.uri = true ∧
        network.encrypted channel.uri bytes = some channel.coordinator) ∨
      (bringsOtherScheme address = true ∧ isEncrypted channel.uri = false ∧
        network.plain channel.uri = some channel.coordinator) := by
  obtain ⟨hfit, hreach, -, huri⟩ := dial_eq_ok_iff.mp h
  have hiff := isEncrypted_endpointUri hfit
  rw [← huri] at hiff hreach
  cases hb : bringsOtherScheme address with
  | false =>
    have henc : isEncrypted channel.uri = true := hiff.mpr hb
    rw [reach, if_pos henc] at hreach
    exact .inl ⟨rfl, henc, hreach⟩
  | true =>
    have henc : isEncrypted channel.uri = false := by
      rw [← Bool.not_eq_true, hiff, hb]
      exact Bool.noConfusion
    rw [reach, if_neg (Bool.eq_false_iff.mp henc)] at hreach
    exact .inr ⟨rfl, henc, hreach⟩

/-- **When a connection is encrypted.** Encryption is asked for. Without a file of certificates nothing
is read and nothing is dialed. A channel is opened over certificates that were read before; it is
encrypted, and leads to a coordinator that the certificates vouch for, unless the address brings a
scheme other than `https`: then it is in the clear. So a channel in the clear is opened exactly where
such an address leads to a coordinator, once the certificates have been read. -/
theorem encryption_of_channel (network : Network) (files : FileTree) (r : Resolved)
    (hTls : r.useTls = true) :
    (r.caFile = none → attempt network files r = ⟨[], .error .caFileRequired⟩) ∧
    (∀ channel, openConnection network files r = .ok channel →
      ∃ path bytes, r.caFile = some path ∧ files.read path = .ok bytes ∧
        (attempt network files r).errands = [.read path, .dial channel.uri] ∧
        ((bringsOtherScheme r.serverAddress = false ∧ isEncrypted channel.uri = true ∧
            network.encrypted channel.uri bytes = some channel.coordinator) ∨
          (bringsOtherScheme r.serverAddress = true ∧ isEncrypted channel.uri = false ∧
            network.plain channel.uri = some channel.coordinator))) ∧
    ((∃ channel, openConnection network files r = .ok channel ∧ isEncrypted channel.uri = false) ↔
      bringsOtherScheme r.serverAddress = true ∧ ∃ path bytes coordinator,
        r.caFile = some path ∧ files.read path = .ok bytes ∧
        credentialsFit r.serverAddress bytes = true ∧
        network.plain r.serverAddress = some coordinator) := by
  refine ⟨fun hnone => ?_, fun channel hopen => ?_, ?_⟩
  · simp [attempt, hTls, hnone]
  · obtain ⟨path, bytes, hp, hb, hdial⟩ := (open_eq_ok_iff hTls).mp hopen
    exact ⟨path, bytes, hp, hb, errands_of_open_ok hTls hp hb hdial, encryption_of_dial hdial⟩
  · constructor
    · rintro ⟨channel, hopen, hclear⟩
      obtain ⟨path, bytes, hp, hb, hdial⟩ := (open_eq_ok_iff hTls).mp hopen
      obtain ⟨hfit, -, -, huri⟩ := dial_eq_ok_iff.mp hdial
      -- Only an address with a scheme of its own leads to a channel in the clear.
      rcases encryption_of_dial hdial with ⟨-, henc, -⟩ | ⟨hother, -, hplain⟩
      · rw [hclear] at henc
        cases henc
      · rw [endpointUri_of_bringsOtherScheme hother] at hfit huri
        rw [huri] at hplain
        exact ⟨hother, path, bytes, channel.coordinator, hp, hb, hfit, hplain⟩
    · rintro ⟨hother, path, bytes, coordinator, hp, hb, hfit, hplain⟩
      -- Such an address is its own URI, and certificates do not change how the network is reached.
      have huri := endpointUri_of_bringsOtherScheme hother
      rw [← huri] at hfit
      have hclear : isEncrypted (endpointUri r.serverAddress true) = false := by
        rw [← Bool.not_eq_true, isEncrypted_endpointUri hfit, hother]
        exact Bool.noConfusion
      refine ⟨⟨r.serverAddress, endpointUri r.serverAddress true, coordinator⟩, ?_, hclear⟩
      refine (open_eq_ok_iff hTls).mpr ⟨path, bytes, hp, hb, dial_eq_ok_iff.mpr ⟨hfit, ?_, rfl, rfl⟩⟩
      rw [reach, if_neg (Bool.eq_false_iff.mp hclear), huri]
      exact hplain

/-! ## A channel in the clear -/

/-- The bytes of a file with one certificate in it. -/
def certificatePem : List UInt8 :=
  Text.utf8Bytes "-----BEGIN CERTIFICATE-----\nMIIB\n-----END CERTIFICATE-----\n"

/-- A coordinator that never answers. -/
def silentCoordinator : Coordinator := ⟨.silence, .silence, fun _ => .silence, fun _ => .silence⟩

/-- That coordinator listens at one address, without encryption. -/
def clearNetwork : Network where
  plain uri := if uri = "http://10.0.0.1:1" then some silentCoordinator else none
  encrypted _ _ := none

/-- The files of a run: that one alone, as `ca.pem`. -/
def certificateFiles : FileTree := ⟨[], [(["ca.pem"], .file certificatePem)]⟩

/-- Settings that ask for encryption and name a file of certificates, with an address that brings
`http`. -/
def clearSettings : Resolved := ⟨true, some "/ca.pem", "http://10.0.0.1:1", none, .listBackups⟩

/-- The certificates are read, and still the channel is not encrypted. -/
theorem clear_channel_with_certificates :
    clearSettings.useTls = true ∧
      ∃ channel, openConnection clearNetwork certificateFiles clearSettings = .ok channel ∧
        isEncrypted channel.uri = false := by
  have hopens := (encryption_of_channel clearNetwork certificateFiles clearSettings rfl).2.2
  refine ⟨rfl, hopens.mpr ⟨?_, "/ca.pem", certificatePem, silentCoordinator, rfl, ?_, ?_, ?_⟩⟩
  · show bringsOtherScheme "http://10.0.0.1:1" = true
    decide
  · show certificateFiles.read "/ca.pem" = .ok certificatePem
    decide
  · show credentialsFit "http://10.0.0.1:1" certificatePem = true
    decide
  · rfl

end BackupConsole.Connection
