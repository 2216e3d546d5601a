/-
  Addresses of coordinators as URIs.

  1. **Program** — `endpointUri` puts a scheme before an address that has none; `Uri.read` takes a URI
     apart.

  2. **Specification** — a URI with a scheme has an authority, which is not empty: perhaps a user, then
     a host with at most one colon behind it, or a host in square brackets. Only a few ASCII characters
     may stand in it, a percent sign only before an at sign or between brackets. Path and query follow;
     what stands behind a number sign does not count.
-/
import BackupConsole.Text.Decimal

namespace BackupConsole.Connection

open Text

/-- Whether some characters begin with others. -/
def beginsWith : List Char → List Char → Bool
  | _, [] => true
  | [], _ :: _ => false
  | c :: text, d :: start => c == d && beginsWith text start

/-- What stands between a scheme and an authority. -/
def schemeMark : List Char := [':', '/', '/']

/-- Whether `://` stands anywhere in a text. -/
def hasSchemeMark : List Char → Bool
  | [] => false
  | c :: rest => beginsWith (c :: rest) schemeMark || hasSchemeMark rest

/-- The URI of an address: as it is if it has a scheme, else with the scheme that fits. -/
def endpointUri (address : String) (tls : Bool) : String :=
  if hasSchemeMark address.toList then address
  else if tls then "https://" ++ address
  else "http://" ++ address

/-! ## Schemes -/

/-- The scheme of a URI. Two of them decide on encryption; the others are kept by name. -/
inductive Scheme where
  | http
  | https
  | other (name : String)
  deriving DecidableEq, Repr

/-- Whether a character is a letter of the English alphabet. -/
def isLetter (c : Char) : Bool := ('a' ≤ c && c ≤ 'z') || ('A' ≤ c && c ≤ 'Z')

/-- Whether a character may stand in the name of a scheme. -/
def isSchemeChar (c : Char) : Bool :=
  isLetter c || isDecimalDigit c || c == '+' || c == '-' || c == '.'

/-- The longest name of a scheme. -/
def schemeLimit : Nat := 64

/-- A capital of the English alphabet as its small letter. -/
def asciiLower (c : Char) : Char := if 'A' ≤ c ∧ c ≤ 'Z' then Char.ofNat (c.toNat + 32) else c

/-- The scheme at the start of a URI and what follows it; nothing if the scheme is too long. -/
def readScheme (text : List Char) : Option (Option Scheme × List Char) :=
  let name := text.takeWhile isSchemeChar
  let rest := text.dropWhile isSchemeChar
  if 3 < text.length ∧ beginsWith rest schemeMark = true then
    let word := name.map asciiLower
    if word = ['h', 't', 't', 'p'] then some (some .http, rest.drop 3)
    else if word = ['h', 't', 't', 'p', 's'] then some (some .https, rest.drop 3)
    else if schemeLimit < name.length then none
    else some (some (.other (String.ofList name)), rest.drop 3)
  else some (none, text)

/-! ## Authorities -/

/-- What has been read of an authority so far. -/
structure AuthorityState where
  colons : Nat
  opened : Bool
  closed : Bool
  percent : Bool
  /-- Whether the last character was an at sign. -/
  afterAt : Bool
  deriving DecidableEq, Repr

/-- Nothing of an authority has been read. -/
def AuthorityState.start : AuthorityState := ⟨0, false, false, false, false⟩

/-- Whether an authority can end here. -/
def AuthorityState.isDone (s : AuthorityState) : Bool :=
  s.opened == s.closed && decide (s.colons ≤ 1) && !s.afterAt && !s.percent

/-- Whether a character may stand in an authority without changing how the rest of it is read. -/
def isPlainUriChar (c : Char) : Bool :=
  isLetter c || isDecimalDigit c || "!$&'()*+,-.;=_~".toList.contains c

/-- One character of an authority further. -/
def AuthorityState.next (s : AuthorityState) (c : Char) : Option AuthorityState :=
  if c = ':' then
    if 8 ≤ s.colons then none else some { s with colons := s.colons + 1, afterAt := false }
  else if c = '[' then
    if s.percent || s.opened then none else some { s with opened := true, afterAt := false }
  else if c = ']' then
    if !s.opened || s.closed then none
    else some { s with closed := true, colons := 0, percent := false, afterAt := false }
  else if c = '@' then some { s with colons := 0, percent := false, afterAt := true }
  else if c = '%' then some { s with percent := true, afterAt := false }
  else if isPlainUriChar c then some { s with afterAt := false }
  else none

/-- Whether a character ends the authority before it. -/
def endsAuthority (c : Char) : Bool := c == '/' || c == '?' || c == '#'

/-- The authority at the start of a text, and what follows it. -/
def readAuthority (s : AuthorityState) : List Char → Option (List Char × List Char)
  | [] => if s.isDone then some ([], []) else none
  | c :: rest =>
    if endsAuthority c then if s.isDone then some ([], c :: rest) else none
    else
      match s.next c with
      | none => none
      | some s => (readAuthority s rest).map fun (authority, rest) => (c :: authority, rest)

/-! ## Paths and queries -/

/-- Whether a character may stand in a path. Every character outside ASCII may. -/
def isPathChar (c : Char) : Bool :=
  let n := c.toNat
  n == 0x21 || (0x24 ≤ n && n ≤ 0x3B) || n == 0x3D || (0x40 ≤ n && n ≤ 0x5F) || (0x61 ≤ n && n ≤ 0x7A)
    || n == 0x7C || 0x7E ≤ n || c == '"' || c == '\x7b' || c == '\x7d'

/-- Whether a character may stand in a query. -/
def isQueryChar (c : Char) : Bool :=
  let n := c.toNat
  n == 0x21 || (0x24 ≤ n && n ≤ 0x3B) || n == 0x3D || 0x3F ≤ n

/-- Whether a text is a path, perhaps with a query, up to a number sign. -/
def isPathAndQuery (inQuery : Bool) : List Char → Bool
  | [] => true
  | c :: rest =>
    if c = '#' then true
    else if inQuery then isQueryChar c && isPathAndQuery true rest
    else if c = '?' then isPathAndQuery true rest
    else isPathChar c && isPathAndQuery false rest

/-! ## URIs -/

/-- A URI as far as a connection needs it. -/
structure Uri where
  scheme : Option Scheme
  authority : List Char
  deriving DecidableEq, Repr

namespace Uri

/-- The longest URI, in bytes. -/
def lengthLimit : Nat := 65534

/-- Reads a URI. Without a scheme it is a path or an authority and nothing more. -/
def read (text : String) : Option Uri :=
  if lengthLimit < text.utf8ByteSize then none
  else
    match text.toList with
    | [] => none
    | '/' :: rest => if isPathAndQuery false ('/' :: rest) then some ⟨none, []⟩ else none
    | chars =>
      match readScheme chars with
      | none => none
      | some (scheme, rest) =>
        match readAuthority .start rest with
        | none => none
        | some (authority, rest) =>
          if scheme.isNone then if rest.isEmpty then some ⟨none, authority⟩ else none
          else if authority.isEmpty then none
          else if isPathAndQuery false rest then some ⟨scheme, authority⟩
          else none

/-- Whether a URI asks for encryption. -/
def isSecure (u : Uri) : Bool := u.scheme == some .https

/-- The authority without the user. -/
def hostAndPort (u : Uri) : List Char :=
  (u.authority.reverse.takeWhile fun c => c != '@').reverse

/-- The host, in its brackets if it has any. -/
def host (u : Uri) : List Char :=
  match u.hostAndPort with
  | '[' :: rest => '[' :: rest.takeWhile (fun c => c != ']') ++ [']']
  | text => text.takeWhile fun c => c != ':'

end Uri

end BackupConsole.Connection
