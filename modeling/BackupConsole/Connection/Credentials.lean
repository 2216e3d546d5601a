/-
  What an encrypted connection needs beforehand: certificates that can be read, and the name of a
  server that they can be checked against.

  1. **Program** — `isReadablePem` goes through the lines of a file of certificates; `isServerName`
     looks at a host.

  2. **Specification** — a section begins and ends with marked lines of one label and holds Base64 in
     between; lines outside of sections, and sections of unknown labels, do not count. A server is
     called by a domain name, or by an address of four numbers.
-/
import BackupConsole.Text.Decimal

namespace BackupConsole.Connection

open Text

/-! ## Base64 -/

/-- Whether a character stands for six bits in base 64. -/
def isBase64Char (c : Char) : Bool :=
  ('a' ≤ c && c ≤ 'z') || ('A' ≤ c && c ≤ 'Z') || isDecimalDigit c || c == '+' || c == '/'

/-- Whether some characters are Base64: the last group may lack its filling, but has at least two
characters. -/
def isBase64 (text : List Char) : Bool :=
  let text := text.filter fun c => !(c == ' ' || c == '\t' || c == '\r' || c == '\n')
  let body := text.takeWhile isBase64Char
  let filling := text.dropWhile isBase64Char
  filling.all (fun c => c == '=')
    && (match body.length % 4 with
      | 0 => filling.isEmpty
      | 2 => filling.isEmpty || filling.length == 2
      | 3 => filling.length ≤ 1
      | _ => false)

/-! ## Sections -/

/-- The labels of sections whose content is decoded. -/
def knownLabels : List String :=
  ["CERTIFICATE", "PUBLIC KEY", "RSA PRIVATE KEY", "PRIVATE KEY", "EC PRIVATE KEY", "X509 CRL",
    "CERTIFICATE REQUEST", "ECHCONFIG"]

/-- What a line that opens a section begins with. -/
def beginMark : List Char := "-----BEGIN ".toList

/-- The line that closes a section of the given label. -/
def endMark (label : List Char) : List Char := "-----END ".toList ++ label ++ "-----".toList

/-- From the end of a line backwards: how many dashes there are before the first character that is
neither a dash nor a blank, and what is left when the dashes have gone. -/
def closingDashes : List Char → Nat × List Char
  | [] => (0, [])
  | c :: rest =>
    if c = '-' then
      let (n, left) := closingDashes rest
      (n + 1, if n = 0 then rest else left)
    else if c = ' ' ∨ c = '\r' ∨ c = '\n' then
      let (n, left) := closingDashes rest
      (n, if n = 0 then c :: rest else left)
    else (0, c :: rest)

/-- The label of a line that begins a section, if the line is whole. -/
def labelOf (line : List Char) : Option (List Char) :=
  let (dashes, left) := closingDashes line.reverse
  if dashes = 5 then some (left.reverse.drop beginMark.length) else none

/-- Whether all sections in some lines can be read; the first argument is the label and the content of
the section that the lines are in. -/
def readableLines : Option (List Char × List Char) → List (List Char) → Bool
  | inside, [] => inside.isNone
  | inside, line :: rest =>
    if beginMark.isPrefixOf line then
      match labelOf line with
      | some label => readableLines (some (label, (inside.map Prod.snd).getD [])) rest
      | none => false
    else
      match inside with
      | none => readableLines none rest
      | some (label, content) =>
        if (endMark label).isPrefixOf line then
          (!knownLabels.contains (String.ofList label) || isBase64 content) && readableLines none rest
        else readableLines (some (label, content ++ line)) rest

/-- The lines of a text, each without its end. -/
def linesFrom (line : List Char) : List Char → List (List Char)
  | [] => [line.reverse]
  | c :: rest =>
    if c = '\n' ∨ c = '\r' then line.reverse :: linesFrom [] rest else linesFrom (c :: line) rest

/-- Whether the certificates in a file can be read. -/
def isReadablePem (bytes : List UInt8) : Bool :=
  readableLines none (linesFrom [] (bytes.map fun b => Char.ofNat b.toNat))

/-! ## Server names -/

/-- A text cut at its dots. -/
def labelsFrom (label : List Char) : List Char → List (List Char)
  | [] => [label.reverse]
  | c :: rest => if c = '.' then label.reverse :: labelsFrom [] rest else labelsFrom (c :: label) rest

/-- Whether a character may stand in a label of a server name. -/
def isLabelChar (c : Char) : Bool :=
  ('a' ≤ c && c ≤ 'z') || ('A' ≤ c && c ≤ 'Z') || isDecimalDigit c || c == '_' || c == '-'

/-- Whether some characters make up one label of a server name. -/
def isLabel (label : List Char) : Bool :=
  !label.isEmpty && decide (label.length ≤ 63) && label.all isLabelChar
    && label.head? != some '-' && label.getLast? != some '-'

/-- Whether a text is a domain name; one dot may follow the last label, which is no number. -/
def isDomainName (name : List Char) : Bool :=
  let labels := labelsFrom [] name
  let labels := if 1 < labels.length ∧ labels.getLast? = some [] then labels.dropLast else labels
  decide (name.length ≤ 253) && labels.all isLabel
    && !((labels.getLastD []).all isDecimalDigit)

/-- Whether a text is a number up to 255 without zeros in front. -/
def isOctet (text : List Char) : Bool :=
  match text with
  | [] => false
  | ['0'] => true
  | '0' :: _ => false
  | digits =>
    digits.all isDecimalDigit
      && (match readDigits 10 digits with
        | some n => decide (n ≤ 255)
        | none => false)

/-- Whether a text is an address of four numbers. -/
def isAddress (name : List Char) : Bool :=
  let parts := labelsFrom [] name
  parts.length == 4 && parts.all isOctet

/-- Whether a text can be the name that a certificate is checked against. -/
def isServerName (name : List Char) : Bool := isDomainName name || isAddress name

end BackupConsole.Connection
