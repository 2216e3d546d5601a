/-
  The connection to the coordinator.

  1. **Program** — `attempt` tries for the connection that some resolved settings ask for, in a network
     in which some addresses lead to coordinators, and tells what it reads and dials on the way; `dial`
     is its last part. `openConnection` is what comes of it.

  2. **Specification** — if encryption is asked for, a file of certificates has to be named and read
     before anything is dialed. An address has to make a URI; certificates have to be readable and the
     URI's host to be a name that they can vouch for. Whether a channel is encrypted depends on the
     scheme of its URI alone; without certificates no encrypted channel is opened.
-/
import BackupConsole.Connection.Credentials
import BackupConsole.Connection.Uri
import BackupConsole.Coordinator
import BackupConsole.FileTree
import BackupConsole.Settings.Resolve

namespace BackupConsole.Connection

open Settings (Resolved)

/-! ## Networks and channels -/

/-- Which coordinators can be reached: in the clear, and behind encryption by those whose certificates
the given file vouches for. -/
structure Network where
  plain : String → Option Coordinator
  encrypted : String → List UInt8 → Option Coordinator

/-- A network in which nobody answers. -/
def Network.deserted : Network := ⟨fun _ => none, fun _ _ => none⟩

/-- A channel to a coordinator. -/
structure Channel where
  address : String
  uri : String
  coordinator : Coordinator

/-- The start of addresses that lead to a socket on the same machine. -/
def socketMark : List Char := "unix:".toList

/-- Whether a URI leads to a socket on the same machine. -/
def isSocket (uri : String) : Bool := beginsWith uri.toList socketMark

/-- Whether what is sent over a channel to this URI is encrypted. -/
def isEncrypted (uri : String) : Bool :=
  !isSocket uri
    && match Uri.read uri with
      | some u => u.isSecure
      | none => false

/-! ## Errors -/

/-- Why there is no connection. -/
inductive ConnectionError where
  | caFileRequired
  | readCaFile (path : String) (reason : FileError)
  | invalidAddress (address : String)
  | credentials
  | dial (address : String)
  deriving DecidableEq, Repr

/-- The reason why a network gives no connection; it gives no other. -/
def transportFailure : String := "transport error"

namespace ConnectionError

/-- The text in which the user is told why there is no connection. -/
def message : ConnectionError → String
  | caFileRequired => "TLS requested but no CA file supplied: a CA file is required (--ca-file)"
  | readCaFile path reason => "cannot read CA file " ++ path ++ ": " ++ reason.message
  | invalidAddress address => "invalid server address " ++ address ++ ": invalid URI"
  | credentials => "failed to create TLS credentials: " ++ transportFailure
  | dial address => "fail to dial " ++ address ++ ": " ++ transportFailure

/-- What a failure leaves in the log. -/
def events : ConnectionError → List LogEvent
  | dial address =>
    [.of .error "Failed to dial coordinator"
      [("error", transportFailure), ("server_addr", address)]]
  | _ => []

end ConnectionError

/-- What a connection leaves in the log. -/
def connectedEvent (address : String) : LogEvent :=
  .of .info "Connected to coordinator" [("server_addr", address)]

/-! ## Dialing -/

/-- Whether a channel to a URI can be set up with the given certificates. -/
def credentialsFit (uri : String) (certificates : List UInt8) : Bool :=
  !isSocket uri && isReadablePem certificates
    && match Uri.read uri with
      | some u => isServerName u.host
      | none => false

/-- The coordinator that a network has at a URI. -/
def reach (network : Network) (uri : String) (certificates : Option (List UInt8)) :
    Option Coordinator :=
  if isEncrypted uri then
    match certificates with
    | some bytes => network.encrypted uri bytes
    | none => none
  else network.plain uri

/-- What an attempt to connect does outside of the program. -/
inductive Errand where
  | read (path : String)
  | dial (uri : String)
  deriving DecidableEq, Repr

/-- An attempt to connect: what it did, in order, and what came of it. -/
structure Attempt where
  errands : List Errand
  result : Except ConnectionError Channel

/-- Dials an address, with certificates if encryption is asked for. -/
def dial (network : Network) (address : String) (certificates : Option (List UInt8)) : Attempt :=
  let uri := endpointUri address certificates.isSome
  if !isSocket uri && (Uri.read uri).isNone then ⟨[], .error (.invalidAddress address)⟩
  else if certificates.any fun bytes => !credentialsFit uri bytes then ⟨[], .error .credentials⟩
  else
    match reach network uri certificates with
    | some coordinator => ⟨[.dial uri], .ok ⟨address, uri, coordinator⟩⟩
    | none => ⟨[.dial uri], .error (.dial address)⟩

/-- Tries for the connection that resolved settings ask for. -/
def attempt (network : Network) (files : FileTree) (r : Resolved) : Attempt :=
  if r.useTls then
    match r.caFile with
    | none => ⟨[], .error .caFileRequired⟩
    | some path =>
      match files.read path with
      | .error reason => ⟨[.read path], .error (.readCaFile path reason)⟩
      | .ok bytes =>
        let dialed := dial network r.serverAddress (some bytes)
        ⟨.read path :: dialed.errands, dialed.result⟩
  else dial network r.serverAddress none

/-- The connection that resolved settings ask for. -/
def openConnection (network : Network) (files : FileTree) (r : Resolved) :
    Except ConnectionError Channel :=
  (attempt network files r).result

/-- A connection in the clear. -/
def openPlaintext (network : Network) (address : String) : Except ConnectionError Channel :=
  (dial network address none).result

end BackupConsole.Connection
