/-
  The bridge between the operator's interrupt and the calls in flight.

  1. **Program** — a `Token` refers to a flag, and so does every copy of it. A `Bridge` owns one token, of
     which it hands out any number of copies. One more copy belongs to its listener, a task of its own
     that waits for one interrupt signal. `act` is what an operation does by itself, `settle` what the
     listener does then; `step` is both, and `run` performs a list of operations.

  2. **Specification** — all copies of the token report the same flag, which once set stays set. The
     listener takes at most one signal: it stops waiting when a signal comes, whether the signal
     succeeds or fails, and when the token is cancelled in another way. Only a success that the
     listener was waiting for cancels the token; ending the bridge cancels it always.
-/
import BackupConsole.Log

namespace BackupConsole

/-- A token: the place of its flag. A copy of a token has the same place. -/
structure Token where
  place : Nat
  deriving DecidableEq, Repr

/-- What the signal comes to: a success, or a failure with its reason. -/
abbrev Signal := Except String Unit

/-- A bridge, the task of its listener, and the tokens. -/
structure Bridge where
  /-- The flags that tokens refer to. -/
  flags : List Bool
  /-- The bridge's own copy of its token, as long as the bridge exists. -/
  own : Option Token
  /-- The listener's copy, as long as the listener waits. -/
  listener : Option Token
  /-- Whether the signal can still be given. -/
  armed : Bool
  /-- The copies that have been handed out, in order. -/
  tokens : List Token
  deriving DecidableEq, Repr

/-- What can happen to a bridge. -/
inductive BridgeOp where
  | check
  | token
  | signal
  | signalFailure
  /-- The first token that was handed out is cancelled. -/
  | cancel
  | shutdown
  | drop
  deriving DecidableEq, Repr

/-- What an operation shows: whether it applied, the flag of every token, and the log. -/
structure BridgeView where
  applied : Bool
  flags : List Bool
  logs : List LogEvent
  deriving DecidableEq, Repr

namespace Bridge

/-- A bridge that has just been started, with one token handed out. -/
def start : Bridge := ⟨[false], some ⟨0⟩, some ⟨0⟩, true, [⟨0⟩]⟩

/-! ## Tokens -/

/-- What a token reports: the flag at its place. -/
def isCancelled (b : Bridge) (token : Token) : Bool := b.flags.getD token.place false

/-- Raises the flag that a token stands for, and no other. -/
def cancel (b : Bridge) (token : Token) : Bridge := { b with flags := b.flags.set token.place true }

/-- What every token that was handed out reports. -/
def reports (b : Bridge) : List Bool := b.tokens.map b.isCancelled

/-! ## The listener -/

/-- What the listener logs when an interrupt arrives. -/
def interruptEvent : LogEvent :=
  .of .warn "Interrupt received, cancelling in-flight requests" []

/-- What the listener logs when it cannot wait for one. -/
def listenFailureEvent (reason : String) : LogEvent :=
  .of .error "Failed to listen for interrupt signal" [("error", reason)]

/-- Lets the listener go on, as far as it can. It ends with the signal, if that has come, and when its
token is cancelled. -/
def settle (b : Bridge) (signal : Option Signal) : Bridge × List LogEvent :=
  match b.listener with
  | none => (b, [])
  | some token =>
    match signal with
    | some (.ok _) => ({ b.cancel token with listener := none }, [interruptEvent])
    | some (.error reason) => ({ b with listener := none }, [listenFailureEvent reason])
    | none => (if b.isCancelled token then { b with listener := none } else b, [])

/-! ## Operations -/

/-- What has been done when the listener has not gone on yet: the bridge, whether the operation applied,
and the signal, if it has come. -/
structure Acted where
  bridge : Bridge
  applied : Bool
  signal : Option Signal

/-- Gives the signal, if it can still be given. It is used up even if nobody waits for it. -/
def give (b : Bridge) (signal : Signal) : Acted :=
  let used := { b with armed := false }
  if b.armed && b.listener.isSome then ⟨used, true, some signal⟩ else ⟨used, false, none⟩

/-- Ends the bridge, which cancels its token. -/
def release (b : Bridge) (own : Token) : Bridge := { b.cancel own with own := none }

/-- What an operation does by itself. -/
def act (b : Bridge) : BridgeOp → Acted
  | .check => ⟨b, true, none⟩
  | .token =>
    match b.own with
    | some own => ⟨{ b with tokens := b.tokens ++ [own] }, true, none⟩
    | none => ⟨b, false, none⟩
  | .signal => b.give (.ok ())
  | .signalFailure => b.give (.error "no signal")
  | .cancel =>
    match b.tokens with
    | token :: _ => ⟨b.cancel token, true, none⟩
    | [] => ⟨b, false, none⟩
  -- A bridge that is shut down is dropped thereafter, and so cancels its token twice.
  | .shutdown =>
    match b.own with
    | some own => ⟨(b.cancel own).release own, true, none⟩
    | none => ⟨b, false, none⟩
  | .drop =>
    match b.own with
    | some own => ⟨b.release own, true, none⟩
    | none => ⟨b, false, none⟩

/-- One operation: the bridge after it, whether it applied, and what it logged. -/
def step (b : Bridge) (op : BridgeOp) : Bridge × Bool × List LogEvent :=
  let acted := b.act op
  let settled := acted.bridge.settle acted.signal
  (settled.1, acted.applied, settled.2)

/-- What each of a list of operations shows. -/
def run : Bridge → List BridgeOp → List BridgeView
  | _, [] => []
  | b, op :: rest =>
    let (b, applied, logs) := b.step op
    ⟨applied, b.reports, logs⟩ :: run b rest

end Bridge

end BackupConsole
