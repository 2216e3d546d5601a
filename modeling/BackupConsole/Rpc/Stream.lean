/-
  Calls that can be interrupted, and the receiving of streams.

  1. **Program** — a stream is a script of events. `ask` asks it for its next message; `turn` is one
     turn of the loop that takes one message after another, and `receive` the loop. `drain` runs it
     from the start. `answer` makes one call and waits for its reply.

  2. **Specification** — a cancelled token is seen before a turn, never in the middle of one: what the
     turn yields still counts, although the token was cancelled meanwhile, and the next turn takes
     nothing. A turn that yields nothing waits until the token is cancelled. The loop ends, because a
     turn after which it goes on has taken something from the stream (`length_left_lt_of_turn`).
-/
import BackupConsole.Agent
import BackupConsole.Catalog
import BackupConsole.Log
import BackupConsole.Rpc.Status
import BackupConsole.Text.Decimal

namespace BackupConsole.Rpc

open Text

/-! ## Streams -/

/-- What a stream does next: yield a message, fail, let the token be cancelled and go on, or let it
be cancelled and stay silent for ever. -/
inductive StreamEvent (α : Type) where
  | item (message : α)
  | failure (status : Status)
  | cancel
  | silence
  deriving DecidableEq, Repr

/-- What comes of asking a stream for its next message. -/
inductive Next (α : Type) where
  | item (message : α)
  | failure (status : Status)
  | finished
  | silence
  deriving DecidableEq, Repr

/-- A stream that has been asked: what came of it, whether the token was cancelled meanwhile, and what
is left of the stream. -/
structure Asked (α : Type) where
  next : Next α
  cancelled : Bool
  left : List (StreamEvent α)
  deriving DecidableEq, Repr

/-- Asks a stream for its next message. -/
def ask {α : Type} : List (StreamEvent α) → Asked α
  | [] => ⟨.finished, false, []⟩
  | .item message :: rest => ⟨.item message, false, rest⟩
  | .failure status :: rest => ⟨.failure status, false, rest⟩
  | .cancel :: rest => { ask rest with cancelled := true }
  | .silence :: rest => ⟨.silence, true, rest⟩

/-! ## The loop -/

/-- The loop before a turn: whether the token is cancelled, what the sink has got and how many messages
were counted, and what is left of the stream. -/
structure Receiver (α : Type) where
  cancelled : Bool
  items : List α
  count : Nat
  left : List (StreamEvent α)

/-- What came of receiving a stream: what the sink got, in order, the count of messages or why there is
none, what was not taken from the stream, and the log. -/
structure Received (α : Type) where
  items : List α
  verdict : Except CallError Nat
  left : List (StreamEvent α)
  logs : List LogEvent

/-- What a turn comes to: another turn or the end. -/
inductive Turn (α : Type) where
  | again (r : Receiver α)
  | over (r : Received α)

/-- What an interrupted loop leaves in the log. -/
def interruptedEvent (operation : String) (count : Nat) : LogEvent :=
  .of .warn "Stream receive cancelled" [("operation", operation), ("received", natText count)]

namespace Receiver

variable {α : Type}

/-- The loop before its first turn. -/
def start (cancelled : Bool) (events : List (StreamEvent α)) : Receiver α := ⟨cancelled, [], 0, events⟩

/-- The end of a loop whose token is cancelled. -/
def interrupted (operation : String) (r : Receiver α) : Received α :=
  ⟨r.items, .error (.cancelled operation), r.left, [interruptedEvent operation r.count]⟩

/-- One turn: looks at the token, then asks the stream. -/
def turn (operation : String) (r : Receiver α) : Turn α :=
  if r.cancelled then .over (r.interrupted operation)
  else
    let asked := ask r.left
    match asked.next with
    | .item message => .again ⟨asked.cancelled, r.items ++ [message], r.count + 1, asked.left⟩
    | .failure status => .over ⟨r.items, .error (.status operation status), asked.left, []⟩
    | .finished => .over ⟨r.items, .ok r.count, asked.left, []⟩
    | .silence => .over (interrupted operation { r with left := asked.left })

variable {operation : String} {r s : Receiver α}

/-- With a cancelled token the turn ends the loop, and the stream is left as it was. -/
theorem turn_of_cancelled (h : r.cancelled = true) :
    r.turn operation = .over (r.interrupted operation) := by simp [turn, h]

/-- A message goes into the sink and is counted, and the loop goes on. -/
theorem turn_of_item {message : α} (h : r.cancelled = false) (hn : (ask r.left).next = .item message) :
    r.turn operation =
      .again ⟨(ask r.left).cancelled, r.items ++ [message], r.count + 1, (ask r.left).left⟩ := by
  simp [turn, h, hn]

theorem turn_of_failure {status : Status} (h : r.cancelled = false)
    (hn : (ask r.left).next = .failure status) :
    r.turn operation =
      .over ⟨r.items, .error (.status operation status), (ask r.left).left, []⟩ := by
  simp [turn, h, hn]

theorem turn_of_finished (h : r.cancelled = false) (hn : (ask r.left).next = .finished) :
    r.turn operation = .over ⟨r.items, .ok r.count, (ask r.left).left, []⟩ := by
  simp [turn, h, hn]

/-- A stream that stays silent holds the loop until the token is cancelled, which ends it. -/
theorem turn_of_silence (h : r.cancelled = false) (hn : (ask r.left).next = .silence) :
    r.turn operation = .over (interrupted operation { r with left := (ask r.left).left }) := by
  simp [turn, h, hn]

/-- The loop goes on only after a message. -/
theorem eq_of_turn_again (h : r.turn operation = .again s) :
    ∃ message, r.cancelled = false ∧ (ask r.left).next = .item message ∧
      s = ⟨(ask r.left).cancelled, r.items ++ [message], r.count + 1, (ask r.left).left⟩ := by
  cases hc : r.cancelled with
  | true => rw [turn_of_cancelled hc] at h; cases h
  | false =>
    cases hn : (ask r.left).next with
    | item message =>
      rw [turn_of_item hc hn] at h
      exact ⟨message, rfl, rfl, (Turn.again.inj h).symm⟩
    | failure status => rw [turn_of_failure hc hn] at h; cases h
    | finished => rw [turn_of_finished hc hn] at h; cases h
    | silence => rw [turn_of_silence hc hn] at h; cases h

/-- The turn that ends the loop puts nothing into the sink. -/
theorem items_eq_of_turn_over {received : Received α} (h : r.turn operation = .over received) :
    received.items = r.items := by
  cases hc : r.cancelled with
  | true => rw [turn_of_cancelled hc] at h; cases h; rfl
  | false =>
    cases hn : (ask r.left).next with
    | item message => rw [turn_of_item hc hn] at h; cases h
    | failure status => rw [turn_of_failure hc hn] at h; cases h; rfl
    | finished => rw [turn_of_finished hc hn] at h; cases h; rfl
    | silence => rw [turn_of_silence hc hn] at h; cases h; rfl

end Receiver

/-- A message that came was taken from the stream. -/
theorem length_left_lt_of_ask {α : Type} {events : List (StreamEvent α)} {message : α}
    (h : (ask events).next = .item message) : (ask events).left.length < events.length := by
  induction events with
  | nil => cases h
  | cons event rest ih =>
    cases event with
    | item m => exact Nat.lt_succ_self _
    | failure s => cases h
    | cancel => exact Nat.lt_succ_of_lt (ih h)
    | silence => cases h

/-- After a turn that goes on less is left of the stream; therefore the loop ends. -/
theorem length_left_lt_of_turn {α : Type} {operation : String} {r s : Receiver α}
    (h : r.turn operation = .again s) : s.left.length < r.left.length := by
  obtain ⟨message, -, hn, rfl⟩ := Receiver.eq_of_turn_again h
  exact length_left_lt_of_ask hn

/-- Turns until the loop is over. -/
def receive {α : Type} (operation : String) (r : Receiver α) : Received α :=
  match _h : r.turn operation with
  | .again s => receive operation s
  | .over received => received
termination_by r.left.length
decreasing_by exact length_left_lt_of_turn ‹_›

/-- Receives a stream until its end, given whether the token is cancelled beforehand. -/
def drain {α : Type} (operation : String) (cancelled : Bool) (events : List (StreamEvent α)) :
    Received α :=
  receive operation (.start cancelled events)

namespace Received

variable {α : Type}

/-- Why a stream was not received to its end, if it was not. -/
def error (r : Received α) : Option CallError :=
  match r.verdict with
  | .ok _ => none
  | .error e => some e

/-- The messages of a stream that was received to its end. -/
def complete (r : Received α) : Except CallError (List α) := r.verdict.map fun _ => r.items

end Received

/-! ## Collections -/

/-- What a failed call for the agents says it was doing. -/
def listAgents : String := "cannot get the connected agents list"

/-- What a failed call for the catalog says it was doing. -/
def listBackups : String := "cannot get the backups metadata list"

/-- Agents in ascending code-point order of their node names; those of one name stay in the order in
which they came. -/
def sortAgents (agents : List Agent) : List Agent :=
  agents.mergeSort fun a b => decide (a.nodeName ≤ b.nodeName)

/-- What comes of collecting a stream, and what that leaves in the log. -/
structure Collected (β : Type) where
  result : Except CallError β
  logs : List LogEvent

/-- Receives a stream to its end and gathers its messages. -/
def collect {α β : Type} (operation : String) (gather : List α → β) (cancelled : Bool)
    (events : List (StreamEvent α)) : Collected β :=
  let received := drain operation cancelled events
  ⟨received.complete.map gather, received.logs⟩

/-- The agents of a stream, sorted. -/
def collectAgents (cancelled : Bool) (events : List (StreamEvent Agent)) :
    Except CallError (List Agent) :=
  (collect listAgents sortAgents cancelled events).result

/-- The catalog of a stream. -/
def collectBackups (cancelled : Bool) (events : List (StreamEvent CatalogEntry)) :
    Except CallError Catalog :=
  (collect listBackups Catalog.ofEntries cancelled events).result

/-! ## Single calls -/

/-- What becomes of a call once it is under way, until the token is cancelled: a value comes, a
failure comes, or nothing does. -/
inductive Reply (α : Type) where
  | value (a : α)
  | failure (status : Status)
  | silence
  deriving DecidableEq, Repr

/-- A call made with a token: whether it was begun at all, and what came of it. A call that is never
answered ends when the token is cancelled. -/
structure Answered (α : Type) where
  begun : Bool
  result : Except CallError α

/-- Makes a call, unless the token is cancelled beforehand, and waits for its reply. -/
def answer {α : Type} (operation : String) (cancelled : Bool) (reply : Reply α) : Answered α :=
  if cancelled then ⟨false, .error (.cancelled operation)⟩
  else
    match reply with
    | .value a => ⟨true, .ok a⟩
    | .failure status => ⟨true, .error (.status operation status)⟩
    | .silence => ⟨true, .error (.cancelled operation)⟩

end BackupConsole.Rpc
