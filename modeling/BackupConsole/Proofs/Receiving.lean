/-
  What receiving a stream comes to, whatever the script of the stream is.

  1. **Specification** — `Drains` says it by the shape of the script, one rule for each way in which
     receiving ends: the token is cancelled before the first turn; the data end; the stream fails; it
     falls silent; or a message comes in the very turn in which the token is cancelled, and the turn
     after it sees that. Before any of this there are only messages, each in a turn of its own.

  2. **The loop** — `Reaches` relates the states before its turns. `Reached` is the invariant that ties
     the token, the count and the sink to the script: while the token is live nothing but messages has
     been taken, and a token that was cancelled on the way was cancelled in the last turn.
     `Reached.again` carries it over one turn, `Reached.along` over a run, and `Reached.over` reads the
     end of the loop off it.

  3. **Correctness** — `drains_iff`: a stream is received in exactly one way. From the five rules follow
     the laws of `drain_spec`.
-/
import BackupConsole.Rpc.Stream
import Mathlib.Tactic

namespace BackupConsole.Rpc

variable {α : Type} {operation : String} {cancelled : Bool} {events : List (StreamEvent α)}

/-! ## Scripts -/

/-- A stream that yields some messages. -/
def messages (items : List α) : List (StreamEvent α) := items.map .item

/-- A stream during which the token is cancelled, again and again. -/
def cancellations (k : Nat) : List (StreamEvent α) := List.replicate k .cancel

/-- The message of an event, if it has one. -/
def StreamEvent.message? : StreamEvent α → Option α
  | .item message => some message
  | _ => none

/-- The messages of a script. -/
def yielded (events : List (StreamEvent α)) : List α := events.filterMap StreamEvent.message?

@[simp] theorem yielded_append (a b : List (StreamEvent α)) :
    yielded (a ++ b) = yielded a ++ yielded b := List.filterMap_append ..

@[simp] theorem yielded_item (message : α) (rest : List (StreamEvent α)) :
    yielded (.item message :: rest) = message :: yielded rest := rfl

@[simp] theorem yielded_failure (status : Status) (rest : List (StreamEvent α)) :
    yielded (.failure status :: rest) = yielded rest := rfl

@[simp] theorem yielded_cancel (rest : List (StreamEvent α)) :
    yielded (.cancel :: rest) = yielded rest := rfl

@[simp] theorem yielded_silence (rest : List (StreamEvent α)) :
    yielded (.silence :: rest) = yielded rest := rfl

@[simp] theorem yielded_messages (items : List α) : yielded (messages items) = items := by
  induction items with
  | nil => rfl
  | cons m items ih => exact congrArg (m :: ·) ih

@[simp] theorem yielded_cancellations (k : Nat) : yielded (cancellations k : List (StreamEvent α)) = [] := by
  induction k with
  | zero => rfl
  | succ k ih => exact ih

/-- Every script begins with cancellations, perhaps with none of them, and goes on with another
event. -/
theorem exists_cancellations (events : List (StreamEvent α)) :
    ∃ k rest, events = cancellations k ++ rest ∧ rest.head? ≠ some .cancel := by
  induction events with
  | nil => exact ⟨0, [], rfl, by simp⟩
  | cons event rest ih =>
    cases event with
    | cancel =>
      obtain ⟨k, later, rfl, hl⟩ := ih
      exact ⟨k + 1, later, rfl, hl⟩
    | item m => exact ⟨0, .item m :: rest, rfl, by simp⟩
    | failure s => exact ⟨0, .failure s :: rest, rfl, by simp⟩
    | silence => exact ⟨0, .silence :: rest, rfl, by simp⟩

/-- A stream answers what it would answer without its cancellations; only the token shows them. -/
theorem ask_cancellations (k : Nat) (rest : List (StreamEvent α)) :
    ask (cancellations k ++ rest) =
      ⟨(ask rest).next, decide (0 < k) || (ask rest).cancelled, (ask rest).left⟩ := by
  induction k with
  | zero => rfl
  | succ k ih =>
    show { ask (cancellations k ++ rest) with cancelled := true } = _
    rw [ih]
    simp

/-- A stream that only cancels the token has no more data. -/
theorem ask_end (k : Nat) :
    ask (cancellations k : List (StreamEvent α)) = ⟨.finished, decide (0 < k), []⟩ := by
  rw [← List.append_nil (cancellations k), ask_cancellations, ask, Bool.or_false]

/-! ## The specification -/

/-- What receiving a stream comes to, by the shape of its script. -/
inductive Drains (operation : String) : Bool → List (StreamEvent α) → Received α → Prop
  /-- The token is cancelled before the first turn: nothing is taken. -/
  | beforehand (events : List (StreamEvent α)) :
    Drains operation true events
      ⟨[], .error (.cancelled operation), events, [interruptedEvent operation 0]⟩
  /-- The data end, in a turn that began with a live token. -/
  | finished (items : List α) (k : Nat) :
    Drains operation false (messages items ++ cancellations k) ⟨items, .ok items.length, [], []⟩
  /-- The stream fails, in a turn that began with a live token. -/
  | failed (items : List α) (k : Nat) (status : Status) (rest : List (StreamEvent α)) :
    Drains operation false (messages items ++ (cancellations k ++ .failure status :: rest))
      ⟨items, .error (.status operation status), rest, []⟩
  /-- The stream falls silent and the token is cancelled. -/
  | silent (items : List α) (k : Nat) (rest : List (StreamEvent α)) :
    Drains operation false (messages items ++ (cancellations k ++ .silence :: rest))
      ⟨items, .error (.cancelled operation), rest, [interruptedEvent operation items.length]⟩
  /-- The token is cancelled in a turn that yields a message all the same. -/
  | late (items : List α) (k : Nat) (message : α) (rest : List (StreamEvent α)) :
    Drains operation false (messages items ++ (cancellations (k + 1) ++ .item message :: rest))
      ⟨items ++ [message], .error (.cancelled operation), rest,
        [interruptedEvent operation (items.length + 1)]⟩

/-! ## Runs of the loop -/

/-- A loop that is in one state before a turn is in another before a later turn. -/
inductive Reaches (operation : String) : Receiver α → Receiver α → Prop
  | refl (r : Receiver α) : Reaches operation r r
  | next {r s t : Receiver α} : r.turn operation = .again s → Reaches operation s t →
    Reaches operation r t

/-- The loop ends: there is a last turn, and what it comes to is what the loop gives. -/
theorem exists_last_turn (operation : String) (r : Receiver α) :
    ∃ last, Reaches operation r last ∧ last.turn operation = .over (receive operation r) := by
  fun_induction receive operation r with
  | case1 r s h ih =>
    obtain ⟨last, hs, hl⟩ := ih
    exact ⟨last, .next h hs, hl⟩
  | case2 r received h => exact ⟨r, .refl r, h⟩

theorem receive_eq_of_again {r s : Receiver α} (h : r.turn operation = .again s) :
    receive operation r = receive operation s := by
  rw [receive]
  split <;> simp_all

theorem receive_eq_of_over {r : Receiver α} {received : Received α}
    (h : r.turn operation = .over received) : receive operation r = received := by
  rw [receive]
  split <;> simp_all

/-- The loop comes to the same from any turn on the way. -/
theorem receive_eq_of_reaches {r s : Receiver α} (h : Reaches operation r s) :
    receive operation r = receive operation s := by
  induction h with
  | refl r => rfl
  | next h _ ih => exact (receive_eq_of_again h).trans ih

/-- The state before a turn, for a script and the token beforehand. -/
inductive Reached (cancelled : Bool) (events : List (StreamEvent α)) : Receiver α → Prop
  | beforehand : cancelled = true → Reached cancelled events ⟨true, [], 0, events⟩
  | live {items : List α} {left : List (StreamEvent α)} : cancelled = false →
    events = messages items ++ left → Reached cancelled events ⟨false, items, items.length, left⟩
  | late {items : List α} {k : Nat} {message : α} {left : List (StreamEvent α)} : cancelled = false →
    events = messages items ++ (cancellations (k + 1) ++ .item message :: left) →
    Reached cancelled events ⟨true, items ++ [message], items.length + 1, left⟩

theorem reached_start (cancelled : Bool) (events : List (StreamEvent α)) :
    Reached cancelled events (.start cancelled events) := by
  cases cancelled with
  | false => exact .live rfl rfl
  | true => exact .beforehand rfl

/-- One turn after which the loop goes on keeps the invariant. -/
theorem Reached.again {r s : Receiver α} (hr : Reached cancelled events r)
    (h : r.turn operation = .again s) : Reached cancelled events s := by
  obtain ⟨message, hlive, hn, rfl⟩ := Receiver.eq_of_turn_again h
  cases hr with
  | beforehand hc => cases hlive
  | late hc he => cases hlive
  | @live items left hc he =>
    -- The message stands behind `k` cancellations; the next token is live only if there are none.
    obtain ⟨k, rest, rfl, hk⟩ := exists_cancellations left
    simp only [ask_cancellations] at hn ⊢
    cases rest with
    | nil => cases hn
    | cons event rest =>
      cases event with
      | failure status => cases hn
      | silence => cases hn
      | cancel => exact absurd rfl hk
      | item m =>
        cases hn
        cases k with
        | zero =>
          show Reached cancelled events ⟨false, items ++ [message], items.length + 1, rest⟩
          have hlen : items.length + 1 = (items ++ [message]).length := by simp
          rw [hlen]
          refine .live hc ?_
          rw [he]
          simp [messages, cancellations]
        | succ k => exact .late hc he

/-- The invariant holds before every turn of a run. -/
theorem Reached.along {r s : Receiver α} (hr : Reached cancelled events r)
    (h : Reaches operation r s) : Reached cancelled events s := by
  induction h with
  | refl r => exact hr
  | next h _ ih => exact ih (hr.again h)

/-- A turn that ends the loop ends it by one of the rules. -/
theorem Reached.over {r : Receiver α} {received : Received α} (hr : Reached cancelled events r)
    (h : r.turn operation = .over received) : Drains operation cancelled events received := by
  cases hr with
  | beforehand hc =>
    cases h
    subst hc
    exact .beforehand events
  | late hc he =>
    cases h
    subst hc he
    exact .late ..
  | @live items left hc he =>
    -- A live token may be cancelled a number of times before the stream does something else.
    obtain ⟨k, rest, rfl, hk⟩ := exists_cancellations left
    subst hc he
    cases rest with
    | nil =>
      rw [Receiver.turn_of_finished rfl (by rw [ask_cancellations]; rfl), ask_cancellations] at h
      cases h
      rw [List.append_nil]
      exact .finished items k
    | cons event rest =>
      cases event with
      | item message =>
        rw [Receiver.turn_of_item rfl (by rw [ask_cancellations]; rfl)] at h
        cases h
      -- Such a cancellation would be one more of that number.
      | cancel => exact absurd rfl hk
      | failure status =>
        rw [Receiver.turn_of_failure rfl (by rw [ask_cancellations]; rfl), ask_cancellations] at h
        cases h
        exact .failed items k status rest
      | silence =>
        rw [Receiver.turn_of_silence rfl (by rw [ask_cancellations]; rfl), ask_cancellations] at h
        cases h
        exact .silent items k rest

/-- What the program drains a stream to is described by `Drains`. -/
theorem drains_drain (operation : String) (cancelled : Bool) (events : List (StreamEvent α)) :
    Drains operation cancelled events (drain operation cancelled events) := by
  obtain ⟨last, hs, hl⟩ := exists_last_turn operation (.start cancelled events)
  exact ((reached_start cancelled events).along hs).over hl

/-! ## One way of receiving -/

/-- Messages are taken one by one while the token is live. -/
theorem reaches_messages (operation : String) (items sunk : List α) (left : List (StreamEvent α)) :
    Reaches operation ⟨false, sunk, sunk.length, messages items ++ left⟩
      ⟨false, sunk ++ items, (sunk ++ items).length, left⟩ := by
  induction items generalizing sunk with
  | nil =>
    rw [List.append_nil]
    exact .refl _
  | cons m items ih =>
    have ht : Receiver.turn operation ⟨false, sunk, sunk.length, messages (m :: items) ++ left⟩ =
        .again ⟨false, sunk ++ [m], (sunk ++ [m]).length, messages items ++ left⟩ := by
      rw [List.length_append]
      rfl
    have hr := ih (sunk ++ [m])
    rw [List.append_assoc] at hr
    exact .next ht hr

/-- A stream that begins with messages is received as what is left of it, behind them. -/
theorem drain_messages (operation : String) (items : List α) (left : List (StreamEvent α)) :
    drain operation false (messages items ++ left) =
      receive operation ⟨false, items, items.length, left⟩ :=
  receive_eq_of_reaches (reaches_messages operation items [] left)

/-- Each rule of the specification is what the loop does. -/
theorem Drains.eq_drain {received : Received α} (h : Drains operation cancelled events received) :
    received = drain operation cancelled events := by
  -- Behind the messages one last turn is left, and the rule says which.
  cases h with
  | beforehand events => exact (receive_eq_of_over rfl).symm
  | finished items k =>
    rw [drain_messages, receive_eq_of_over (Receiver.turn_of_finished rfl (by rw [ask_end])), ask_end]
  | failed items k status rest =>
    rw [drain_messages, receive_eq_of_over
      (Receiver.turn_of_failure rfl (by rw [ask_cancellations]; rfl)), ask_cancellations]
    rfl
  | silent items k rest =>
    rw [drain_messages, receive_eq_of_over
      (Receiver.turn_of_silence rfl (by rw [ask_cancellations]; rfl)), ask_cancellations]
    rfl
  | late items k message rest =>
    rw [drain_messages, receive_eq_of_again
      (Receiver.turn_of_item rfl (by rw [ask_cancellations]; rfl)), ask_cancellations]
    exact (receive_eq_of_over rfl).symm

/-- A stream is received in exactly one way, the one that the shape of its script asks for. -/
theorem drains_iff {received : Received α} :
    Drains operation cancelled events received ↔ received = drain operation cancelled events :=
  ⟨Drains.eq_drain, fun h => h ▸ drains_drain operation cancelled events⟩

/-! ## Laws -/

/-- What the sink has got is what the script yielded up to where receiving stopped. -/
theorem Drains.items_eq_yielded {received : Received α}
    (h : Drains operation cancelled events received) :
    ∃ taken, events = taken ++ received.left ∧ received.items = yielded taken := by
  cases h with
  | beforehand events => exact ⟨[], rfl, rfl⟩
  | finished items k => exact ⟨messages items ++ cancellations k, by simp, by simp⟩
  | failed items k status rest =>
    exact ⟨messages items ++ (cancellations k ++ [.failure status]), by simp, by simp; rfl⟩
  | silent items k rest =>
    exact ⟨messages items ++ (cancellations k ++ [.silence]), by simp, by simp; rfl⟩
  | late items k message rest =>
    exact ⟨messages items ++ (cancellations (k + 1) ++ [.item message]), by simp, by simp; rfl⟩

/-- The sink loses nothing: what it has got before a turn is the beginning of what it gets. -/
theorem items_prefix_receive (operation : String) (r : Receiver α) :
    r.items <+: (receive operation r).items := by
  fun_induction receive operation r with
  | case1 r s h ih =>
    obtain ⟨message, -, -, rfl⟩ := Receiver.eq_of_turn_again h
    exact (List.prefix_append r.items [message]).trans ih
  | case2 r received h =>
    rw [Receiver.items_eq_of_turn_over h]

/-- What a turn makes of the whole: a cancelled token or a silent stream ends it with nothing more
taken, a message gets into the sink, and a failure or the end of the data decides it, whatever became
of the token meanwhile. -/
def Decides (operation : String) (r : Receiver α) (received : Received α) : Prop :=
  if r.cancelled then
    received.verdict = .error (.cancelled operation) ∧ received.items = r.items ∧
      received.left = r.left
  else
    match (ask r.left).next with
    | .item message => r.items ++ [message] <+: received.items
    | .failure status =>
      received.verdict = .error (.status operation status) ∧ received.items = r.items ∧
        received.left = (ask r.left).left
    | .finished => received.verdict = .ok r.items.length ∧ received.items = r.items
    | .silence =>
      received.verdict = .error (.cancelled operation) ∧ received.items = r.items ∧
        received.left = (ask r.left).left

/-- As many messages are counted as came. -/
theorem Reached.count_eq {r : Receiver α} (hr : Reached cancelled events r) :
    r.count = r.items.length := by
  cases hr with
  | beforehand hc => rfl
  | live hc he => rfl
  | late hc he => simp

/-- The loop decides on its result from wherever it stands, as long as the count is right. -/
theorem decides_receive (operation : String) {r : Receiver α} (hn : r.count = r.items.length) :
    Decides operation r (receive operation r) := by
  unfold Decides
  -- The turn that the loop stands before says it all, for the loop goes on from there.
  cases hc : r.cancelled with
  | true =>
    rw [if_pos rfl, receive_eq_of_over (Receiver.turn_of_cancelled hc)]
    exact ⟨rfl, rfl, rfl⟩
  | false =>
    rw [if_neg Bool.false_ne_true]
    cases hk : (ask r.left).next with
    | item message =>
      rw [receive_eq_of_again (Receiver.turn_of_item hc hk)]
      exact items_prefix_receive operation ⟨_, r.items ++ [message], _, _⟩
    | failure status =>
      rw [receive_eq_of_over (Receiver.turn_of_failure hc hk)]
      exact ⟨rfl, rfl, rfl⟩
    | finished =>
      rw [receive_eq_of_over (Receiver.turn_of_finished hc hk), hn]
      exact ⟨rfl, rfl⟩
    | silence =>
      rw [receive_eq_of_over (Receiver.turn_of_silence hc hk)]
      exact ⟨rfl, rfl, rfl⟩

/-- Among the events of a script that begins with messages, one without a message comes after all of
them. -/
theorem length_le_of_messages_append_eq {items : List α} {rest before after : List (StreamEvent α)}
    {event : StreamEvent α} (he : event.message? = none)
    (h : messages items ++ rest = before ++ event :: after) :
    items.length ≤ (yielded before).length := by
  rcases List.append_eq_append_iff.mp h with ⟨more, rfl, -⟩ | ⟨more, hm, hr⟩
  · rw [yielded_append, yielded_messages, List.length_append]
    exact Nat.le_add_right ..
  · rcases more with _ | ⟨first, more⟩
    · rw [← yielded_messages items, hm, List.append_nil]
    · obtain ⟨rfl, -⟩ := List.cons.inj hr
      have hmem : event ∈ messages items := by rw [hm]; simp
      obtain ⟨message, -, rfl⟩ := List.mem_map.mp hmem
      cases he

/-- The events with which a script cancels the token. -/
def StreamEvent.Cancels : StreamEvent α → Prop
  | .cancel | .silence => True
  | _ => False

theorem StreamEvent.message?_of_cancels {event : StreamEvent α} (h : event.Cancels) :
    event.message? = none := by
  cases event with
  | item | failure => cases h
  | cancel | silence => rfl

/-- Once the script has cancelled the token the sink gets one message more at most. -/
theorem Drains.length_items_le {received : Received α} {before after : List (StreamEvent α)}
    {event : StreamEvent α} (h : Drains operation cancelled events received) (he : event.Cancels)
    (hs : events = before ++ event :: after) :
    received.items.length ≤ (yielded before).length + 1 := by
  have hm := StreamEvent.message?_of_cancels he
  cases h with
  | beforehand events => exact Nat.zero_le _
  | finished items k => exact (length_le_of_messages_append_eq hm hs).trans (Nat.le_succ _)
  | failed items k status rest => exact (length_le_of_messages_append_eq hm hs).trans (Nat.le_succ _)
  | silent items k rest => exact (length_le_of_messages_append_eq hm hs).trans (Nat.le_succ _)
  | late items k message rest =>
    rw [List.length_append]
    exact Nat.succ_le_succ (length_le_of_messages_append_eq hm hs)

/-- Receiving is interrupted, or it stops at the first failure of the script. -/
theorem Drains.eq_cancelled_or_status {received : Received α} {e : CallError}
    (h : Drains operation cancelled events received) (he : received.verdict = .error e) :
    e = .cancelled operation ∨ ∃ before status, e = .status operation status ∧
      events = before ++ .failure status :: received.left ∧ ∀ other, .failure other ∉ before := by
  cases h with
  | finished items k => cases he
  | failed items k status rest =>
    cases he
    refine Or.inr ⟨messages items ++ cancellations k, status, rfl, by simp, fun other => ?_⟩
    simp [messages, cancellations]
  | beforehand | silent | late =>
    cases he
    exact Or.inl rfl

/-- Success takes the end of the data, in a turn that begins with a live token, and counts the
messages. -/
theorem Drains.eq_length_of_ok {received : Received α} {n : Nat}
    (h : Drains operation cancelled events received) (hn : received.verdict = .ok n) :
    n = received.items.length ∧ received.left = [] ∧
      ∃ last, Reaches operation (.start cancelled events) last ∧ last.cancelled = false ∧
        (ask last.left).next = .finished := by
  cases h with
  | finished items k =>
    cases hn
    exact ⟨rfl, rfl, _, reaches_messages operation items [] (cancellations k), rfl, by rw [ask_end]⟩
  | beforehand | failed | silent | late => cases hn

/-- **What receiving a stream comes to.** For every script and every token:
the loop ends, in the one way that the shape of the script asks for; the sink gets, in order, what was
yielded by what was taken of the stream, and nothing else; it is a success only at the end of the data,
in a turn that began with a live token, and then counts the messages; whatever turn comes up, a token
that is cancelled when it begins, or that it cancels without yielding anything, ends the whole with
nothing more taken, while a message, a failure or the end of the data counts even if the token was
cancelled in that very turn; hence the sink gets one message at most behind a cancellation, and none if
the token was cancelled beforehand; and else the first failure of the script is reported, which never
passes for a cancellation. -/
theorem drain_spec (operation : String) (cancelled : Bool) (events : List (StreamEvent α)) :
    let r := drain operation cancelled events
    let start := Receiver.start cancelled events
    (∃ last, Reaches operation start last ∧ last.turn operation = .over r) ∧
    (∀ received, Drains operation cancelled events received ↔ received = r) ∧
    (∃ taken, events = taken ++ r.left ∧ r.items = yielded taken) ∧
    (∀ n, r.verdict = .ok n → n = r.items.length ∧ r.left = [] ∧
      ∃ last, Reaches operation start last ∧ last.cancelled = false ∧
        (ask last.left).next = .finished) ∧
    (∀ turn, Reaches operation start turn → Decides operation turn r) ∧
    (∀ before event after, events = before ++ event :: after → event.Cancels →
      r.items.length ≤ (yielded before).length + 1) ∧
    (cancelled = true → r.items = []) ∧
    (∀ e, r.verdict = .error e →
      (e = .cancelled operation ∧ e.isCancelled = true) ∨
      (∃ before status, e = .status operation status ∧ e.isCancelled = false ∧
        events = before ++ .failure status :: r.left ∧ ∀ other, .failure other ∉ before)) := by
  intro r start
  have hd : Drains operation cancelled events r := drains_drain operation cancelled events
  refine ⟨exists_last_turn operation start, fun received => drains_iff, hd.items_eq_yielded,
    fun n hn => hd.eq_length_of_ok hn, fun turn ht => ?_, fun before event after hs he =>
    hd.length_items_le he hs, fun hc => ?_, fun e he => ?_⟩
  · -- A turn that is reached lies on the way of this loop, so what it decides holds of the result.
    have hr : r = receive operation turn := receive_eq_of_reaches ht
    rw [hr]
    exact decides_receive operation ((reached_start cancelled events).along ht).count_eq
  · subst hc
    exact congrArg Received.items (drains_iff.mp (.beforehand events)).symm
  · rcases hd.eq_cancelled_or_status he with rfl | ⟨before, status, rfl, hs, hb⟩
    · exact Or.inl ⟨rfl, rfl⟩
    · exact Or.inr ⟨before, status, rfl, rfl, hs, hb⟩

/-- A message that comes together with the cancellation counts, the one after it does not. -/
example : (drain "list" false [.item 1, .cancel, .item 2, .item 3]).items = [1, 2] := by cbv

end BackupConsole.Rpc
