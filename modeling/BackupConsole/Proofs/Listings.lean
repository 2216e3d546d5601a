/-
  A listing shows all or nothing.

  1. **Specification** — `Ends` says how a listing ends, by what the coordinator does and by when the
     token is cancelled: complete, interrupted or failed. `ends_unique`: it ends in exactly one of these
     ways.

  2. **Program** — opening, receiving and gathering give the verdict of that ending (`Ends.listing`);
     messages that came before a failure are not part of it.

  3. **Correctness** — `listings_all_or_nothing`: with a writer that never fails a listing carries
     through. It writes what was collected, if that is complete, and logs nothing; else it writes
     nothing and logs one event, a warning if it was interrupted and an error if it failed.
-/
import BackupConsole.Dispatch
import BackupConsole.Proofs.Receiving

namespace BackupConsole

open Listing Rpc Text

variable {α β : Type} {operation : String} {cancelled : Bool} {reply : Reply (Opened α)}

/-! ## Endings -/

/-- How a listing ends. -/
inductive Ending (α : Type) where
  | complete (items : List α)
  | interrupted
  | failed (status : Status)
  deriving DecidableEq, Repr

/-- What a listing that ends in some way has for its caller. -/
def Ending.verdict (operation : String) : Ending α → Except CallError (List α)
  | .complete items => .ok items
  | .interrupted => .error (.cancelled operation)
  | .failed status => .error (.status operation status)

/-- No two endings have the same verdict. -/
theorem Ending.verdict_injective (operation : String) :
    Function.Injective (Ending.verdict operation : Ending α → Except CallError (List α)) := by
  intro a b h
  cases a <;> cases b <;> cases h <;> rfl

/-- How a listing ends, by the state of the token beforehand and by what the coordinator does. -/
inductive Ends : Bool → Reply (Opened α) → Ending α → Prop
  /-- The token is cancelled beforehand. -/
  | beforehand (reply : Reply (Opened α)) : Ends true reply .interrupted
  /-- The coordinator does not open a stream. -/
  | refused (status : Status) : Ends false (.failure status) (.failed status)
  /-- It does not answer, until the token is cancelled. -/
  | unanswered : Ends false .silence .interrupted
  /-- It opens a stream; the token is cancelled meanwhile. -/
  | opening (events : List (StreamEvent α)) : Ends false (.value ⟨true, events⟩) .interrupted
  /-- The stream is received to the end of its data. -/
  | complete (items : List α) (k : Nat) :
    Ends false (.value ⟨false, messages items ++ cancellations k⟩) (.complete items)
  /-- The stream fails behind some messages. -/
  | failing (items : List α) (k : Nat) (status : Status) (rest : List (StreamEvent α)) :
    Ends false (.value ⟨false, messages items ++ (cancellations k ++ .failure status :: rest)⟩)
      (.failed status)
  /-- The stream falls silent behind some messages, until the token is cancelled. -/
  | silent (items : List α) (k : Nat) (rest : List (StreamEvent α)) :
    Ends false (.value ⟨false, messages items ++ (cancellations k ++ .silence :: rest)⟩) .interrupted
  /-- The token is cancelled while a message comes. -/
  | late (items : List α) (k : Nat) (message : α) (rest : List (StreamEvent α)) :
    Ends false (.value ⟨false, messages items ++ (cancellations (k + 1) ++ .item message :: rest)⟩)
      .interrupted

/-- Every way of receiving a stream is a way in which its listing ends. -/
theorem exists_ends_of_drains {events : List (StreamEvent α)} {received : Received α}
    (h : Drains operation cancelled events received) :
    ∃ ending, Ends false (.value ⟨cancelled, events⟩) ending := by
  cases h with
  | beforehand events => exact ⟨_, .opening events⟩
  | finished items k => exact ⟨_, .complete items k⟩
  | failed items k status rest => exact ⟨_, .failing items k status rest⟩
  | silent items k rest => exact ⟨_, .silent items k rest⟩
  | late items k message rest => exact ⟨_, .late items k message rest⟩

theorem exists_ends (cancelled : Bool) (reply : Reply (Opened α)) :
    ∃ ending, Ends cancelled reply ending := by
  cases cancelled with
  | true => exact ⟨_, .beforehand reply⟩
  | false =>
    cases reply with
    | failure status => exact ⟨_, .refused status⟩
    | silence => exact ⟨_, .unanswered⟩
    | value opened => exact exists_ends_of_drains (drains_drain listAgents opened.cancelled opened.events)

/-! ## Verdicts -/

/-- What comes of a listing that ends in some way: its call is begun unless the token is cancelled
beforehand, and the log shows at most that receiving was interrupted, which no complete listing was. -/
structure Gives (operation : String) (gather : List α → β) (cancelled : Bool) (ending : Ending α)
    (listed : Listed β) : Prop where
  begun : listed.begun = !cancelled
  result : listed.result = (ending.verdict operation).map gather
  logs : ∀ event ∈ listed.logs, ∃ count, event = interruptedEvent operation count
  silent : ∀ items, ending = .complete items → listed.logs = []

/-- A stream that is opened with a live token is received as `Drains` says. -/
theorem listing_of_drains {operation : String} {gather : List α → β} {opened : Opened α}
    {received : Received α} (h : Drains operation opened.cancelled opened.events received) :
    Coordinator.listing operation gather (.value opened) false =
      ⟨true, received.complete.map gather, received.logs⟩ := by
  rw [h.eq_drain]
  rfl

/-- A listing gives what the ending of its reply says. -/
theorem Ends.listing {ending : Ending α} (h : Ends cancelled reply ending) (operation : String)
    (gather : List α → β) :
    Gives operation gather cancelled ending (Coordinator.listing operation gather reply cancelled) := by
  -- An ending is one way in which a stream is drained, unless no stream comes at all.
  cases h with
  | beforehand reply => exact ⟨rfl, rfl, nofun, nofun⟩
  | refused status => exact ⟨rfl, rfl, nofun, nofun⟩
  | unanswered => exact ⟨rfl, rfl, nofun, nofun⟩
  | opening events =>
    rw [listing_of_drains (.beforehand events)]
    exact ⟨rfl, rfl, by simp, nofun⟩
  | complete items k =>
    rw [listing_of_drains (.finished items k)]
    exact ⟨rfl, rfl, nofun, fun _ _ => rfl⟩
  | failing items k status rest =>
    rw [listing_of_drains (.failed items k status rest)]
    exact ⟨rfl, rfl, nofun, nofun⟩
  | silent items k rest =>
    rw [listing_of_drains (.silent items k rest)]
    exact ⟨rfl, rfl, by simp, nofun⟩
  | late items k message rest =>
    rw [listing_of_drains (.late items k message rest)]
    exact ⟨rfl, rfl, by simp, nofun⟩

/-- A listing ends in exactly one way. -/
theorem ends_unique (cancelled : Bool) (reply : Reply (Opened α)) :
    ∃! ending, Ends cancelled reply ending := by
  obtain ⟨ending, h⟩ := exists_ends cancelled reply
  refine ⟨ending, h, fun other ho => Ending.verdict_injective listAgents ?_⟩
  -- Both endings give the verdict of the one listing, gathered as it is.
  have hmap : (other.verdict listAgents).map id = (ending.verdict listAgents).map id :=
    (ho.listing listAgents id).result.symm.trans (h.listing listAgents id).result
  simpa using hmap

/-! ## Reports -/

/-- The message of the event that an interrupted loop of receiving logs. -/
def receiveNote : String := "Stream receive cancelled"

/-- Whether an event is the one that the loop logs when it is interrupted. -/
def isReceiveNote (event : LogEvent) : Bool := event.fields.head? == some ("message", receiveNote)

/-- What is logged about a command, without the events of the loop of receiving. -/
def Outcome.reports (o : Outcome) : List LogEvent := o.events.filter fun event => !isReceiveNote event

/-- What a listing logs about itself. -/
def Ending.reports (operation interrupted failed : String) : Ending α → List LogEvent
  | .complete _ => []
  | .interrupted => [.of .warn interrupted [("error", operation ++ ": cancelled")]]
  | .failed status => [.of .error failed [("error", operation ++ ": " ++ status.text)]]

/-- What a listing shows. -/
def Ending.output (render : List α → String) : Ending α → List UInt8
  | .complete items => utf8Bytes (render items)
  | _ => []

variable {call : Call} {interrupted failed : String} {render : β → String} {listed : Listed β}
  {w : Writer}

/-- What a listing logs before its last effect are the notes of the loop. -/
theorem events_before (begun : Bool) (call : Call) (notes : List LogEvent) :
    (callEffects begun call ++ notes.map Effect.note).filterMap Effect.event? = notes := by
  rw [List.filterMap_append, events_callEffects, List.filterMap_map]
  exact List.filterMap_some

/-- A listing makes its call, once, if the call was begun. -/
theorem calls_runListing :
    (runListing listed call interrupted failed render w).calls = if listed.begun then [call] else [] := by
  rw [runListing]
  split <;> simp [Outcome.calls, Outcome.ofWrite, Effect.call?]

/-- With a writer that never fails a listing succeeds. -/
theorem result_runListing (hw : w.Reliable) :
    (runListing listed call interrupted failed render w).result = .ok () := by
  rw [runListing]
  split
  · rfl
  · rw [Outcome.ofWrite_of_reliable hw]

/-- What was collected whole is written whole. -/
theorem runListing_of_ok {collected : β} (hw : w.Reliable) (h : listed.result = .ok collected) :
    (runListing listed call interrupted failed render w).written =
        w.written ++ utf8Bytes (render collected) ∧
      (runListing listed call interrupted failed render w).events = listed.logs := by
  simp only [runListing, h, Outcome.ofWrite_of_reliable hw, Outcome.events]
  refine ⟨trivial, ?_⟩
  rw [List.filterMap_append, events_before]
  exact List.append_nil _

theorem runListing_of_error {e : CallError} (h : listed.result = .error e) :
    (runListing listed call interrupted failed render w).written = w.written ∧
      (runListing listed call interrupted failed render w).events =
        listed.logs ++ [listingFailure interrupted failed e] := by
  simp only [runListing, h, Outcome.events]
  refine ⟨trivial, ?_⟩
  rw [List.filterMap_append, events_before]
  rfl

/-- What a listing has to come to: it carries through, with one call unless the token is cancelled
beforehand; its ending decides what is written and what is logged. -/
structure AllOrNothing (operation interrupted failed : String) (call : Call)
    (render : List α → String) (cancelled : Bool) (reply : Reply (Opened α)) (w : Writer)
    (o : Outcome) : Prop where
  ending : ∃! ending, Ends cancelled reply ending
  result : o.result = .ok ()
  calls : o.calls = if cancelled then [] else [call]
  written : ∀ ending, Ends cancelled reply ending → o.written = w.written ++ ending.output render
  reports : ∀ ending, Ends cancelled reply ending →
    o.reports = ending.reports operation interrupted failed
  quiet : ∀ items, Ends cancelled reply (.complete items) → o.events = []

/-- The reports are what is logged besides the notes of the loop. -/
theorem reports_of_notes {o : Outcome} {notes reports : List LogEvent}
    (hn : ∀ event ∈ notes, ∃ count, event = interruptedEvent operation count)
    (hr : ∀ event ∈ reports, isReceiveNote event = false) (h : o.events = notes ++ reports) :
    o.reports = reports := by
  have hnotes : notes.filter (fun event => !isReceiveNote event) = [] := by
    rw [List.filter_eq_nil_iff]
    intro event he
    obtain ⟨count, rfl⟩ := hn event he
    simp [isReceiveNote, interruptedEvent, LogEvent.of, receiveNote]
  have hreports : reports.filter (fun event => !isReceiveNote event) = reports := by
    rw [List.filter_eq_self]
    intro event he
    rw [hr event he]
    rfl
  rw [Outcome.reports, h, List.filter_append, hnotes, hreports, List.nil_append]

/-- A listing writes and logs what its ending asks for. -/
theorem runListing_of_gives {gather : List α → β} {ending : Ending α} (hw : w.Reliable)
    (h : Gives operation gather cancelled ending listed) :
    (runListing listed call interrupted failed render w).written =
        w.written ++ ending.output (fun items => render (gather items)) ∧
      (runListing listed call interrupted failed render w).events =
        listed.logs ++ ending.reports operation interrupted failed := by
  cases ending with
  | complete items =>
    obtain ⟨hwritten, hevents⟩ := runListing_of_ok hw h.result
    exact ⟨hwritten, hevents.trans (List.append_nil _).symm⟩
  | interrupted =>
    obtain ⟨hwritten, hevents⟩ := runListing_of_error h.result
    exact ⟨hwritten.trans (List.append_nil _).symm, hevents⟩
  | failed status =>
    obtain ⟨hwritten, hevents⟩ := runListing_of_error h.result
    exact ⟨hwritten.trans (List.append_nil _).symm, hevents⟩

/-- A listing that is complete makes its call and writes what was collected. -/
theorem runListing_of_complete {items : List α} (h : Ends cancelled reply (.complete items))
    (operation : String) (gather : List α → β) :
    runListing (Coordinator.listing operation gather reply cancelled) call interrupted failed render w =
      .ofWrite (render (gather items)) w [.call call] := by
  obtain rfl : cancelled = false := by
    cases h
    rfl
  have hg := h.listing operation gather
  have hbegun : (Coordinator.listing operation gather reply false).begun = true := hg.begun
  have hresult : (Coordinator.listing operation gather reply false).result = .ok (gather items) :=
    hg.result
  simp only [runListing, hbegun, hresult, hg.silent items rfl]
  rfl

/-- A listing shows all messages of a complete stream and else nothing, whatever it lists. -/
theorem allOrNothing_runListing {operation interrupted failed : String}
    (hi : interrupted ≠ receiveNote) (hf : failed ≠ receiveNote) (call : Call)
    (gather : List α → β) (render : β → String) (cancelled : Bool) (reply : Reply (Opened α))
    (hw : w.Reliable) :
    AllOrNothing operation interrupted failed call (fun items => render (gather items)) cancelled reply w
      (runListing (Coordinator.listing operation gather reply cancelled) call interrupted failed render
        w) where
  ending := ends_unique cancelled reply
  result := result_runListing hw
  calls := by
    obtain ⟨ending, h⟩ := exists_ends cancelled reply
    rw [calls_runListing, (h.listing operation gather).begun]
    cases cancelled <;> rfl
  written := by
    intro ending h
    exact (runListing_of_gives hw (h.listing operation gather)).1
  reports := by
    intro ending h
    have hg := h.listing operation gather
    refine reports_of_notes hg.logs ?_ (runListing_of_gives hw hg).2
    intro event he
    -- The report is that of the command itself, for it has a message other than the loop's.
    cases ending with
    | complete items => cases he
    | interrupted =>
      obtain rfl := List.mem_singleton.mp he
      simpa [isReceiveNote, LogEvent.of] using hi
    | failed status =>
      obtain rfl := List.mem_singleton.mp he
      simpa [isReceiveNote, LogEvent.of] using hf
  quiet := by
    intro items h
    have hg := h.listing operation gather
    rw [(runListing_of_gives hw hg).2, hg.silent items rfl]
    rfl

/-- **All or nothing.** Whatever the coordinator does, and whenever the token is cancelled: with a writer
that never fails a listing carries through, and it ends in exactly one way. If its stream was opened and
received to the end of its data, the rendering of all that was collected is written and nothing is
logged. If the token put an end to it, or a status did, not a byte is written, and apart from the event
of the loop of receiving one event is logged: a warning for the token, an error for a status. The call
is made once, but not if the token is cancelled beforehand. Which agents and entries are rendered, in which
order and with which of their fields, is said of the renderings themselves (`inOrder_sortAgents` and
`nodesText_renderNodes`, `catalogued_sorted` and `backupsText_renderBackups`). -/
theorem listings_all_or_nothing (c : Coordinator) (cancelled : Bool) (w : Writer) (hw : w.Reliable) :
    (∀ verbose, AllOrNothing listAgents nodesInterrupted nodesFailed .agents
      (fun agents => renderNodes (sortAgents agents) verbose) cancelled c.agents w
      (dispatch (.listNodes verbose) c cancelled w)) ∧
    AllOrNothing listBackups backupsInterrupted backupsFailed .catalog
      (fun entries => renderBackups (Catalog.ofEntries entries)) cancelled c.catalog w
      (dispatch .listBackups c cancelled w) := by
  constructor
  · intro verbose
    exact allOrNothing_runListing (by decide) (by decide) .agents sortAgents
      (fun agents => renderNodes agents verbose) cancelled c.agents hw
  · exact allOrNothing_runListing (by decide) (by decide) .catalog Catalog.ofEntries renderBackups
      cancelled c.catalog hw

/-- The status with which a list breaks off. -/
def connectionLost : Status := ⟨.unavailable, "connection lost"⟩

/-- A coordinator whose list of agents breaks off behind the first of them. -/
def brokenCoordinator : Coordinator where
  agents := .value ⟨false, [.item .blank, .failure connectionLost, .item .blank]⟩
  catalog := .silence
  backup _ := .silence
  restore _ := .silence

/-- The agent that came before the failure is not shown. -/
theorem broken_listing_shows_nothing :
    (dispatch (.listNodes true) brokenCoordinator false (.fresh none)).written = [] ∧
      (dispatch (.listNodes true) brokenCoordinator false (.fresh none)).reports =
        [.of .error nodesFailed [("error", listAgents ++ ": " ++ connectionLost.text)]] := by
  have hall := (listings_all_or_nothing brokenCoordinator false (.fresh none) Writer.reliable_fresh).1 true
  have hends : Ends false brokenCoordinator.agents (.failed connectionLost) :=
    .failing [Agent.blank] 0 connectionLost [.item Agent.blank]
  exact ⟨hall.written _ hends, hall.reports _ hends⟩

end BackupConsole
