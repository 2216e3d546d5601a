/-
  What becomes of a bridge and of its tokens, whatever happens to them.

  1. **Specification** — all of it can be read off the operations so far, the history: whether the
     listener still waits (`Waiting`), whether the bridge still exists (`Alive`), whether the signal can
     still be given (`Armed`), which operations cancel the token (`Cancels`, `Cancelled`), and how many
     copies of it have been handed out (`handedOut`).

  2. **One operation** — `settled` is the bridge that a history leads to. It ties the flag, the listener,
     the signal and the bridge's existence together, and `step_settled` carries it over one operation:
     what the operation does, whether it applies and what it logs, all from the history before it.

  3. **Runs** — `getElem?_run` follows by induction: what the operation at some place of a run shows is
     decided by those before it.

  4. **Correctness** — `tokens_share_one_flag` for the tokens, `listener_takes_one_signal` for the
     listener.
-/
import BackupConsole.Cancellation
import Mathlib.Data.List.TakeWhile
import Mathlib.Tactic

namespace BackupConsole.Bridge

variable {earlier history : List BridgeOp} {op : BridgeOp}

/-! ## Histories -/

/-- The listener still waits: nothing has happened but that tokens were looked at and handed out. -/
def Waiting (history : List BridgeOp) : Prop := ∀ op ∈ history, op = .check ∨ op = .token

/-- The bridge still exists. -/
def Alive (history : List BridgeOp) : Prop := .shutdown ∉ history ∧ .drop ∉ history

/-- The signal can still be given. -/
def Armed (history : List BridgeOp) : Prop := .signal ∉ history ∧ .signalFailure ∉ history

/-- The operations that cancel the token, given those before them: a success of the signal that the
listener was waiting for, and whatever ends a bridge that still existed. -/
def Cancels (earlier : List BridgeOp) : BridgeOp → Prop
  | .signal => Waiting earlier
  | .cancel => True
  | .shutdown | .drop => Alive earlier
  | .check | .token | .signalFailure => False

/-- One of the operations has cancelled the token. -/
def Cancelled (history : List BridgeOp) : Prop :=
  ∃ n op, history[n]? = some op ∧ Cancels (history.take n) op

/-- Whether the listener waits is seen from the operations so far. -/
instance : Decidable (Waiting history) := inferInstanceAs (Decidable (∀ op ∈ history, _))

/-- So it is for the existence of the bridge. -/
instance : Decidable (Alive history) := inferInstanceAs (Decidable (_ ∧ _))

/-- And for whether the signal can still be given. -/
instance : Decidable (Armed history) := inferInstanceAs (Decidable (_ ∧ _))

/-- Whether an operation cancels the token is seen from those before it. -/
instance : (op : BridgeOp) → Decidable (Cancels earlier op)
  | .signal => inferInstanceAs (Decidable (Waiting earlier))
  | .cancel => .isTrue trivial
  | .shutdown | .drop => inferInstanceAs (Decidable (Alive earlier))
  | .check | .token | .signalFailure => .isFalse id

/-- Only the operations themselves need to be looked at. -/
theorem cancelled_iff : Cancelled history ↔
    ∃ n < history.length, ∃ op ∈ history[n]?, Cancels (history.take n) op := by
  constructor
  · rintro ⟨n, op, hop, hcancels⟩
    exact ⟨n, (List.getElem?_eq_some_iff.mp hop).1, op, hop, hcancels⟩
  · rintro ⟨n, -, op, hop, hcancels⟩
    exact ⟨n, op, hop, hcancels⟩

/-- Whether the token is cancelled can be computed, place by place. -/
instance : Decidable (Cancelled history) := decidable_of_iff _ cancelled_iff.symm

/-- Whether an operation lets the bridge exist on. -/
def spares (op : BridgeOp) : Bool := decide (op ≠ .shutdown ∧ op ≠ .drop)

/-- How many tokens have been handed out: one at the beginning, the others while the bridge existed. -/
def handedOut (history : List BridgeOp) : Nat := 1 + (history.takeWhile spares).count .token

/-- Whether an operation applies, given those before it. -/
def Applies (earlier : List BridgeOp) : BridgeOp → Prop
  | .signal | .signalFailure => Waiting earlier
  | .token | .shutdown | .drop => Alive earlier
  | .check | .cancel => True

/-- Whether an operation applies is seen from those before it. -/
instance : (op : BridgeOp) → Decidable (Applies earlier op)
  | .signal | .signalFailure => inferInstanceAs (Decidable (Waiting earlier))
  | .token | .shutdown | .drop => inferInstanceAs (Decidable (Alive earlier))
  | .check | .cancel => .isTrue trivial

/-- What an operation has to log, given those before it. -/
def events (earlier : List BridgeOp) : BridgeOp → List LogEvent
  | .signal => if Waiting earlier then [interruptEvent] else []
  | .signalFailure => if Waiting earlier then [listenFailureEvent "no signal"] else []
  | _ => []

/-- Of the operations that could cancel the token, those cancel it that apply. -/
theorem cancels_iff_applies :
    Cancels earlier op ↔ op ∈ [.signal, .cancel, .shutdown, .drop] ∧ Applies earlier op := by
  cases op <;> simp [Cancels, Applies]

/-- A further operation keeps the listener waiting if it only looks at tokens or hands one out. -/
@[simp] theorem waiting_concat :
    Waiting (history ++ [op]) ↔ Waiting history ∧ (op = .check ∨ op = .token) := by
  simp [Waiting, or_imp, forall_and]

@[simp] theorem alive_concat :
    Alive (history ++ [op]) ↔ Alive history ∧ op ≠ .shutdown ∧ op ≠ .drop := by
  simp only [Alive, List.mem_append, List.mem_singleton, not_or, eq_comm (b := op)]
  exact and_and_and_comm

@[simp] theorem armed_concat :
    Armed (history ++ [op]) ↔ Armed history ∧ op ≠ .signal ∧ op ≠ .signalFailure := by
  simp only [Armed, List.mem_append, List.mem_singleton, not_or, eq_comm (b := op)]
  exact and_and_and_comm

/-- A further operation cancels the token, or one before it has. -/
@[simp] theorem cancelled_concat :
    Cancelled (history ++ [op]) ↔ Cancelled history ∨ Cancels history op := by
  constructor
  · rintro ⟨n, other, hother, hcancels⟩
    -- What cancelled the token stands within the history, or it is the last operation.
    rcases Nat.lt_or_ge n history.length with hn | hn
    · rw [List.getElem?_append_left hn] at hother
      rw [List.take_append_of_le_length hn.le] at hcancels
      exact .inl ⟨n, other, hother, hcancels⟩
    · obtain rfl : n = history.length := by
        have := (List.getElem?_eq_some_iff.mp hother).1
        simp at this
        omega
      rw [List.getElem?_concat_length, Option.some.injEq] at hother
      rw [List.take_left] at hcancels
      exact .inr (hother ▸ hcancels)
  · rintro (⟨n, other, hother, hcancels⟩ | hcancels)
    · have hn := (List.getElem?_eq_some_iff.mp hother).1
      refine ⟨n, other, ?_, ?_⟩
      · rwa [List.getElem?_append_left hn]
      · rwa [List.take_append_of_le_length hn.le]
    · refine ⟨history.length, op, List.getElem?_concat_length, ?_⟩
      rwa [List.take_left]

/-- The bridge exists as long as no operation has failed to spare it. -/
theorem alive_iff : Alive history ↔ history.takeWhile spares = history := by
  rw [List.takeWhile_eq_self_iff]
  constructor
  · intro ⟨hshutdown, hdrop⟩ op hop
    refine decide_eq_true ⟨?_, ?_⟩
    · rintro rfl
      exact hshutdown hop
    · rintro rfl
      exact hdrop hop
  · intro hall
    exact ⟨fun hop => absurd (hall _ hop) (by decide), fun hop => absurd (hall _ hop) (by decide)⟩

/-- A further operation hands out a token if it is asked to while the bridge exists. -/
@[simp] theorem handedOut_concat :
    handedOut (history ++ [op]) = handedOut history + if op = .token ∧ Alive history then 1 else 0 := by
  simp only [handedOut, List.takeWhile_append]
  by_cases ha : Alive history
  · have htake := alive_iff.mp ha
    rw [htake, if_pos rfl, List.count_append, ← Nat.add_assoc]
    cases op <;> simp [ha, spares]
  · -- Behind the end of the bridge no operation counts.
    have hshort : (history.takeWhile spares).length ≠ history.length := by
      intro hlength
      exact ha (alive_iff.mpr ((List.takeWhile_prefix spares).eq_of_length hlength))
    rw [if_neg hshort, if_neg fun h => ha h.2, Nat.add_zero]

/-! ## One operation -/

/-- The bridge that a history leads to. -/
def settled (history : List BridgeOp) : Bridge where
  flags := [decide (Cancelled history)]
  own := if Alive history then some ⟨0⟩ else none
  listener := if Waiting history then some ⟨0⟩ else none
  armed := decide (Armed history)
  tokens := List.replicate (handedOut history) ⟨0⟩

theorem Waiting.alive (h : Waiting history) : Alive history :=
  ⟨fun hop => by simpa using h _ hop, fun hop => by simpa using h _ hop⟩

theorem Waiting.armed (h : Waiting history) : Armed history :=
  ⟨fun hop => by simpa using h _ hop, fun hop => by simpa using h _ hop⟩

/-- While the listener waits its token is live. -/
theorem Waiting.not_cancelled (h : Waiting history) : ¬ Cancelled history := by
  rintro ⟨n, op, hop, hcancels⟩
  rcases h op (List.mem_of_getElem? hop) with rfl | rfl
  · exact hcancels
  · exact hcancels

/-- The bridge that has just been started is the one that no operation leads to. -/
theorem start_eq : start = settled [] := by decide

/-- All tokens that were handed out report the same. -/
theorem reports_settled :
    (settled history).reports = List.replicate (handedOut history) (decide (Cancelled history)) := by
  rw [reports, settled, List.map_replicate]
  rfl

/-- What an operation has done by itself, if it gives no signal: the listener waits if it did. -/
def acted (earlier : List BridgeOp) (op : BridgeOp) : Bridge :=
  { settled (earlier ++ [op]) with listener := (settled earlier).listener }

theorem act_check : (settled earlier).act .check = ⟨acted earlier .check, true, none⟩ := by
  simp [act, acted, settled, Cancels]

theorem act_token :
    (settled earlier).act .token = ⟨acted earlier .token, decide (Alive earlier), none⟩ := by
  by_cases ha : Alive earlier
  · simp [act, acted, settled, ha, Cancels, List.replicate_succ']
  · simp [act, acted, settled, ha, Cancels]

theorem act_cancel : (settled earlier).act .cancel = ⟨acted earlier .cancel, true, none⟩ := by
  -- There is a first token, the one that was handed out at the beginning.
  have htokens : (settled earlier).tokens = ⟨0⟩ :: List.replicate (handedOut earlier - 1) ⟨0⟩ := by
    rw [settled, handedOut, Nat.add_comm, List.replicate_succ, Nat.add_sub_cancel]
  simp only [act, htokens]
  simp [acted, settled, cancel, Cancels]

/-- A shutdown cancels the token, if there is a bridge to shut down. -/
theorem act_shutdown :
    (settled earlier).act .shutdown = ⟨acted earlier .shutdown, decide (Alive earlier), none⟩ := by
  by_cases ha : Alive earlier
  · simp [act, acted, settled, cancel, release, ha, Cancels]
  · simp [act, acted, settled, ha, Cancels]

theorem act_drop :
    (settled earlier).act .drop = ⟨acted earlier .drop, decide (Alive earlier), none⟩ := by
  by_cases ha : Alive earlier
  · simp [act, acted, settled, cancel, release, ha, Cancels]
  · simp [act, acted, settled, ha, Cancels]

/-- A failure of the signal apart, the listener waits on if and only if its token is live. -/
theorem waiting_concat_iff_live (hop : op ≠ .signalFailure) :
    Waiting (earlier ++ [op]) ↔ Waiting earlier ∧ ¬ Cancelled (earlier ++ [op]) := by
  rw [waiting_concat, cancelled_concat]
  refine and_congr_right fun hw => ?_
  -- The token was live, so it is the operation alone that counts.
  rw [or_iff_right hw.not_cancelled]
  cases op <;> simp_all [Cancels, hw.alive]

/-- So it is enough that the listener looks at its token, unless a signal has come. -/
theorem step_of_act {applied : Bool} (hop : op ≠ .signalFailure)
    (hact : (settled earlier).act op = ⟨acted earlier op, applied, none⟩) :
    (settled earlier).step op = (settled (earlier ++ [op]), applied, []) := by
  have hlive : Waiting (earlier ++ [op]) ↔ Waiting earlier ∧ ¬ Cancelled (earlier ++ [op]) :=
    waiting_concat_iff_live hop
  have hsettle : (acted earlier op).settle none = (settled (earlier ++ [op]), []) := by
    by_cases hw : Waiting earlier <;> by_cases hc : Cancelled (earlier ++ [op]) <;>
      simp [settle, acted, settled, isCancelled, hlive, hw, hc]
  simp only [step, hact, hsettle]

/-- The listener that waits takes the signal. -/
theorem give_of_waiting (hw : Waiting earlier) (signal : Signal) :
    (settled earlier).give signal = ⟨{ settled earlier with armed := false }, true, some signal⟩ := by
  simp [give, settled, hw, hw.armed]

/-- That ends it; whether the token is cancelled depends on the signal. -/
theorem settled_concat_of_waiting (hw : Waiting earlier)
    (hop : op = .signal ∨ op = .signalFailure) :
    settled (earlier ++ [op]) =
      { settled earlier with flags := [decide (op = .signal)], listener := none, armed := false } := by
  rcases hop with rfl | rfl <;> simp [settled, hw, hw.not_cancelled, Cancels]

/-- A signal that nobody waits for changes nothing but that it is used up. -/
theorem step_of_not_waiting (hw : ¬ Waiting earlier) (hop : op = .signal ∨ op = .signalFailure) :
    (settled earlier).step op = (settled (earlier ++ [op]), false, []) := by
  have hact : (settled earlier).act op = ⟨{ settled earlier with armed := false }, false, none⟩ := by
    rcases hop with rfl | rfl <;> simp [act, give, settled, hw]
  have hconcat : settled (earlier ++ [op]) = { settled earlier with armed := false } := by
    rcases hop with rfl | rfl <;> simp [settled, hw, Cancels]
  rw [step, hact, hconcat]
  simp [settle, settled, hw]

/-- One operation leads from the bridge of a history to that of the longer history. -/
theorem step_settled (earlier : List BridgeOp) (op : BridgeOp) :
    (settled earlier).step op =
      (settled (earlier ++ [op]), decide (Applies earlier op), events earlier op) := by
  -- Only the two that give a signal can wake the listener; the others are done once they have acted.
  cases op with
  | check => exact step_of_act nofun act_check
  | token => exact step_of_act nofun act_token
  | cancel => exact step_of_act nofun act_cancel
  | shutdown => exact step_of_act nofun act_shutdown
  | drop => exact step_of_act nofun act_drop
  | signal =>
    by_cases hw : Waiting earlier
    · rw [step, act, give_of_waiting hw, settled_concat_of_waiting hw (.inl rfl)]
      simp [settle, settled, cancel, hw, Applies, events]
    · rw [step_of_not_waiting hw (.inl rfl)]
      simp [hw, Applies, events]
  | signalFailure =>
    by_cases hw : Waiting earlier
    · rw [step, act, give_of_waiting hw, settled_concat_of_waiting hw (.inr rfl)]
      simp [settle, settled, hw, hw.not_cancelled, Applies, events]
    · rw [step_of_not_waiting hw (.inr rfl)]
      simp [hw, Applies, events]

/-! ## Runs -/

/-- What an operation shows, given those before it. -/
def viewOf (earlier : List BridgeOp) (op : BridgeOp) : BridgeView where
  applied := decide (Applies earlier op)
  flags := (settled (earlier ++ [op])).reports
  logs := events earlier op

/-- A run is one operation and a run from where that one leads to. -/
theorem run_settled_cons (earlier : List BridgeOp) (op : BridgeOp) (rest : List BridgeOp) :
    (settled earlier).run (op :: rest) = viewOf earlier op :: (settled (earlier ++ [op])).run rest := by
  rw [run, step_settled]
  rfl

/-- Each operation of a run shows what those before it decide. -/
theorem getElem?_run (earlier ops : List BridgeOp) (n : Nat) :
    ((settled earlier).run ops)[n]? = ops[n]?.map (viewOf (earlier ++ ops.take n)) := by
  induction ops generalizing earlier n with
  | nil => rfl
  | cons op rest ih =>
    rw [run_settled_cons]
    cases n with
    | zero => simp
    | succ n => simp [ih]

/-- The same for a run from the start, where nothing comes before. -/
theorem getElem?_run_start (ops : List BridgeOp) (n : Nat) :
    (start.run ops)[n]? = ops[n]?.map (viewOf (ops.take n)) := by
  rw [start_eq, getElem?_run, List.nil_append]

/-- A run stops at no operation. -/
theorem length_run (b : Bridge) (ops : List BridgeOp) : (b.run ops).length = ops.length := by
  induction ops generalizing b with
  | nil => rfl
  | cons op rest ih => rw [run, List.length_cons, List.length_cons, ih]

/-- An operation that shows something, with those before it. -/
theorem exists_of_getElem?_run_start {ops : List BridgeOp} {n : Nat} {view : BridgeView}
    (h : (start.run ops)[n]? = some view) :
    ∃ op, ops[n]? = some op ∧ ops.take (n + 1) = ops.take n ++ [op] ∧ view = viewOf (ops.take n) op := by
  rw [getElem?_run_start, Option.map_eq_some_iff] at h
  obtain ⟨op, hop, rfl⟩ := h
  refine ⟨op, hop, ?_, rfl⟩
  rw [List.take_add_one, hop, Option.toList_some]

/-! ## Tokens -/

/-- No operation takes a cancellation back. -/
theorem Cancelled.mono {m n : Nat} {ops : List BridgeOp} (hmn : m ≤ n) (h : Cancelled (ops.take m)) :
    Cancelled (ops.take n) := by
  induction hmn with
  | refl => exact h
  | @step n _ ih =>
    rw [List.take_add_one]
    cases ops[n]? with
    | none => simpa using ih
    | some op => exact cancelled_concat.mpr (.inl ih)

/-- What the tokens report after an operation: each of them the same. -/
theorem flags_of_getElem?_run_start {ops : List BridgeOp} {n : Nat} {view : BridgeView}
    (h : (start.run ops)[n]? = some view) :
    view.flags = List.replicate (handedOut (ops.take (n + 1)))
      (decide (Cancelled (ops.take (n + 1)))) := by
  obtain ⟨op, -, htake, rfl⟩ := exists_of_getElem?_run_start h
  rw [htake]
  exact reports_settled

/-- **All tokens of a bridge share one flag.** After each operation of a run every token that has been
handed out until then, be it after a cancellation, and whether or not the bridge still exists, reports the
same: whether one of the operations so far cancelled the token (`Cancels`), that is, was a success of the
signal that the listener waited for, a cancellation, or a shutdown or a drop of the bridge that still
existed. Of these operations, those cancel the token that are seen to apply. No token that was cancelled is
live later. A failure of the signal leaves the tokens as they were, and so does a success after a
failure. -/
theorem tokens_share_one_flag (ops : List BridgeOp) :
    (start.run ops).length = ops.length ∧
    (∀ n view, (start.run ops)[n]? = some view →
      view.flags.length = handedOut (ops.take (n + 1)) ∧
      ∀ flag ∈ view.flags, flag = true ↔ Cancelled (ops.take (n + 1))) ∧
    (∀ n op view, ops[n]? = some op → (start.run ops)[n]? = some view →
      (Cancels (ops.take n) op ↔
        op ∈ [.signal, .cancel, .shutdown, .drop] ∧ view.applied = true)) ∧
    (∀ (m n : Nat) (before after : BridgeView), m ≤ n → (start.run ops)[m]? = some before →
      (start.run ops)[n]? = some after → true ∈ before.flags → false ∉ after.flags) ∧
    (∀ n view, (start.run ops)[n]? = some view →
      ops[n]? = some .signalFailure ∨ (ops[n]? = some .signal ∧ .signalFailure ∈ ops.take n) →
      ∀ flag ∈ view.flags, flag = true ↔ Cancelled (ops.take n)) := by
  refine ⟨length_run start ops, ?_, ?_, ?_, ?_⟩
  · intro n view hview
    rw [flags_of_getElem?_run_start hview]
    refine ⟨List.length_replicate, ?_⟩
    intro flag hflag
    rw [List.eq_of_mem_replicate hflag, decide_eq_true_iff]
  · intro n op view hop hview
    rw [getElem?_run_start, hop, Option.map_some, Option.some.injEq] at hview
    rw [← hview, viewOf, decide_eq_true_iff]
    exact cancels_iff_applies
  · intro m n before after hmn hbefore hafter htrue hfalse
    rw [flags_of_getElem?_run_start hbefore] at htrue
    rw [flags_of_getElem?_run_start hafter] at hfalse
    have hcancelled := of_decide_eq_true (List.eq_of_mem_replicate htrue).symm
    have hlive := of_decide_eq_false (List.eq_of_mem_replicate hfalse).symm
    exact hlive (hcancelled.mono (Nat.succ_le_succ hmn))
  · intro n view hview hfailed flag hflag
    rw [flags_of_getElem?_run_start hview] at hflag
    rw [List.eq_of_mem_replicate hflag, decide_eq_true_iff]
    obtain ⟨op, hop, htake, -⟩ := exists_of_getElem?_run_start hview
    -- It is left to show that the last operation does not cancel the token.
    rw [htake, cancelled_concat]
    refine or_iff_left ?_
    rw [hop] at hfailed
    rcases hfailed with hfailure | ⟨hsignal, hearlier⟩
    · obtain rfl := Option.some.inj hfailure
      exact id
    · obtain rfl := Option.some.inj hsignal
      exact fun hwaiting => hwaiting.armed.2 hearlier

/-- A token outlives the bridge, and what it reports with it. -/
example : (start.run [.signalFailure, .signal, .token, .drop, .token]).map BridgeView.flags =
    [[false], [false], [false, false], [true, true], [true, true]] := by decide

/-! ## The listener -/

/-- The operations that give the signal. -/
def givesSignal (op : BridgeOp) : Bool := decide (op = .signal ∨ op = .signalFailure)

/-- The signals that took effect in a run, with what they showed. -/
def effective (ops : List BridgeOp) (views : List BridgeView) : List (BridgeOp × BridgeView) :=
  (ops.zip views).filter fun shown => givesSignal shown.1 && shown.2.applied

/-- The events of a signal that takes effect. -/
def heard : BridgeOp → List LogEvent
  | .signal => [⟨.warn, [("message", "Interrupt received, cancelling in-flight requests")]⟩]
  | .signalFailure =>
    [⟨.error, [("message", "Failed to listen for interrupt signal"), ("error", "no signal")]⟩]
  | _ => []

theorem heard_eq_nil (h : givesSignal op = false) : heard op = [] := by
  cases op <;> first | rfl | cases h

theorem length_heard (h : givesSignal op = true) : (heard op).length = 1 := by
  cases op <;> first | rfl | cases h

/-- Events come of the signals that take effect, and of nothing else. -/
theorem logs_viewOf : (viewOf earlier op).logs = if (viewOf earlier op).applied then heard op else [] := by
  simp only [viewOf, decide_eq_true_eq]
  cases op with
  | signal => rfl
  | signalFailure => rfl
  | _ => exact (ite_self _).symm

/-- A signal takes effect if the listener was waiting for it. -/
theorem applied_viewOf (h : givesSignal op = true) :
    (viewOf earlier op).applied = decide (Waiting earlier) := by
  cases op <;> first | rfl | cases h

/-- No signal leaves the listener waiting. -/
theorem not_waiting_concat (h : givesSignal op = true) : ¬ Waiting (earlier ++ [op]) := by
  rw [waiting_concat]
  rintro ⟨-, rfl | rfl⟩
  · cases h
  · cases h

/-- What is left of a run takes no signal but the one the listener still waits for. -/
theorem length_effective_le (earlier ops : List BridgeOp) :
    (effective ops ((settled earlier).run ops)).length ≤ if Waiting earlier then 1 else 0 := by
  induction ops generalizing earlier with
  | nil => exact Nat.zero_le _
  | cons op rest ih =>
    have hrest := ih (earlier ++ [op])
    rw [run_settled_cons, effective, List.zip_cons_cons, List.filter_cons]
    by_cases hsignal : givesSignal op = true
    · -- A signal is taken if the listener waits for it, and then none of those behind it is.
      rw [if_neg (not_waiting_concat hsignal)] at hrest
      rw [applied_viewOf hsignal, hsignal, Bool.true_and]
      by_cases hw : Waiting earlier <;> simpa [hw, effective] using hrest
    · -- Any other operation leaves the listener as it was, or ends its waiting.
      rw [if_neg (by simp [hsignal])]
      refine hrest.trans ?_
      by_cases hw : Waiting (earlier ++ [op])
      · rw [if_pos hw, if_pos (waiting_concat.mp hw).1]
      · rw [if_neg hw]
        exact Nat.zero_le _

/-- There are as many events as signals that take effect. -/
theorem length_logs (earlier ops : List BridgeOp) :
    (((settled earlier).run ops).flatMap BridgeView.logs).length =
      (effective ops ((settled earlier).run ops)).length := by
  induction ops generalizing earlier with
  | nil => rfl
  | cons op rest ih =>
    rw [run_settled_cons, effective, List.zip_cons_cons, List.filter_cons, List.flatMap_cons,
      List.length_append, ih, logs_viewOf]
    by_cases hsignal : givesSignal op = true
    · by_cases happlied : (viewOf earlier op).applied
      · simp [hsignal, happlied, length_heard hsignal, effective, Nat.add_comm]
      · simp [hsignal, happlied, effective]
    · rw [heard_eq_nil (Bool.eq_false_iff.mpr hsignal)]
      simp [hsignal, effective]

/-- **The listener takes one signal.** In no run does more than one signal take effect, nor is there more
than one event. A signal takes effect if and only if there was no signal before it, whether that took
effect or not, and no cancellation, shutdown or drop. The event tells of an interrupt if and only if the
signal that took effect was a success, and of a failure if and only if it was a failure; no other operation
logs anything. -/
theorem listener_takes_one_signal (ops : List BridgeOp) :
    (start.run ops).length = ops.length ∧
    (effective ops (start.run ops)).length ≤ 1 ∧
    ((start.run ops).flatMap BridgeView.logs).length ≤ 1 ∧
    ∀ n op view, ops[n]? = some op → (start.run ops)[n]? = some view →
      view.logs = (if view.applied then heard op else []) ∧
      (op = .signal ∨ op = .signalFailure →
        (view.applied = true ↔
          ∀ before ∈ ops.take n, before ∉ [.signal, .signalFailure, .cancel, .shutdown, .drop])) := by
  have hone : (effective ops (start.run ops)).length ≤ 1 := by
    rw [start_eq]
    exact length_effective_le [] ops
  refine ⟨length_run start ops, hone, ?_, ?_⟩
  · rw [start_eq] at hone ⊢
    rwa [length_logs]
  · -- An operation shows what the operations before it make of it, so only their history matters.
    intro n op view hop hview
    rw [getElem?_run_start, hop, Option.map_some, Option.some.injEq] at hview
    subst hview
    refine ⟨logs_viewOf, ?_⟩
    intro hsignal
    rw [applied_viewOf (decide_eq_true hsignal), decide_eq_true_iff, Waiting]
    -- Both sides ask of each earlier operation only which one it is.
    refine forall₂_congr fun before _ => ?_
    cases before <;> decide

end BackupConsole.Bridge
