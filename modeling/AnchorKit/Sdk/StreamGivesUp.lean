import AnchorKit.Sdk.StreamClose
import AnchorKit.Sdk.StreamResume

/-!
# When a stream gives up

`scheduleReconnect` counts the attempts and closes the stream when they are used up.
Long polling and polling set the counter back after a reply that could be read;
`runSse` never does.  Unless a transaction comes over SSE while attempts are counted,
the counter never exceeds the number of failures in a row.
-/

set_option autoImplicit false

namespace AnchorKit.Sdk.Stream

open AnchorKit.Base

/-! ## Failures in a row -/

/-- What a transport brings; a transaction over SSE has no origin that polls. -/
inductive Arrival where
  | failure
  | transaction (origin : Option PollMode)
  deriving DecidableEq, Repr

/-- The transaction in a message, unless reading its status throws. -/
def messageArrival : Option Json → Option Arrival
  | none => none
  | some parsed =>
      match messageTransaction parsed with
      | .null => none
      | _ => some (.transaction none)

/-- An abort is no failure, and neither is a long poll that the anchor does not offer. -/
def Reply.arrival (mode : PollMode) : Reply → Option Arrival
  | .rejected isAbort _ => if isAbort then none else some .failure
  | .response status =>
      if mode = .longPoll ∧ (status = 404 ∨ status = 405) then none
      else if status < 200 ∨ 300 ≤ status then some .failure
      else none

def bodyArrival (mode : PollMode) : Except String Json → Option Arrival
  | .error _ => some .failure
  | .ok body =>
      match (transactionIn mode body).bind (·.filter Json.truthy) with
      | none => none
      | some _ => some (.transaction (some mode))

def TransactionStream.arrivalOf (stream : TransactionStream) : Occurrence → Option Arrival
  | .message source _ _ parsed =>
      if stream.sources.any (·.number == source) then messageArrival parsed else none
  | .sourceFails source =>
      if stream.sources.any (·.number == source) then some .failure else none
  | .fetchSettles request reply =>
      (stream.requests.find? fun own => own.number == request && !own.reading).bind fun own =>
        reply.arrival own.mode
  | .bodySettles request body =>
      (stream.requests.find? fun own => own.number == request && own.reading).bind fun own =>
        bodyArrival own.mode body
  | .timerFires _ _ => none

def arrival (visit : TransactionStream × Event) : Option Arrival :=
  match visit.2 with
  | .occurs occurrence =>
      if visit.1.stack.isEmpty then visit.1.arrivalOf occurrence else none
  | _ => none

def tally (streak : Nat) : Option Arrival → Nat
  | none => streak
  | some .failure => streak + 1
  | some (.transaction _) => 0

/-- The failures since the last transaction. -/
def streak (visits : List (TransactionStream × Event)) : Nat :=
  (visits.map arrival).foldl tally 0

theorem streak_concat (past : List (TransactionStream × Event))
    (visit : TransactionStream × Event) :
    streak (past ++ [visit]) = tally (streak past) (arrival visit) := by
  simp [streak]

/-- A transaction comes over SSE while attempts are counted. -/
def keepsAttempts (visit : TransactionStream × Event) : Bool :=
  arrival visit == some (.transaction none) && visit.1.reconnectAttempts != 0

/-! ## The counter -/

/-- The attempts that may be counted while what follows the handlers is still to come. -/
def Continuation.allows (attempts streak : Nat) : Continuation → Prop
  | .done => attempts ≤ streak
  | .reconnect => attempts + 1 ≤ streak
  | .processed _ _ none => attempts ≤ streak
  | .processed _ _ (some _) => True

theorem Continuation.allows_zero {attempts streak : Nat} {after : Continuation}
    (allowed : after.allows attempts streak) : after.allows 0 streak := by
  cases after with
  | done => exact Nat.zero_le streak
  | reconnect => exact le_trans (Nat.succ_le_succ (Nat.zero_le attempts)) allowed
  | processed tx terminal origin =>
      cases origin with
      | none => exact Nat.zero_le streak
      | some mode => trivial

inductive Standing (streak : Nat) (stream : TransactionStream) : Prop
  | stopped (stopped : stream.stopped = true)
  | waiting (quiet : stream.stack = []) (within : stream.reconnectAttempts ≤ streak)
  | telling (frame : Frame) (stack : stream.stack = [frame])
      (allowed : frame.after.allows stream.reconnectAttempts streak)

theorem waiting_of_connects {streak : Nat} {stream after : TransactionStream}
    (connects : Connects stream after) (quiet : stream.stack = [])
    (within : stream.reconnectAttempts ≤ streak) : Standing streak after :=
  .waiting (connects.stack.trans quiet) (connects.reconnectAttempts.trans_le within)

section Counter

variable {config : Config} {stream : TransactionStream} {streak : Nat}

theorem pollAgain_standing (quiet : stream.stack = []) (mode : PollMode) :
    Standing streak (stream.pollAgain config mode) := by
  by_cases stopped : stream.stopped = true
  · rw [TransactionStream.pollAgain_of_stopped stopped]
    exact .stopped stopped
  · cases mode with
    | longPoll =>
        rw [TransactionStream.pollAgain, if_neg stopped]
        refine waiting_of_connects (runLongPoll_connects _) ?_ ?_
        · exact quiet
        · exact Nat.zero_le streak
    | polling =>
        rw [TransactionStream.pollAgain, if_neg stopped]
        exact .waiting quiet (Nat.zero_le streak)

theorem scheduleReconnect_standing (quiet : stream.stack = [])
    (counted : stream.reconnectAttempts + 1 ≤ streak) :
    Standing streak (stream.scheduleReconnect config) := by
  unfold TransactionStream.scheduleReconnect
  split
  · rename_i stopped
    exact .stopped stopped
  · split
    · exact .stopped (TransactionStream.emitClose_stopped _)
    · exact .waiting quiet counted

theorem proceed_standing (quiet : stream.stack = []) {after : Continuation}
    (allowed : after.allows stream.reconnectAttempts streak) :
    Standing streak (stream.proceed config after) := by
  cases after with
  | done => exact .waiting quiet allowed
  | reconnect => exact scheduleReconnect_standing quiet allowed
  | processed tx terminal origin =>
      unfold TransactionStream.proceed
      dsimp only
      split
      · exact .stopped (TransactionStream.emitClose_stopped _)
      · cases origin with
        | none => exact .waiting quiet allowed
        | some mode => exact pollAgain_standing quiet mode

theorem emit_standing (quiet : stream.stack = []) (notice : Notice) {after : Continuation}
    (allowed : after.allows stream.reconnectAttempts streak) :
    Standing streak (stream.emit config notice after) := by
  unfold TransactionStream.emit
  split
  · exact proceed_standing quiet allowed
  · refine .telling ⟨notice, 0, after⟩ ?_ allowed
    exact congrArg (List.cons _) quiet

theorem fail_standing (quiet : stream.stack = []) (within : stream.reconnectAttempts ≤ streak)
    (message : String) :
    Standing (tally streak (some .failure)) (stream.emit config (.error message) .reconnect) :=
  emit_standing quiet _ (Nat.succ_le_succ within)

theorem processTransaction_standing (quiet : stream.stack = []) {tx : Json}
    (present : tx ≠ .null) {origin : Option PollMode}
    (allowed : origin = none → stream.reconnectAttempts ≤ streak) :
    Standing streak (stream.processTransaction config tx origin) := by
  unfold TransactionStream.processTransaction
  dsimp only
  split
  · exact absurd rfl present
  · refine emit_standing ?_ _ ?_
    · exact quiet
    · cases origin with
      | none => exact allowed rfl
      | some mode => trivial

theorem messageArrival_of_present {parsed : Json} (present : messageTransaction parsed ≠ .null) :
    messageArrival (some parsed) = some (.transaction none) := by
  unfold messageArrival
  dsimp only
  split
  · rename_i absent
    exact absurd absent present
  · rfl

theorem onRawData_standing (quiet : stream.stack = [])
    (within : stream.reconnectAttempts ≤ streak) (data : String) (parsed : Option Json)
    (unreset : messageArrival parsed = some (.transaction none) →
      stream.reconnectAttempts = 0) :
    Standing (tally streak (messageArrival parsed)) (stream.onRawData config data parsed) := by
  cases parsed with
  | none => exact emit_standing quiet _ within
  | some json =>
      by_cases absent : messageTransaction json = .null
      · have nothing : messageArrival (some json) = none := by rw [messageArrival, absent]
        rw [nothing, TransactionStream.onRawData, absent]
        exact .waiting quiet within
      · have brought := messageArrival_of_present absent
        rw [brought]
        exact processTransaction_standing quiet absent fun _ => (unreset brought).le

theorem fetched_standing (quiet : stream.stack = [])
    (within : stream.reconnectAttempts ≤ streak) (request : Request) (reply : Reply) :
    Standing (tally streak (reply.arrival request.mode))
      (stream.fetched config request reply) := by
  by_cases stopped : stream.stopped = true
  · rw [TransactionStream.fetched_of_stopped stopped]
    exact .stopped stopped
  · cases reply with
    | rejected isAbort reason =>
        have going : ¬ (stream.forget request.number).stopped = true := stopped
        unfold TransactionStream.fetched Reply.arrival
        dsimp only
        rw [if_neg going]
        split
        · exact .waiting quiet within
        · refine fail_standing ?_ ?_ reason
          · exact quiet
          · exact within
    | response status =>
        unfold TransactionStream.fetched Reply.arrival
        dsimp only
        rw [if_neg stopped]
        split
        · refine waiting_of_connects (runLoop_connects _ false) ?_ ?_
          · exact quiet
          · exact within
        · split
          · refine fail_standing ?_ ?_ _
            · exact quiet
            · exact within
          · exact .waiting quiet within

theorem bodyRead_standing (quiet : stream.stack = [])
    (within : stream.reconnectAttempts ≤ streak) (request : Request)
    (body : Except String Json) :
    Standing (tally streak (bodyArrival request.mode body))
      (stream.bodyRead config request body) := by
  cases body with
  | error reason =>
      refine fail_standing ?_ ?_ _
      · exact quiet
      · exact within
  | ok body =>
      unfold TransactionStream.bodyRead bodyArrival
      dsimp only
      cases transactionIn request.mode body with
      | none => exact .waiting quiet within
      | some found =>
          rw [Option.bind_some]
          dsimp only
          cases brought : found.filter Json.truthy with
          | none =>
              refine pollAgain_standing ?_ request.mode
              exact quiet
          | some tx =>
              have truthy := (Option.filter_eq_some_iff.mp brought).2
              refine processTransaction_standing ?_ ?_ (fun polls => nomatch polls)
              · exact quiet
              · rintro rfl
                cases truthy

theorem occur_standing (quiet : stream.stack = [])
    (within : stream.reconnectAttempts ≤ streak) (occurrence : Occurrence)
    (resets : keepsAttempts (stream, .occurs occurrence) = false) :
    Standing (tally streak (stream.arrivalOf occurrence))
      (stream.occur config occurrence) := by
  have missed : Standing streak stream := .waiting quiet within
  cases occur_course config stream occurrence with
  | unheard closed same =>
      rw [same, TransactionStream.arrivalOf, if_neg closed]
      exact missed
  | @heard source lastEventId data parsed isOpen handled =>
      rw [handled, TransactionStream.arrivalOf, if_pos isOpen]
      refine onRawData_standing ?_ ?_ data parsed ?_
      · exact quiet
      · exact within
      · intro brought
        have arrives : arrival (stream, .occurs (.message source lastEventId data parsed)) =
            some (.transaction none) := by
          rw [arrival, quiet]
          exact (if_pos isOpen).trans brought
        rw [keepsAttempts, arrives, beq_self_eq_true, Bool.true_and, bne_eq_false_iff_eq] at resets
        exact resets
  | unnoticed closed same =>
      rw [same, TransactionStream.arrivalOf, if_neg closed]
      exact missed
  | dropped isOpen handled =>
      rw [handled, TransactionStream.arrivalOf, if_pos isOpen]
      refine fail_standing ?_ ?_ _
      · exact quiet
      · exact within
  | unasked unknown same =>
      rw [same, TransactionStream.arrivalOf, unknown]
      exact missed
  | replied own found handled =>
      rw [handled, TransactionStream.arrivalOf, found]
      exact fetched_standing quiet within own _
  | unread unknown same =>
      rw [same, TransactionStream.arrivalOf, unknown]
      exact missed
  | read own found handled =>
      rw [handled, TransactionStream.arrivalOf, found]
      exact bodyRead_standing quiet within own _
  | unarmed same =>
      rw [same]
      exact missed
  | looped handled =>
      rw [handled]
      refine waiting_of_connects (runLoop_connects _ _) ?_ ?_
      · exact quiet
      · exact within
  | polled handled =>
      rw [handled]
      refine waiting_of_connects (pollOnce_connects _) ?_ ?_
      · exact quiet
      · exact within

theorem returned_standing (standing : Standing streak stream) :
    Standing streak (stream.returned config) := by
  cases standing with
  | stopped stopped => exact .stopped (TransactionStream.step_stopped stopped .handlerReturns)
  | waiting quiet within =>
      rw [TransactionStream.returned, quiet]
      exact .waiting quiet within
  | telling frame stack allowed =>
      by_cases more : frame.handler + 1 < config.handlers frame.notice
      · rw [returned_more stack more]
        exact .telling { frame with handler := frame.handler + 1 } rfl allowed
      · rw [returned_last stack more]
        refine proceed_standing rfl ?_
        exact allowed

theorem start_standing (standing : Standing streak stream) (available : Bool) :
    Standing streak (stream.start available) := by
  unfold TransactionStream.start
  split
  · exact standing
  · have connects := runLoop_connects
      { stream with running := true, reconnectAttempts := 0 } available
    cases standing with
    | stopped stopped =>
        rename_i unstarted
        simp [stopped] at unstarted
    | waiting quiet within =>
        exact waiting_of_connects connects quiet (Nat.zero_le streak)
    | telling frame stack allowed =>
        refine .telling frame (connects.stack.trans stack) ?_
        rw [connects.reconnectAttempts]
        exact Continuation.allows_zero allowed

theorem Standing.step (standing : Standing streak stream) (event : Event)
    (resets : keepsAttempts (stream, event) = false) :
    Standing (tally streak (arrival (stream, event))) (stream.step config event) := by
  cases event with
  | start available => exact start_standing standing available
  | stop => exact .stopped (stop_stopped config stream)
  | handlerReturns => exact returned_standing standing
  | occurs occurrence =>
      cases standing with
      | stopped stopped => exact .stopped (TransactionStream.step_stopped stopped _)
      | waiting quiet within =>
          rw [TransactionStream.step, arrival, quiet]
          exact occur_standing quiet within occurrence resets
      | telling frame stack allowed =>
          rw [TransactionStream.step, arrival, stack]
          exact .telling frame stack allowed

end Counter

/-! ## Who gives up -/

/-- The first close handler is told that the attempts are used up. -/
def GivesUp (log : List Invocation) (after : TransactionStream) : Prop :=
  ∃ event : CloseEvent, event.reason = .maxReconnectAttempts ∧
    after.log = log ++ [⟨.close event, 0⟩]

structure Exhausted (config : Config) (stream : TransactionStream) : Prop where
  running : stream.stopped = false
  spent : config.maxReconnectAttempts.atMost stream.reconnectAttempts = true

section GivingUp

variable {config : Config} {stream : TransactionStream} {log : List Invocation}

theorem not_givesUp_of_log {after : TransactionStream} (same : after.log = log) :
    ¬ GivesUp log after := by
  rintro ⟨event, _, logged⟩
  rw [same] at logged
  exact absurd logged (by simp)

theorem call_givesUp {frame : Frame} (givesUp : GivesUp log (stream.call frame))
    (same : stream.log = log) :
    frame.handler = 0 ∧
      ∃ event : CloseEvent, event.reason = .maxReconnectAttempts ∧ frame.notice = .close event := by
  obtain ⟨event, reason, logged⟩ := givesUp
  have told : [(⟨frame.notice, frame.handler⟩ : Invocation)] = [⟨.close event, 0⟩] := by
    rw [← same] at logged
    exact List.append_cancel_left logged
  injection told with first
  injection first with notice handler
  exact ⟨handler, event, reason, notice⟩

theorem emitClose_givesUp {event : CloseEvent}
    (givesUp : GivesUp log (stream.emitClose config event)) (same : stream.log = log) :
    event.reason = .maxReconnectAttempts := by
  unfold TransactionStream.emitClose at givesUp
  split at givesUp
  · exact absurd givesUp (not_givesUp_of_log same)
  · obtain ⟨_, told, reason, notice⟩ := call_givesUp givesUp same
    injection notice with event
    rw [event, reason]

theorem scheduleReconnect_givesUp (givesUp : GivesUp log (stream.scheduleReconnect config))
    (same : stream.log = log) : Exhausted config stream := by
  unfold TransactionStream.scheduleReconnect at givesUp
  split at givesUp
  · exact absurd givesUp (not_givesUp_of_log same)
  · rename_i running
    split at givesUp
    · rename_i spent
      exact ⟨Bool.eq_false_iff.mpr running, spent⟩
    · exact absurd givesUp (not_givesUp_of_log same)

theorem pollAgain_log (mode : PollMode) : (stream.pollAgain config mode).log = stream.log := by
  cases mode with
  | longPoll =>
      unfold TransactionStream.pollAgain
      dsimp only
      split
      · rfl
      · exact (runLongPoll_connects _).log
  | polling =>
      unfold TransactionStream.pollAgain
      dsimp only
      split
      · rfl
      · rfl

theorem proceed_givesUp {after : Continuation}
    (givesUp : GivesUp log (stream.proceed config after)) (same : stream.log = log) :
    after = .reconnect ∧ Exhausted config stream := by
  cases after with
  | done => exact absurd givesUp (not_givesUp_of_log same)
  | reconnect => exact ⟨rfl, scheduleReconnect_givesUp givesUp same⟩
  | processed tx terminal origin =>
      unfold TransactionStream.proceed at givesUp
      dsimp only at givesUp
      split at givesUp
      · have reason := emitClose_givesUp givesUp same
        cases reason
      · cases origin with
        | none => exact absurd givesUp (not_givesUp_of_log same)
        | some mode =>
            exact absurd givesUp (not_givesUp_of_log ((pollAgain_log mode).trans same))

theorem emit_givesUp {notice : Notice} {after : Continuation}
    (givesUp : GivesUp log (stream.emit config notice after)) (same : stream.log = log)
    (notClose : notice.isClose = false) :
    after = .reconnect ∧ Exhausted config stream := by
  unfold TransactionStream.emit at givesUp
  split at givesUp
  · exact proceed_givesUp givesUp same
  · obtain ⟨_, event, _, told⟩ := call_givesUp givesUp same
    have closes : notice = .close event := told
    rw [closes] at notClose
    cases notClose

theorem processTransaction_not_givesUp (tx : Json) (origin : Option PollMode)
    (same : stream.log = log) :
    ¬ GivesUp log (stream.processTransaction config tx origin) := by
  intro givesUp
  unfold TransactionStream.processTransaction at givesUp
  dsimp only at givesUp
  split at givesUp
  · exact not_givesUp_of_log same givesUp
  · have reconnects := (emit_givesUp givesUp same rfl).1
    cases reconnects

theorem onRawData_not_givesUp (data : String) (parsed : Option Json) (same : stream.log = log) :
    ¬ GivesUp log (stream.onRawData config data parsed) := by
  cases parsed with
  | none =>
      intro givesUp
      have reconnects := (emit_givesUp givesUp same rfl).1
      cases reconnects
  | some json => exact processTransaction_not_givesUp _ none same

theorem fail_givesUp {message : String}
    (givesUp : GivesUp log (stream.emit config (.error message) .reconnect))
    (same : stream.log = log) : Exhausted config stream :=
  (emit_givesUp givesUp same rfl).2

theorem fetched_givesUp {request : Request} {reply : Reply}
    (givesUp : GivesUp stream.log (stream.fetched config request reply)) :
    reply.arrival request.mode = some .failure ∧ Exhausted config stream := by
  cases reply with
  | rejected isAbort reason =>
      unfold TransactionStream.fetched at givesUp
      dsimp only at givesUp
      split at givesUp
      · exact absurd givesUp (not_givesUp_of_log rfl)
      · split at givesUp
        · exact absurd givesUp (not_givesUp_of_log rfl)
        · rename_i failed
          obtain ⟨running, spent⟩ := fail_givesUp givesUp rfl
          exact ⟨if_neg failed, running, spent⟩
  | response status =>
      unfold TransactionStream.fetched at givesUp
      dsimp only at givesUp
      split at givesUp
      · exact absurd givesUp (not_givesUp_of_log rfl)
      · split at givesUp
        · exact absurd givesUp (not_givesUp_of_log (runLoop_connects _ false).log)
        · rename_i offered
          split at givesUp
          · rename_i refused
            obtain ⟨running, spent⟩ := fail_givesUp givesUp rfl
            exact ⟨(if_neg offered).trans (if_pos refused), running, spent⟩
          · exact absurd givesUp (not_givesUp_of_log rfl)

theorem bodyRead_givesUp {request : Request} {body : Except String Json}
    (givesUp : GivesUp stream.log (stream.bodyRead config request body)) :
    bodyArrival request.mode body = some .failure ∧ Exhausted config stream := by
  cases body with
  | error reason =>
      obtain ⟨running, spent⟩ := fail_givesUp givesUp rfl
      exact ⟨rfl, running, spent⟩
  | ok body =>
      unfold TransactionStream.bodyRead at givesUp
      dsimp only at givesUp
      split at givesUp
      · exact absurd givesUp (not_givesUp_of_log rfl)
      · split at givesUp
        · exact absurd givesUp (processTransaction_not_givesUp _ _ rfl)
        · exact absurd givesUp (not_givesUp_of_log (pollAgain_log _))

theorem occur_givesUp {occurrence : Occurrence}
    (givesUp : GivesUp stream.log (stream.occur config occurrence)) :
    stream.arrivalOf occurrence = some .failure ∧ Exhausted config stream := by
  cases occur_course config stream occurrence with
  | unheard closed same => exact absurd givesUp (not_givesUp_of_log (congrArg _ same))
  | heard isOpen handled =>
      rw [handled] at givesUp
      exact absurd givesUp (onRawData_not_givesUp _ _ rfl)
  | unnoticed closed same => exact absurd givesUp (not_givesUp_of_log (congrArg _ same))
  | dropped isOpen handled =>
      rw [handled] at givesUp
      obtain ⟨running, spent⟩ := fail_givesUp givesUp rfl
      exact ⟨if_pos isOpen, running, spent⟩
  | unasked unknown same => exact absurd givesUp (not_givesUp_of_log (congrArg _ same))
  | replied own found handled =>
      rw [handled] at givesUp
      rw [TransactionStream.arrivalOf, found]
      exact fetched_givesUp givesUp
  | unread unknown same => exact absurd givesUp (not_givesUp_of_log (congrArg _ same))
  | read own found handled =>
      rw [handled] at givesUp
      rw [TransactionStream.arrivalOf, found]
      exact bodyRead_givesUp givesUp
  | unarmed same => exact absurd givesUp (not_givesUp_of_log (congrArg _ same))
  | looped handled =>
      rw [handled] at givesUp
      exact absurd givesUp (not_givesUp_of_log (runLoop_connects _ _).log)
  | polled handled =>
      rw [handled] at givesUp
      exact absurd givesUp (not_givesUp_of_log (pollOnce_connects _).log)

/-- A close event goes to the first handler where it is emitted, never where another
handler has returned. -/
theorem returned_givesUp (givesUp : GivesUp stream.log (stream.returned config)) :
    ∃ frame rest, stream.stack = frame :: rest ∧ frame.after = .reconnect ∧
      Exhausted config stream := by
  cases stack : stream.stack with
  | nil =>
      rw [TransactionStream.returned, stack] at givesUp
      exact absurd givesUp (not_givesUp_of_log rfl)
  | cons frame rest =>
      by_cases more : frame.handler + 1 < config.handlers frame.notice
      · rw [returned_more stack more] at givesUp
        have first := (call_givesUp givesUp rfl).1
        exact absurd first (Nat.succ_ne_zero frame.handler)
      · rw [returned_last stack more] at givesUp
        obtain ⟨reconnects, running, spent⟩ := proceed_givesUp givesUp rfl
        exact ⟨frame, rest, rfl, reconnects, running, spent⟩

theorem Standing.givesUp {streak : Nat} (standing : Standing streak stream) {event : Event}
    (givesUp : GivesUp stream.log (stream.step config event)) :
    config.maxReconnectAttempts.atMost stream.reconnectAttempts = true ∧
      stream.reconnectAttempts + 1 ≤ tally streak (arrival (stream, event)) := by
  cases event with
  | start available =>
      unfold TransactionStream.step TransactionStream.start at givesUp
      dsimp only at givesUp
      split at givesUp
      · exact absurd givesUp (not_givesUp_of_log rfl)
      · exact absurd givesUp (not_givesUp_of_log (runLoop_connects _ available).log)
  | stop =>
      unfold TransactionStream.step TransactionStream.stop at givesUp
      dsimp only at givesUp
      split at givesUp
      · exact absurd givesUp (not_givesUp_of_log rfl)
      · have reason := emitClose_givesUp givesUp rfl
        cases reason
  | handlerReturns =>
      obtain ⟨frame, rest, stack, reconnects, running, spent⟩ := returned_givesUp givesUp
      refine ⟨spent, ?_⟩
      cases standing with
      | stopped stopped => exact absurd (running.symm.trans stopped) Bool.false_ne_true
      | waiting quiet within => exact absurd (quiet.symm.trans stack) (by simp)
      | telling told alone allowed =>
          obtain ⟨same, _⟩ := List.cons.inj (alone.symm.trans stack)
          rw [same, reconnects] at allowed
          exact allowed
  | occurs occurrence =>
      cases stack : stream.stack with
      | nil =>
          rw [TransactionStream.step, stack] at givesUp
          obtain ⟨fails, running, spent⟩ := occur_givesUp givesUp
          refine ⟨spent, ?_⟩
          rw [arrival, stack]
          cases standing with
          | stopped stopped => exact absurd (running.symm.trans stopped) Bool.false_ne_true
          | waiting quiet within =>
              exact (congrArg (tally streak) fails).symm ▸ Nat.succ_le_succ within
          | telling told alone allowed => exact absurd (alone.symm.trans stack) (by simp)
      | cons frame rest =>
          rw [TransactionStream.step, stack] at givesUp
          exact absurd givesUp (not_givesUp_of_log rfl)

end GivingUp

/-- A stream gives up only after more failures in a row than it may attempt to reconnect,
if no transaction comes over SSE while attempts are counted. -/
theorem gives_up_on_consecutive_failures (config : Config) (events : List Event) (event : Event)
    (resets : ∀ visit ∈ visits config (events ++ [event]), keepsAttempts visit = false)
    (givesUp : GivesUp (TransactionStream.reached config events).log
      (TransactionStream.reached config (events ++ [event]))) :
    config.maxReconnectAttempts.atMost (streak (visits config (events ++ [event])) - 1) =
      true := by
  rw [visits_concat] at resets ⊢
  rw [reached_concat] at givesUp
  have standing : Standing (streak (visits config events))
      (TransactionStream.reached config events) := by
    refine Machine.history_invariant (TransactionStream.step config)
      (fun past stream => Standing (streak past) stream) events _ ?_ (.waiting rfl le_rfl)
    intro past visit member before
    rw [streak_concat]
    exact before.step visit.2 (resets visit (List.mem_append_left _ member))
  obtain ⟨spent, counted⟩ := standing.givesUp givesUp
  rw [streak_concat]
  refine Number.atMost_mono ?_ spent
  rw [le_sub_iff_add_le]
  exact_mod_cast counted

def onceConfig : Config := { sseConfig with maxReconnectAttempts := .finite 1 }

def twoDropsRun : List Event :=
  [.start true, pendingMessage 0 "", .handlerReturns, .occurs (.sourceFails 0), .handlerReturns,
    .occurs (.timerFires 1 true), .occurs (.sourceFails 2)]

theorem twoDropsRun_in_a_row :
    onceConfig.maxReconnectAttempts.atMost
      (streak (visits onceConfig (twoDropsRun ++ [.handlerReturns])) - 1) = true :=
  gives_up_on_consecutive_failures onceConfig twoDropsRun .handlerReturns
    (by decide +kernel) ⟨_, rfl, rfl⟩

/-- Between the two drops a transaction comes. -/
def recoveredRun : List Event :=
  [.start true, .occurs (.sourceFails 0), .handlerReturns, .occurs (.timerFires 1 true),
    pendingMessage 2 "", .handlerReturns, .occurs (.sourceFails 2)]

theorem recoveredRun_gives_up :
    GivesUp (TransactionStream.reached onceConfig recoveredRun).log
        (TransactionStream.reached onceConfig (recoveredRun ++ [.handlerReturns])) ∧
      streak (visits onceConfig (recoveredRun ++ [.handlerReturns])) = 1 ∧
      onceConfig.maxReconnectAttempts.atMost
        (streak (visits onceConfig (recoveredRun ++ [.handlerReturns])) - 1) = false :=
  ⟨⟨_, rfl, rfl⟩, by decide +kernel, by decide +kernel⟩

end AnchorKit.Sdk.Stream
