import AnchorKit.Sdk.StreamLiveness

/-!
# The stream closes once and then stays silent

`emitClose` is called where the stream stops, and from then on nothing is open, armed or
read that could call a handler; two gaps remain.  The loops of `emitUpdate` and
`emitError` do not look at `stopped` between two handlers, nor does
`processTransaction` after them, and a body that is read to its end after `stop` is
processed as if nothing had happened.
-/

set_option autoImplicit false

namespace AnchorKit.Sdk.Stream

open AnchorKit.Base

/-! ## The two gaps -/

def Continuation.closes : Continuation → Bool
  | .processed _ terminal _ => terminal
  | _ => false

/-- `stop` is called by a handler, and other handlers or a close event are to follow. -/
def interrupts (config : Config) (visit : TransactionStream × Event) : Bool :=
  match visit.2 with
  | .stop =>
      !visit.1.stopped && visit.1.stack.any fun frame =>
        decide (frame.handler + 1 < config.handlers frame.notice) || frame.after.closes
  | _ => false

/-- The body of a reply has something to say: an error or a transaction. -/
def speaks (mode : PollMode) : Except String Json → Bool
  | .error _ => true
  | .ok body => (transactionIn mode body).any fun found => (found.filter Json.truthy).isSome

/-- Such a body is read to its end after the stream has stopped. -/
def readsLate (visit : TransactionStream × Event) : Bool :=
  match visit.2 with
  | .occurs (.bodySettles request body) =>
      visit.1.stopped && visit.1.stack.isEmpty && visit.1.requests.any fun own =>
        own.number == request && own.reading && speaks own.mode body
  | _ => false

/-! ## The shape of the log -/

def closeCalls (event : CloseEvent) (count : Nat) : List Invocation :=
  (List.range count).map fun handler => ⟨.close event, handler⟩

/-- No close handler is invoked, or the last invocations are those of the close
handlers, each at most once and all with the same event. -/
def ClosesOnce (config : Config) (log : List Invocation) : Prop :=
  ∃ earlier event count, count ≤ config.closeHandlers ∧
    (∀ invocation ∈ earlier, invocation.notice.isClose = false) ∧
    log = earlier ++ closeCalls event count

theorem closeCalls_succ (event : CloseEvent) (count : Nat) :
    closeCalls event (count + 1) = closeCalls event count ++ [⟨.close event, count⟩] := by
  simp [closeCalls, List.range_succ]

theorem closesOnce_of_open {config : Config} {log : List Invocation}
    (unclosed : ∀ invocation ∈ log, invocation.notice.isClose = false) :
    ClosesOnce config log :=
  ⟨log, ⟨.closedByCaller, none, none⟩, 0, Nat.zero_le _, unclosed, (List.append_nil _).symm⟩

theorem ClosesOnce.ends_with_closes {config : Config} {log : List Invocation}
    (once : ClosesOnce config log) :
    (log.dropWhile fun invocation => !invocation.notice.isClose).all
        (fun invocation => invocation.notice.isClose) = true ∧
      log.countP (fun invocation => invocation.notice.isClose) ≤ config.closeHandlers := by
  obtain ⟨earlier, event, count, bounded, unclosed, rfl⟩ := once
  have closes : ∀ invocation ∈ closeCalls event count, invocation.notice.isClose = true := by
    intro invocation member
    obtain ⟨handler, _, same⟩ := List.mem_map.mp member
    rw [← same]
    rfl
  constructor
  · rw [List.dropWhile_append_of_pos (by simpa using unclosed), List.all_eq_true]
    intro invocation member
    exact closes invocation (List.dropWhile_sublist _ |>.subset member)
  · have none : earlier.countP (fun invocation => invocation.notice.isClose) = 0 := by
      rw [List.countP_eq_zero]
      intro invocation member
      simp [unclosed invocation member]
    rw [List.countP_append, none, Nat.zero_add]
    refine Nat.le_trans List.countP_le_length ?_
    simpa [closeCalls] using bounded

/-! ## A stream that has closed -/

/-- The frames that were left behind by `stop` have nothing more to call. -/
def Harmless (config : Config) (stack : List Frame) : Prop :=
  ∀ frame ∈ stack, ¬ frame.handler + 1 < config.handlers frame.notice ∧
    frame.after.closes = false

inductive Closed (config : Config) (stream : TransactionStream) : Prop
  | closing (earlier : List Invocation) (event : CloseEvent) (handler : Nat)
      (rest : List Frame) (stack : stream.stack = ⟨.close event, handler, .done⟩ :: rest)
      (harmless : Harmless config rest) (below : handler < config.closeHandlers)
      (unclosed : ∀ invocation ∈ earlier, invocation.notice.isClose = false)
      (log : stream.log = earlier ++ closeCalls event (handler + 1))
  | closed (earlier : List Invocation) (event : CloseEvent)
      (harmless : Harmless config stream.stack)
      (unclosed : ∀ invocation ∈ earlier, invocation.notice.isClose = false)
      (log : stream.log = earlier ++ closeCalls event config.closeHandlers)

structure Silent (config : Config) (stream : TransactionStream) : Prop where
  stopped : stream.stopped = true
  sources : stream.sources = []
  timers : stream.timers = []
  closed : Closed config stream

section Close

variable {config : Config} {stream : TransactionStream}

theorem Silent.closesOnce (silent : Silent config stream) : ClosesOnce config stream.log := by
  cases silent.closed with
  | closing earlier event handler rest stack harmless below unclosed log =>
      exact ⟨earlier, event, handler + 1, below, unclosed, log⟩
  | closed earlier event harmless unclosed log =>
      exact ⟨earlier, event, config.closeHandlers, Nat.le_refl _, unclosed, log⟩

theorem emitClose_silent (shut : Shut stream) (harmless : Harmless config stream.stack)
    (event : CloseEvent) : Silent config (stream.emitClose config event) := by
  unfold TransactionStream.emitClose
  split
  · rename_i nobody
    refine ⟨shut.stopped, shut.sources, shut.timers,
      .closed stream.log event harmless shut.log ?_⟩
    rw [nobody]
    exact (List.append_nil _).symm
  · rename_i somebody
    exact ⟨shut.stopped, shut.sources, shut.timers,
      .closing stream.log event 0 stream.stack rfl harmless (Nat.pos_of_ne_zero somebody)
        shut.log rfl⟩

theorem proceed_of_stopped (stopped : stream.stopped = true) {after : Continuation}
    (goesOn : after.closes = false) : stream.proceed config after = stream := by
  cases after with
  | done => rfl
  | reconnect =>
      rw [TransactionStream.proceed, TransactionStream.scheduleReconnect, if_pos stopped]
  | processed tx terminal origin =>
      have pending : terminal = false := goesOn
      unfold TransactionStream.proceed
      dsimp only
      rw [pending, if_neg Bool.false_ne_true]
      cases origin with
      | none => rfl
      | some mode => exact TransactionStream.pollAgain_of_stopped stopped mode

theorem returned_more {frame : Frame} {rest : List Frame} (stack : stream.stack = frame :: rest)
    (more : frame.handler + 1 < config.handlers frame.notice) :
    stream.returned config =
      { stream with stack := rest }.call { frame with handler := frame.handler + 1 } := by
  rw [TransactionStream.returned, stack]
  exact if_pos more

theorem returned_last {frame : Frame} {rest : List Frame} (stack : stream.stack = frame :: rest)
    (last : ¬ frame.handler + 1 < config.handlers frame.notice) :
    stream.returned config = { stream with stack := rest }.proceed config frame.after := by
  rw [TransactionStream.returned, stack]
  exact if_neg last

theorem returned_silent (silent : Silent config stream) :
    Silent config (stream.returned config) := by
  obtain ⟨stopped, sources, timers, closed⟩ := silent
  cases closed with
  | closing earlier event handler rest stack harmless below unclosed log =>
      by_cases more : handler + 1 < config.closeHandlers
      · rw [returned_more stack more]
        refine ⟨stopped, sources, timers,
          .closing earlier event (handler + 1) rest rfl harmless more unclosed ?_⟩
        rw [closeCalls_succ, ← List.append_assoc, ← log]
        rfl
      · rw [returned_last stack more]
        refine ⟨stopped, sources, timers, .closed earlier event harmless unclosed ?_⟩
        have all : handler + 1 = config.closeHandlers := by omega
        rw [← all]
        exact log
  | closed earlier event harmless unclosed log =>
      cases stack : stream.stack with
      | nil =>
          rw [TransactionStream.returned, stack]
          exact ⟨stopped, sources, timers, .closed earlier event harmless unclosed log⟩
      | cons frame rest =>
          rw [stack] at harmless
          obtain ⟨last, goesOn⟩ := harmless frame List.mem_cons_self
          rw [returned_last stack last, proceed_of_stopped _ goesOn]
          · refine ⟨stopped, sources, timers, .closed earlier event ?_ unclosed log⟩
            exact fun other member => harmless other (List.mem_cons_of_mem _ member)
          · exact stopped

theorem Silent.forget (silent : Silent config stream) (request : Nat) :
    Silent config (stream.forget request) := by
  obtain ⟨stopped, sources, timers, closed⟩ := silent
  refine ⟨stopped, sources, timers, ?_⟩
  cases closed with
  | closing earlier event handler rest stack harmless below unclosed log =>
      exact .closing earlier event handler rest stack harmless below unclosed log
  | closed earlier event harmless unclosed log =>
      exact .closed earlier event harmless unclosed log

theorem bodyRead_of_stopped (stopped : stream.stopped = true) {request : Request}
    {body : Except String Json} (quiet : speaks request.mode body = false) :
    stream.bodyRead config request body = stream.forget request.number := by
  cases body with
  | error reason => cases quiet
  | ok body =>
      unfold speaks at quiet
      unfold TransactionStream.bodyRead
      dsimp only at quiet ⊢
      split
      · rfl
      · rename_i found throws
        rw [throws, Option.any_some] at quiet
        split
        · rename_i tx truthy
          rw [truthy] at quiet
          cases quiet
        · refine TransactionStream.pollAgain_of_stopped ?_ _
          exact stopped

theorem occur_silent (silent : Silent config stream) (stack : stream.stack = [])
    (occurrence : Occurrence) (prompt : readsLate (stream, .occurs occurrence) = false) :
    Silent config (stream.occur config occurrence) := by
  cases occurrence with
  | message source lastEventId data parsed =>
      simpa [TransactionStream.occur, silent.sources] using silent
  | sourceFails source => simpa [TransactionStream.occur, silent.sources] using silent
  | fetchSettles request reply =>
      unfold TransactionStream.occur
      dsimp only
      split
      · exact silent
      · rw [TransactionStream.fetched_of_stopped silent.stopped]
        exact silent.forget _
  | bodySettles request body =>
      unfold TransactionStream.occur
      dsimp only
      split
      · exact silent
      · rename_i own found
        have member := List.mem_of_find?_eq_some found
        have current := List.find?_some found
        have quiet : speaks own.mode body = false := by
          by_contra loud
          rw [Bool.not_eq_false] at loud
          have late : readsLate (stream, .occurs (.bodySettles request body)) = true := by
            simp only [readsLate, silent.stopped, stack, List.isEmpty_nil, Bool.true_and,
              List.any_eq_true]
            exact ⟨own, member, by rw [current, loud]; rfl⟩
          rw [late] at prompt
          cases prompt
        rw [bodyRead_of_stopped silent.stopped quiet]
        exact silent.forget _
  | timerFires timer available => simpa [TransactionStream.occur, silent.timers] using silent

theorem Silent.step (silent : Silent config stream) (event : Event)
    (prompt : readsLate (stream, event) = false) : Silent config (stream.step config event) := by
  cases event with
  | start available =>
      rw [TransactionStream.step, TransactionStream.start,
        if_pos (by simp [silent.stopped])]
      exact silent
  | stop =>
      rw [TransactionStream.step, TransactionStream.stop, if_pos silent.stopped]
      exact silent
  | handlerReturns => exact returned_silent silent
  | occurs occurrence =>
      rw [TransactionStream.step]
      split
      · rename_i empty
        exact occur_silent silent (List.isEmpty_iff.mp empty) occurrence prompt
      · exact silent

/-! ## How a stream closes -/

theorem Phase.current {lost : Prop} (phase : Phase lost stream) : Current stream := by
  cases phase with
  | dead isLost empty stack => exact empty.current
  | armed armed stack =>
      cases armed with
      | source listening => exact listening.current
      | request request sources requests unasked timers =>
          constructor
          · simp [sources]
          · simp [timers]
      | timer timer sources requests timers current =>
          constructor
          · simp [sources]
          · simp [timers, current]
  | notifying frame stack notClose ready => exact ready.current

theorem stop_silent (current : Current stream) (notStopped : stream.stopped = false)
    (log : ∀ invocation ∈ stream.log, invocation.notice.isClose = false)
    (orderly : interrupts config (stream, .stop) = false) :
    Silent config (stream.stop config) := by
  rw [TransactionStream.stop, if_neg (by simp [notStopped])]
  refine emitClose_silent (cancelActive_shut current log) ?_ _
  intro frame member
  have last := orderly
  simp only [interrupts, notStopped, Bool.not_false, Bool.true_and, List.any_eq_false,
    Bool.or_eq_true, decide_eq_true_eq, not_or, Bool.not_eq_true] at last
  exact last frame member

inductive Orderly (config : Config) (stream : TransactionStream) : Prop
  | idle (idle : Idle stream)
  | unclosed (isOpen : Open True stream)
  | silent (silent : Silent config stream)

theorem Orderly.step (orderly : Orderly config stream) (event : Event)
    (kept : interrupts config (stream, event) = false)
    (prompt : readsLate (stream, event) = false) :
    Orderly config (stream.step config event) := by
  cases orderly with
  | idle idle =>
      cases event with
      | start available => exact .unclosed (start_of_idle idle available)
      | stop =>
          refine .silent (stop_silent idle.empty.current idle.stopped ?_ kept)
          simp [idle.log]
      | handlerReturns =>
          rw [step_of_idle config idle (fun _ same => Event.noConfusion same)
            (fun same => Event.noConfusion same)]
          exact .idle idle
      | occurs occurrence =>
          rw [step_of_idle config idle (fun _ same => Event.noConfusion same)
            (fun same => Event.noConfusion same)]
          exact .idle idle
  | unclosed isOpen =>
      by_cases stops : event = .stop
      · subst stops
        exact .silent (stop_silent isOpen.phase.current isOpen.going.stopped isOpen.going.log
          kept)
      · cases step_outcome config isOpen event stops (fun _ => trivial) with
        | goesOn next => exact .unclosed next
        | closes base close shut stack emitted =>
            rw [emitted]
            refine .silent (emitClose_silent shut ?_ close)
            simp [Harmless, stack]
  | silent silent => exact .silent (silent.step event prompt)

theorem Orderly.closesOnce (orderly : Orderly config stream) :
    ClosesOnce config stream.log := by
  cases orderly with
  | idle idle => exact closesOnce_of_open (by simp [idle.log])
  | unclosed isOpen => exact closesOnce_of_open isOpen.going.log
  | silent silent => exact silent.closesOnce

end Close

/-- As long as no handler stops the stream before others are called, and no body is
read after it has stopped, there is one close event and nothing after it. -/
theorem closes_once_then_silent (config : Config) (events : List Event)
    (orderly : ∀ visit ∈ visits config events,
      interrupts config visit = false ∧ readsLate visit = false) :
    ClosesOnce config (TransactionStream.reached config events).log := by
  refine Orderly.closesOnce (Machine.run_invariant_of_visits (TransactionStream.step config)
    (Orderly config) events _ ?_ (.idle (idle_create config)))
  intro visit member before
  exact before.step visit.2 (orderly visit member).1 (orderly visit member).2

def statusBody (status : String) : Except String Json :=
  .ok (.object [("transactions", .array [.object [("status", .string status)]])])

def orderlyRun : List Event :=
  [.start true, .occurs (.fetchSettles 0 (.response 500)), .stop, .handlerReturns,
    .handlerReturns, .stop, .start true]

theorem orderlyRun_closesOnce :
    (TransactionStream.reached longPollConfig orderlyRun).stopped = true ∧
      ClosesOnce longPollConfig (TransactionStream.reached longPollConfig orderlyRun).log :=
  ⟨rfl, closes_once_then_silent longPollConfig orderlyRun (by decide +kernel)⟩

def lateBodyRun : List Event :=
  [.start true, .occurs (.fetchSettles 0 (.response 200)), .stop, .handlerReturns,
    .occurs (.bodySettles 0 (statusBody "pending_anchor"))]

def terminalStopRun : List Event :=
  [.start true, .occurs (.fetchSettles 0 (.response 200)),
    .occurs (.bodySettles 0 (statusBody "completed")), .stop, .handlerReturns, .handlerReturns]

def firstHandlerRun : List Event :=
  [.start true, .occurs (.fetchSettles 0 (.response 200)),
    .occurs (.bodySettles 0 (statusBody "pending_anchor")), .stop, .handlerReturns,
    .handlerReturns]

/-- An update comes after the close event, there are two close events, and the second
update handler is called after the close event. -/
theorem stopped_streams_speak :
    ¬ ClosesOnce longPollConfig (TransactionStream.reached longPollConfig lateBodyRun).log ∧
      ¬ ClosesOnce longPollConfig
        (TransactionStream.reached longPollConfig terminalStopRun).log ∧
      ¬ ClosesOnce { longPollConfig with updateHandlers := 2 }
        (TransactionStream.reached { longPollConfig with updateHandlers := 2 }
          firstHandlerRun).log :=
  ⟨fun once => absurd once.ends_with_closes.1 (by decide +kernel),
    fun once => absurd once.ends_with_closes.2 (by decide +kernel),
    fun once => absurd once.ends_with_closes.1 (by decide +kernel)⟩

end AnchorKit.Sdk.Stream
