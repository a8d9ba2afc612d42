import AnchorKit.Sdk.TransactionStream

/-!
# The stream never dies silently

While a stream runs, one thing keeps it going: an open source, a request in flight, an
armed timer, or the end of a call of handlers that has one of these to set up.  Every
step hands this on, or closes the stream; `Outcome` says so for each function of the
source.  The exceptions are a body that is `null`, and an abort nobody asked for.
-/

set_option autoImplicit false

namespace AnchorKit.Sdk.Stream

open AnchorKit.Base

/-! ## What keeps a stream going -/

structure Empty (stream : TransactionStream) : Prop where
  sources : stream.sources = []
  requests : stream.requests = []
  timers : stream.timers = []

structure Listening (stream : TransactionStream) : Prop where
  source : ∃ source, stream.sources = [source] ∧
    stream.activeEventSource = some source.number
  requests : stream.requests = []
  timers : stream.timers = []

inductive Armed (stream : TransactionStream) : Prop
  | source (listening : Listening stream)
  | request (request : Request) (sources : stream.sources = [])
      (requests : stream.requests = [request]) (unasked : request.aborted = false)
      (timers : stream.timers = [])
  | timer (timer : Timer) (sources : stream.sources = []) (requests : stream.requests = [])
      (timers : stream.timers = [timer]) (current : stream.reconnectTimer = some timer.number)

/-- Something is to be set up after the handlers have returned. -/
def Continuation.owes : Continuation → Bool
  | .done => false
  | .reconnect => true
  | .processed _ _ origin => origin.isSome

inductive Ready (stream : TransactionStream) (after : Continuation) : Prop
  | owing (owes : after.owes = true) (empty : Empty stream)
  | listening (settled : after.owes = false) (listening : Listening stream)

/-- How a stream that runs is kept going, unless it is `lost`. -/
inductive Phase (lost : Prop) (stream : TransactionStream) : Prop
  | dead (isLost : lost) (empty : Empty stream) (stack : stream.stack = [])
  | armed (armed : Armed stream) (stack : stream.stack = [])
  | notifying (frame : Frame) (stack : stream.stack = [frame])
      (notClose : frame.notice.isClose = false) (ready : Ready stream frame.after)

structure Going (stream : TransactionStream) : Prop where
  running : stream.running = true
  stopped : stream.stopped = false
  log : ∀ invocation ∈ stream.log, invocation.notice.isClose = false

structure Open (lost : Prop) (stream : TransactionStream) : Prop where
  going : Going stream
  phase : Phase lost stream

structure Shut (stream : TransactionStream) : Prop where
  stopped : stream.stopped = true
  sources : stream.sources = []
  timers : stream.timers = []
  log : ∀ invocation ∈ stream.log, invocation.notice.isClose = false

inductive Outcome (config : Config) (lost : Prop) (after : TransactionStream) : Prop
  | goesOn (isOpen : Open lost after)
  | closes (base : TransactionStream) (event : CloseEvent) (shut : Shut base)
      (stack : base.stack = []) (emitted : after = base.emitClose config event)

/-! ## Setting up the next continuation -/

section SetUp

variable {stream : TransactionStream}

theorem Going.of_same {after : TransactionStream} (going : Going stream)
    (running : after.running = stream.running) (stopped : after.stopped = stream.stopped)
    (log : after.log = stream.log) : Going after :=
  ⟨running.trans going.running, stopped.trans going.stopped, by rw [log]; exact going.log⟩

theorem sendRequest_armed (empty : Empty stream) (mode : PollMode) :
    Armed (stream.sendRequest mode) := by
  refine .request ⟨stream.next, mode, false, false⟩ empty.sources ?_ rfl empty.timers
  rw [TransactionStream.sendRequest, empty.requests, List.nil_append]

theorem setTimer_armed (empty : Empty stream) (task : Task) (delay : ℚ) :
    Armed (stream.setTimer task delay) := by
  refine .timer ⟨stream.next, task, delay⟩ empty.sources empty.requests ?_ rfl
  rw [TransactionStream.setTimer, empty.timers, List.nil_append]

structure SetsUp (stream after : TransactionStream) : Prop where
  armed : Armed after
  running : after.running = stream.running
  stopped : after.stopped = stream.stopped
  log : after.log = stream.log
  stack : after.stack = stream.stack

namespace SetsUp

theorem isOpen {after : TransactionStream} {lost : Prop} (setsUp : SetsUp stream after)
    (going : Going stream) (stack : stream.stack = []) : Open lost after :=
  ⟨going.of_same setsUp.running setsUp.stopped setsUp.log,
    .armed setsUp.armed (setsUp.stack.trans stack)⟩

theorem of_same {base after : TransactionStream} (setsUp : SetsUp base after)
    (running : base.running = stream.running) (stopped : base.stopped = stream.stopped)
    (log : base.log = stream.log) (stack : base.stack = stream.stack) : SetsUp stream after :=
  ⟨setsUp.armed, setsUp.running.trans running, setsUp.stopped.trans stopped,
    setsUp.log.trans log, setsUp.stack.trans stack⟩

theorem sendRequest (empty : Empty stream) (mode : PollMode) :
    SetsUp stream (stream.sendRequest mode) :=
  ⟨sendRequest_armed empty mode, rfl, rfl, rfl, rfl⟩

theorem setTimer (empty : Empty stream) (task : Task) (delay : ℚ) :
    SetsUp stream (stream.setTimer task delay) :=
  ⟨setTimer_armed empty task delay, rfl, rfl, rfl, rfl⟩

variable (empty : Empty stream) (notStopped : stream.stopped = false)

include empty notStopped

theorem runLongPoll : SetsUp stream stream.runLongPoll := by
  rw [TransactionStream.runLongPoll, if_neg (by simp [notStopped])]
  exact sendRequest empty .longPoll

theorem pollOnce : SetsUp stream stream.pollOnce := by
  rw [TransactionStream.pollOnce, if_neg (by simp [notStopped])]
  exact sendRequest empty .polling

theorem runPollLoop : SetsUp stream stream.runPollLoop := by
  have same : ∀ mode, Empty { stream with currentMode := mode } :=
    fun _ => ⟨empty.sources, empty.requests, empty.timers⟩
  rw [TransactionStream.runPollLoop]
  split
  · exact of_same (runLongPoll (same _) notStopped) rfl rfl rfl rfl
  · exact of_same (pollOnce (same _) notStopped) rfl rfl rfl rfl

theorem runLoop (available : Bool) : SetsUp stream (stream.runLoop available) := by
  rw [TransactionStream.runLoop, if_neg (by simp [notStopped])]
  split
  · unfold TransactionStream.runSse
    split
    · refine ⟨.source ⟨⟨⟨stream.next, stream.lastEventId.filter (· != "")⟩, ?_, rfl⟩,
        empty.requests, empty.timers⟩, rfl, rfl, rfl, rfl⟩
      dsimp only
      rw [empty.sources, List.nil_append]
    · refine of_same (runPollLoop ?_ ?_) rfl rfl rfl rfl
      · exact ⟨empty.sources, empty.requests, empty.timers⟩
      · exact notStopped
  · exact runPollLoop empty notStopped

theorem pollAgain (config : Config) (mode : PollMode) :
    SetsUp stream (stream.pollAgain config mode) := by
  cases mode with
  | longPoll =>
      rw [TransactionStream.pollAgain, if_neg (by simp [notStopped])]
      refine of_same (runLongPoll ?_ ?_) rfl rfl rfl rfl
      · exact ⟨empty.sources, empty.requests, empty.timers⟩
      · exact notStopped
  | polling =>
      rw [TransactionStream.pollAgain, if_neg (by simp [notStopped])]
      refine of_same (setTimer ?_ _ _) rfl rfl rfl rfl
      exact ⟨empty.sources, empty.requests, empty.timers⟩

end SetsUp

end SetUp

/-! ## Handing it on -/

section HandOn

variable {config : Config} {lost : Prop} {stream : TransactionStream}

/-- The handles name everything that can be cancelled. -/
structure Current (stream : TransactionStream) : Prop where
  sources : ∀ source ∈ stream.sources, stream.activeEventSource = some source.number
  timers : ∀ timer ∈ stream.timers, stream.reconnectTimer = some timer.number

theorem Empty.current (empty : Empty stream) : Current stream := by
  constructor
  · simp [empty.sources]
  · simp [empty.timers]

theorem Listening.current (listening : Listening stream) : Current stream := by
  obtain ⟨source, only, active⟩ := listening.source
  constructor
  · simp [only, active]
  · simp [listening.timers]

theorem Ready.current {after : Continuation} (ready : Ready stream after) : Current stream := by
  cases ready with
  | owing owes empty => exact empty.current
  | listening settled listening => exact listening.current

theorem cancelActive_shut (current : Current stream)
    (log : ∀ invocation ∈ stream.log, invocation.notice.isClose = false) :
    Shut { stream with stopped := true, running := false }.cancelActive := by
  refine ⟨rfl, ?_, ?_, log⟩
  · rw [TransactionStream.cancelActive, List.filter_eq_nil_iff]
    intro source member
    simp [current.sources source member]
  · rw [TransactionStream.cancelActive, List.filter_eq_nil_iff]
    intro timer member
    simp [current.timers timer member]

theorem scheduleReconnect_outcome (going : Going stream) (empty : Empty stream)
    (stack : stream.stack = []) : Outcome config lost (stream.scheduleReconnect config) := by
  rw [TransactionStream.scheduleReconnect, if_neg (by simp [going.stopped])]
  split
  · refine .closes _ _ ?_ ?_ rfl
    · exact ⟨rfl, empty.sources, empty.timers, going.log⟩
    · exact stack
  · refine .goesOn (SetsUp.isOpen (SetsUp.setTimer ?_ _ _) ?_ stack)
    · exact ⟨empty.sources, empty.requests, empty.timers⟩
    · exact ⟨going.running, going.stopped, going.log⟩

theorem Open.armed (going : Going stream) (armed : Armed stream) (stack : stream.stack = []) :
    Open lost stream :=
  ⟨going, .armed armed stack⟩

theorem proceed_outcome (going : Going stream) {after : Continuation}
    (ready : Ready stream after) (stack : stream.stack = []) :
    Outcome config lost (stream.proceed config after) := by
  cases after with
  | done =>
      cases ready with
      | owing owes empty => cases owes
      | listening settled listening => exact .goesOn (.armed going (.source listening) stack)
  | reconnect =>
      cases ready with
      | owing owes empty => exact scheduleReconnect_outcome going empty stack
      | listening settled listening => cases settled
  | processed tx terminal origin =>
      unfold TransactionStream.proceed
      dsimp only
      split
      · exact .closes _ _ (cancelActive_shut ready.current going.log) stack rfl
      · cases origin with
        | none =>
            cases ready with
            | owing owes empty => cases owes
            | listening settled listening =>
                exact .goesOn (.armed going (.source listening) stack)
        | some mode =>
            cases ready with
            | owing owes empty =>
                exact .goesOn ((SetsUp.pollAgain empty going.stopped config mode).isOpen
                  going stack)
            | listening settled listening => cases settled

theorem Going.call (going : Going stream) {frame : Frame}
    (notClose : frame.notice.isClose = false) : Going (stream.call frame) := by
  refine ⟨going.running, going.stopped, ?_⟩
  intro invocation member
  rcases List.mem_append.mp member with old | new
  · exact going.log invocation old
  · rw [List.mem_singleton.mp new]
    exact notClose

theorem Ready.of_same {after : Continuation} {base : TransactionStream}
    (ready : Ready base after) (sources : stream.sources = base.sources)
    (active : stream.activeEventSource = base.activeEventSource)
    (requests : stream.requests = base.requests) (timers : stream.timers = base.timers) :
    Ready stream after := by
  cases ready with
  | owing owes empty =>
      exact .owing owes ⟨sources.trans empty.sources, requests.trans empty.requests,
        timers.trans empty.timers⟩
  | listening settled listening =>
      refine .listening settled ⟨?_, requests.trans listening.requests,
        timers.trans listening.timers⟩
      rw [sources, active]
      exact listening.source

theorem call_open (going : Going stream) {frame : Frame}
    (notClose : frame.notice.isClose = false) (ready : Ready stream frame.after)
    (stack : stream.stack = []) : Open lost (stream.call frame) := by
  refine ⟨going.call notClose, .notifying frame ?_ notClose (ready.of_same rfl rfl rfl rfl)⟩
  rw [TransactionStream.call, stack]

theorem emit_outcome (going : Going stream) {notice : Notice} {after : Continuation}
    (notClose : notice.isClose = false) (ready : Ready stream after)
    (stack : stream.stack = []) : Outcome config lost (stream.emit config notice after) := by
  rw [TransactionStream.emit]
  split
  · exact proceed_outcome going ready stack
  · exact .goesOn (call_open going notClose ready stack)

theorem processTransaction_outcome (going : Going stream) {tx : Json}
    {origin : Option PollMode} (ready : ∀ terminal, Ready stream (.processed tx terminal origin))
    (readable : tx.truthy = true ∨ origin = none) (stack : stream.stack = []) :
    Outcome config lost (stream.processTransaction config tx origin) := by
  have noted : Going { stream with lastKnownTransaction := some tx } :=
    ⟨going.running, going.stopped, going.log⟩
  unfold TransactionStream.processTransaction
  dsimp only
  split
  · -- `null` can only come over SSE, and the source stays open
    rcases readable with truthy | overSse
    · cases truthy
    · subst overSse
      cases ready false with
      | owing owes empty => cases owes
      | listening settled listening =>
          refine .goesOn (.armed noted (.source ?_) stack)
          exact ⟨listening.source, listening.requests, listening.timers⟩
  · exact emit_outcome noted rfl ((ready _).of_same rfl rfl rfl rfl) stack

theorem onRawData_outcome (going : Going stream) (listening : Listening stream)
    (stack : stream.stack = []) (data : String) (parsed : Option Json) :
    Outcome config lost (stream.onRawData config data parsed) := by
  cases parsed with
  | none => exact emit_outcome going rfl (.listening rfl listening) stack
  | some json =>
      exact processTransaction_outcome going (fun _ => .listening rfl listening) (.inr rfl) stack

theorem forget_empty {request : Request} (sources : stream.sources = [])
    (requests : stream.requests = [request]) (timers : stream.timers = []) :
    Empty (stream.forget request.number) := by
  refine ⟨sources, ?_, timers⟩
  simp [TransactionStream.forget, requests]

theorem Going.forget (going : Going stream) (request : Nat) : Going (stream.forget request) :=
  ⟨going.running, going.stopped, going.log⟩

theorem fetched_outcome (going : Going stream) {request : Request}
    (sources : stream.sources = []) (requests : stream.requests = [request])
    (unasked : request.aborted = false) (timers : stream.timers = [])
    (stack : stream.stack = []) (reply : Reply)
    (drops : ∀ reason, reply = .rejected true reason → lost) :
    Outcome config lost (stream.fetched config request reply) := by
  have empty := forget_empty sources requests timers
  have forgotten := going.forget request.number
  cases reply with
  | rejected isAbort reason =>
      unfold TransactionStream.fetched
      dsimp only
      rw [if_neg (by simp [forgotten.stopped])]
      cases isAbort with
      | true => exact .goesOn ⟨forgotten, .dead (drops reason rfl) empty stack⟩
      | false => exact emit_outcome forgotten rfl (.owing rfl empty) stack
  | response status =>
      unfold TransactionStream.fetched
      dsimp only
      rw [if_neg (by simp [going.stopped])]
      split
      · refine .goesOn (SetsUp.isOpen (SetsUp.runLoop ?_ ?_ false) ?_ stack)
        · exact ⟨empty.sources, empty.requests, empty.timers⟩
        · exact going.stopped
        · exact ⟨going.running, going.stopped, going.log⟩
      · split
        · exact emit_outcome forgotten rfl (.owing rfl empty) stack
        · refine .goesOn (.armed ?_ (.request { request with reading := true } sources ?_
            unasked timers) stack)
          · exact ⟨going.running, going.stopped, going.log⟩
          · simp [requests]

theorem transactionIn_eq_none {mode : PollMode} {body : Json}
    (throws : transactionIn mode body = none) : body = .null := by
  cases body with
  | null => rfl
  | bool value => cases mode <;> cases throws
  | number value => cases mode <;> cases throws
  | string value => cases mode <;> cases throws
  | array items => cases mode <;> cases throws
  | object members => cases mode <;> cases throws

theorem bodyRead_outcome (going : Going stream) {request : Request}
    (sources : stream.sources = []) (requests : stream.requests = [request])
    (timers : stream.timers = []) (stack : stream.stack = []) (body : Except String Json)
    (drops : body = .ok .null → lost) :
    Outcome config lost (stream.bodyRead config request body) := by
  have empty := forget_empty sources requests timers
  have forgotten := going.forget request.number
  cases body with
  | error reason => exact emit_outcome forgotten rfl (.owing rfl empty) stack
  | ok body =>
      unfold TransactionStream.bodyRead
      dsimp only
      split
      · rename_i throws
        have isLost := drops (by rw [transactionIn_eq_none throws])
        exact .goesOn ⟨forgotten, .dead isLost empty stack⟩
      · split
        · rename_i tx found
          have truthy := (Option.filter_eq_some_iff.mp found).2
          exact processTransaction_outcome forgotten (fun _ => .owing rfl empty) (.inl truthy)
            stack
        · exact .goesOn ((SetsUp.pollAgain empty forgotten.stopped config _).isOpen forgotten
            stack)

end HandOn

/-! ## A step of a stream that runs -/

/-- The body of a reply is `null`. -/
def readsNull (visit : TransactionStream × Event) : Bool :=
  match visit.2 with
  | .occurs (.bodySettles _ (.ok .null)) => true
  | _ => false

/-- A request is rejected as aborted, and its controller was not. -/
def abortsUnasked (visit : TransactionStream × Event) : Bool :=
  match visit.2 with
  | .occurs (.fetchSettles request (.rejected true _)) =>
      visit.1.requests.any fun own => own.number == request && !own.aborted
  | _ => false

section Step

variable {config : Config} {lost : Prop} {stream : TransactionStream}

theorem occur_of_empty (empty : Empty stream) (occurrence : Occurrence) :
    stream.occur config occurrence = stream := by
  cases occurrence with
  | message source lastEventId data parsed => simp [TransactionStream.occur, empty.sources]
  | sourceFails source => simp [TransactionStream.occur, empty.sources]
  | fetchSettles request reply => simp [TransactionStream.occur, empty.requests]
  | bodySettles request body => simp [TransactionStream.occur, empty.requests]
  | timerFires timer available => simp [TransactionStream.occur, empty.timers]

theorem occur_source (going : Going stream) (listening : Listening stream)
    (stack : stream.stack = []) (occurrence : Occurrence) :
    Outcome config lost (stream.occur config occurrence) := by
  have unchanged : Outcome config lost stream :=
    .goesOn (.armed going (.source listening) stack)
  obtain ⟨source, only, current⟩ := listening.source
  cases occurrence with
  | message number lastEventId data parsed =>
      unfold TransactionStream.occur
      dsimp only
      split
      · refine onRawData_outcome ?_ ?_ ?_ data parsed
        · exact ⟨going.running, going.stopped, going.log⟩
        · exact ⟨listening.source, listening.requests, listening.timers⟩
        · exact stack
      · exact unchanged
  | sourceFails number =>
      unfold TransactionStream.occur
      dsimp only
      split
      · rename_i isOpen
        have same : source.number = number := by simpa [only] using isOpen
        refine emit_outcome ?_ rfl (.owing rfl ⟨?_, listening.requests, listening.timers⟩) stack
        · exact ⟨going.running, going.stopped, going.log⟩
        · simp [only, same]
      · exact unchanged
  | fetchSettles request reply =>
      simpa [TransactionStream.occur, listening.requests] using unchanged
  | bodySettles request body =>
      simpa [TransactionStream.occur, listening.requests] using unchanged
  | timerFires timer available =>
      simpa [TransactionStream.occur, listening.timers] using unchanged

theorem occur_request (going : Going stream) {request : Request}
    (sources : stream.sources = []) (requests : stream.requests = [request])
    (unasked : request.aborted = false) (timers : stream.timers = [])
    (stack : stream.stack = []) (occurrence : Occurrence)
    (drops : readsNull (stream, .occurs occurrence) = true ∨
      abortsUnasked (stream, .occurs occurrence) = true → lost) :
    Outcome config lost (stream.occur config occurrence) := by
  have unchanged : Outcome config lost stream :=
    .goesOn (.armed going (.request request sources requests unasked timers) stack)
  cases occurrence with
  | message number lastEventId data parsed =>
      simpa [TransactionStream.occur, sources] using unchanged
  | sourceFails number => simpa [TransactionStream.occur, sources] using unchanged
  | fetchSettles number reply =>
      unfold TransactionStream.occur
      dsimp only
      split
      · exact unchanged
      · rename_i own found
        have member := List.mem_of_find?_eq_some found
        rw [requests, List.mem_singleton] at member
        subst member
        refine fetched_outcome going sources requests unasked timers stack reply ?_
        intro reason isAbort
        refine drops (.inr ?_)
        have sameNumber := List.find?_some found
        simp only [Bool.and_eq_true] at sameNumber
        simp [abortsUnasked, isAbort, requests, unasked, sameNumber.1]
  | bodySettles number body =>
      unfold TransactionStream.occur
      dsimp only
      split
      · exact unchanged
      · rename_i own found
        have member := List.mem_of_find?_eq_some found
        rw [requests, List.mem_singleton] at member
        subst member
        refine bodyRead_outcome going sources requests timers stack body ?_
        intro isNull
        refine drops (.inl ?_)
        rw [isNull]
        rfl
  | timerFires timer available => simpa [TransactionStream.occur, timers] using unchanged

theorem occur_timer (going : Going stream) {timer : Timer}
    (sources : stream.sources = []) (requests : stream.requests = [])
    (timers : stream.timers = [timer]) (current : stream.reconnectTimer = some timer.number)
    (stack : stream.stack = []) (occurrence : Occurrence) :
    Outcome config lost (stream.occur config occurrence) := by
  have unchanged : Outcome config lost stream :=
    .goesOn (.armed going (.timer timer sources requests timers current) stack)
  cases occurrence with
  | message number lastEventId data parsed =>
      simpa [TransactionStream.occur, sources] using unchanged
  | sourceFails number => simpa [TransactionStream.occur, sources] using unchanged
  | fetchSettles number reply => simpa [TransactionStream.occur, requests] using unchanged
  | bodySettles number body => simpa [TransactionStream.occur, requests] using unchanged
  | timerFires number available =>
      unfold TransactionStream.occur
      dsimp only
      split
      · exact unchanged
      · rename_i own found
        have member := List.mem_of_find?_eq_some found
        rw [timers, List.mem_singleton] at member
        subst member
        have sameNumber : own.number = number := by simpa using List.find?_some found
        have empty : Empty { stream with
            timers := stream.timers.filter (·.number != number) } :=
          ⟨sources, requests, by simp [timers, sameNumber]⟩
        have fired : Going { stream with
            timers := stream.timers.filter (·.number != number) } :=
          ⟨going.running, going.stopped, going.log⟩
        cases own.task with
        | runLoop =>
            exact .goesOn ((SetsUp.runLoop empty fired.stopped available).isOpen fired stack)
        | pollOnce => exact .goesOn ((SetsUp.pollOnce empty fired.stopped).isOpen fired stack)

theorem returned_outcome (isOpen : Open lost stream) :
    Outcome config lost (stream.returned config) := by
  obtain ⟨going, phase⟩ := isOpen
  cases phase with
  | dead isLost empty stack =>
      rw [TransactionStream.returned, stack]
      exact .goesOn ⟨going, .dead isLost empty stack⟩
  | armed armed stack =>
      rw [TransactionStream.returned, stack]
      exact .goesOn ⟨going, .armed armed stack⟩
  | notifying frame stack notClose ready =>
      have popped : Going { stream with stack := [] } :=
        ⟨going.running, going.stopped, going.log⟩
      rw [TransactionStream.returned, stack]
      dsimp only
      split
      · refine .goesOn (call_open popped ?_ ?_ rfl)
        · exact notClose
        · exact ready.of_same rfl rfl rfl rfl
      · exact proceed_outcome popped (ready.of_same rfl rfl rfl rfl) rfl

/-- Every step but `stop` hands on what keeps the stream going, or closes it. -/
theorem step_outcome (config : Config) (isOpen : Open lost stream) (event : Event)
    (notStop : event ≠ .stop)
    (drops : readsNull (stream, event) = true ∨ abortsUnasked (stream, event) = true → lost) :
    Outcome config lost (stream.step config event) := by
  cases event with
  | start available =>
      have idempotent : stream.start available = stream := by
        rw [TransactionStream.start, if_pos (by simp [isOpen.going.running])]
      rw [TransactionStream.step, idempotent]
      exact .goesOn isOpen
  | stop => exact absurd rfl notStop
  | handlerReturns => exact returned_outcome isOpen
  | occurs occurrence =>
      obtain ⟨going, phase⟩ := isOpen
      rw [TransactionStream.step]
      cases phase with
      | dead isLost empty stack =>
          rw [stack, List.isEmpty_nil, if_pos rfl, occur_of_empty empty]
          exact .goesOn ⟨going, .dead isLost empty stack⟩
      | armed armed stack =>
          rw [stack, List.isEmpty_nil, if_pos rfl]
          cases armed with
          | source listening => exact occur_source going listening stack occurrence
          | request request sources requests unasked timers =>
              exact occur_request going sources requests unasked timers stack occurrence drops
          | timer timer sources requests timers current =>
              exact occur_timer going sources requests timers current stack occurrence
      | notifying frame stack notClose ready =>
          rw [stack, if_neg (by simp)]
          exact .goesOn ⟨going, .notifying frame stack notClose ready⟩

end Step

/-! ## A stream that has stopped stays so -/

namespace TransactionStream

variable {config : Config} {stream : TransactionStream}

theorem emitClose_stopped (event : CloseEvent) :
    (stream.emitClose config event).stopped = stream.stopped := by
  unfold emitClose
  split
  · rfl
  · rfl

variable (stopped : stream.stopped = true)

include stopped

theorem pollAgain_of_stopped (mode : PollMode) : stream.pollAgain config mode = stream := by
  cases mode with
  | longPoll => rw [pollAgain, if_pos stopped]
  | polling => rw [pollAgain, if_pos stopped]

theorem proceed_stopped (after : Continuation) : (stream.proceed config after).stopped = true := by
  cases after with
  | done => exact stopped
  | reconnect =>
      rw [proceed, scheduleReconnect, if_pos stopped]
      exact stopped
  | processed tx terminal origin =>
      unfold proceed
      dsimp only
      split
      · exact emitClose_stopped _
      · split
        · exact stopped
        · rw [pollAgain_of_stopped stopped]
          exact stopped

theorem emit_stopped (notice : Notice) (after : Continuation) :
    (stream.emit config notice after).stopped = true := by
  unfold emit
  split
  · exact proceed_stopped stopped after
  · exact stopped

theorem processTransaction_stopped (tx : Json) (origin : Option PollMode) :
    (stream.processTransaction config tx origin).stopped = true := by
  unfold processTransaction
  dsimp only
  split
  · exact stopped
  · refine emit_stopped ?_ _ _
    exact stopped

theorem onRawData_stopped (data : String) (parsed : Option Json) :
    (stream.onRawData config data parsed).stopped = true := by
  cases parsed with
  | none => exact emit_stopped stopped _ _
  | some json => exact processTransaction_stopped stopped _ _

theorem fetched_of_stopped (request : Request) (reply : Reply) :
    stream.fetched config request reply = stream.forget request.number := by
  cases reply with
  | rejected isAbort reason =>
      unfold fetched
      dsimp only
      exact if_pos stopped
  | response status => rw [fetched, if_pos stopped]

theorem bodyRead_stopped (request : Request) (body : Except String Json) :
    (stream.bodyRead config request body).stopped = true := by
  have forgotten : (stream.forget request.number).stopped = true := stopped
  cases body with
  | error reason => exact emit_stopped forgotten _ _
  | ok body =>
      unfold bodyRead
      dsimp only
      split
      · exact forgotten
      · split
        · exact processTransaction_stopped forgotten _ _
        · rw [pollAgain_of_stopped forgotten]
          exact forgotten

theorem occur_stopped (occurrence : Occurrence) :
    (stream.occur config occurrence).stopped = true := by
  cases occur_course config stream occurrence with
  | unheard closed same =>
      rw [same]
      exact stopped
  | heard isOpen handled =>
      rw [handled]
      refine onRawData_stopped ?_ _ _
      exact stopped
  | unnoticed closed same =>
      rw [same]
      exact stopped
  | dropped isOpen handled =>
      rw [handled]
      refine emit_stopped ?_ _ _
      exact stopped
  | unasked unknown same =>
      rw [same]
      exact stopped
  | replied own found handled =>
      rw [handled, fetched_of_stopped stopped]
      exact stopped
  | unread unknown same =>
      rw [same]
      exact stopped
  | read own found handled =>
      rw [handled]
      exact bodyRead_stopped stopped own _
  | unarmed same =>
      rw [same]
      exact stopped
  | looped handled =>
      rw [handled, runLoop, if_pos stopped]
      exact stopped
  | polled handled =>
      rw [handled, pollOnce, if_pos stopped]
      exact stopped

theorem step_stopped (event : Event) : (stream.step config event).stopped = true := by
  cases event with
  | start available =>
      rw [step, start, if_pos (by simp [stopped])]
      exact stopped
  | stop =>
      rw [step, stop, if_pos stopped]
      exact stopped
  | handlerReturns =>
      unfold step returned
      dsimp only
      split
      · exact stopped
      · split
        · exact stopped
        · refine proceed_stopped ?_ _
          exact stopped
  | occurs occurrence =>
      unfold step
      dsimp only
      split
      · exact occur_stopped stopped occurrence
      · exact stopped

end TransactionStream

/-! ## Whole runs -/

structure Idle (stream : TransactionStream) : Prop where
  running : stream.running = false
  stopped : stream.stopped = false
  empty : Empty stream
  stack : stream.stack = []
  log : stream.log = []

theorem stop_stopped (config : Config) (stream : TransactionStream) :
    (stream.stop config).stopped = true := by
  unfold TransactionStream.stop
  split
  · assumption
  · exact TransactionStream.emitClose_stopped _

theorem start_of_idle {lost : Prop} {stream : TransactionStream} (idle : Idle stream)
    (available : Bool) : Open lost (stream.start available) := by
  rw [TransactionStream.start, if_neg (by simp [idle.running, idle.stopped])]
  refine SetsUp.isOpen (SetsUp.runLoop ?_ ?_ available) ⟨rfl, ?_, ?_⟩ ?_
  · exact ⟨idle.empty.sources, idle.empty.requests, idle.empty.timers⟩
  · exact idle.stopped
  · exact idle.stopped
  · intro invocation member
    rw [idle.log] at member
    cases member
  · exact idle.stack

theorem step_of_idle (config : Config) {stream : TransactionStream} (idle : Idle stream)
    {event : Event} (notStart : ∀ available, event ≠ .start available) (notStop : event ≠ .stop) :
    stream.step config event = stream := by
  cases event with
  | start available => exact absurd rfl (notStart available)
  | stop => exact absurd rfl notStop
  | handlerReturns => rw [TransactionStream.step, TransactionStream.returned, idle.stack]
  | occurs occurrence =>
      rw [TransactionStream.step, idle.stack, List.isEmpty_nil, if_pos rfl,
        occur_of_empty idle.empty]

def Begun (lost : Prop) (stream : TransactionStream) : Prop :=
  Open lost stream ∨ stream.stopped = true

theorem Begun.step {lost : Prop} {stream : TransactionStream} (begun : Begun lost stream)
    (config : Config) (event : Event)
    (drops : readsNull (stream, event) = true ∨ abortsUnasked (stream, event) = true → lost) :
    Begun lost (stream.step config event) := by
  rcases begun with isOpen | stopped
  · by_cases stops : event = .stop
    · rw [stops]
      exact .inr (stop_stopped config stream)
    · cases step_outcome config isOpen event stops drops with
      | goesOn next => exact .inl next
      | closes base close shut stack emitted =>
          refine .inr ?_
          rw [emitted, TransactionStream.emitClose_stopped]
          exact shut.stopped
  · exact .inr (TransactionStream.step_stopped stopped event)

theorem idle_or_begun_step {lost : Prop} {stream : TransactionStream}
    (either : Idle stream ∨ Begun lost stream) (config : Config) (event : Event)
    (drops : readsNull (stream, event) = true ∨ abortsUnasked (stream, event) = true → lost) :
    Idle (stream.step config event) ∧ (∀ available, event ≠ .start available) ∨
      Begun lost (stream.step config event) := by
  rcases either with idle | begun
  · by_cases stops : event = .stop
    · rw [stops]
      exact .inr (.inr (stop_stopped config stream))
    · by_cases starts : ∃ available, event = .start available
      · obtain ⟨available, same⟩ := starts
        rw [same]
        exact .inr (.inl (start_of_idle idle available))
      · have notStart : ∀ available, event ≠ .start available :=
          fun available same => starts ⟨available, same⟩
        rw [step_of_idle config idle notStart stops]
        exact .inl ⟨idle, notStart⟩
  · exact .inr (begun.step config event drops)

theorem idle_create (config : Config) : Idle (TransactionStream.create config) :=
  ⟨rfl, rfl, ⟨rfl, rfl, rfl⟩, rfl, rfl⟩

theorem idle_or_begun_reached (config : Config) (lost : Prop) (events : List Event)
    (drops : ∀ visit ∈ visits config events,
      readsNull visit = true ∨ abortsUnasked visit = true → lost) :
    Idle (TransactionStream.reached config events) ∨
      Begun lost (TransactionStream.reached config events) := by
  refine Machine.run_invariant_of_visits (TransactionStream.step config)
    (fun stream => Idle stream ∨ Begun lost stream) events _ ?_ (.inl (idle_create config))
  intro visit member either
  rcases idle_or_begun_step either config visit.2 (drops visit member) with idle | begun
  · exact .inl idle.1
  · exact .inr begun

theorem begun_reached (config : Config) (lost : Prop) (events : List Event)
    (started : ∃ available, .start available ∈ events)
    (drops : ∀ visit ∈ visits config events,
      readsNull visit = true ∨ abortsUnasked visit = true → lost) :
    Begun lost (TransactionStream.reached config events) := by
  obtain ⟨available, member⟩ := started
  obtain ⟨before, after, split⟩ := List.append_of_mem member
  subst split
  rw [visits, Machine.visits_append] at drops
  have early := idle_or_begun_reached config lost before
    fun visit within => drops visit (List.mem_append_left _ within)
  have later : ∀ visit ∈ Machine.visits (TransactionStream.step config)
      (TransactionStream.reached config before) (.start available :: after),
      readsNull visit = true ∨ abortsUnasked visit = true → lost :=
    fun visit within => drops visit (List.mem_append_right _ within)
  rw [TransactionStream.reached, TransactionStream.run, Machine.run_append]
  refine Machine.run_invariant_of_visits (TransactionStream.step config)
    (Begun lost) after _ ?_ ?_
  · intro visit within begun
    exact begun.step config visit.2 (later visit (List.mem_cons_of_mem _ within))
  · rcases idle_or_begun_step early config (.start available)
        (later _ List.mem_cons_self) with idle | begun
    · exact absurd rfl (idle.2 available)
    · exact begun

/-- The number of open sources, requests in flight and armed timers. -/
def pending (stream : TransactionStream) : Nat :=
  stream.sources.length + stream.requests.length + stream.timers.length

theorem Armed.pending_eq_one {stream : TransactionStream} (armed : Armed stream) :
    pending stream = 1 := by
  cases armed with
  | source listening =>
      obtain ⟨source, only, _⟩ := listening.source
      simp [pending, only, listening.requests, listening.timers]
  | request request sources requests unasked timers =>
      simp [pending, sources, requests, timers]
  | timer timer sources requests timers current => simp [pending, sources, requests, timers]

/-- After `start` and before it is closed, a stream in which no handler runs waits for
exactly one thing, unless a body was `null`. -/
theorem one_continuation_pending (config : Config) (events : List Event)
    (honest : ∀ visit ∈ visits config events, abortsUnasked visit = false)
    (readable : ∀ visit ∈ visits config events, readsNull visit = false)
    (started : ∃ available, .start available ∈ events)
    (unclosed : (TransactionStream.reached config events).stopped = false)
    (quiescent : (TransactionStream.reached config events).stack = []) :
    pending (TransactionStream.reached config events) = 1 := by
  have begun := begun_reached config False events started (by
    intro visit member dropped
    rw [honest visit member, readable visit member] at dropped
    simp at dropped)
  rcases begun with isOpen | stopped
  · cases isOpen.phase with
    | dead isLost empty stack => exact isLost.elim
    | armed armed stack => exact armed.pending_eq_one
    | notifying frame stack notClose ready =>
        rw [quiescent] at stack
        cases stack
  · rw [unclosed] at stopped
    cases stopped

def longPollConfig : Config where
  preferredMode := .longPoll
  pollingIntervalMs := 5000
  maxReconnectAttempts := .finite 10
  initialReconnectDelayMs := 1000
  maxReconnectDelayMs := 30000
  updateHandlers := 1
  closeHandlers := 1
  errorHandlers := 1

def downgradedRun : List Event :=
  [.start true, .occurs (.fetchSettles 0 (.response 404)),
    .occurs (.fetchSettles 1 (.rejected false "network down")), .handlerReturns,
    .occurs (.timerFires 2 true)]

theorem downgradedRun_pending :
    pending (TransactionStream.reached longPollConfig downgradedRun) = 1 :=
  one_continuation_pending longPollConfig downgradedRun (by decide +kernel)
    (by decide +kernel) ⟨true, List.mem_cons_self⟩ (by decide +kernel) (by rfl)

/-- The anchor answers a long poll with the body `null`. -/
def nullRun : List Event :=
  [.start true, .occurs (.fetchSettles 0 (.response 200)), .occurs (.bodySettles 0 (.ok .null))]

theorem nullRun_dies :
    (∀ visit ∈ visits longPollConfig nullRun, abortsUnasked visit = false) ∧
      (TransactionStream.reached longPollConfig nullRun).running = true ∧
      (TransactionStream.reached longPollConfig nullRun).stopped = false ∧
      (TransactionStream.reached longPollConfig nullRun).stack = [] ∧
      (TransactionStream.reached longPollConfig nullRun).log = [] ∧
      pending (TransactionStream.reached longPollConfig nullRun) = 0 :=
  ⟨by decide +kernel, rfl, rfl, rfl, rfl, rfl⟩

end AnchorKit.Sdk.Stream
