import AnchorKit.Sdk.StreamGivesUp

/-!
# What the handlers of a stream are told

A handler may stop the stream, so that the close handlers are called while others of
the update are still to come.  Nothing is lost by it: every handler is told every
notice of its kind once and in order, the updates are the transactions that came, and
a close event carries the last of them.
-/

set_option autoImplicit false

namespace AnchorKit.Sdk.Stream

open AnchorKit.Base
open AnchorKit.Sdk.Streaming (isTerminalStatus)

/-! ## The transactions that come -/

def bodyTransaction (mode : PollMode) : Except String Json → Option Json
  | .error _ => none
  | .ok body => (transactionIn mode body).bind (·.filter Json.truthy)

/-- The transaction that an occurrence hands to `processTransaction`. -/
def TransactionStream.brings (stream : TransactionStream) :
    Occurrence → Option (Json × Option PollMode)
  | .message source _ _ parsed =>
      if stream.sources.any (·.number == source) then
        parsed.map fun json => (messageTransaction json, none)
      else none
  | .bodySettles request body =>
      match stream.requests.find? fun own => own.number == request && own.reading with
      | none => none
      | some own => (bodyTransaction own.mode body).map fun tx => (tx, some own.mode)
  | _ => none

def received (visit : TransactionStream × Event) : Option (Json × Option PollMode) :=
  match visit.2 with
  | .occurs occurrence =>
      if visit.1.stack.isEmpty then visit.1.brings occurrence else none
  | _ => none

/-- The update about a transaction; there is none about `null`. -/
def updateOf : Json × Option PollMode → Option StatusUpdate
  | (.null, _) => none
  | (tx, origin) =>
      some ⟨tx, origin.elim .sse PollMode.mode, isTerminalStatus (tx.get "status")⟩

def transactionsReceived (visits : List (TransactionStream × Event)) : List Json :=
  visits.filterMap fun visit => (received visit).map (·.1)

def updatesReceived (visits : List (TransactionStream × Event)) : List StatusUpdate :=
  visits.filterMap fun visit => (received visit).bind updateOf

/-! ## The notices that a handler is told -/

inductive NoticeKind where
  | update
  | error
  | close
  deriving DecidableEq, Repr

def Notice.kind : Notice → NoticeKind
  | .update _ => .update
  | .error _ => .error
  | .close _ => .close

def Config.registered (config : Config) : NoticeKind → Nat
  | .update => config.updateHandlers
  | .error => config.errorHandlers
  | .close => config.closeHandlers

theorem Config.handlers_eq (config : Config) (notice : Notice) :
    config.handlers notice = config.registered notice.kind := by
  cases notice with
  | update update => rfl
  | error message => rfl
  | close event => rfl

/-- What the handler of a kind has been told, in the order of the calls. -/
def heard (kind : NoticeKind) (handler : Nat) (log : List Invocation) : List Notice :=
  (log.filter fun call => call.notice.kind == kind && call.handler == handler).map (·.notice)

/-- What the handler of a kind is still to be told by the calls under way. -/
def owed (kind : NoticeKind) (handler : Nat) (stack : List Frame) : List Notice :=
  (stack.filter fun frame => frame.notice.kind == kind && decide (frame.handler < handler)).map
    (·.notice)

theorem heard_append (kind : NoticeKind) (handler : Nat) (log : List Invocation)
    (call : Invocation) :
    heard kind handler (log ++ [call]) = heard kind handler log ++
      if call.notice.kind = kind ∧ call.handler = handler then [call.notice] else [] := by
  unfold heard
  rw [List.filter_append, List.map_append]
  congr 1
  by_cases told : call.notice.kind = kind ∧ call.handler = handler
  · simp [told]
  · rw [if_neg told]
    simp [told]

theorem owed_cons (kind : NoticeKind) (handler : Nat) (frame : Frame) (stack : List Frame) :
    owed kind handler (frame :: stack) =
      (if frame.notice.kind = kind ∧ frame.handler < handler then [frame.notice] else []) ++
        owed kind handler stack := by
  unfold owed
  by_cases waits : frame.notice.kind = kind ∧ frame.handler < handler
  · simp [waits]
  · rw [if_neg waits]
    simp [waits]

theorem owed_of_other {kind : NoticeKind} (handler : Nat) {stack : List Frame}
    (other : ∀ frame ∈ stack, frame.notice.kind ≠ kind) : owed kind handler stack = [] := by
  unfold owed
  simp only [List.map_eq_nil_iff, List.filter_eq_nil_iff]
  intro frame member
  simp [other frame member]

/-! ## What the functions of the stream say -/

structure Quiet (stream after : TransactionStream) : Prop where
  stack : after.stack = stream.stack
  log : after.log = stream.log
  last : after.lastKnownTransaction = stream.lastKnownTransaction

structure CloseEvent.Fits (event : CloseEvent) (known : Value) : Prop where
  last : event.lastTransaction = known
  terminal : event.reason = .terminalStatus →
    ∃ tx, known = some tx ∧ isTerminalStatus (tx.get "status") = true

def Continuation.Fits (last : Value) : Continuation → Prop
  | .processed tx terminal _ =>
      last = some tx ∧ (terminal = true → isTerminalStatus (tx.get "status") = true)
  | _ => True

/-- No more is said than that the stream is closed. -/
inductive MayClose (stream after : TransactionStream) : Prop
  | quiet (quiet : Quiet stream after)
  | closes (event : CloseEvent) (fits : event.Fits stream.lastKnownTransaction)
      (stopped : after.stopped = true)
      (stack : after.stack = ⟨.close event, 0, .done⟩ :: stream.stack)
      (log : after.log = stream.log ++ [⟨.close event, 0⟩])
      (last : after.lastKnownTransaction = stream.lastKnownTransaction)

/-- The handlers of an update or an error are called, or what follows is done if there
are none. -/
inductive Emits (config : Config) (stream : TransactionStream) (notice : Notice)
    (after : TransactionStream) : Prop
  | told (continuation : Continuation) (fits : continuation.Fits stream.lastKnownTransaction)
      (stack : after.stack = ⟨notice, 0, continuation⟩ :: stream.stack)
      (log : after.log = stream.log ++ [⟨notice, 0⟩])
      (last : after.lastKnownTransaction = stream.lastKnownTransaction)
  | untold (nobody : config.handlers notice = 0) (mayClose : MayClose stream after)

theorem Quiet.trans {stream middle after : TransactionStream} (first : Quiet stream middle)
    (second : Quiet middle after) : Quiet stream after :=
  ⟨second.stack.trans first.stack, second.log.trans first.log, second.last.trans first.last⟩

section Transports

variable (config : Config) (stream : TransactionStream)

theorem runLongPoll_quiet : Quiet stream stream.runLongPoll := by
  unfold TransactionStream.runLongPoll
  split
  · exact ⟨rfl, rfl, rfl⟩
  · exact ⟨rfl, rfl, rfl⟩

theorem pollOnce_quiet : Quiet stream stream.pollOnce := by
  unfold TransactionStream.pollOnce
  split
  · exact ⟨rfl, rfl, rfl⟩
  · exact ⟨rfl, rfl, rfl⟩

theorem runPollLoop_quiet : Quiet stream stream.runPollLoop := by
  unfold TransactionStream.runPollLoop
  split
  · refine .trans ?_ (runLongPoll_quiet _)
    exact ⟨rfl, rfl, rfl⟩
  · refine .trans ?_ (pollOnce_quiet _)
    exact ⟨rfl, rfl, rfl⟩

theorem runLoop_quiet (available : Bool) : Quiet stream (stream.runLoop available) := by
  unfold TransactionStream.runLoop
  split
  · exact ⟨rfl, rfl, rfl⟩
  · split
    · unfold TransactionStream.runSse
      split
      · exact ⟨rfl, rfl, rfl⟩
      · refine .trans ?_ (runPollLoop_quiet _)
        exact ⟨rfl, rfl, rfl⟩
    · exact runPollLoop_quiet stream

theorem start_quiet (available : Bool) : Quiet stream (stream.start available) := by
  unfold TransactionStream.start
  split
  · exact ⟨rfl, rfl, rfl⟩
  · refine .trans ?_ (runLoop_quiet _ available)
    exact ⟨rfl, rfl, rfl⟩

theorem pollAgain_quiet (mode : PollMode) : Quiet stream (stream.pollAgain config mode) := by
  unfold TransactionStream.pollAgain
  cases mode with
  | longPoll =>
      dsimp only
      split
      · exact ⟨rfl, rfl, rfl⟩
      · refine .trans ?_ (runLongPoll_quiet _)
        exact ⟨rfl, rfl, rfl⟩
  | polling =>
      dsimp only
      split
      · exact ⟨rfl, rfl, rfl⟩
      · exact ⟨rfl, rfl, rfl⟩

end Transports

section Saying

variable {config : Config} {stream base : TransactionStream}

theorem emitClose_mayClose (same : Quiet stream base) (stopped : base.stopped = true)
    {event : CloseEvent} (fits : event.Fits stream.lastKnownTransaction) :
    MayClose stream (base.emitClose config event) := by
  unfold TransactionStream.emitClose
  split
  · exact .quiet same
  · refine .closes event fits stopped ?_ ?_ same.last
    · rw [← same.stack]
      rfl
    · rw [← same.log]
      rfl

theorem scheduleReconnect_mayClose : MayClose stream (stream.scheduleReconnect config) := by
  unfold TransactionStream.scheduleReconnect
  split
  · exact .quiet ⟨rfl, rfl, rfl⟩
  · split
    · refine emitClose_mayClose ?_ rfl ?_
      · exact ⟨rfl, rfl, rfl⟩
      · exact ⟨rfl, nofun⟩
    · exact .quiet ⟨rfl, rfl, rfl⟩

theorem proceed_mayClose {continuation : Continuation}
    (fits : continuation.Fits stream.lastKnownTransaction) :
    MayClose stream (stream.proceed config continuation) := by
  cases continuation with
  | done => exact .quiet ⟨rfl, rfl, rfl⟩
  | reconnect => exact scheduleReconnect_mayClose
  | processed tx terminal origin =>
      obtain ⟨last, isTerminal⟩ := fits
      unfold TransactionStream.proceed
      dsimp only
      split
      · rename_i reached
        refine emitClose_mayClose ?_ rfl ?_
        · exact ⟨rfl, rfl, rfl⟩
        · exact ⟨last.symm, fun _ => ⟨tx, last, isTerminal reached⟩⟩
      · cases origin with
        | none => exact .quiet ⟨rfl, rfl, rfl⟩
        | some mode => exact .quiet (pollAgain_quiet config stream mode)

theorem stop_mayClose : MayClose stream (stream.stop config) := by
  unfold TransactionStream.stop
  split
  · exact .quiet ⟨rfl, rfl, rfl⟩
  · refine emitClose_mayClose ?_ rfl ?_
    · exact ⟨rfl, rfl, rfl⟩
    · exact ⟨rfl, nofun⟩

theorem emit_emits (notice : Notice) {continuation : Continuation}
    (fits : continuation.Fits stream.lastKnownTransaction) :
    Emits config stream notice (stream.emit config notice continuation) := by
  unfold TransactionStream.emit
  split
  · rename_i nobody
    exact .untold nobody (proceed_mayClose fits)
  · exact .told continuation fits rfl rfl rfl

end Saying

/-! ## What a step says -/

/-- A step: a handler may start or stop the stream or return, and with no handler under
way an error or a transaction may come. -/
inductive Voices (config : Config) (stream : TransactionStream) (event : Event)
    (after : TransactionStream) : Prop
  | quiet (quiet : Quiet stream after) (nothing : received (stream, event) = none)
  | stops (notStopped : stream.stopped = false) (mayClose : MayClose stream after)
      (nothing : received (stream, event) = none)
  | next (frame : Frame) (rest : List Frame) (under : stream.stack = frame :: rest)
      (more : frame.handler + 1 < config.handlers frame.notice)
      (called : after =
        { stream with stack := rest }.call { frame with handler := frame.handler + 1 })
      (nothing : received (stream, event) = none)
  | ends (frame : Frame) (rest : List Frame) (under : stream.stack = frame :: rest)
      (last : ¬ frame.handler + 1 < config.handlers frame.notice)
      (proceeds : frame.after.Fits stream.lastKnownTransaction →
        MayClose { stream with stack := rest } after)
      (nothing : received (stream, event) = none)
  | fails (base : TransactionStream) (same : Quiet stream base) (idle : stream.stack = [])
      (message : String) (emits : Emits config base (.error message) after)
      (nothing : received (stream, event) = none)
  | brings (base : TransactionStream) (idle : stream.stack = []) (log : base.log = stream.log)
      (stack : base.stack = []) (arrived : Json × Option PollMode)
      (came : received (stream, event) = some arrived)
      (last : base.lastKnownTransaction = some arrived.1)
      (update : StatusUpdate) (about : updateOf arrived = some update)
      (emits : Emits config base (.update update) after)
  | null (idle : stream.stack = []) (log : after.log = stream.log) (stack : after.stack = [])
      (arrived : Json × Option PollMode) (came : received (stream, event) = some arrived)
      (last : after.lastKnownTransaction = some arrived.1) (about : updateOf arrived = none)

section Steps

variable {config : Config} {stream base : TransactionStream}

theorem processTransaction_voices {event : Event} (idle : stream.stack = [])
    (same : Quiet stream base) {tx : Json} {origin : Option PollMode}
    (came : received (stream, event) = some (tx, origin)) :
    Voices config stream event (base.processTransaction config tx origin) := by
  have stack : base.stack = [] := same.stack.trans idle
  by_cases isNull : tx = .null
  · subst isNull
    exact .null idle same.log stack _ came rfl rfl
  · have about : updateOf (tx, origin) =
        some ⟨tx, origin.elim .sse PollMode.mode, isTerminalStatus (tx.get "status")⟩ := by
      unfold updateOf
      split
      · rename_i equal
        cases equal
        exact absurd rfl isNull
      · rename_i other equal
        cases equal
        rfl
    refine .brings { base with lastKnownTransaction := some tx } idle same.log stack _ came rfl
      _ about ?_
    unfold TransactionStream.processTransaction
    dsimp only
    split
    · exact absurd rfl isNull
    · exact emit_emits _ ⟨rfl, id⟩

theorem fetched_voices {event : Event} (idle : stream.stack = [])
    (nothing : received (stream, event) = none) (request : Request) (reply : Reply) :
    Voices config stream event (stream.fetched config request reply) := by
  have forgets : Quiet stream (stream.forget request.number) := ⟨rfl, rfl, rfl⟩
  cases reply with
  | rejected isAbort reason =>
      unfold TransactionStream.fetched
      dsimp only
      split
      · exact .quiet forgets nothing
      · split
        · exact .quiet forgets nothing
        · exact .fails _ forgets idle reason (emit_emits _ trivial) nothing
  | response status =>
      unfold TransactionStream.fetched
      dsimp only
      split
      · exact .quiet forgets nothing
      · split
        · refine .quiet (.trans ?_ (runLoop_quiet _ false)) nothing
          exact ⟨rfl, rfl, rfl⟩
        · split
          · exact .fails _ forgets idle _ (emit_emits _ trivial) nothing
          · exact .quiet ⟨rfl, rfl, rfl⟩ nothing

theorem bodyRead_voices {event : Event} (idle : stream.stack = []) (request : Request)
    (body : Except String Json)
    (came : received (stream, event) =
      (bodyTransaction request.mode body).map fun tx => (tx, some request.mode)) :
    Voices config stream event (stream.bodyRead config request body) := by
  have forgets : Quiet stream (stream.forget request.number) := ⟨rfl, rfl, rfl⟩
  cases body with
  | error reason => exact .fails _ forgets idle _ (emit_emits _ trivial) came
  | ok body =>
      rw [bodyTransaction] at came
      unfold TransactionStream.bodyRead
      dsimp only
      cases found : transactionIn request.mode body with
      | none =>
          rw [found] at came
          exact .quiet forgets came
      | some value =>
          rw [found, Option.bind_some] at came
          dsimp only
          cases present : value.filter Json.truthy with
          | none =>
              rw [present] at came
              exact .quiet (forgets.trans (pollAgain_quiet config _ request.mode)) came
          | some tx =>
              rw [present] at came
              exact processTransaction_voices idle forgets came

theorem occur_voices (idle : stream.stack = []) (occurrence : Occurrence) :
    Voices config stream (.occurs occurrence) (stream.occur config occurrence) := by
  have handed : received (stream, .occurs occurrence) = stream.brings occurrence := by
    simp only [received, idle, List.isEmpty_nil, if_true]
  cases occur_course config stream occurrence with
  | unheard closed same =>
      rw [same]
      exact .quiet ⟨rfl, rfl, rfl⟩ (handed.trans (if_neg closed))
  | @heard source lastEventId data parsed isOpen handled =>
      rw [handled]
      have came := handed.trans (if_pos isOpen)
      cases parsed with
      | none =>
          rw [TransactionStream.onRawData]
          refine .fails _ ?_ idle _ (emit_emits _ trivial) came
          exact ⟨rfl, rfl, rfl⟩
      | some json =>
          rw [TransactionStream.onRawData]
          refine processTransaction_voices idle ?_ came
          exact ⟨rfl, rfl, rfl⟩
  | unnoticed closed same =>
      rw [same]
      exact .quiet ⟨rfl, rfl, rfl⟩ handed
  | dropped isOpen handled =>
      rw [handled]
      refine .fails _ ?_ idle _ (emit_emits _ trivial) handed
      exact ⟨rfl, rfl, rfl⟩
  | unasked unknown same =>
      rw [same]
      exact .quiet ⟨rfl, rfl, rfl⟩ handed
  | replied own found handled =>
      rw [handled]
      exact fetched_voices idle handed own _
  | unread unknown same =>
      rw [TransactionStream.brings, unknown] at handed
      rw [same]
      exact .quiet ⟨rfl, rfl, rfl⟩ handed
  | read own found handled =>
      rw [TransactionStream.brings, found] at handed
      rw [handled]
      exact bodyRead_voices idle own _ handed
  | unarmed same =>
      rw [same]
      exact .quiet ⟨rfl, rfl, rfl⟩ handed
  | looped handled =>
      rw [handled]
      refine .quiet (.trans ?_ (runLoop_quiet _ _)) handed
      exact ⟨rfl, rfl, rfl⟩
  | polled handled =>
      rw [handled]
      refine .quiet (.trans ?_ (pollOnce_quiet _)) handed
      exact ⟨rfl, rfl, rfl⟩

theorem step_voices (config : Config) (stream : TransactionStream) (event : Event) :
    Voices config stream event (stream.step config event) := by
  cases event with
  | start available => exact .quiet (start_quiet stream available) rfl
  | stop =>
      by_cases stopped : stream.stopped = true
      · refine .quiet ?_ rfl
        rw [TransactionStream.step, TransactionStream.stop, if_pos stopped]
        exact ⟨rfl, rfl, rfl⟩
      · exact .stops (Bool.eq_false_of_not_eq_true stopped) stop_mayClose rfl
  | handlerReturns =>
      cases under : stream.stack with
      | nil =>
          refine .quiet ?_ rfl
          rw [TransactionStream.step, TransactionStream.returned, under]
          exact ⟨rfl, rfl, rfl⟩
      | cons frame rest =>
          by_cases more : frame.handler + 1 < config.handlers frame.notice
          · exact .next frame rest under more (returned_more under more) rfl
          · refine .ends frame rest under more ?_ rfl
            intro fits
            rw [TransactionStream.step, returned_last under more]
            exact proceed_mayClose fits
  | occurs occurrence =>
      by_cases idle : stream.stack = []
      · have steps : stream.step config (.occurs occurrence) =
            stream.occur config occurrence := by
          rw [TransactionStream.step, if_pos (by rw [idle]; rfl)]
        rw [steps]
        exact occur_voices idle occurrence
      · have busy : ¬ stream.stack.isEmpty = true := fun empty =>
          idle (List.isEmpty_iff.mp empty)
        refine .quiet ?_ (if_neg busy)
        rw [TransactionStream.step, if_neg busy]
        exact ⟨rfl, rfl, rfl⟩

end Steps

/-! ## What holds along a run -/

/-- The calls under way: at most a close event told within another notice. -/
inductive Nested (stopped : Bool) : List Frame → Prop
  | idle : Nested stopped []
  | telling (frame : Frame) (other : frame.notice.kind ≠ .close) : Nested stopped [frame]
  | closing (frame : Frame) (close : frame.notice.kind = .close) (ended : stopped = true) :
      Nested stopped [frame]
  | interrupted (frame below : Frame) (close : frame.notice.kind = .close)
      (other : below.notice.kind ≠ .close) (ended : stopped = true) :
      Nested stopped [frame, below]

theorem Nested.rest {stopped : Bool} {frame : Frame} {rest : List Frame}
    (nested : Nested stopped (frame :: rest)) : Nested stopped rest := by
  cases nested with
  | telling frame other => exact .idle
  | closing frame close ended => exact .idle
  | interrupted frame below close other ended => exact .telling below other

theorem Nested.rest_unclosed {stopped : Bool} {frame : Frame} {rest : List Frame}
    (nested : Nested stopped (frame :: rest)) : ∀ below ∈ rest, below.notice.kind ≠ .close := by
  cases nested with
  | telling frame other => simp
  | closing frame close ended => simp
  | interrupted frame below close other ended => simpa using other

theorem Nested.rest_other {stopped : Bool} {frame : Frame} {rest : List Frame}
    (nested : Nested stopped (frame :: rest)) :
    ∀ below ∈ rest, below.notice.kind ≠ frame.notice.kind := by
  cases nested with
  | telling frame other => simp
  | closing frame close ended => simp
  | interrupted frame below close other ended => simpa [close] using other

theorem Nested.unclosed {stack : List Frame} (nested : Nested false stack) :
    ∀ frame ∈ stack, frame.notice.kind ≠ .close := by
  cases nested with
  | idle => simp
  | telling frame other => simpa using other
  | closing frame close ended => cases ended
  | interrupted frame below close other ended => cases ended

theorem Nested.close {stopped : Bool} {stack : List Frame} (nested : Nested stopped stack)
    (unclosed : ∀ frame ∈ stack, frame.notice.kind ≠ .close) (event : CloseEvent) :
    Nested true (⟨.close event, 0, .done⟩ :: stack) := by
  cases nested with
  | idle => exact .closing _ rfl rfl
  | telling frame other => exact .interrupted _ frame rfl other rfl
  | closing frame close ended => exact absurd close (unclosed frame List.mem_cons_self)
  | interrupted frame below close other ended =>
      exact absurd close (unclosed frame List.mem_cons_self)

theorem Nested.mono {before after : Bool} {stack : List Frame} (nested : Nested before stack)
    (ends : before = true → after = true) : Nested after stack := by
  cases nested with
  | idle => exact .idle
  | telling frame other => exact .telling frame other
  | closing frame close ended => exact .closing frame close (ends ended)
  | interrupted frame below close other ended =>
      exact .interrupted frame below close other (ends ended)

/-- With the calls under way, every handler is told what the first one is told. -/
def Shared (config : Config) (stack : List Frame) (log : List Invocation) : Prop :=
  ∀ kind handler, handler < config.registered kind →
    heard kind handler log ++ owed kind handler stack = heard kind 0 log

section Sharing

variable {config : Config} {stack : List Frame} {log : List Invocation}

theorem Shared.call (shared : Shared config stack log) {notice : Notice}
    (continuation : Continuation) (other : ∀ frame ∈ stack, frame.notice.kind ≠ notice.kind) :
    Shared config (⟨notice, 0, continuation⟩ :: stack) (log ++ [⟨notice, 0⟩]) := by
  intro kind handler registered
  have before := shared kind handler registered
  rw [heard_append, heard_append, owed_cons]
  by_cases same : notice.kind = kind
  · subst same
    rw [owed_of_other handler other, List.append_nil] at before
    rw [owed_of_other handler other]
    cases handler with
    | zero => simp
    | succ later => simp [before]
  · simp [same, before]

theorem Shared.next {frame : Frame} (shared : Shared config (frame :: stack) log)
    (other : ∀ below ∈ stack, below.notice.kind ≠ frame.notice.kind) :
    Shared config ({ frame with handler := frame.handler + 1 } :: stack)
      (log ++ [⟨frame.notice, frame.handler + 1⟩]) := by
  intro kind handler registered
  have before := shared kind handler registered
  rw [owed_cons] at before
  rw [heard_append, heard_append, owed_cons]
  by_cases same : frame.notice.kind = kind
  · subst same
    rw [owed_of_other handler other, List.append_nil] at before
    rw [owed_of_other handler other, List.append_nil]
    rcases Nat.lt_trichotomy handler (frame.handler + 1) with earlier | rfl | later
    · have told : ¬ frame.handler < handler := by omega
      have passed : ¬ frame.handler + 1 < handler := by omega
      simpa [told, passed, Nat.ne_of_gt earlier] using before
    · simpa using before
    · have waits : frame.handler < handler := by omega
      simpa [waits, later, Nat.ne_of_lt later] using before
  · simpa [same] using before

theorem Shared.rest {frame : Frame} (shared : Shared config (frame :: stack) log)
    (last : ¬ frame.handler + 1 < config.handlers frame.notice) : Shared config stack log := by
  intro kind handler registered
  have before := shared kind handler registered
  have nobody : ¬ (frame.notice.kind = kind ∧ frame.handler < handler) := by
    rintro ⟨rfl, waits⟩
    rw [Config.handlers_eq] at last
    omega
  rwa [owed_cons, if_neg nobody, List.nil_append] at before

end Sharing

structure Frame.Fits (frame : Frame) (known : Value) : Prop where
  after : frame.after.Fits known
  close : ∀ event, frame.notice = .close event → event.Fits known

structure Agreed (config : Config) (stream : TransactionStream) : Prop where
  nested : Nested stream.stopped stream.stack
  fits : ∀ frame ∈ stream.stack, frame.Fits stream.lastKnownTransaction
  shared : Shared config stream.stack stream.log

section Preservation

variable {config : Config} {stream after : TransactionStream}

theorem Agreed.quiet (agreed : Agreed config stream) (quiet : Quiet stream after)
    (ends : stream.stopped = true → after.stopped = true) : Agreed config after := by
  obtain ⟨stack, log, last⟩ := quiet
  refine ⟨?_, ?_, ?_⟩
  · rw [stack]
    exact agreed.nested.mono ends
  · rw [stack, last]
    exact agreed.fits
  · rw [stack, log]
    exact agreed.shared

theorem Agreed.mayClose (agreed : Agreed config stream)
    (unclosed : ∀ frame ∈ stream.stack, frame.notice.kind ≠ .close)
    (mayClose : MayClose stream after) (ends : stream.stopped = true → after.stopped = true) :
    Agreed config after := by
  cases mayClose with
  | quiet quiet => exact agreed.quiet quiet ends
  | closes event fits stopped stack log last =>
      refine ⟨?_, ?_, ?_⟩
      · rw [stack, stopped]
        exact agreed.nested.close unclosed event
      · rw [stack, last]
        intro frame member
        rcases List.mem_cons.mp member with rfl | below
        · refine ⟨trivial, ?_⟩
          rintro other ⟨⟩
          exact fits
        · exact agreed.fits frame below
      · rw [stack, log]
        exact agreed.shared.call .done unclosed

theorem Agreed.rest {frame : Frame} {rest : List Frame} (agreed : Agreed config stream)
    (under : stream.stack = frame :: rest)
    (last : ¬ frame.handler + 1 < config.handlers frame.notice) :
    Agreed config { stream with stack := rest } := by
  obtain ⟨nested, fits, shared⟩ := agreed
  rw [under] at nested fits shared
  exact ⟨nested.rest, fun other member => fits other (List.mem_cons_of_mem _ member),
    shared.rest last⟩

theorem Agreed.next {frame : Frame} {rest : List Frame} (agreed : Agreed config stream)
    (under : stream.stack = frame :: rest) :
    Agreed config
      ({ stream with stack := rest }.call { frame with handler := frame.handler + 1 }) := by
  obtain ⟨nested, fits, shared⟩ := agreed
  rw [under] at nested fits shared
  refine ⟨?_, ?_, shared.next nested.rest_other⟩
  · cases nested with
    | telling frame other => exact .telling _ other
    | closing frame close ended => exact .closing _ close ended
    | interrupted frame below close other ended => exact .interrupted _ below close other ended
  · intro other member
    rcases List.mem_cons.mp member with rfl | below
    · have own := fits frame List.mem_cons_self
      exact ⟨own.after, own.close⟩
    · exact fits other (List.mem_cons_of_mem _ below)

theorem Agreed.of_idle (agreed : Agreed config stream) (idle : stream.stack = [])
    (stack : after.stack = []) (log : after.log = stream.log) : Agreed config after := by
  refine ⟨?_, ?_, ?_⟩
  · rw [stack]
    exact .idle
  · simp [stack]
  · rw [stack, log, ← idle]
    exact agreed.shared

theorem Agreed.emits (agreed : Agreed config stream) (idle : stream.stack = []) {notice : Notice}
    (other : notice.kind ≠ .close) (emits : Emits config stream notice after) :
    Agreed config after := by
  cases emits with
  | told continuation fits stack log last =>
      rw [idle] at stack
      refine ⟨?_, ?_, ?_⟩
      · rw [stack]
        exact .telling _ other
      · rw [stack, last]
        intro frame member
        rw [List.mem_singleton.mp member]
        refine ⟨fits, ?_⟩
        rintro event ⟨⟩
        exact absurd rfl other
      · rw [stack, log]
        have shared := agreed.shared
        rw [idle] at shared
        exact shared.call continuation (by simp)
  | untold nobody mayClose =>
      cases mayClose with
      | quiet quiet => exact agreed.of_idle idle (quiet.stack.trans idle) quiet.log
      | closes event fits stopped stack log last =>
          exact agreed.mayClose (by simp [idle]) (.closes event fits stopped stack log last)
            (fun _ => stopped)

theorem Agreed.step (agreed : Agreed config stream) (event : Event) :
    Agreed config (stream.step config event) := by
  have ends : stream.stopped = true → (stream.step config event).stopped = true := fun stopped =>
    TransactionStream.step_stopped stopped event
  cases step_voices config stream event with
  | quiet quiet nothing => exact agreed.quiet quiet ends
  | stops notStopped mayClose nothing =>
      have nested := agreed.nested
      rw [notStopped] at nested
      exact agreed.mayClose nested.unclosed mayClose ends
  | next frame rest under more called nothing =>
      rw [called]
      exact agreed.next under
  | ends frame rest under last proceeds nothing =>
      have nested := agreed.nested
      rw [under] at nested
      have fits := (agreed.fits frame (by simp [under])).after
      exact (agreed.rest under last).mayClose nested.rest_unclosed (proceeds fits) ends
  | fails base same idle message emits nothing =>
      have stack : base.stack = [] := same.stack.trans idle
      exact (agreed.of_idle idle stack same.log).emits stack (by simp [Notice.kind]) emits
  | brings base idle log stack arrived came last update about emits =>
      exact (agreed.of_idle idle stack log).emits stack (by simp [Notice.kind]) emits
  | null idle log stack arrived came last about => exact agreed.of_idle idle stack log

end Preservation

/-! ## The transactions that came, the updates and the last of them -/

section Account

variable {config : Config} {stream after : TransactionStream} {event : Event}

theorem heard_update_close (log : List Invocation) (closing : CloseEvent) (handler : Nat) :
    heard .update 0 (log ++ [⟨.close closing, handler⟩]) = heard .update 0 log := by
  rw [heard_append]
  simp [Notice.kind]

theorem MayClose.keeps (mayClose : MayClose stream after) :
    after.lastKnownTransaction = stream.lastKnownTransaction ∧
      heard .update 0 after.log = heard .update 0 stream.log := by
  cases mayClose with
  | quiet quiet => exact ⟨quiet.last, by rw [quiet.log]⟩
  | closes closing fits stopped stack log last =>
      exact ⟨last, by rw [log, heard_update_close]⟩

theorem Emits.last {notice : Notice} (emits : Emits config stream notice after) :
    after.lastKnownTransaction = stream.lastKnownTransaction := by
  cases emits with
  | told continuation fits stack log last => exact last
  | untold nobody mayClose => exact mayClose.keeps.1

theorem Emits.heard {notice : Notice} (emits : Emits config stream notice after)
    (somebody : 0 < config.updateHandlers) :
    Stream.heard .update 0 after.log =
      Stream.heard .update 0 stream.log ++
        if notice.kind = .update then [notice] else [] := by
  cases emits with
  | told continuation fits stack log last =>
      rw [log, heard_append]
      simp
  | untold nobody mayClose =>
      have other : notice.kind ≠ .update := by
        intro update
        rw [Config.handlers_eq, update] at nobody
        exact absurd nobody (Nat.ne_of_gt somebody)
      rw [if_neg other, List.append_nil]
      exact mayClose.keeps.2

theorem Voices.last (voiced : Voices config stream event after)
    (fits : ∀ frame ∈ stream.stack, frame.Fits stream.lastKnownTransaction) :
    after.lastKnownTransaction =
      ((received (stream, event)).map (·.1) <|> stream.lastKnownTransaction) := by
  cases voiced with
  | quiet quiet nothing =>
      rw [nothing]
      exact quiet.last
  | stops notStopped mayClose nothing =>
      rw [nothing]
      exact mayClose.keeps.1
  | next frame rest under more called nothing =>
      rw [nothing, called]
      rfl
  | ends frame rest under last proceeds nothing =>
      have ending := (fits frame (by simp [under])).after
      rw [nothing]
      exact (proceeds ending).keeps.1
  | fails base same idle message emits nothing =>
      rw [nothing, emits.last]
      exact same.last
  | brings base idle log stack arrived came last update about emits =>
      rw [came, emits.last, last]
      rfl
  | null idle log stack arrived came last about =>
      rw [came, last]
      rfl

theorem Voices.heard (voiced : Voices config stream event after)
    (fits : ∀ frame ∈ stream.stack, frame.Fits stream.lastKnownTransaction)
    (somebody : 0 < config.updateHandlers) :
    Stream.heard .update 0 after.log = Stream.heard .update 0 stream.log ++
      (((received (stream, event)).bind updateOf).map Notice.update).toList := by
  cases voiced with
  | quiet quiet nothing =>
      rw [nothing, quiet.log]
      simp
  | stops notStopped mayClose nothing =>
      rw [nothing, mayClose.keeps.2]
      simp
  | next frame rest under more called nothing =>
      rw [nothing, called]
      simp [TransactionStream.call, heard_append]
  | ends frame rest under last proceeds nothing =>
      have ending := (fits frame (by simp [under])).after
      rw [nothing, (proceeds ending).keeps.2]
      simp
  | fails base same idle message emits nothing =>
      rw [nothing, emits.heard somebody, same.log]
      simp [Notice.kind]
  | brings base idle log stack arrived came last update about emits =>
      rw [came, emits.heard somebody, log]
      simp [Notice.kind, about]
  | null idle log stack arrived came last about =>
      rw [came, log]
      simp [about]

end Account

structure Told (config : Config) (past : List (TransactionStream × Event))
    (stream : TransactionStream) : Prop extends Agreed config stream where
  last : stream.lastKnownTransaction = (transactionsReceived past).getLast?
  updates : 0 < config.updateHandlers →
    heard .update 0 stream.log = (updatesReceived past).map .update

theorem Told.step {config : Config} {past : List (TransactionStream × Event)}
    {stream : TransactionStream} (told : Told config past stream) (event : Event) :
    Told config (past ++ [(stream, event)]) (stream.step config event) := by
  have voiced := step_voices config stream event
  refine ⟨told.toAgreed.step event, ?_, ?_⟩
  · rw [voiced.last told.fits, told.last, transactionsReceived, transactionsReceived,
      List.filterMap_append]
    cases arrived : received (stream, event) with
    | none => simp [arrived]
    | some arrival => simp [arrived]
  · intro somebody
    rw [voiced.heard told.fits somebody, told.updates somebody, updatesReceived, updatesReceived,
      List.filterMap_append, List.map_append]
    cases arrived : (received (stream, event)).bind updateOf with
    | none => simp [arrived]
    | some update => simp [arrived]

theorem told_reached (config : Config) (events : List Event) :
    Told config (visits config events) (TransactionStream.reached config events) := by
  refine Machine.history_invariant (TransactionStream.step config) (Told config) events _ ?_ ?_
  · intro past visit member told
    exact told.step visit.2
  · refine ⟨⟨.idle, ?_, ?_⟩, rfl, fun _ => rfl⟩
    · simp [TransactionStream.create]
    · exact fun kind handler registered => rfl

theorem Nested.length_owed_le {stopped : Bool} {stack : List Frame}
    (nested : Nested stopped stack) (kind : NoticeKind) (handler : Nat) :
    (owed kind handler stack).length ≤ 1 := by
  cases nested with
  | idle => exact Nat.zero_le 1
  | telling frame other =>
      rw [owed, List.length_map]
      exact List.length_filter_le _ [frame]
  | closing frame close ended =>
      rw [owed, List.length_map]
      exact List.length_filter_le _ [frame]
  | interrupted frame below close other ended =>
      rw [owed_cons]
      by_cases closes : kind = .close
      · have told : owed kind handler [below] = [] :=
          owed_of_other handler (by simpa [closes] using other)
        rw [told]
        split
        · exact Nat.le_refl 1
        · exact Nat.zero_le 1
      · rw [if_neg (by simp [close, Ne.symm closes]), List.nil_append, owed, List.length_map]
        exact List.length_filter_le _ [below]

/-- Whatever the handlers do, every handler of a kind is told what the first one is
told, at most one notice behind it and none once no handler is under way; and the first
update handler is told the transactions that came. -/
theorem handlers_told_every_notice (config : Config) (events : List Event) (kind : NoticeKind)
    (handler : Nat) (registered : handler < config.registered kind) :
    let stream := TransactionStream.reached config events
    heard kind handler stream.log <+: heard kind 0 stream.log ∧
      (heard kind 0 stream.log).length ≤ (heard kind handler stream.log).length + 1 ∧
      (stream.stack = [] → heard kind handler stream.log = heard kind 0 stream.log) ∧
      (kind = .update →
        heard kind 0 stream.log = (updatesReceived (visits config events)).map .update) := by
  intro stream
  have told : Told config (visits config events) stream := told_reached config events
  have shared := told.shared kind handler registered
  refine ⟨⟨_, shared⟩, ?_, ?_, ?_⟩
  · have behind := told.nested.length_owed_le kind handler
    rw [← shared, List.length_append]
    omega
  · intro idle
    rw [idle] at shared
    rw [← shared]
    exact (List.append_nil _).symm
  · rintro rfl
    exact told.updates (Nat.lt_of_le_of_lt (Nat.zero_le handler) registered)

def firstHandlerStops : List Event :=
  [.start true, .occurs (.fetchSettles 0 (.response 200)),
    .occurs (.bodySettles 0 (statusBody "pending_anchor")), .stop, .handlerReturns,
    .handlerReturns, .handlerReturns]

def twoHandlers : Config :=
  { longPollConfig with updateHandlers := 2 }

theorem second_handler_told :
    heard .update 1 (TransactionStream.reached twoHandlers firstHandlerStops).log =
        (updatesReceived (visits twoHandlers firstHandlerStops)).map .update ∧
      (updatesReceived (visits twoHandlers firstHandlerStops)).length = 1 := by
  obtain ⟨-, -, settled, came⟩ :=
    handlers_told_every_notice twoHandlers firstHandlerStops .update 1 (by decide)
  exact ⟨(settled (by rfl)).trans (came rfl), by rfl⟩

/-! ## Close events -/

theorem MayClose.log {stream after : TransactionStream} (mayClose : MayClose stream after) :
    after.log = stream.log ∨
      ∃ frame ∈ after.stack, after.log = stream.log ++ [⟨frame.notice, frame.handler⟩] := by
  cases mayClose with
  | quiet quiet => exact .inl quiet.log
  | closes closing fits stopped stack log last =>
      exact .inr ⟨_, by rw [stack]; exact List.mem_cons_self, log⟩

theorem Emits.log {config : Config} {stream after : TransactionStream} {notice : Notice}
    (emits : Emits config stream notice after) :
    after.log = stream.log ∨
      ∃ frame ∈ after.stack, after.log = stream.log ++ [⟨frame.notice, frame.handler⟩] := by
  cases emits with
  | told continuation fits stack log last =>
      exact .inr ⟨_, by rw [stack]; exact List.mem_cons_self, log⟩
  | untold nobody mayClose => exact mayClose.log

/-- A step calls one handler at most, and the call is under way then. -/
theorem Voices.log {config : Config} {stream after : TransactionStream} {event : Event}
    (voiced : Voices config stream event after)
    (fits : ∀ frame ∈ stream.stack, frame.Fits stream.lastKnownTransaction) :
    after.log = stream.log ∨
      ∃ frame ∈ after.stack, after.log = stream.log ++ [⟨frame.notice, frame.handler⟩] := by
  cases voiced with
  | quiet quiet nothing => exact .inl quiet.log
  | stops notStopped mayClose nothing => exact mayClose.log
  | next frame rest under more called nothing =>
      rw [called]
      exact .inr ⟨_, List.mem_cons_self, rfl⟩
  | ends frame rest under last proceeds nothing =>
      exact (proceeds (fits frame (by simp [under])).after).log
  | fails base same idle message emits nothing =>
      rw [← same.log]
      exact emits.log
  | brings base idle log stack arrived came last update about emits =>
      rw [← log]
      exact emits.log
  | null idle log stack arrived came last about => exact .inl log

/-- Whenever a close handler is called, the event carries the last transaction that
came, and a terminal one if that is the reason. -/
theorem close_events_carry_last (config : Config) (events : List Event) (event : Event) :
    let before := TransactionStream.reached config events
    let after := TransactionStream.reached config (events ++ [event])
    let last := (transactionsReceived (visits config (events ++ [event]))).getLast?
    after.lastKnownTransaction = last ∧
      ∀ call ∈ after.log.drop before.log.length, ∀ closing, call.notice = .close closing →
        closing.lastTransaction = last ∧
          (closing.reason = .terminalStatus →
            ∃ tx, last = some tx ∧ isTerminalStatus (tx.get "status") = true) := by
  intro before after last
  have told : Told config (visits config (events ++ [event])) after :=
    told_reached config (events ++ [event])
  refine ⟨told.last, ?_⟩
  intro call new closing about
  have steps : after = before.step config event := reached_concat config events event
  have fits := (told_reached config events).fits
  rcases (step_voices config before event).log fits with same | ⟨frame, under, logged⟩
  · rw [steps, same, List.drop_length] at new
    exact absurd new List.not_mem_nil
  · rw [steps, logged, List.drop_left, List.mem_singleton] at new
    rw [new] at about
    have carried := (told.fits frame (steps ▸ under)).close closing about
    rw [told.last] at carried
    exact ⟨carried.last, carried.terminal⟩

theorem stopped_update_carried :
    ∃ closing : CloseEvent,
      (TransactionStream.reached twoHandlers (firstHandlerStops.take 4)).log.drop 1 =
          [⟨.close closing, 0⟩] ∧
        closing.lastTransaction =
          (transactionsReceived (visits twoHandlers (firstHandlerStops.take 4))).getLast? := by
  have carried := (close_events_carry_last twoHandlers (firstHandlerStops.take 3) .stop).2
  refine ⟨⟨.closedByCaller, some (.object [("status", .string "pending_anchor")]), none⟩,
    by rfl, ?_⟩
  exact (carried ⟨.close _, 0⟩ (by exact List.mem_cons_self) _ rfl).1

end AnchorKit.Sdk.Stream
