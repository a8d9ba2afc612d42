import AnchorKit.Base.Machine
import AnchorKit.Sdk.StreamingService

/-!
# The transaction stream of `sep6Stream.ts`

Everything the event loop runs to its end is one step, except that a handler may call
`start` and `stop`: a step ends where a handler begins.  `stack` holds the calls of
`emitUpdate`, `emitError` and `emitClose` that are under way, the innermost first, and
with each what follows it; what a handler throws is swallowed, so a handler just
returns.  Only with an empty stack do messages, replies, bodies and timers arrive.

A source, a request and a timer are known by the number they were created with.  The
lists hold the sources that are open, the requests that are in flight and the timers
that are armed.  Handlers are registered before the first call.  The identifier of the
transaction is assumed to be one that `encodeURIComponent` takes, with no lone surrogate:
otherwise every `pollOnce` would end before its request.
-/

set_option autoImplicit false

namespace AnchorKit.Sdk.Stream

open AnchorKit.Base
open AnchorKit.Sdk.Streaming (isTerminalStatus)

inductive StreamMode where
  | sse
  | longPoll
  | polling
  deriving DecidableEq, Repr

inductive PollMode where
  | longPoll
  | polling
  deriving DecidableEq, Repr

def PollMode.mode : PollMode → StreamMode
  | .longPoll => .longPoll
  | .polling => .polling

structure StatusUpdate where
  transaction : Json
  mode : StreamMode
  terminal : Bool

inductive CloseReason where
  | terminalStatus
  | maxReconnectAttempts
  | closedByCaller
  deriving DecidableEq, Repr

structure CloseEvent where
  reason : CloseReason
  lastTransaction : Value
  error : Option String

inductive Notice where
  | update (update : StatusUpdate)
  | error (message : String)
  | close (event : CloseEvent)

def Notice.isClose : Notice → Bool
  | .close _ => true
  | _ => false

structure Config where
  preferredMode : StreamMode
  pollingIntervalMs : ℚ
  maxReconnectAttempts : Number
  initialReconnectDelayMs : ℚ
  maxReconnectDelayMs : ℚ
  updateHandlers : Nat
  closeHandlers : Nat
  errorHandlers : Nat

def Config.handlers (config : Config) : Notice → Nat
  | .update _ => config.updateHandlers
  | .error _ => config.errorHandlers
  | .close _ => config.closeHandlers

structure Invocation where
  notice : Notice
  handler : Nat

/-- What follows a call of `emitUpdate`, `emitError` or `emitClose`; a transaction
that came over SSE has no origin that polls. -/
inductive Continuation where
  | done
  | reconnect
  | processed (tx : Json) (terminal : Bool) (origin : Option PollMode)

structure Frame where
  notice : Notice
  handler : Nat
  after : Continuation

structure Source where
  number : Nat
  lastEventId : Option String

structure Request where
  number : Nat
  mode : PollMode
  aborted : Bool
  /-- The response has come, and its body is being read. -/
  reading : Bool

inductive Task where
  | runLoop
  | pollOnce
  deriving DecidableEq, Repr

structure Timer where
  number : Nat
  task : Task
  delay : ℚ

structure TransactionStream where
  currentMode : StreamMode
  sseSupported : Bool
  longPollSupported : Bool
  running : Bool
  stopped : Bool
  reconnectAttempts : Nat
  lastEventId : Option String
  lastKnownTransaction : Value
  activeEventSource : Option Nat
  activeAbortController : Option Nat
  reconnectTimer : Option Nat
  sources : List Source
  requests : List Request
  timers : List Timer
  next : Nat
  stack : List Frame
  log : List Invocation

def TransactionStream.create (config : Config) : TransactionStream where
  currentMode := config.preferredMode
  sseSupported := config.preferredMode == .sse
  longPollSupported := config.preferredMode != .polling
  running := false
  stopped := false
  reconnectAttempts := 0
  lastEventId := none
  lastKnownTransaction := none
  activeEventSource := none
  activeAbortController := none
  reconnectTimer := none
  sources := []
  requests := []
  timers := []
  next := 0
  stack := []
  log := []

inductive Reply where
  | response (status : Nat)
  | rejected (isAbort : Bool) (reason : String)

/-- What the event loop may run while no handler is running.  A message that is no
JSON has no parsed value. -/
inductive Occurrence where
  | message (source : Nat) (lastEventId : Option String) (data : String) (parsed : Option Json)
  | sourceFails (source : Nat)
  | fetchSettles (request : Nat) (reply : Reply)
  | bodySettles (request : Nat) (body : Except String Json)
  | timerFires (timer : Nat) (available : Bool)

/-- `available` says whether an `EventSource` can be created, should one be. -/
inductive Event where
  | start (available : Bool)
  | stop
  | handlerReturns
  | occurs (occurrence : Occurrence)

/-- `value?.[0]`. -/
def firstItem : Value → Value
  | some (.array items) => items.head?
  | some (.string text) => text.toList.head?.map fun char => .string (String.singleton char)
  | some (.object members) => members.lookup "0"
  | _ => none

/-- The transaction in the body of a reply; `none` where reading it throws. -/
def transactionIn : PollMode → Json → Option Value
  | _, .null => none
  | .longPoll, body => some (firstItem (body.get "transactions"))
  | .polling, body => some (body.get "transaction")

/-- The transaction in a message: wrapped or not. -/
def messageTransaction : Json → Json
  | .object members => (members.lookup "transaction").getD (.object members)
  | parsed => parsed

namespace TransactionStream

/-! ## The transports -/

def setTimer (stream : TransactionStream) (task : Task) (delay : ℚ) : TransactionStream :=
  { stream with
    timers := stream.timers ++ [⟨stream.next, task, delay⟩]
    reconnectTimer := some stream.next
    next := stream.next + 1 }

/-- Up to the `await` of `fetch`. -/
def sendRequest (stream : TransactionStream) (mode : PollMode) : TransactionStream :=
  { stream with
    requests := stream.requests ++ [⟨stream.next, mode, false, false⟩]
    activeAbortController := some stream.next
    next := stream.next + 1 }

def runLongPoll (stream : TransactionStream) : TransactionStream :=
  if stream.stopped then stream else stream.sendRequest .longPoll

def pollOnce (stream : TransactionStream) : TransactionStream :=
  if stream.stopped then stream else stream.sendRequest .polling

/-- The branches of `runLoop` other than SSE. -/
def runPollLoop (stream : TransactionStream) : TransactionStream :=
  if stream.longPollSupported && stream.currentMode != .polling then
    { stream with currentMode := .longPoll }.runLongPoll
  else { stream with currentMode := .polling }.pollOnce

def runSse (stream : TransactionStream) (available : Bool) : TransactionStream :=
  if available then
    { stream with
      sources := stream.sources ++ [⟨stream.next, stream.lastEventId.filter (· != "")⟩]
      activeEventSource := some stream.next
      next := stream.next + 1 }
  else
    -- `runLoop` is called again, and SSE is out of the question
    { stream with
      sseSupported := false
      currentMode := if stream.longPollSupported then .longPoll else .polling }.runPollLoop

def runLoop (stream : TransactionStream) (available : Bool) : TransactionStream :=
  if stream.stopped then stream
  else if stream.sseSupported && stream.currentMode == .sse then stream.runSse available
  else stream.runPollLoop

def cancelActive (stream : TransactionStream) : TransactionStream :=
  { stream with
    sources := stream.sources.filter fun source =>
      stream.activeEventSource != some source.number
    activeEventSource := none
    requests := stream.requests.map fun request =>
      if stream.activeAbortController = some request.number then
        { request with aborted := true }
      else request
    activeAbortController := none
    timers := stream.timers.filter fun timer => stream.reconnectTimer != some timer.number
    reconnectTimer := none }

/-! ## Notices -/

def call (stream : TransactionStream) (frame : Frame) : TransactionStream :=
  { stream with
    stack := frame :: stream.stack
    log := stream.log ++ [⟨frame.notice, frame.handler⟩] }

def emitClose (config : Config) (stream : TransactionStream) (event : CloseEvent) :
    TransactionStream :=
  if config.closeHandlers = 0 then stream else stream.call ⟨.close event, 0, .done⟩

def scheduleReconnect (config : Config) (stream : TransactionStream) : TransactionStream :=
  if stream.stopped then stream
  else if config.maxReconnectAttempts.atMost stream.reconnectAttempts then
    { stream with stopped := true, running := false }.emitClose config
      { reason := .maxReconnectAttempts
        lastTransaction := stream.lastKnownTransaction
        error := some ("Gave up after " ++ toString stream.reconnectAttempts ++
          " reconnect attempt(s)") }
  else
    { stream with reconnectAttempts := stream.reconnectAttempts + 1 }.setTimer .runLoop
      (min (config.initialReconnectDelayMs * 2 ^ stream.reconnectAttempts)
        config.maxReconnectDelayMs)

/-- The end of `runLongPoll` and of `pollOnce`. -/
def pollAgain (config : Config) (stream : TransactionStream) : PollMode → TransactionStream
  | .longPoll =>
      if stream.stopped then stream else { stream with reconnectAttempts := 0 }.runLongPoll
  | .polling =>
      if stream.stopped then stream
      else { stream with reconnectAttempts := 0 }.setTimer .pollOnce config.pollingIntervalMs

def proceed (config : Config) (stream : TransactionStream) : Continuation → TransactionStream
  | .done => stream
  | .reconnect => stream.scheduleReconnect config
  | .processed tx terminal origin =>
      if terminal then
        { stream with stopped := true, running := false }.cancelActive.emitClose config
          ⟨.terminalStatus, some tx, none⟩
      else
        match origin with
        | none => stream
        | some mode => stream.pollAgain config mode

/-- `emitUpdate` and `emitError`, with what follows them. -/
def emit (config : Config) (stream : TransactionStream) (notice : Notice)
    (after : Continuation) : TransactionStream :=
  if config.handlers notice = 0 then stream.proceed config after
  else stream.call ⟨notice, 0, after⟩

def processTransaction (config : Config) (stream : TransactionStream) (tx : Json)
    (origin : Option PollMode) : TransactionStream :=
  let stream := { stream with lastKnownTransaction := some tx }
  match tx with
  | .null => stream -- reading its status throws
  | tx =>
      let terminal := isTerminalStatus (tx.get "status")
      stream.emit config (.update ⟨tx, origin.elim .sse PollMode.mode, terminal⟩)
        (.processed tx terminal origin)

def onRawData (config : Config) (stream : TransactionStream) (data : String) :
    Option Json → TransactionStream
  | none => stream.emit config (.error ("Failed to parse SSE data: " ++ data)) .done
  | some parsed => stream.processTransaction config (messageTransaction parsed) none

/-- The handler that is running returns: the next one is called, or the loop ends. -/
def returned (config : Config) (stream : TransactionStream) : TransactionStream :=
  match stream.stack with
  | [] => stream
  | frame :: rest =>
      if frame.handler + 1 < config.handlers frame.notice then
        { stream with stack := rest }.call { frame with handler := frame.handler + 1 }
      else { stream with stack := rest }.proceed config frame.after

/-! ## Replies -/

def forget (stream : TransactionStream) (request : Nat) : TransactionStream :=
  { stream with requests := stream.requests.filter (·.number != request) }

def fetched (config : Config) (stream : TransactionStream) (request : Request) :
    Reply → TransactionStream
  | .rejected isAbort reason =>
      let stream := stream.forget request.number
      if stream.stopped then stream
      else if isAbort then stream
      else stream.emit config (.error reason) .reconnect
  | .response status =>
      if stream.stopped then stream.forget request.number
      else if request.mode = .longPoll ∧ (status = 404 ∨ status = 405) then
        -- the mode is now polling, so that `runLoop` creates no source
        { stream.forget request.number with
          longPollSupported := false, currentMode := .polling }.runLoop false
      else if status < 200 ∨ 300 ≤ status then
        (stream.forget request.number).emit config
          (.error ((match request.mode with
            | .longPoll => "Long-poll request failed: HTTP "
            | .polling => "Poll request failed: HTTP ") ++ toString status)) .reconnect
      else
        { stream with
          requests := stream.requests.map fun other =>
            if other.number = request.number then { other with reading := true } else other }

/-- `response.json()` of a request has settled; whether the stream was stopped in the
meantime is not looked at. -/
def bodyRead (config : Config) (stream : TransactionStream) (request : Request) :
    Except String Json → TransactionStream
  | .error reason =>
      (stream.forget request.number).emit config
        (.error ((match request.mode with
          | .longPoll => "Failed to parse long-poll response: "
          | .polling => "Failed to parse poll response: ") ++ reason)) .reconnect
  | .ok body =>
      match transactionIn request.mode body with
      | none => stream.forget request.number -- the `TypeError` ends the function
      | some found =>
          match found.filter Json.truthy with
          | some tx =>
              (stream.forget request.number).processTransaction config tx (some request.mode)
          | none => (stream.forget request.number).pollAgain config request.mode

/-! ## The stream -/

def start (stream : TransactionStream) (available : Bool) : TransactionStream :=
  if stream.running || stream.stopped then stream
  else { stream with running := true, reconnectAttempts := 0 }.runLoop available

def stop (config : Config) (stream : TransactionStream) : TransactionStream :=
  if stream.stopped then stream
  else
    { stream with stopped := true, running := false }.cancelActive.emitClose config
      ⟨.closedByCaller, stream.lastKnownTransaction, none⟩

def occur (config : Config) (stream : TransactionStream) : Occurrence → TransactionStream
  | .message source lastEventId data parsed =>
      if stream.sources.any (·.number == source) then
        { stream with lastEventId := lastEventId <|> stream.lastEventId }.onRawData config
          data parsed
      else stream
  | .sourceFails source =>
      if stream.sources.any (·.number == source) then
        { stream with
          activeEventSource := none
          sources := stream.sources.filter (·.number != source) }.emit config
            (.error "SSE connection dropped") .reconnect
      else stream
  | .fetchSettles request reply =>
      match stream.requests.find? fun own => own.number == request && !own.reading with
      | none => stream
      | some own => stream.fetched config own reply
  | .bodySettles request body =>
      match stream.requests.find? fun own => own.number == request && own.reading with
      | none => stream
      | some own => stream.bodyRead config own body
  | .timerFires timer available =>
      match stream.timers.find? (·.number == timer) with
      | none => stream
      | some own =>
          let stream := { stream with timers := stream.timers.filter (·.number != timer) }
          match own.task with
          | .runLoop => stream.runLoop available
          | .pollOnce => stream.pollOnce

def step (config : Config) (stream : TransactionStream) : Event → TransactionStream
  | .start available => stream.start available
  | .stop => stream.stop config
  | .handlerReturns => stream.returned config
  | .occurs occurrence =>
      if stream.stack.isEmpty then stream.occur config occurrence else stream

def run (config : Config) (stream : TransactionStream) (events : List Event) :
    TransactionStream :=
  Machine.run (step config) stream events

def reached (config : Config) (events : List Event) : TransactionStream :=
  (create config).run config events

end TransactionStream

def visits (config : Config) (events : List Event) : List (TransactionStream × Event) :=
  Machine.visits (TransactionStream.step config) (TransactionStream.create config) events

theorem reached_concat (config : Config) (events : List Event) (event : Event) :
    TransactionStream.reached config (events ++ [event]) =
      (TransactionStream.reached config events).step config event :=
  Machine.run_append (TransactionStream.step config) _ events [event]

theorem visits_concat (config : Config) (events : List Event) (event : Event) :
    visits config (events ++ [event]) =
      visits config events ++ [(TransactionStream.reached config events, event)] :=
  Machine.visits_append (TransactionStream.step config) _ events [event]

/-- What an occurrence leads to: it is missed, or one function handles it. -/
inductive Course (config : Config) (stream after : TransactionStream) : Occurrence → Prop
  | unheard {source : Nat} {lastEventId : Option String} {data : String} {parsed : Option Json}
      (closed : ¬ (stream.sources.any (·.number == source)) = true) (same : after = stream) :
      Course config stream after (.message source lastEventId data parsed)
  | heard {source : Nat} {lastEventId : Option String} {data : String} {parsed : Option Json}
      (isOpen : (stream.sources.any (·.number == source)) = true)
      (handled : after = TransactionStream.onRawData config
        { stream with lastEventId := lastEventId <|> stream.lastEventId } data parsed) :
      Course config stream after (.message source lastEventId data parsed)
  | unnoticed {source : Nat} (closed : ¬ (stream.sources.any (·.number == source)) = true)
      (same : after = stream) : Course config stream after (.sourceFails source)
  | dropped {source : Nat} (isOpen : (stream.sources.any (·.number == source)) = true)
      (handled : after = TransactionStream.emit config
        { stream with
          activeEventSource := none
          sources := stream.sources.filter (·.number != source) }
        (.error "SSE connection dropped") .reconnect) :
      Course config stream after (.sourceFails source)
  | unasked {request : Nat} {reply : Reply}
      (unknown : (stream.requests.find? fun own => own.number == request && !own.reading) = none)
      (same : after = stream) : Course config stream after (.fetchSettles request reply)
  | replied {request : Nat} {reply : Reply} (own : Request)
      (found : (stream.requests.find? fun own => own.number == request && !own.reading) =
        some own)
      (handled : after = stream.fetched config own reply) :
      Course config stream after (.fetchSettles request reply)
  | unread {request : Nat} {body : Except String Json}
      (unknown : (stream.requests.find? fun own => own.number == request && own.reading) = none)
      (same : after = stream) : Course config stream after (.bodySettles request body)
  | read {request : Nat} {body : Except String Json} (own : Request)
      (found : (stream.requests.find? fun own => own.number == request && own.reading) =
        some own)
      (handled : after = stream.bodyRead config own body) :
      Course config stream after (.bodySettles request body)
  | unarmed {timer : Nat} {available : Bool} (same : after = stream) :
      Course config stream after (.timerFires timer available)
  | looped {timer : Nat} {available : Bool}
      (handled : after = TransactionStream.runLoop
        { stream with timers := stream.timers.filter (·.number != timer) } available) :
      Course config stream after (.timerFires timer available)
  | polled {timer : Nat} {available : Bool}
      (handled : after = TransactionStream.pollOnce
        { stream with timers := stream.timers.filter (·.number != timer) }) :
      Course config stream after (.timerFires timer available)

theorem occur_course (config : Config) (stream : TransactionStream) (occurrence : Occurrence) :
    Course config stream (stream.occur config occurrence) occurrence := by
  cases occurrence with
  | message source lastEventId data parsed =>
      by_cases isOpen : (stream.sources.any (·.number == source)) = true
      · exact .heard isOpen (if_pos isOpen)
      · exact .unheard isOpen (if_neg isOpen)
  | sourceFails source =>
      by_cases isOpen : (stream.sources.any (·.number == source)) = true
      · exact .dropped isOpen (if_pos isOpen)
      · exact .unnoticed isOpen (if_neg isOpen)
  | fetchSettles request reply =>
      cases found : stream.requests.find? fun own => own.number == request && !own.reading with
      | none => exact .unasked found (by rw [TransactionStream.occur, found])
      | some own => exact .replied own found (by rw [TransactionStream.occur, found])
  | bodySettles request body =>
      cases found : stream.requests.find? fun own => own.number == request && own.reading with
      | none => exact .unread found (by rw [TransactionStream.occur, found])
      | some own => exact .read own found (by rw [TransactionStream.occur, found])
  | timerFires timer available =>
      cases found : stream.timers.find? (·.number == timer) with
      | none => exact .unarmed (by rw [TransactionStream.occur, found])
      | some own =>
          cases task : own.task with
          | runLoop => exact .looped (by rw [TransactionStream.occur, found]; simp only [task])
          | pollOnce => exact .polled (by rw [TransactionStream.occur, found]; simp only [task])

end AnchorKit.Sdk.Stream
