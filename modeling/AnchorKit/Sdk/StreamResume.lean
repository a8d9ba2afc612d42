import AnchorKit.Sdk.TransactionStream

/-!
# What a stream asks for when it reconnects

The id of the last message is kept over every connection and sent with the address of
the next one.  A message without an id has the empty id, which `??` does not pass over,
so that it wipes out the id that was kept.
-/

set_option autoImplicit false

namespace AnchorKit.Sdk.Stream

open AnchorKit.Base

/-! ## The address -/

structure Endpoint where
  transferServerUrl : String
  transactionId : String
  authToken : Option String

structure Url where
  path : String
  params : List (String × String)

def Url.param (url : Url) (name : String) : Option String :=
  url.params.lookup name

/-- The parameter is set if the value is truthy. -/
def truthyParam (name : String) (value : Option String) : List (String × String) :=
  ((value.filter (· != "")).map fun text => (name, text)).toList

def buildSseUrl (endpoint : Endpoint) (lastEventId : Option String) : Url where
  path := endpoint.transferServerUrl ++ "/transaction/stream"
  params := ("id", endpoint.transactionId) :: truthyParam "last_event_id" lastEventId ++
    truthyParam "auth_token" endpoint.authToken

theorem buildSseUrl_param (endpoint : Endpoint) (lastEventId : Option String) :
    (buildSseUrl endpoint lastEventId).param "last_event_id" =
      lastEventId.filter (· != "") := by
  have other : (truthyParam "auth_token" endpoint.authToken).lookup "last_event_id" = none := by
    unfold truthyParam
    cases endpoint.authToken.filter (· != "") with
    | none => rfl
    | some token => rfl
  unfold buildSseUrl Url.param truthyParam
  cases lastEventId.filter (· != "") with
  | none => exact other
  | some text => rfl

/-- A source keeps the id that its address was built with. -/
def Source.url (endpoint : Endpoint) (source : Source) : Url :=
  buildSseUrl endpoint source.lastEventId

/-! ## What a step does to the id and the sources -/

structure Resumes (stream after : TransactionStream) : Prop where
  lastEventId : after.lastEventId = stream.lastEventId
  sources : ∀ source ∈ after.sources,
    source ∈ stream.sources ∨ source.lastEventId = stream.lastEventId.filter (· != "")

structure Connects (stream after : TransactionStream) : Prop extends Resumes stream after where
  reconnectAttempts : after.reconnectAttempts = stream.reconnectAttempts
  stack : after.stack = stream.stack
  log : after.log = stream.log

section Transports

variable {stream middle after : TransactionStream}

theorem Resumes.of_same (lastEventId : after.lastEventId = stream.lastEventId)
    (sources : after.sources = stream.sources) : Resumes stream after :=
  ⟨lastEventId, fun _ member => .inl (sources ▸ member)⟩

theorem Resumes.of_filter (keeps : Source → Bool)
    (lastEventId : after.lastEventId = stream.lastEventId)
    (sources : after.sources = stream.sources.filter keeps) : Resumes stream after :=
  ⟨lastEventId, fun _ member => .inl (List.mem_of_mem_filter (sources ▸ member))⟩

theorem Resumes.trans (first : Resumes stream middle) (second : Resumes middle after) :
    Resumes stream after := by
  refine ⟨second.lastEventId.trans first.lastEventId, ?_⟩
  intro source member
  rcases second.sources source member with earlier | opened
  · exact first.sources source earlier
  · exact .inr (first.lastEventId ▸ opened)

theorem Connects.of_same (lastEventId : after.lastEventId = stream.lastEventId)
    (sources : after.sources = stream.sources)
    (reconnectAttempts : after.reconnectAttempts = stream.reconnectAttempts)
    (stack : after.stack = stream.stack) (log : after.log = stream.log) :
    Connects stream after :=
  ⟨.of_same lastEventId sources, reconnectAttempts, stack, log⟩

theorem Connects.trans (first : Connects stream middle) (second : Connects middle after) :
    Connects stream after :=
  ⟨first.toResumes.trans second.toResumes,
    second.reconnectAttempts.trans first.reconnectAttempts,
    second.stack.trans first.stack, second.log.trans first.log⟩

theorem sendRequest_connects (stream : TransactionStream) (mode : PollMode) :
    Connects stream (stream.sendRequest mode) :=
  .of_same rfl rfl rfl rfl rfl

theorem runLongPoll_connects (stream : TransactionStream) :
    Connects stream stream.runLongPoll := by
  unfold TransactionStream.runLongPoll
  split
  · exact .of_same rfl rfl rfl rfl rfl
  · exact sendRequest_connects stream .longPoll

theorem pollOnce_connects (stream : TransactionStream) : Connects stream stream.pollOnce := by
  unfold TransactionStream.pollOnce
  split
  · exact .of_same rfl rfl rfl rfl rfl
  · exact sendRequest_connects stream .polling

theorem runPollLoop_connects (stream : TransactionStream) :
    Connects stream stream.runPollLoop := by
  unfold TransactionStream.runPollLoop
  split
  · refine .trans ?_ (runLongPoll_connects _)
    exact .of_same rfl rfl rfl rfl rfl
  · refine .trans ?_ (pollOnce_connects _)
    exact .of_same rfl rfl rfl rfl rfl

theorem runSse_connects (stream : TransactionStream) (available : Bool) :
    Connects stream (stream.runSse available) := by
  unfold TransactionStream.runSse
  split
  · refine ⟨⟨rfl, ?_⟩, rfl, rfl, rfl⟩
    intro source member
    rcases List.mem_append.mp member with earlier | opened
    · exact .inl earlier
    · rw [List.mem_singleton.mp opened]
      exact .inr rfl
  · refine .trans ?_ (runPollLoop_connects _)
    exact .of_same rfl rfl rfl rfl rfl

theorem runLoop_connects (stream : TransactionStream) (available : Bool) :
    Connects stream (stream.runLoop available) := by
  unfold TransactionStream.runLoop
  split
  · exact .of_same rfl rfl rfl rfl rfl
  · split
    · exact runSse_connects stream available
    · exact runPollLoop_connects stream

end Transports

section Calls

variable (config : Config) (stream : TransactionStream)

theorem emitClose_resumes (event : CloseEvent) :
    Resumes stream (stream.emitClose config event) := by
  unfold TransactionStream.emitClose
  split
  · exact .of_same rfl rfl
  · exact .of_same rfl rfl

theorem scheduleReconnect_resumes : Resumes stream (stream.scheduleReconnect config) := by
  unfold TransactionStream.scheduleReconnect
  split
  · exact .of_same rfl rfl
  · split
    · refine .trans ?_ (emitClose_resumes config _ _)
      exact .of_same rfl rfl
    · exact .of_same rfl rfl

theorem pollAgain_resumes (mode : PollMode) : Resumes stream (stream.pollAgain config mode) := by
  cases mode with
  | longPoll =>
      unfold TransactionStream.pollAgain
      dsimp only
      split
      · exact .of_same rfl rfl
      · refine .trans ?_ (runLongPoll_connects _).toResumes
        exact .of_same rfl rfl
  | polling =>
      unfold TransactionStream.pollAgain
      dsimp only
      split
      · exact .of_same rfl rfl
      · exact .of_same rfl rfl

theorem shut_resumes (event : CloseEvent) :
    Resumes stream
      ({ stream with stopped := true, running := false }.cancelActive.emitClose config event) := by
  refine .trans ?_ (emitClose_resumes config _ event)
  exact .of_filter _ rfl rfl

theorem proceed_resumes (after : Continuation) :
    Resumes stream (stream.proceed config after) := by
  cases after with
  | done => exact .of_same rfl rfl
  | reconnect => exact scheduleReconnect_resumes config stream
  | processed tx terminal origin =>
      unfold TransactionStream.proceed
      dsimp only
      split
      · exact shut_resumes config stream _
      · cases origin with
        | none => exact .of_same rfl rfl
        | some mode => exact pollAgain_resumes config stream mode

theorem emit_resumes (notice : Notice) (after : Continuation) :
    Resumes stream (stream.emit config notice after) := by
  unfold TransactionStream.emit
  split
  · exact proceed_resumes config stream after
  · exact .of_same rfl rfl

theorem processTransaction_resumes (tx : Json) (origin : Option PollMode) :
    Resumes stream (stream.processTransaction config tx origin) := by
  unfold TransactionStream.processTransaction
  dsimp only
  split
  · exact .of_same rfl rfl
  · refine .trans ?_ (emit_resumes config _ _ _)
    exact .of_same rfl rfl

theorem onRawData_resumes (data : String) (parsed : Option Json) :
    Resumes stream (stream.onRawData config data parsed) := by
  cases parsed with
  | none => exact emit_resumes config stream _ _
  | some json => exact processTransaction_resumes config stream _ _

theorem returned_resumes : Resumes stream (stream.returned config) := by
  unfold TransactionStream.returned
  split
  · exact .of_same rfl rfl
  · split
    · exact .of_same rfl rfl
    · refine .trans ?_ (proceed_resumes config _ _)
      exact .of_same rfl rfl

theorem forget_resumes (request : Nat) : Resumes stream (stream.forget request) :=
  .of_same rfl rfl

theorem fetched_resumes (request : Request) (reply : Reply) :
    Resumes stream (stream.fetched config request reply) := by
  cases reply with
  | rejected isAbort reason =>
      unfold TransactionStream.fetched
      dsimp only
      split
      · exact forget_resumes stream _
      · split
        · exact forget_resumes stream _
        · exact (forget_resumes stream _).trans (emit_resumes config _ _ _)
  | response status =>
      unfold TransactionStream.fetched
      dsimp only
      split
      · exact forget_resumes stream _
      · split
        · refine .trans ?_ (runLoop_connects _ _).toResumes
          exact .of_same rfl rfl
        · split
          · exact (forget_resumes stream _).trans (emit_resumes config _ _ _)
          · exact .of_same rfl rfl

theorem bodyRead_resumes (request : Request) (body : Except String Json) :
    Resumes stream (stream.bodyRead config request body) := by
  cases body with
  | error reason => exact (forget_resumes stream _).trans (emit_resumes config _ _ _)
  | ok body =>
      unfold TransactionStream.bodyRead
      dsimp only
      split
      · exact forget_resumes stream _
      · split
        · exact (forget_resumes stream _).trans (processTransaction_resumes config _ _ _)
        · exact (forget_resumes stream _).trans (pollAgain_resumes config _ _)

theorem start_resumes (available : Bool) : Resumes stream (stream.start available) := by
  unfold TransactionStream.start
  split
  · exact .of_same rfl rfl
  · refine .trans ?_ (runLoop_connects _ _).toResumes
    exact .of_same rfl rfl

theorem stop_resumes : Resumes stream (stream.stop config) := by
  unfold TransactionStream.stop
  split
  · exact .of_same rfl rfl
  · exact shut_resumes config stream _

end Calls

/-! ## The ids that were received -/

def arrivingId (visit : TransactionStream × Event) : Option String :=
  match visit.2 with
  | .occurs (.message source lastEventId _ _) =>
      if visit.1.stack.isEmpty && visit.1.sources.any (·.number == source) then lastEventId
      else none
  | _ => none

/-- The ids that messages came with so far; no id is the empty id. -/
def receivedIds (visits : List (TransactionStream × Event)) : List String :=
  visits.filterMap fun visit => (arrivingId visit).filter (· != "")

/-- A message without an id comes after one with an id. -/
def losesId (visit : TransactionStream × Event) : Bool :=
  arrivingId visit == some "" && (visit.1.lastEventId.filter (· != "")).isSome

section Step

variable (config : Config) (stream : TransactionStream)

def TransactionStream.noted (stream : TransactionStream) (event : Event) : TransactionStream :=
  { stream with lastEventId := arrivingId (stream, event) <|> stream.lastEventId }

theorem occur_resumes {stream : TransactionStream} (quiet : stream.stack = [])
    (occurrence : Occurrence) :
    Resumes (stream.noted (.occurs occurrence)) (stream.occur config occurrence) := by
  cases occur_course config stream occurrence with
  | @unheard source lastEventId data parsed closed same =>
      have missed : arrivingId (stream, .occurs (.message source lastEventId data parsed)) =
          none := by
        exact if_neg (by rw [quiet]; exact closed)
      rw [same, TransactionStream.noted, missed]
      exact .of_same rfl rfl
  | @heard source lastEventId data parsed isOpen handled =>
      have arrives : arrivingId (stream, .occurs (.message source lastEventId data parsed)) =
          lastEventId := by
        exact if_pos (by rw [quiet]; exact isOpen)
      rw [handled, TransactionStream.noted, arrives]
      exact onRawData_resumes config _ data parsed
  | unnoticed closed same =>
      rw [same]
      exact .of_same rfl rfl
  | dropped isOpen handled =>
      rw [handled]
      refine .trans ?_ (emit_resumes config _ _ _)
      exact .of_filter _ rfl rfl
  | unasked unknown same =>
      rw [same]
      exact .of_same rfl rfl
  | replied own found handled =>
      rw [handled]
      exact fetched_resumes config stream own _
  | unread unknown same =>
      rw [same]
      exact .of_same rfl rfl
  | read own found handled =>
      rw [handled]
      exact bodyRead_resumes config stream own _
  | unarmed same =>
      rw [same]
      exact .of_same rfl rfl
  | looped handled =>
      rw [handled]
      refine .trans ?_ (runLoop_connects _ _).toResumes
      exact .of_same rfl rfl
  | polled handled =>
      rw [handled]
      refine .trans ?_ (pollOnce_connects _).toResumes
      exact .of_same rfl rfl

theorem step_resumes (event : Event) :
    Resumes (stream.noted event) (stream.step config event) := by
  cases event with
  | start available => exact start_resumes stream available
  | stop => exact stop_resumes config stream
  | handlerReturns => exact returned_resumes config stream
  | occurs occurrence =>
      unfold TransactionStream.step
      dsimp only
      split
      · rename_i quiet
        exact occur_resumes config (List.isEmpty_iff.mp quiet) occurrence
      · rename_i busy
        have missed : arrivingId (stream, .occurs occurrence) = none := by
          unfold arrivingId
          dsimp only
          split
          · exact if_neg (by simp [busy])
          · rfl
        rw [TransactionStream.noted, missed]
        exact .of_same rfl rfl

def Remembers (past : List (TransactionStream × Event)) (stream : TransactionStream) : Prop :=
  stream.lastEventId.filter (· != "") = (receivedIds past).getLast?

theorem receivedIds_concat (past : List (TransactionStream × Event))
    (visit : TransactionStream × Event) :
    (receivedIds (past ++ [visit])).getLast? =
      ((arrivingId visit).filter (· != "")).or (receivedIds past).getLast? := by
  rw [receivedIds, List.filterMap_append, List.getLast?_append, receivedIds]
  cases given : (arrivingId visit).filter (· != "") with
  | none => simp [given]
  | some id => simp [given]

theorem Remembers.step {stream : TransactionStream} {past : List (TransactionStream × Event)}
    (remembers : Remembers past stream) (event : Event)
    (keeps : losesId (stream, event) = false) :
    Remembers (past ++ [(stream, event)]) (stream.step config event) := by
  unfold Remembers at remembers ⊢
  rw [(step_resumes config stream event).lastEventId, receivedIds_concat, ← remembers]
  unfold TransactionStream.noted
  dsimp only
  cases arrives : arrivingId (stream, event) with
  | none => rfl
  | some id =>
      by_cases empty : id = ""
      · -- nothing is lost, because nothing was kept
        have nothing : stream.lastEventId.filter (· != "") = none := by
          rw [losesId, arrives, empty, beq_self_eq_true, Bool.true_and] at keeps
          exact Option.isNone_iff_eq_none.mp (Option.isSome_eq_false_iff.mp keeps)
        rw [nothing, empty]
        rfl
      · have given : (some id).filter (· != "") = some id := by
          simp [Option.filter, empty]
        rw [given, Option.some_or]
        exact given

end Step

/-- A source that is opened asks for what came after the last id that was received, and
asks for everything only if none was received. -/
theorem reconnects_resume (config : Config) (endpoint : Endpoint) (events : List Event)
    (event : Event) (source : Source)
    (keeps : ∀ visit ∈ visits config (events ++ [event]), losesId visit = false)
    (opened : source ∈ (TransactionStream.reached config (events ++ [event])).sources)
    (fresh : source ∉ (TransactionStream.reached config events).sources) :
    (source.url endpoint).param "last_event_id" =
      (receivedIds (visits config (events ++ [event]))).getLast? := by
  have remembers : Remembers (visits config (events ++ [event]))
      (TransactionStream.reached config (events ++ [event])) :=
    Machine.history_invariant (TransactionStream.step config) Remembers (events ++ [event]) _
      (fun past visit member before => before.step config visit.2 (keeps visit member)) rfl
  have resumes := step_resumes config (TransactionStream.reached config events) event
  rw [reached_concat] at opened remembers
  rcases resumes.sources source opened with earlier | carried
  · exact absurd earlier fresh
  · rw [Source.url, buildSseUrl_param, carried, ← remembers, resumes.lastEventId,
      Option.filter_filter]
    simp only [Bool.and_self]

def sseConfig : Config where
  preferredMode := .sse
  pollingIntervalMs := 5000
  maxReconnectAttempts := .finite 10
  initialReconnectDelayMs := 1000
  maxReconnectDelayMs := 30000
  updateHandlers := 1
  closeHandlers := 1
  errorHandlers := 1

def sampleEndpoint : Endpoint := ⟨"https://anchor.example.com", "abc123", none⟩

def pendingMessage (source : Nat) (lastEventId : String) : Event :=
  .occurs (.message source (some lastEventId) "\x7b\"status\":\"pending_anchor\"\x7d"
    (some (.object [("status", .string "pending_anchor")])))

def droppedRun : List Event :=
  [.start true, pendingMessage 0 "event-id-42", .handlerReturns, .occurs (.sourceFails 0),
    .handlerReturns]

theorem droppedRun_resumes :
    (Source.url sampleEndpoint ⟨2, some "event-id-42"⟩).param "last_event_id" =
      (receivedIds (visits sseConfig (droppedRun ++ [.occurs (.timerFires 1 true)]))).getLast? :=
  reconnects_resume sseConfig sampleEndpoint droppedRun (.occurs (.timerFires 1 true))
    ⟨2, some "event-id-42"⟩ (by decide +kernel) List.mem_cons_self List.not_mem_nil

/-- On the second connection a message without an id comes, before it drops as well. -/
def idlessRun : List Event :=
  droppedRun ++ [.occurs (.timerFires 1 true), pendingMessage 2 "", .handlerReturns,
    .occurs (.sourceFails 2), .handlerReturns]

theorem idlessRun_starts_over :
    (TransactionStream.reached sseConfig idlessRun).sources = [] ∧
      (TransactionStream.reached sseConfig
        (idlessRun ++ [.occurs (.timerFires 3 true)])).sources = [⟨4, none⟩] ∧
      (Source.url sampleEndpoint ⟨4, none⟩).param "last_event_id" = none ∧
      (receivedIds (visits sseConfig
        (idlessRun ++ [.occurs (.timerFires 3 true)]))).getLast? = some "event-id-42" :=
  ⟨rfl, rfl, rfl, by decide +kernel⟩

end AnchorKit.Sdk.Stream
