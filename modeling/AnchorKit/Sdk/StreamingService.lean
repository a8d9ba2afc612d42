import AnchorKit.Base.Machine
import AnchorKit.Sdk.Values
import Mathlib.Data.List.AList

/-!
# The streaming service of `sep6Streaming.ts`

A watcher is an object of the heap: connections, timers and polls hold the object,
the map `watchers` finds it by its transaction id.  Here objects are numbers, the
places of the watchers in the order of their creation, and a handle is the number of
the watcher it was returned for.

Everything that runs between two turns of the event loop is one step.  A callback may
call the service again, so a step ends where a callback begins; `calling` says what
is left to do when it returns, and until then nothing but calls can happen.  Timers,
replies and frames may come at any time: delays are not modelled.  The two awaits of
`_fetchTransaction` are one, since nothing is read between them, and the time stamp
of an event is left out.
-/

set_option autoImplicit false

namespace AnchorKit.Sdk.Streaming

open AnchorKit.Base

def terminalStatuses : List String :=
  ["completed", "refunded", "expired", "error", "no_market", "too_small", "too_large"]

/-- `TERMINAL_STATUSES.has(status)`. -/
def isTerminalStatus : Value → Bool
  | some (.string status) => terminalStatuses.contains status
  | _ => false

structure Config where
  maxWatched : Number
  reconnectDelay : ℚ
  maxReconnectDelay : ℚ
  preferSse : Option Bool
  eventSourceAvailable : Bool
  /-- Whether the address of a stream with this cursor can be written. -/
  addressable : Option Json → Bool
  hasSignal : Bool

/-- Whether `new URL`, the parameters and `new EventSource` throw nothing. -/
def Config.opens (config : Config) (cursor : Option Json) : Bool :=
  config.eventSourceAvailable && config.addressable cursor

def Config.nextBackoff (config : Config) (backoff : ℚ) : ℚ :=
  min (if backoff = 0 then config.reconnectDelay else backoff * 2) config.maxReconnectDelay

inductive Transport where
  | sse
  | poll
  deriving DecidableEq, Repr

structure TransactionStreamEvent where
  transactionId : Value
  previousStatus : Value
  status : Value
  transaction : Json
  isTerminal : Bool
  transport : Transport

structure TransactionStreamError where
  transactionId : String
  code : String
  message : String
  recoverable : Bool
  deriving DecidableEq, Repr

inductive Notification where
  | event (watcher : Nat) (event : TransactionStreamEvent)
  | error (watcher : Nat) (error : TransactionStreamError)

/-! ## Watchers -/

structure WatcherState where
  transactionId : String
  lastStatus : Value
  cursor : Value
  hasOnError : Bool
  active : Bool

def WatcherState.new (transactionId : String) (hasOnError : Bool) : WatcherState where
  transactionId := transactionId
  lastStatus := some .null
  cursor := some .null
  hasOnError := hasOnError
  active := true

/-- The watchers created so far, and the map that tracks the current ones. -/
structure Registry where
  states : List WatcherState
  watchers : AList fun _ : String => Nat

namespace Registry

def isActive (registry : Registry) (number : Nat) : Bool :=
  (registry.states[number]?).any (·.active)

def add (registry : Registry) (transactionId : String) (hasOnError : Bool) : Registry where
  states := registry.states ++ [WatcherState.new transactionId hasOnError]
  watchers := registry.watchers.insert transactionId registry.states.length

def remove (registry : Registry) (transactionId : String) : Registry :=
  match registry.watchers.lookup transactionId with
  | none => registry
  | some number =>
      { states := registry.states.modify number fun state => { state with active := false }
        watchers := registry.watchers.erase transactionId }

/-- `_removeWatcher` for every key of the map. -/
def clear (registry : Registry) : Registry :=
  registry.watchers.keys.foldl remove registry

/-- What a dispatched transaction leaves in its watcher. -/
def note (registry : Registry) (number : Nat) (lastStatus cursor : Value) : Registry :=
  { registry with
    states := registry.states.modify number fun state =>
      { state with lastStatus := lastStatus, cursor := cursor } }

/-- `[...this.watchers.values()].filter((w) => w.active)`. -/
def activeWatchers (registry : Registry) : List Nat :=
  (registry.watchers.entries.map (·.2)).filter registry.isActive

end Registry

/-! ## The shared poll loop -/

/-- The armed poll timers, the handle of the last one, and for every poll cycle that
is in flight the watchers whose poll has not settled. -/
structure PollLoop where
  timers : List Nat
  nextTimer : Nat
  pollTimerId : Option Nat
  pollLoopRunning : Bool
  cycles : List (List Nat)

namespace PollLoop

/-- `clearTimeout(this.pollTimerId)`, unless it is `null`. -/
def clearTimer (loop : PollLoop) : PollLoop :=
  { loop with timers := loop.timers.filter fun timer => loop.pollTimerId != some timer }

def schedulePoll (loop : PollLoop) : PollLoop :=
  let cleared := loop.clearTimer
  { cleared with
    timers := loop.nextTimer :: cleared.timers
    nextTimer := loop.nextTimer + 1
    pollTimerId := some loop.nextTimer }

def ensurePollLoop (loop : PollLoop) : PollLoop :=
  if loop.pollLoopRunning then loop
  else { loop with pollLoopRunning := true }.schedulePoll

/-- What `destroy` does to the loop. -/
def halt (loop : PollLoop) : PollLoop :=
  { loop.clearTimer with pollTimerId := none, pollLoopRunning := false }

/-- The timer has fired: `_runPollCycle` up to its `await`. -/
def runPollCycle (loop : PollLoop) (timer : Nat) (aborted : Bool) (active : List Nat) :
    PollLoop :=
  let fired := { loop with timers := loop.timers.erase timer }
  if aborted then { fired with pollLoopRunning := false }
  else if active.isEmpty then { fired with pollLoopRunning := false }
  else { fired with cycles := fired.cycles ++ [active] }

def settle (loop : PollLoop) (cycle number : Nat) : PollLoop :=
  { loop with cycles := loop.cycles.modify cycle (·.erase number) }

/-- `_runPollCycle` after its `await`. -/
def complete (loop : PollLoop) (cycle : Nat) (goOn : Bool) : PollLoop :=
  let rest := { loop with cycles := loop.cycles.eraseIdx cycle }
  if goOn then rest.schedulePoll else { rest with pollLoopRunning := false }

end PollLoop

/-! ## The service -/

/-- The promise that `detectCapabilities` keeps. -/
inductive Capability where
  | unasked
  | detecting
  | known (supportsSse : Bool)
  deriving DecidableEq, Repr

def Capability.ask (config : Config) : Capability → Capability
  | .unasked =>
      match config.preferSse with
      | some supportsSse => .known supportsSse
      | none => if config.eventSourceAvailable then .detecting else .known false
  | asked => asked

structure Connection where
  watcher : Nat
  backoff : ℚ
  cursor : Option Json
  isOpen : Bool

/-- What is left to do when the callback that is running returns. -/
inductive Frame where
  | afterEvent (watcher : Nat) (isTerminal : Bool) (transport : Transport)
  | afterPollError (watcher : Nat)
  | afterSseError (watcher : Nat) (backoff : ℚ)
  deriving DecidableEq

structure Service where
  registry : Registry
  loop : PollLoop
  capability : Capability
  /-- The calls of `_startWatcher` that wait for the capabilities. -/
  starting : List Nat
  /-- The watchers whose `_startWatcher` has completed. -/
  started : List Nat
  connections : List Connection
  reconnects : List (Nat × ℚ)
  aborted : Bool
  calling : Option Frame
  log : List Notification

def Service.create : Service where
  registry := ⟨[], ∅⟩
  loop := ⟨[], 0, none, false, []⟩
  capability := .unasked
  starting := []
  started := []
  connections := []
  reconnects := []
  aborted := false
  calling := none
  log := []

inductive Api where
  | watch (transactionId : String) (hasOnError : Bool)
  | unsubscribe (handle : Nat)
  | destroy
  | abort
  deriving DecidableEq, Repr

/-- How `_fetchTransaction` ends.  A body that cannot be read is `none`; `reason` is
the text of the error thrown over it. -/
inductive PollReply where
  | response (status : Nat) (statusText : String) (body : Option Json) (reason : String)
  | rejected (reason : String)

def PollReply.transaction : PollReply → Except String (Option Json)
  | .response status statusText body reason =>
      if status = 404 then .ok none
      else if status < 200 ∨ 300 ≤ status then
        .error ("Error: HTTP " ++ toString status ++ ": " ++ statusText)
      else
        match body.bind (Json.unwrap "transaction") with
        | some tx => .ok (some tx)
        | none => .error reason
  | .rejected reason => .error reason

/-- What the event loop may run next while no callback is running. -/
inductive Occurrence where
  | detected (supportsSse : Bool)
  | startResumes (watcher : Nat)
  | message (connection : Nat) (data : Option Json)
  | sseError (connection : Nat)
  | reconnectFires (index : Nat)
  | pollTimerFires (timer : Nat)
  | pollSettles (cycle watcher : Nat) (reply : PollReply)
  | cycleCompletes (cycle : Nat)

inductive Event where
  | call (api : Api)
  /-- The running callback returns, or throws an error with this text. -/
  | returns (thrown : Option String)
  | occurs (occurrence : Occurrence)

namespace Service

def destroy (service : Service) : Service :=
  { service with
    registry := service.registry.clear
    loop := service.loop.halt }

def invoke (config : Config) (service : Service) : Api → Service
  | .watch transactionId hasOnError =>
      -- the limit is checked before anything is done, and exceeding it throws
      if config.maxWatched.atMost service.registry.watchers.entries.length then service
      else
        { service with
          registry := service.registry.add transactionId hasOnError
          capability := service.capability.ask config
          starting := service.starting ++ [service.registry.states.length] }
  | .unsubscribe handle =>
      match service.registry.states[handle]? with
      | none => service
      | some state =>
          { service with registry := service.registry.remove state.transactionId }
  | .destroy => service.destroy
  | .abort =>
      if config.hasSignal && !service.aborted then
        { service.destroy with
          aborted := true
          connections := service.connections.map fun connection =>
            { connection with isOpen := false } }
      else service

/-- `_openSseConnection`.  Nobody catches what it throws, and nothing is done after it. -/
def openSse (config : Config) (service : Service) (number : Nat) (backoff : ℚ) : Service :=
  match service.registry.states[number]? with
  | none => service
  | some state =>
      let cursor := state.cursor.filter Json.truthy
      if state.active && config.opens cursor then
        { service with connections := service.connections ++ [⟨number, backoff, cursor, true⟩] }
      else service

def startSse (config : Config) (service : Service) (number : Nat) (backoff : ℚ) : Service :=
  if service.registry.isActive number then
    if 0 < backoff then { service with reconnects := service.reconnects ++ [(number, backoff)] }
    else service.openSse config number backoff
  else service

/-- `_startWatcher` after its `await`. -/
def resumeStart (config : Config) (service : Service) (number : Nat) (supportsSse : Bool) :
    Service :=
  let service := { service with
    starting := service.starting.erase number
    started := number :: service.started }
  if service.registry.isActive number then
    if supportsSse then service.startSse config number 0
    else { service with loop := service.loop.ensurePollLoop }
  else service

def dispatchUpdate (service : Service) (number : Nat) (tx : Json) (transport : Transport) :
    Service :=
  match service.registry.states[number]? with
  | none => service
  | some state =>
      if state.active then
        let newStatus := tx.get "status"
        let cursor := coalesce (tx.get "completed_at")
          (coalesce (tx.get "started_at") state.cursor)
        if strictEq state.lastStatus newStatus then
          { service with registry := service.registry.note number state.lastStatus cursor }
        else
          { service with
            registry := service.registry.note number newStatus cursor
            log := service.log ++ [.event number
              { transactionId := tx.get "id"
                previousStatus := state.lastStatus
                status := newStatus
                transaction := tx
                isTerminal := isTerminalStatus newStatus
                transport := transport }]
            calling := some (.afterEvent number (isTerminalStatus newStatus) transport) }
      else service

/-- The `catch` of `_pollOne`. -/
def reportPollError (service : Service) (number : Nat) (reason : String) : Service :=
  match service.registry.states[number]? with
  | none => service
  | some state =>
      if state.hasOnError then
        { service with
          log := service.log ++ [.error number
            ⟨state.transactionId, "POLL_ERROR", "Failed to fetch transaction: " ++ reason, true⟩]
          calling := some (.afterPollError number) }
      else service

def handleSseMessage (service : Service) (number : Nat) (data : Option Json) : Service :=
  if service.registry.isActive number then
    match data.bind (Json.unwrap "transaction") with
    | none => service
    | some tx => service.dispatchUpdate number tx .sse
  else service

/-- The listener for the errors of a connection. -/
def handleSseError (config : Config) (service : Service) (index : Nat)
    (connection : Connection) : Service :=
  let service := { service with
    connections := service.connections.set index { connection with isOpen := false } }
  match service.registry.states[connection.watcher]? with
  | none => service
  | some state =>
      if service.aborted || !state.active then service
      else
        let nextBackoff := config.nextBackoff connection.backoff
        if state.hasOnError then
          { service with
            log := service.log ++ [.error connection.watcher
              ⟨state.transactionId, "SSE_ERROR", "SSE stream disconnected; reconnecting.", true⟩]
            calling := some (.afterSseError connection.watcher nextBackoff) }
        else service.startSse config connection.watcher nextBackoff

def occur (config : Config) (service : Service) : Occurrence → Service
  | .detected supportsSse =>
      if service.capability = .detecting then { service with capability := .known supportsSse }
      else service
  | .startResumes number =>
      match service.capability with
      | .known supportsSse =>
          if number ∈ service.starting then service.resumeStart config number supportsSse
          else service
      | _ => service
  | .message index data =>
      match service.connections[index]? with
      | none => service
      | some connection =>
          if connection.isOpen then service.handleSseMessage connection.watcher data
          else service
  | .sseError index =>
      match service.connections[index]? with
      | none => service
      | some connection =>
          if connection.isOpen then service.handleSseError config index connection else service
  | .reconnectFires index =>
      match service.reconnects[index]? with
      | none => service
      | some (number, backoff) =>
          { service with reconnects := service.reconnects.eraseIdx index }.openSse config number
            backoff
  | .pollTimerFires timer =>
      if timer ∈ service.loop.timers then
        { service with
          loop := service.loop.runPollCycle timer service.aborted
            service.registry.activeWatchers }
      else service
  | .pollSettles cycle number reply =>
      if number ∈ service.loop.cycles.getD cycle [] then
        let service := { service with loop := service.loop.settle cycle number }
        match reply.transaction with
        | .ok none => service
        | .ok (some tx) => service.dispatchUpdate number tx .poll
        | .error reason => service.reportPollError number reason
      else service
  | .cycleCompletes cycle =>
      if service.loop.cycles[cycle]? = some [] then
        { service with
          loop := service.loop.complete cycle
            (!service.registry.activeWatchers.isEmpty && !service.aborted) }
      else service

def resume (config : Config) (service : Service) (thrown : Option String) : Frame → Service
  | .afterEvent number isTerminal transport =>
      match thrown, transport with
      | none, _ =>
          if isTerminal then
            match service.registry.states[number]? with
            | none => service
            | some state =>
                { service with registry := service.registry.remove state.transactionId }
          else service
      | some reason, .poll => service.reportPollError number reason
      | some _, .sse => service
  | .afterPollError _ => service
  | .afterSseError number backoff =>
      match thrown with
      | none => service.startSse config number backoff
      | some _ => service

def step (config : Config) (service : Service) : Event → Service
  | .call api => service.invoke config api
  | .returns thrown =>
      match service.calling with
      | none => service
      | some frame => { service with calling := none }.resume config thrown frame
  | .occurs occurrence =>
      match service.calling with
      | none => service.occur config occurrence
      | some _ => service

def run (config : Config) (service : Service) (events : List Event) : Service :=
  Machine.run (step config) service events

def reached (config : Config) (events : List Event) : Service := create.run config events

end Service

def visits (config : Config) (events : List Event) : List (Service × Event) :=
  Machine.visits (Service.step config) Service.create events

end AnchorKit.Sdk.Streaming
