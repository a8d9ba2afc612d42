import AnchorKit.Base.Changes
import AnchorKit.Sdk.Subscriptions

/-!
# The events of a subscription are its changes of status

Frames of any connection and polls of any cycle reach one dispatcher.  A step either
delivers a transaction to a watcher, and then it is a `dispatchUpdate`, or leaves the
status and the events of that watcher alone; so a run from any state emits what the
statuses it delivers change, up to the first terminal one.
-/

set_option autoImplicit false

namespace AnchorKit.Sdk.Streaming

open AnchorKit.Base

/-- The events handed to the callback of a watcher. -/
def eventsOf (number : Nat) (log : List Notification) : List TransactionStreamEvent :=
  log.filterMap fun
    | .event own event => if own = number then some event else none
    | .error _ _ => none

/-- The transactions that a step delivers to a watcher. -/
def observed (number : Nat) (visit : Service × Event) : List Json :=
  match visit.1.calling, visit.2 with
  | none, .occurs (.message index data) =>
      match visit.1.connections[index]? with
      | some connection =>
          if connection.isOpen && connection.watcher == number then
            (data.bind (Json.unwrap "transaction")).toList
          else []
      | none => []
  | none, .occurs (.pollSettles cycle own reply) =>
      if own = number ∧ own ∈ visit.1.loop.cycles.getD cycle [] then
        match reply.transaction with
        | .ok tx => tx.toList
        | .error _ => []
      else []
  | _, _ => []

/-- The watcher whose callback throws over a terminal event. -/
def rejectsTerminal (visit : Service × Event) : Option Nat :=
  match visit.2, visit.1.calling with
  | .returns (some _), some (.afterEvent number true _) => some number
  | _, _ => none

def Registry.lastStatus (registry : Registry) (number : Nat) : Option Value :=
  (registry.states[number]?).map (·.lastStatus)

theorem eventsOf_append (number : Nat) (first second : List Notification) :
    eventsOf number (first ++ second) = eventsOf number first ++ eventsOf number second :=
  List.filterMap_append ..

theorem eventsOf_eq_nil {number : Nat} {log : List Notification}
    (others : ∀ notification ∈ log, ∀ event, notification ≠ .event number event) :
    eventsOf number log = [] := by
  rw [eventsOf, List.filterMap_eq_nil_iff]
  intro notification member
  cases notification with
  | event own event =>
      refine if_neg ?_
      intro same
      exact others _ member event (by rw [same])
  | error own error => rfl

theorem eventsOf_event (number : Nat) (event : TransactionStreamEvent) :
    eventsOf number [.event number event] = [event] := by
  simp [eventsOf]

theorem eventsOf_event_ne {number other : Nat} (different : other ≠ number)
    (event : TransactionStreamEvent) : eventsOf number [.event other event] = [] := by
  simp [eventsOf, different]

/-! ## Steps that do not concern a watcher -/

namespace Registry

variable {number other : Nat}

theorem lastStatus_note_ne (registry : Registry) (different : other ≠ number)
    (lastStatus cursor : Value) :
    (registry.note other lastStatus cursor).lastStatus number = registry.lastStatus number := by
  unfold Registry.lastStatus note
  dsimp only
  rw [List.getElem?_modify_ne _ _ different]

theorem lastStatus_note (registry : Registry) {state : WatcherState}
    (found : registry.states[number]? = some state) (lastStatus cursor : Value) :
    (registry.note number lastStatus cursor).lastStatus number = some lastStatus := by
  unfold Registry.lastStatus note
  dsimp only
  rw [List.getElem?_modify_eq, found]
  rfl

theorem lastStatus_remove (registry : Registry) (transactionId : String) (number : Nat) :
    (registry.remove transactionId).lastStatus number = registry.lastStatus number := by
  unfold remove Registry.lastStatus
  cases registry.watchers.lookup transactionId with
  | none => rfl
  | some other =>
      dsimp only
      rw [List.getElem?_modify]
      split
      · cases registry.states[number]? with
        | none => rfl
        | some state => rfl
      · simp

theorem lastStatus_clear (registry : Registry) (number : Nat) :
    registry.clear.lastStatus number = registry.lastStatus number := by
  unfold clear
  generalize registry.watchers.keys = ids
  induction ids generalizing registry with
  | nil => rfl
  | cons first rest ih => rw [List.foldl_cons, ih, lastStatus_remove]

theorem lastStatus_add (registry : Registry) (transactionId : String) (hasOnError : Bool)
    (known : registry.tag number ≠ none) :
    (registry.add transactionId hasOnError).lastStatus number = registry.lastStatus number := by
  have old : number < registry.states.length := by
    by_contra beyond
    rw [tag, List.getElem?_eq_none (by omega)] at known
    exact known rfl
  unfold Registry.lastStatus add
  dsimp only
  rw [List.getElem?_append_left old]

end Registry

structure Untouched (number : Nat) (before after : Service) : Prop where
  lastStatus : after.registry.lastStatus number = before.registry.lastStatus number
  events : eventsOf number after.log = eventsOf number before.log
  calling : ∀ isTerminal transport,
    after.calling = some (.afterEvent number isTerminal transport) →
      before.calling = some (.afterEvent number isTerminal transport)

namespace Untouched

variable {service : Service} {number other : Nat}

theorem refl (service : Service) : Untouched number service service :=
  ⟨rfl, rfl, fun _ _ => id⟩

theorem trans {first second third : Service} (one : Untouched number first second)
    (two : Untouched number second third) : Untouched number first third where
  lastStatus := two.lastStatus.trans one.lastStatus
  events := two.events.trans one.events
  calling := fun isTerminal transport running =>
    one.calling isTerminal transport (two.calling isTerminal transport running)

theorem dispatchUpdate (different : other ≠ number) (tx : Json) (transport : Transport) :
    Untouched number service (service.dispatchUpdate other tx transport) := by
  unfold Service.dispatchUpdate
  split
  · exact refl service
  · dsimp only
    split
    · split
      · exact ⟨Registry.lastStatus_note_ne _ different _ _, rfl, fun _ _ => id⟩
      · refine ⟨Registry.lastStatus_note_ne _ different _ _, ?_, ?_⟩
        · rw [eventsOf_append, eventsOf_event_ne different, List.append_nil]
        · intro isTerminal otherTransport running
          cases running
          exact absurd rfl different
    · exact refl service

theorem reportPollError (service : Service) (other : Nat) (reason : String) :
    Untouched number service (service.reportPollError other reason) := by
  unfold Service.reportPollError
  split
  · exact refl service
  · split
    · refine ⟨rfl, ?_, fun _ _ running => nomatch running⟩
      rw [eventsOf_append]
      exact List.append_nil _
    · exact refl service

theorem startSse (config : Config) (service : Service) (other : Nat) (backoff : ℚ) :
    Untouched number service (service.startSse config other backoff) := by
  obtain ⟨opened, planned, same⟩ := startSse_eq config service other backoff
  rw [same]
  exact ⟨rfl, rfl, fun _ _ => id⟩

theorem openSse (config : Config) (service : Service) (other : Nat) (backoff : ℚ) :
    Untouched number service (service.openSse config other backoff) := by
  obtain ⟨opened, same⟩ := openSse_eq config service other backoff
  rw [same]
  exact ⟨rfl, rfl, fun _ _ => id⟩

theorem handleSseError (service : Service) (config : Config) (index : Nat)
    (connection : Connection) :
    Untouched number service (service.handleSseError config index connection) := by
  have closed : ∀ connections,
      Untouched number service { service with connections := connections } :=
    fun _ => ⟨rfl, rfl, fun _ _ => id⟩
  unfold Service.handleSseError
  dsimp only
  split
  · exact closed _
  · split
    · exact closed _
    · split
      · refine ⟨rfl, ?_, fun _ _ running => nomatch running⟩
        rw [eventsOf_append]
        exact List.append_nil _
      · exact (closed _).trans (startSse config _ _ _)

theorem invoke (config : Config) (api : Api) (known : service.registry.tag number ≠ none) :
    Untouched number service (service.invoke config api) := by
  cases api with
  | watch transactionId hasOnError =>
      unfold Service.invoke
      dsimp only
      split
      · exact refl service
      · exact ⟨Registry.lastStatus_add _ _ _ known, rfl, fun _ _ => id⟩
  | unsubscribe handle =>
      unfold Service.invoke
      dsimp only
      split
      · exact refl service
      · exact ⟨Registry.lastStatus_remove _ _ _, rfl, fun _ _ => id⟩
  | destroy => exact ⟨Registry.lastStatus_clear _ _, rfl, fun _ _ => id⟩
  | abort =>
      unfold Service.invoke
      dsimp only
      split
      · exact ⟨Registry.lastStatus_clear _ _, rfl, fun _ _ => id⟩
      · exact refl service

theorem resume (config : Config) (service : Service) (thrown : Option String)
    (frame : Frame) :
    Untouched number service ({ service with calling := none }.resume config thrown frame) := by
  have idle : Untouched number service { service with calling := none } :=
    ⟨rfl, rfl, fun _ _ running => nomatch running⟩
  cases frame with
  | afterEvent own isTerminal transport =>
      cases thrown with
      | none =>
          unfold Service.resume
          dsimp only
          split
          · split
            · exact idle
            · exact idle.trans ⟨Registry.lastStatus_remove _ _ _, rfl, fun _ _ => id⟩
          · exact idle
      | some reason =>
          cases transport with
          | poll => exact idle.trans (reportPollError _ own reason)
          | sse => exact idle
  | afterPollError own => exact idle
  | afterSseError own backoff =>
      cases thrown with
      | none => exact idle.trans (startSse config _ own backoff)
      | some reason => exact idle

theorem resumeStart (config : Config) (service : Service) (own : Nat) (supportsSse : Bool) :
    Untouched number service (service.resumeStart config own supportsSse) := by
  have resumed : Untouched number service
      { service with
        starting := service.starting.erase own
        started := own :: service.started } :=
    ⟨rfl, rfl, fun _ _ => id⟩
  unfold Service.resumeStart
  dsimp only
  split
  · split
    · exact resumed.trans (startSse config _ own 0)
    · exact ⟨rfl, rfl, fun _ _ => id⟩
  · exact resumed

end Untouched

/-! ## Steps that deliver a transaction -/

theorem dispatchUpdate_of_inactive {service : Service} {number : Nat}
    (inactive : service.registry.isActive number = false) (tx : Json) (transport : Transport) :
    service.dispatchUpdate number tx transport = service := by
  unfold Registry.isActive at inactive
  unfold Service.dispatchUpdate
  cases found : service.registry.states[number]? with
  | none => rfl
  | some state =>
      have own : state.active = false := by simpa [found] using inactive
      simp [own]

theorem handleSseMessage_eq (service : Service) (number : Nat) (data : Option Json) :
    service.handleSseMessage number data =
      match data.bind (Json.unwrap "transaction") with
      | none => service
      | some tx => service.dispatchUpdate number tx .sse := by
  unfold Service.handleSseMessage
  split
  · rfl
  · rename_i inactive
    rw [Bool.not_eq_true] at inactive
    split
    · rfl
    · exact (dispatchUpdate_of_inactive inactive _ _).symm

/-- A step delivers a transaction to the watcher or does not concern it. -/
inductive Delivery (config : Config) (service : Service) (number : Nat) (event : Event) : Prop
  | none (nothing : observed number (service, event) = [])
      (untouched : Untouched number service (service.step config event))
  | one (tx : Json) (loop : PollLoop) (transport : Transport)
      (seen : observed number (service, event) = [tx]) (idle : service.calling = .none)
      (dispatched : service.step config event =
        { service with loop := loop }.dispatchUpdate number tx transport)

theorem step_occurs {service : Service} (config : Config) (occurrence : Occurrence)
    (idle : service.calling = none) :
    service.step config (.occurs occurrence) = service.occur config occurrence := by
  rw [Service.step, idle]

theorem message_delivery (config : Config) (service : Service) (number index : Nat)
    (data : Option Json) (idle : service.calling = none) :
    Delivery config service number (.occurs (.message index data)) := by
  have stepped := step_occurs config (.message index data) idle
  rw [Service.occur] at stepped
  cases found : service.connections[index]? with
  | none =>
      rw [found] at stepped
      refine .none (by simp [observed, idle, found]) ?_
      rw [stepped]
      exact .refl service
  | some connection =>
      rw [found] at stepped
      dsimp only at stepped
      by_cases isOpen : connection.isOpen = true
      · rw [if_pos isOpen, handleSseMessage_eq] at stepped
        by_cases own : connection.watcher = number
        · cases parsed : data.bind (Json.unwrap "transaction") with
          | none =>
              refine .none (by simp [observed, idle, found, isOpen, own, parsed]) ?_
              rw [stepped, parsed]
              exact .refl service
          | some tx =>
              refine .one tx service.loop .sse
                (by simp [observed, idle, found, isOpen, own, parsed]) idle ?_
              rw [stepped, parsed, own]
        · refine .none (by simp [observed, idle, found, own]) ?_
          rw [stepped]
          split
          · exact .refl service
          · exact .dispatchUpdate own _ _
      · rw [if_neg isOpen] at stepped
        refine .none (by simp [observed, idle, found, isOpen]) ?_
        rw [stepped]
        exact .refl service

theorem pollSettles_delivery (config : Config) (service : Service) (number cycle other : Nat)
    (reply : PollReply) (idle : service.calling = none) :
    Delivery config service number (.occurs (.pollSettles cycle other reply)) := by
  have stepped := step_occurs config (.pollSettles cycle other reply) idle
  rw [Service.occur] at stepped
  by_cases pending : other ∈ service.loop.cycles.getD cycle []
  · rw [if_pos pending] at stepped
    have settled : Untouched number service
        { service with loop := service.loop.settle cycle other } :=
      ⟨rfl, rfl, fun _ _ => id⟩
    by_cases own : other = number
    · subst own
      cases ended : reply.transaction with
      | error reason =>
          refine .none (by simp [observed, idle, ended]) ?_
          rw [stepped, ended]
          exact settled.trans (.reportPollError _ other reason)
      | ok found =>
          cases found with
          | none =>
              refine .none (by simp [observed, idle, ended]) ?_
              rw [stepped, ended]
              exact settled
          | some tx =>
              refine .one tx (service.loop.settle cycle other) .poll
                (by simp only [observed, idle, ended, pending, and_self, if_true,
                  Option.toList_some]) idle ?_
              rw [stepped, ended]
    · refine .none (by simp [observed, idle, own]) ?_
      rw [stepped]
      dsimp only
      split
      · exact settled
      · exact settled.trans (.dispatchUpdate own _ _)
      · exact settled.trans (.reportPollError _ other _)
  · rw [if_neg pending] at stepped
    refine .none ?_ ?_
    · simp only [observed, idle, pending, and_false, if_false]
    · rw [stepped]
      exact .refl service

theorem occur_delivery (config : Config) (service : Service) (number : Nat)
    (occurrence : Occurrence) (idle : service.calling = none) :
    Delivery config service number (.occurs occurrence) := by
  have stepped := step_occurs config occurrence idle
  cases occurrence with
  | detected supportsSse =>
      refine .none (by rw [observed, idle]) ?_
      rw [stepped, Service.occur]
      split
      · exact ⟨rfl, rfl, fun _ _ => id⟩
      · exact .refl service
  | startResumes other =>
      refine .none (by rw [observed, idle]) ?_
      rw [stepped, Service.occur]
      split
      · split
        · exact .resumeStart config service other _
        · exact .refl service
      · exact .refl service
  | message index data => exact message_delivery config service number index data idle
  | sseError index =>
      refine .none (by rw [observed, idle]) ?_
      rw [stepped, Service.occur]
      split
      · exact .refl service
      · split
        · exact .handleSseError service config index _
        · exact .refl service
  | reconnectFires index =>
      refine .none (by rw [observed, idle]) ?_
      rw [stepped, Service.occur]
      split
      · exact .refl service
      · have fired : Untouched number service
            { service with reconnects := service.reconnects.eraseIdx index } :=
          ⟨rfl, rfl, fun _ _ => id⟩
        exact fired.trans (.openSse config _ _ _)
  | pollTimerFires timer =>
      refine .none (by rw [observed, idle]) ?_
      rw [stepped, Service.occur]
      split
      · exact ⟨rfl, rfl, fun _ _ => id⟩
      · exact .refl service
  | pollSettles cycle other reply =>
      exact pollSettles_delivery config service number cycle other reply idle
  | cycleCompletes cycle =>
      refine .none (by rw [observed, idle]) ?_
      rw [stepped, Service.occur]
      split
      · exact ⟨rfl, rfl, fun _ _ => id⟩
      · exact .refl service

theorem step_delivery (config : Config) (service : Service) (number : Nat) (event : Event)
    (known : service.registry.tag number ≠ none) : Delivery config service number event := by
  cases event with
  | call api =>
      refine .none ?_ (.invoke config api known)
      cases calling : service.calling with
      | none => rw [observed, calling]
      | some frame => rw [observed, calling]
  | returns thrown =>
      cases calling : service.calling with
      | none =>
          refine .none (by rw [observed, calling]) ?_
          rw [Service.step, calling]
          exact .refl service
      | some frame =>
          refine .none (by rw [observed, calling]) ?_
          rw [Service.step, calling]
          exact .resume config service thrown frame
  | occurs occurrence =>
      cases calling : service.calling with
      | none => exact occur_delivery config service number occurrence calling
      | some frame =>
          refine .none (by rw [observed, calling]) ?_
          rw [Service.step, calling]
          exact .refl service

/-! ## What the dispatcher does -/

/-- A status that was noted, or `null` before the first. -/
def statusValue : Option String → Value
  | none => some .null
  | some status => some (.string status)

theorem strictEq_statusValue (last : Option String) (status : String) :
    strictEq (statusValue last) (some (.string status)) = decide (last = some status) := by
  cases last with
  | none => rfl
  | some noted =>
      by_cases same : noted = status
      · simp [statusValue, strictEq, same]
      · simp [statusValue, strictEq, same]

section Dispatch

variable (service : Service) {number : Nat} {state : WatcherState}
  (found : service.registry.states[number]? = some state) (active : state.active = true)
  (tx : Json) (transport : Transport)

include found active

theorem dispatchUpdate_repeat (repeated : strictEq state.lastStatus (tx.get "status") = true) :
    Untouched number service (service.dispatchUpdate number tx transport) := by
  unfold Service.dispatchUpdate
  simp only [found, active, repeated, if_true]
  refine ⟨?_, rfl, fun _ _ => id⟩
  rw [Registry.lastStatus_note _ found, Registry.lastStatus, found]
  rfl

theorem dispatchUpdate_change (changed : strictEq state.lastStatus (tx.get "status") = false) :
    ∃ event : TransactionStreamEvent,
      event.status = tx.get "status" ∧ event.previousStatus = state.lastStatus ∧
      event.isTerminal = isTerminalStatus (tx.get "status") ∧
      (service.dispatchUpdate number tx transport).log = service.log ++ [.event number event] ∧
      (service.dispatchUpdate number tx transport).calling =
        some (.afterEvent number event.isTerminal transport) ∧
      (service.dispatchUpdate number tx transport).registry.lastStatus number =
        some (tx.get "status") := by
  unfold Service.dispatchUpdate
  simp only [found, active, changed, if_true, Bool.false_eq_true, if_false]
  exact ⟨_, rfl, rfl, rfl, rfl, rfl, Registry.lastStatus_note _ found _ _⟩

end Dispatch

/-! ## The life of a subscription -/

def statusText (tx : Json) : Option String :=
  match tx.get "status" with
  | some (.string status) => some status
  | _ => none

theorem get_status_of_statusText {tx : Json} {status : String}
    (text : statusText tx = some status) : tx.get "status" = some (.string status) := by
  unfold statusText at text
  split at text
  · rename_i found
    rw [found, Option.some.inj text]
  · cases text

theorem Subscribed.of_sameCourse {before after : Service} {transactionId : String}
    {number : Nat} (subscribed : Subscribed before transactionId number)
    (course : SameCourse before after) : Subscribed after transactionId number :=
  ⟨(course.tracking.tags number).trans subscribed.active,
    course.tracking.watchers ▸ subscribed.tracked⟩

structure Alone (service : Service) (transactionId : String) (number : Nat) : Prop where
  well : WellTracked service.registry
  known : service.registry.tag number ≠ none
  sole : ∀ other active,
    service.registry.tag other = some (transactionId, active) → other = number

structure Plain (transactionId : String) (number : Nat) (event : Event) : Prop where
  notWatched : ∀ hasOnError, event ≠ .call (.watch transactionId hasOnError)
  notUnsubscribed : event ≠ .call (.unsubscribe number)
  notDestroyed : event ≠ .call .destroy
  notAborted : event ≠ .call .abort

/-- The watcher waits for a status other than the last. -/
structure Live (service : Service) (transactionId : String) (number : Nat)
    (last : Option String) : Prop where
  subscribed : Subscribed service transactionId number
  lastStatus : service.registry.lastStatus number = some (statusValue last)
  calling : ∀ transport, service.calling ≠ some (.afterEvent number true transport)

inductive Over (service : Service) (transactionId : String) (number : Nat) : Prop
  | closing (subscribed : Subscribed service transactionId number) (transport : Transport)
      (calling : service.calling = some (.afterEvent number true transport))
  | ended (inactive : service.registry.tag number = some (transactionId, false))
      (untracked : service.registry.watchers.lookup transactionId = none)

section Life

variable {config : Config} {service : Service} {event : Event} {transactionId : String}
  {number : Nat}

theorem RegistryChange.tag_back {after : Registry} {active : Bool}
    (change : RegistryChange config service after event)
    (notWatched : ∀ hasOnError, event ≠ .call (.watch transactionId hasOnError))
    (tagged : after.tag number = some (transactionId, active)) :
    ∃ earlier, service.registry.tag number = some (transactionId, earlier) := by
  have deactivatedBack : ∀ registry : Registry,
      deactivated (registry.tag number) = some (transactionId, active) →
        ∃ earlier, registry.tag number = some (transactionId, earlier) := by
    intro registry off
    obtain ⟨⟨otherId, earlier⟩, before, same⟩ := Option.map_eq_some_iff.mp off
    exact ⟨earlier, by rw [before, show otherId = transactionId from congrArg Prod.fst same]⟩
  cases change with
  | kept same => exact ⟨active, (same.tags number).symm.trans tagged⟩
  | added addedId hasOnError room same =>
      rw [same.tags, Registry.tag_add] at tagged
      split at tagged
      · cases tagged
        exact absurd rfl (notWatched hasOnError)
      · exact ⟨active, tagged⟩
  | removed other otherId otherActive ended known same =>
      rw [same.tags, Registry.tag_remove] at tagged
      split at tagged
      · exact deactivatedBack _ tagged
      · exact ⟨active, tagged⟩
  | cleared ended same =>
      rw [same.tags] at tagged
      rcases Registry.tag_clear service.registry number with kept | off
      · exact ⟨active, kept.symm.trans tagged⟩
      · exact deactivatedBack _ (off.symm.trans tagged)

theorem Alone.step (alone : Alone service transactionId number)
    (plain : Plain transactionId number event) :
    Alone (service.step config event) transactionId number where
  well := (step_registry config service event).wellTracked alone.well
  known := step_tag_ne_none config service event number alone.known
  sole := by
    intro other active tagged
    obtain ⟨earlier, before⟩ :=
      (step_registry config service event).tag_back plain.notWatched tagged
    exact alone.sole other earlier before

theorem Subscribed.step_of_alone (subscribed : Subscribed service transactionId number)
    (alone : Alone service transactionId number) (plain : Plain transactionId number event)
    (running : ∀ transport, event = .returns none →
      service.calling ≠ some (.afterEvent number true transport)) :
    Subscribed (service.step config event) transactionId number := by
  refine subscribed.step alone.well ?_ ?_ ⟨plain.notDestroyed, plain.notAborted⟩
  · intro hasOnError again
    exact absurd again (plain.notWatched hasOnError)
  · intro other active ended tagged
    rw [alone.sole other active tagged] at ended
    rcases ends_eq_some ended with unsubscribed | ⟨returned, transport, calling⟩
    · exact plain.notUnsubscribed unsubscribed
    · exact running transport returned calling

theorem Subscribed.returns (subscribed : Subscribed service transactionId number)
    {transport : Transport}
    (calling : service.calling = some (.afterEvent number true transport)) :
    Over (service.step config (.returns none)) transactionId number := by
  obtain ⟨state, found, own⟩ := Option.map_eq_some_iff.mp subscribed.active
  have sameId : state.transactionId = transactionId := congrArg Prod.fst own
  have removed : (service.step config (.returns none)).registry =
      service.registry.remove transactionId := by
    simp only [Service.step, calling, Service.resume, found, sameId, if_true]
  refine .ended ?_ ?_
  · rw [removed, Registry.tag_remove, if_pos subscribed.tracked, subscribed.active]
    rfl
  · rw [removed, Registry.lookup_remove, if_pos rfl]

theorem RegistryChange.lookup_none {after : Registry}
    (change : RegistryChange config service after event)
    (notWatched : ∀ hasOnError, event ≠ .call (.watch transactionId hasOnError))
    (untracked : service.registry.watchers.lookup transactionId = none) :
    after.watchers.lookup transactionId = none := by
  cases change with
  | kept same => rw [same.watchers, untracked]
  | added addedId hasOnError room same =>
      rw [same.watchers, Registry.lookup_add, if_neg, untracked]
      intro sameId
      rw [← sameId] at notWatched
      exact notWatched hasOnError rfl
  | removed other otherId otherActive ended known same =>
      rw [same.watchers, Registry.lookup_remove, untracked, ite_self]
  | cleared ended same => rw [same.watchers, Registry.lookup_clear]

theorem Over.step (finished : Over service transactionId number) (config : Config)
    (alone : Alone service transactionId number) (plain : Plain transactionId number event)
    (mild : rejectsTerminal (service, event) ≠ some number) :
    Over (service.step config event) transactionId number ∧
      eventsOf number (service.step config event).log = eventsOf number service.log := by
  cases finished with
  | closing subscribed transport calling =>
      have silent : eventsOf number (service.step config event).log =
          eventsOf number service.log := by
        cases step_delivery config service number event alone.known with
        | none nothing untouched => exact untouched.events
        | one tx loop via seen idle dispatched =>
            rw [idle] at calling
            cases calling
      refine ⟨?_, silent⟩
      cases event with
      | call api =>
          refine .closing (subscribed.step_of_alone alone plain ?_) transport ?_
          · intro _ returned
            cases returned
          · exact (invoke_silent config service api).2.trans calling
      | returns thrown =>
          cases thrown with
          | some reason => exact absurd (by rw [rejectsTerminal, calling]) mild
          | none => exact subscribed.returns calling
      | occurs occurrence =>
          have still : service.step config (.occurs occurrence) = service := by
            rw [Service.step, calling]
          rw [still]
          exact .closing subscribed transport calling
  | ended inactive untracked =>
      refine ⟨.ended (step_tag_inactive config service event inactive) ?_, ?_⟩
      · exact (step_registry config service event).lookup_none plain.notWatched untracked
      · obtain ⟨shown, log, only⟩ := step_log_of_inactive config service event
          (isActive_of_tag_inactive inactive)
        rw [log, eventsOf_append, eventsOf_eq_nil fun own member => (only own member).1,
          List.append_nil]

/-- How one step goes on, given the statuses it delivers. -/
inductive Progress (service after : Service) (transactionId : String) (number : Nat)
    (last : Option String) : List String → Prop
  | quiet (live : Live after transactionId number last)
      (events : eventsOf number after.log = eventsOf number service.log) :
      Progress service after transactionId number last []
  | again (status : String) (noted : last = some status)
      (live : Live after transactionId number last)
      (events : eventsOf number after.log = eventsOf number service.log) :
      Progress service after transactionId number last [status]
  | changed (status : String) (event : TransactionStreamEvent) (isNew : last ≠ some status)
      (reports : event.status = some (.string status))
      (previous : event.previousStatus = statusValue last)
      (isTerminal : event.isTerminal = terminalStatuses.contains status)
      (events : eventsOf number after.log = eventsOf number service.log ++ [event])
      (next : if terminalStatuses.contains status then Over after transactionId number
        else Live after transactionId number (some status)) :
      Progress service after transactionId number last [status]

theorem Live.step {last : Option String} (live : Live service transactionId number last)
    (config : Config) (alone : Alone service transactionId number)
    (plain : Plain transactionId number event)
    (texts : ∀ tx ∈ observed number (service, event), (statusText tx).isSome) :
    Progress service (service.step config event) transactionId number last
      ((observed number (service, event)).filterMap statusText) := by
  cases step_delivery config service number event alone.known with
  | none nothing untouched =>
      rw [nothing]
      refine .quiet ⟨?_, untouched.lastStatus.trans live.lastStatus, ?_⟩ untouched.events
      · exact live.subscribed.step_of_alone alone plain fun transport _ => live.calling transport
      · intro transport running
        exact live.calling transport (untouched.calling true transport running)
  | one tx loop transport seen idle dispatched =>
      rw [seen] at texts ⊢
      obtain ⟨status, text⟩ := Option.isSome_iff_exists.mp (texts tx List.mem_cons_self)
      rw [List.filterMap_cons_some text, List.filterMap_nil]
      have delivered := get_status_of_statusText text
      obtain ⟨state, found, own⟩ := Option.map_eq_some_iff.mp live.subscribed.active
      have active : state.active = true := congrArg Prod.snd own
      have noted : state.lastStatus = statusValue last := by
        have lastStatus := live.lastStatus
        rw [Registry.lastStatus, found] at lastStatus
        exact Option.some.inj lastStatus
      have settled : Subscribed { service with loop := loop } transactionId number :=
        ⟨live.subscribed.active, live.subscribed.tracked⟩
      have current := settled.of_sameCourse (SameCourse.dispatchUpdate _ number tx transport)
      rw [dispatched]
      have compare := strictEq_statusValue last status
      rw [← noted, ← delivered] at compare
      by_cases same : last = some status
      · have untouched := dispatchUpdate_repeat { service with loop := loop } found active tx
          transport (compare.trans (decide_eq_true same))
        refine .again status same ⟨current, untouched.lastStatus.trans live.lastStatus, ?_⟩
          untouched.events
        intro via running
        exact live.calling via (untouched.calling true via running)
      · obtain ⟨update, reports, previous, isTerminal, log, calling, lastStatus⟩ :=
          dispatchUpdate_change { service with loop := loop } found active tx transport
            (compare.trans (decide_eq_false same))
        rw [delivered] at reports isTerminal lastStatus
        refine .changed status update same reports (previous.trans noted) isTerminal ?_ ?_
        · rw [log, eventsOf_append, eventsOf_event]
        · split
          · rename_i final
            rw [isTerminal, show isTerminalStatus (some (.string status)) = true from final]
              at calling
            exact .closing current transport calling
          · rename_i goesOn
            refine ⟨current, lastStatus, ?_⟩
            intro via running
            rw [calling] at running
            injection running with frame
            injection frame with _ final
            exact goesOn (isTerminal.symm.trans final)

/-! ## Whole runs -/

def observations (config : Config) (number : Nat) (service : Service) (events : List Event) :
    List Json :=
  Machine.outputs (Service.step config) (observed number) service events

/-- What a run adds to the events of a watcher that waits, given the statuses it
delivers. -/
structure Emitted (after : Service) (transactionId : String) (number : Nat)
    (last : Option String) (statuses : List String) (shown : List TransactionStreamEvent) :
    Prop where
  statuses : shown.map (·.status) =
    (upTo terminalStatuses.contains (changes last statuses)).map (some ∘ Json.string)
  previous : shown.map (·.previousStatus) = (statusValue last :: shown.map (·.status)).dropLast
  finished : (∃ event ∈ shown, event.isTerminal = true) → Over after transactionId number

theorem Over.run (finished : Over service transactionId number)
    (alone : Alone service transactionId number) (events : List Event)
    (plain : ∀ event ∈ events, Plain transactionId number event)
    (mild : ∀ visit ∈ Machine.visits (Service.step config) service events,
      rejectsTerminal visit ≠ some number) :
    Over (service.run config events) transactionId number ∧
      eventsOf number (service.run config events).log = eventsOf number service.log := by
  induction events generalizing service with
  | nil => exact ⟨finished, rfl⟩
  | cons event rest ih =>
      have now := plain event List.mem_cons_self
      obtain ⟨next, silent⟩ := finished.step config alone now
        (mild (service, event) List.mem_cons_self)
      obtain ⟨final, quiet⟩ := ih next (alone.step now)
        (fun later member => plain later (List.mem_cons_of_mem _ member))
        (fun visit member => mild visit (List.mem_cons_of_mem _ member))
      exact ⟨final, quiet.trans silent⟩

theorem Live.run {last : Option String} (live : Live service transactionId number last)
    (alone : Alone service transactionId number) (events : List Event)
    (plain : ∀ event ∈ events, Plain transactionId number event)
    (mild : ∀ visit ∈ Machine.visits (Service.step config) service events,
      rejectsTerminal visit ≠ some number)
    (texts : ∀ tx ∈ observations config number service events, (statusText tx).isSome) :
    ∃ shown, eventsOf number (service.run config events).log =
        eventsOf number service.log ++ shown ∧
      Emitted (service.run config events) transactionId number last
        ((observations config number service events).filterMap statusText) shown := by
  induction events generalizing service last with
  | nil =>
      refine ⟨[], (List.append_nil _).symm, rfl, rfl, ?_⟩
      rintro ⟨event, member, _⟩
      cases member
  | cons event rest ih =>
      have now := plain event List.mem_cons_self
      have laterPlain : ∀ later ∈ rest, Plain transactionId number later :=
        fun later member => plain later (List.mem_cons_of_mem _ member)
      have laterMild : ∀ visit ∈ Machine.visits (Service.step config)
          (service.step config event) rest, rejectsTerminal visit ≠ some number :=
        fun visit member => mild visit (List.mem_cons_of_mem _ member)
      rw [observations, Machine.outputs_cons] at texts
      have progress := live.step config alone now
        fun tx member => texts tx (List.mem_append_left _ member)
      have laterTexts : ∀ tx ∈ observations config number (service.step config event) rest,
          (statusText tx).isSome :=
        fun tx member => texts tx (List.mem_append_right _ member)
      rw [observations, Machine.outputs_cons, List.filterMap_append]
      generalize (observed number (service, event)).filterMap statusText = seen at progress
      cases progress with
      | quiet next events =>
          obtain ⟨shown, log, emitted⟩ := ih next (alone.step now) laterPlain laterMild laterTexts
          exact ⟨shown, log.trans (by rw [events]), emitted⟩
      | again status noted next events =>
          obtain ⟨shown, log, emitted⟩ := ih next (alone.step now) laterPlain laterMild laterTexts
          refine ⟨shown, log.trans (by rw [events]), ?_, emitted.previous, emitted.finished⟩
          rw [List.singleton_append, changes, if_pos noted]
          exact emitted.statuses
      | changed status update isNew reports previous isTerminal events next =>
          rw [List.singleton_append]
          split at next
          · rename_i final
            obtain ⟨finished, silent⟩ := next.run (alone.step now) rest laterPlain laterMild
            refine ⟨[update], silent.trans events, ?_, ?_, fun _ => finished⟩
            · rw [changes, if_neg isNew, upTo, if_pos final]
              simp [reports]
            · simp [previous]
          · rename_i goesOn
            obtain ⟨shown, log, emitted⟩ :=
              ih next (alone.step now) laterPlain laterMild laterTexts
            refine ⟨update :: shown, ?_, ?_, ?_, ?_⟩
            · refine log.trans ?_
              rw [events, List.append_assoc, List.singleton_append]
            · rw [changes, if_neg isNew, upTo, if_neg goesOn, List.map_cons, List.map_cons,
                reports, emitted.statuses]
              rfl
            · rw [List.map_cons, List.map_cons, emitted.previous, previous, reports]
              rfl
            · rintro ⟨event, member, final⟩
              rcases List.mem_cons.mp member with own | later
              · rw [own, isTerminal] at final
                exact absurd final goesOn
              · exact emitted.finished ⟨event, later, final⟩

end Life

def EventsKnown (service : Service) : Prop :=
  ∀ number event, .event number event ∈ service.log → service.registry.tag number ≠ none

theorem eventsKnown_step (config : Config) (service : Service) (event : Event)
    (known : EventsKnown service) : EventsKnown (service.step config event) := by
  intro number update logged
  apply step_tag_ne_none
  cases step_notified config service event with
  | quiet log calling =>
      rw [log] at logged
      exact known number update logged
  | event other shown active log calling =>
      rw [log, List.mem_append, List.mem_singleton] at logged
      rcases logged with old | new
      · exact known number update old
      · cases new
        obtain ⟨transactionId, tagged⟩ := Registry.isActive_iff.mp active
        simp [tagged]
  | pollError other error fails code log calling =>
      rw [log, List.mem_append, List.mem_singleton] at logged
      rcases logged with old | new
      · exact known number update old
      · cases new
  | sseError other error backoff active log calling =>
      rw [log, List.mem_append, List.mem_singleton] at logged
      rcases logged with old | new
      · exact known number update old
      · cases new

theorem eventsKnown_reached (config : Config) (events : List Event) :
    EventsKnown (Service.reached config events) := by
  refine Machine.run_invariant (Service.step config) EventsKnown
    (eventsKnown_step config) events Service.create ?_
  intro number event logged
  cases logged

theorem unwatched_reached (config : Config) {transactionId : String} {events : List Event}
    (unwatched : ∀ event ∈ events, ∀ hasOnError,
      event ≠ .call (.watch transactionId hasOnError)) (number : Nat) (active : Bool) :
    (Service.reached config events).registry.tag number ≠ some (transactionId, active) := by
  refine Machine.run_invariant_of_visits (Service.step config)
    (fun state => ∀ number active, state.registry.tag number ≠ some (transactionId, active))
    events Service.create ?_ (fun _ _ tagged => nomatch tagged) number active
  intro visit member absent number active tagged
  obtain ⟨earlier, later, split, _⟩ := mem_visits_reached member
  have notWatched := unwatched visit.2 (by simp [split])
  obtain ⟨before, known⟩ :=
    (step_registry config visit.1 visit.2).tag_back notWatched tagged
  exact absent number before known

section Begin

variable (config : Config) {before : List Event} {transactionId : String} (hasOnError : Bool)
  (unwatched : ∀ event ∈ before, ∀ hasOnError,
    event ≠ .call (.watch transactionId hasOnError))
  (room : config.maxWatched.atMost
    (Service.reached config before).registry.watchers.entries.length = false)

include unwatched room

theorem watch_alone :
    Alone ((Service.reached config before).step config
        (.call (.watch transactionId hasOnError))) transactionId
      (Service.reached config before).registry.states.length := by
  obtain ⟨subscribed, _⟩ :=
    watch_subscribes config (Service.reached config before) transactionId hasOnError room
  refine ⟨?_, ?_, ?_⟩
  · exact (step_registry config _ _).wellTracked (wellTracked_reached config before)
  · simp [subscribed.active]
  · intro other active tagged
    cases step_registry config (Service.reached config before)
        (.call (.watch transactionId hasOnError)) with
    | kept same =>
        rw [same.tags] at tagged
        exact absurd tagged (unwatched_reached config unwatched other active)
    | added addedId hadOnError room same =>
        rw [same.tags, Registry.tag_add] at tagged
        split at tagged
        · assumption
        · exact absurd tagged (unwatched_reached config unwatched other active)
    | removed number otherId otherActive ended known same => cases ended
    | cleared ended same => simp at ended

omit unwatched in
theorem watch_live :
    Live ((Service.reached config before).step config
        (.call (.watch transactionId hasOnError))) transactionId
      (Service.reached config before).registry.states.length none := by
  obtain ⟨subscribed, _⟩ :=
    watch_subscribes config (Service.reached config before) transactionId hasOnError room
  refine ⟨subscribed, ?_, ?_⟩
  · unfold Service.step Service.invoke Registry.lastStatus Registry.add
    dsimp only
    rw [if_neg (by simp [room]), List.getElem?_concat_length]
    rfl
  · intro transport running
    rw [Service.step, (invoke_silent config _ _).2] at running
    obtain ⟨event, logged, _⟩ := terminalLogged_reached config before _ transport running
    exact eventsKnown_reached config before _ event logged (Registry.tag_length _)

end Begin

/-- In `before ++ watch :: after` the id is watched once, for this watcher; it is not
unsubscribed, and its callback does not throw over a terminal event. -/
structure WatchedOnce (config : Config) (before after : List Event) (transactionId : String)
    (hasOnError : Bool) (number : Nat) : Prop where
  numbered : number = (Service.reached config before).registry.states.length
  room : config.maxWatched.atMost
    (Service.reached config before).registry.watchers.entries.length = false
  once : ∀ event ∈ before ++ after, ∀ hasOnError,
    event ≠ .call (.watch transactionId hasOnError)
  kept : ∀ event ∈ after, event ≠ .call (.unsubscribe number) ∧
    event ≠ .call .destroy ∧ event ≠ .call .abort
  mild : ∀ visit ∈ visits config (before ++ .call (.watch transactionId hasOnError) :: after),
    rejectsTerminal visit ≠ some number

/-- The events of a transaction that is watched once are the changes of the status that
was delivered, up to the first terminal one. -/
theorem status_events_are_changes (config : Config) (before after : List Event)
    (transactionId : String) (hasOnError : Bool) (number : Nat)
    (watched : WatchedOnce config before after transactionId hasOnError number)
    (texts : ∀ tx ∈ observations config number
        ((Service.reached config before).step config (.call (.watch transactionId hasOnError)))
        after, (statusText tx).isSome) :
    let final := Service.reached config
      (before ++ .call (.watch transactionId hasOnError) :: after)
    let statuses := (observations config number
      ((Service.reached config before).step config (.call (.watch transactionId hasOnError)))
      after).filterMap statusText
    let emitted := eventsOf number final.log
    emitted.map (·.status) =
        (upTo terminalStatuses.contains (statuses.destutter (· ≠ ·))).map (some ∘ Json.string) ∧
      emitted.map (·.previousStatus) = (some .null :: emitted.map (·.status)).dropLast ∧
      ((∃ event ∈ emitted, event.isTerminal = true) →
        (∀ transport, final.calling ≠ some (.afterEvent number true transport)) →
        final.registry.watchers.lookup transactionId = none) := by
  intro final statuses emitted
  obtain ⟨rfl, room, once, kept, mild⟩ := watched
  have unwatched : ∀ event ∈ before, ∀ hasOnError,
      event ≠ .call (.watch transactionId hasOnError) :=
    fun event member => once event (List.mem_append_left _ member)
  have plain : ∀ event ∈ after, Plain transactionId
      (Service.reached config before).registry.states.length event :=
    fun event member => ⟨once event (List.mem_append_right _ member), (kept event member).1,
      (kept event member).2.1, (kept event member).2.2⟩
  obtain ⟨shown, log, emission⟩ := (watch_live config hasOnError room).run
    (watch_alone config hasOnError unwatched room) after plain
    (fun visit member => mild visit (mem_visits_of_later member).1) texts
  have silent : eventsOf (Service.reached config before).registry.states.length
      ((Service.reached config before).step config
        (.call (.watch transactionId hasOnError))).log = [] := by
    refine eventsOf_eq_nil ?_
    intro notification member event same
    rw [Service.step, (invoke_silent config _ _).1, same] at member
    exact eventsKnown_reached config before _ event member (Registry.tag_length _)
  have all : emitted = shown := by
    rw [silent, List.nil_append] at log
    rw [← log]
    exact congrArg (fun service : Service => eventsOf _ service.log) (reached_split ..)
  rw [all]
  refine ⟨?_, emission.previous, ?_⟩
  · rw [emission.statuses, changes_none]
  · intro terminal returned
    have finished := emission.finished terminal
    rw [← reached_split] at finished
    cases finished with
    | closing subscribed transport calling => exact absurd calling (returned transport)
    | ended inactive untracked => exact untracked

/-- A status is repeated by the connection and after it was lost, and frames still come
after the terminal one. -/
def reconnectedRun : List Event :=
  [.occurs (.startResumes 0), statusMessage 0 "pending_anchor", .returns none,
    statusMessage 0 "pending_anchor", .occurs (.sseError 0), .occurs (.reconnectFires 0),
    statusMessage 1 "pending_anchor", statusMessage 1 "completed", .returns none,
    statusMessage 1 "pending_anchor"]

theorem reconnectedRun_events :
    (eventsOf 0 (Service.reached sseConfig
        (.call (.watch "deposit" false) :: reconnectedRun)).log).map (·.status) =
      [some (.string "pending_anchor"), some (.string "completed")] ∧
      (Service.reached sseConfig (.call (.watch "deposit" false) :: reconnectedRun)
        ).registry.watchers.lookup "deposit" = none := by
  have watched : WatchedOnce sseConfig [] reconnectedRun "deposit" false 0 :=
    ⟨rfl, by decide +kernel, by simp [reconnectedRun, statusMessage],
      by simp [reconnectedRun, statusMessage], by decide +kernel⟩
  have returned : (Service.reached sseConfig
      (.call (.watch "deposit" false) :: reconnectedRun)).calling = none := by
    decide +kernel
  obtain ⟨changed, _, untracked⟩ := status_events_are_changes sseConfig [] reconnectedRun
    "deposit" false 0 watched (by decide +kernel)
  refine ⟨changed.trans rfl, untracked (by decide +kernel) ?_⟩
  intro transport running
  cases returned.symm.trans running

end AnchorKit.Sdk.Streaming
