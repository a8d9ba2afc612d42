import AnchorKit.Sdk.StreamingService

/-!
# What one step of the streaming service does

Frames, errors and callbacks leave the map, the poll loop and the course of the
watchers alone; `RegistryChange` lists the steps that do not, and `Notified` the
callbacks that a step may invoke.
-/

set_option autoImplicit false

namespace AnchorKit.Sdk.Streaming

open AnchorKit.Base

/-! ## The registry -/

def Registry.tag (registry : Registry) (number : Nat) : Option (String × Bool) :=
  (registry.states[number]?).map fun state => (state.transactionId, state.active)

def deactivated (tagged : Option (String × Bool)) : Option (String × Bool) :=
  tagged.map fun own => (own.1, false)

theorem deactivated_deactivated (tagged : Option (String × Bool)) :
    deactivated (deactivated tagged) = deactivated tagged := by
  cases tagged with
  | none => rfl
  | some own => rfl

structure SameTracking (before after : Registry) : Prop where
  watchers : after.watchers = before.watchers
  tags : ∀ number, after.tag number = before.tag number

theorem SameTracking.refl (registry : Registry) : SameTracking registry registry :=
  ⟨rfl, fun _ => rfl⟩

namespace Registry

variable {registry : Registry} {number other : Nat} {transactionId : String}

theorem isActive_iff : registry.isActive number = true ↔
    ∃ transactionId, registry.tag number = some (transactionId, true) := by
  unfold isActive tag
  cases registry.states[number]? with
  | none => simp
  | some state => simp

theorem tag_of_states {state : WatcherState} (found : registry.states[number]? = some state) :
    registry.tag number = some (state.transactionId, state.active) := by
  rw [tag, found, Option.map_some]

theorem sameTracking_note (registry : Registry) (number : Nat) (lastStatus cursor : Value) :
    SameTracking registry (registry.note number lastStatus cursor) := by
  refine ⟨rfl, ?_⟩
  intro other
  simp only [tag, note, List.getElem?_modify]
  split
  · cases registry.states[other]? with
    | none => rfl
    | some state => rfl
  · simp

theorem tag_add (registry : Registry) (transactionId : String) (hasOnError : Bool)
    (other : Nat) :
    (registry.add transactionId hasOnError).tag other =
      if other = registry.states.length then some (transactionId, true)
      else registry.tag other := by
  unfold tag add
  dsimp only
  by_cases new : other = registry.states.length
  · subst new
    rw [if_pos rfl, List.getElem?_concat_length]
    rfl
  · rw [if_neg new]
    congr 1
    by_cases old : other < registry.states.length
    · exact List.getElem?_append_left old
    · rw [List.getElem?_eq_none (by simp; omega), List.getElem?_eq_none (by omega)]

/-- Removing an id deactivates the watcher tracked under it, and nothing else. -/
theorem tag_remove (registry : Registry) (transactionId : String) (other : Nat) :
    (registry.remove transactionId).tag other =
      if registry.watchers.lookup transactionId = some other then
        deactivated (registry.tag other)
      else registry.tag other := by
  unfold remove
  cases tracked : registry.watchers.lookup transactionId with
  | none => simp
  | some number =>
      unfold tag
      dsimp only
      rw [List.getElem?_modify]
      by_cases same : number = other
      · subst same
        simp only [if_true]
        cases registry.states[number]? with
        | none => rfl
        | some state => rfl
      · simp [same]

theorem lookup_remove (registry : Registry) (transactionId other : String) :
    (registry.remove transactionId).watchers.lookup other =
      if other = transactionId then none else registry.watchers.lookup other := by
  unfold remove
  cases tracked : registry.watchers.lookup transactionId with
  | none =>
      by_cases same : other = transactionId
      · subst same
        simpa using tracked
      · simp [same]
  | some number =>
      dsimp only
      by_cases same : other = transactionId
      · subst same
        rw [if_pos rfl, AList.lookup_erase]
      · rw [if_neg same, AList.lookup_erase_ne same]

theorem lookup_add (registry : Registry) (transactionId : String) (hasOnError : Bool)
    (other : String) :
    (registry.add transactionId hasOnError).watchers.lookup other =
      if other = transactionId then some registry.states.length
      else registry.watchers.lookup other := by
  unfold add
  by_cases same : other = transactionId
  · subst same
    rw [if_pos rfl, AList.lookup_insert]
  · rw [if_neg same, AList.lookup_insert_ne same]

theorem lookup_foldl_remove (ids : List String) (registry : Registry) (other : String) :
    (ids.foldl remove registry).watchers.lookup other =
      if other ∈ ids then none else registry.watchers.lookup other := by
  induction ids generalizing registry with
  | nil => simp
  | cons first rest ih =>
      rw [List.foldl_cons, ih, lookup_remove]
      by_cases later : other ∈ rest
      · simp [later]
      · simp [later]

theorem tag_foldl_remove (ids : List String) (registry : Registry) (number : Nat) :
    (ids.foldl remove registry).tag number = registry.tag number ∨
      (ids.foldl remove registry).tag number = deactivated (registry.tag number) := by
  induction ids generalizing registry with
  | nil => exact Or.inl rfl
  | cons first rest ih =>
      rw [List.foldl_cons]
      have next := ih (registry.remove first)
      rw [tag_remove] at next
      split at next
      · rw [deactivated_deactivated, or_self] at next
        exact Or.inr next
      · exact next

theorem tag_foldl_remove_of_tracked {ids : List String} {registry : Registry}
    {transactionId : String} {number : Nat} (listed : transactionId ∈ ids)
    (tracked : registry.watchers.lookup transactionId = some number) :
    (ids.foldl remove registry).tag number = deactivated (registry.tag number) := by
  induction ids generalizing registry with
  | nil => exact absurd listed List.not_mem_nil
  | cons first rest ih =>
      rw [List.foldl_cons]
      have removed := tag_remove registry first number
      by_cases now : registry.watchers.lookup first = some number
      · rw [if_pos now] at removed
        have later := tag_foldl_remove rest (registry.remove first) number
        rw [removed, deactivated_deactivated, or_self] at later
        exact later
      · have different : transactionId ≠ first := by
          intro same
          rw [same] at tracked
          exact now tracked
        have stillTracked : (registry.remove first).watchers.lookup transactionId =
            some number := by
          rw [lookup_remove, if_neg different, tracked]
        rw [if_neg now] at removed
        rw [← removed]
        exact ih ((List.mem_cons.mp listed).resolve_left different) stillTracked

theorem lookup_clear (registry : Registry) (transactionId : String) :
    registry.clear.watchers.lookup transactionId = none := by
  rw [clear, lookup_foldl_remove]
  by_cases listed : transactionId ∈ registry.watchers.keys
  · rw [if_pos listed]
  · rw [if_neg listed]
    exact AList.lookup_eq_none.mpr listed

theorem tag_clear (registry : Registry) (number : Nat) :
    registry.clear.tag number = registry.tag number ∨
      registry.clear.tag number = deactivated (registry.tag number) :=
  tag_foldl_remove _ registry number

theorem tag_clear_of_tracked (tracked : registry.watchers.lookup transactionId = some number) :
    registry.clear.tag number = deactivated (registry.tag number) := by
  refine tag_foldl_remove_of_tracked ?_ tracked
  by_contra unlisted
  rw [AList.lookup_eq_none.mpr unlisted] at tracked
  cases tracked

end Registry

/-! ## Frames, errors and callbacks -/

theorem openSse_eq (config : Config) (service : Service) (number : Nat) (backoff : ℚ) :
    ∃ opened, service.openSse config number backoff =
      { service with connections := service.connections ++ opened } := by
  unfold Service.openSse
  cases service.registry.states[number]? with
  | none => exact ⟨[], by simp⟩
  | some state =>
      dsimp only
      split
      · exact ⟨_, rfl⟩
      · exact ⟨[], by simp⟩

theorem startSse_eq (config : Config) (service : Service) (number : Nat) (backoff : ℚ) :
    ∃ opened planned, service.startSse config number backoff =
      { service with
        connections := service.connections ++ opened
        reconnects := service.reconnects ++ planned } := by
  unfold Service.startSse
  split
  · split
    · exact ⟨[], [(number, backoff)], by simp⟩
    · obtain ⟨opened, same⟩ := openSse_eq config service number backoff
      exact ⟨opened, [], by simp [same]⟩
  · exact ⟨[], [], by simp⟩

/-- Nothing happens to the map, to the poll loop and to the start of the watchers. -/
structure SameCourse (before after : Service) : Prop where
  tracking : SameTracking before.registry after.registry
  loop : after.loop = before.loop
  capability : after.capability = before.capability
  starting : after.starting = before.starting
  started : after.started = before.started
  aborted : after.aborted = before.aborted

namespace SameCourse

theorem refl (service : Service) : SameCourse service service :=
  ⟨.refl _, rfl, rfl, rfl, rfl, rfl⟩

theorem trans {first second third : Service} (one : SameCourse first second)
    (two : SameCourse second third) : SameCourse first third where
  tracking := ⟨two.tracking.watchers.trans one.tracking.watchers,
    fun number => (two.tracking.tags number).trans (one.tracking.tags number)⟩
  loop := two.loop.trans one.loop
  capability := two.capability.trans one.capability
  starting := two.starting.trans one.starting
  started := two.started.trans one.started
  aborted := two.aborted.trans one.aborted

variable (service : Service) (number : Nat)

theorem dispatchUpdate (tx : Json) (transport : Transport) :
    SameCourse service (service.dispatchUpdate number tx transport) := by
  unfold Service.dispatchUpdate
  cases service.registry.states[number]? with
  | none => exact refl service
  | some state =>
      dsimp only
      split
      · split
        · exact ⟨Registry.sameTracking_note _ _ _ _, rfl, rfl, rfl, rfl, rfl⟩
        · exact ⟨Registry.sameTracking_note _ _ _ _, rfl, rfl, rfl, rfl, rfl⟩
      · exact refl service

theorem reportPollError (reason : String) :
    SameCourse service (service.reportPollError number reason) := by
  unfold Service.reportPollError
  cases service.registry.states[number]? with
  | none => exact refl service
  | some state =>
      dsimp only
      split
      · exact ⟨.refl _, rfl, rfl, rfl, rfl, rfl⟩
      · exact refl service

theorem openSse (config : Config) (backoff : ℚ) :
    SameCourse service (service.openSse config number backoff) := by
  obtain ⟨opened, same⟩ := openSse_eq config service number backoff
  rw [same]
  exact ⟨.refl _, rfl, rfl, rfl, rfl, rfl⟩

theorem startSse (config : Config) (backoff : ℚ) :
    SameCourse service (service.startSse config number backoff) := by
  obtain ⟨opened, planned, same⟩ := startSse_eq config service number backoff
  rw [same]
  exact ⟨.refl _, rfl, rfl, rfl, rfl, rfl⟩

theorem handleSseMessage (data : Option Json) :
    SameCourse service (service.handleSseMessage number data) := by
  unfold Service.handleSseMessage
  split
  · split
    · exact refl service
    · exact dispatchUpdate service number _ .sse
  · exact refl service

theorem handleSseError (config : Config) (index : Nat) (connection : Connection) :
    SameCourse service (service.handleSseError config index connection) := by
  have closed : ∀ connections, SameCourse service { service with connections := connections } :=
    fun _ => ⟨.refl _, rfl, rfl, rfl, rfl, rfl⟩
  unfold Service.handleSseError
  dsimp only
  split
  · exact closed _
  · split
    · exact closed _
    · split
      · exact ⟨.refl _, rfl, rfl, rfl, rfl, rfl⟩
      · exact (closed _).trans (startSse _ _ config _)

end SameCourse

/-! ## The course of a step -/

/-- Everything a step may do to the map, the poll loop and the start of a watcher. -/
inductive Course (config : Config) (service after : Service) : Event → Prop
  | same {event : Event} (course : SameCourse service after) :
      Course config service after event
  | watched (transactionId : String) (hasOnError : Bool)
      (room : config.maxWatched.atMost service.registry.watchers.entries.length = false)
      (course : SameCourse
        { service with
          registry := service.registry.add transactionId hasOnError
          capability := service.capability.ask config
          starting := service.starting ++ [service.registry.states.length] } after) :
      Course config service after (.call (.watch transactionId hasOnError))
  | unsubscribed (handle : Nat) (transactionId : String) (active : Bool)
      (known : service.registry.tag handle = some (transactionId, active))
      (course : SameCourse
        { service with registry := service.registry.remove transactionId } after) :
      Course config service after (.call (.unsubscribe handle))
  | finished (number : Nat) (transport : Transport) (transactionId : String) (active : Bool)
      (calling : service.calling = some (.afterEvent number true transport))
      (known : service.registry.tag number = some (transactionId, active))
      (course : SameCourse
        { service with registry := service.registry.remove transactionId } after) :
      Course config service after (.returns none)
  | destroyed (course : SameCourse service.destroy after) :
      Course config service after (.call .destroy)
  | aborted (course : SameCourse { service.destroy with aborted := true } after) :
      Course config service after (.call .abort)
  | detected (supportsSse : Bool) (detecting : service.capability = .detecting)
      (course : SameCourse { service with capability := .known supportsSse } after) :
      Course config service after (.occurs (.detected supportsSse))
  | resumed (number : Nat) (supportsSse : Bool)
      (known : service.capability = .known supportsSse) (waiting : number ∈ service.starting)
      (course : SameCourse
        { service with
          starting := service.starting.erase number
          started := number :: service.started
          loop := if service.registry.isActive number && !supportsSse
            then service.loop.ensurePollLoop else service.loop } after) :
      Course config service after (.occurs (.startResumes number))
  | timerFired (timer : Nat) (armed : timer ∈ service.loop.timers)
      (course : SameCourse
        { service with
          loop := service.loop.runPollCycle timer service.aborted
            service.registry.activeWatchers } after) :
      Course config service after (.occurs (.pollTimerFires timer))
  | settled (cycle number : Nat) (reply : PollReply)
      (course : SameCourse { service with loop := service.loop.settle cycle number } after) :
      Course config service after (.occurs (.pollSettles cycle number reply))
  | completed (cycle : Nat)
      (course : SameCourse
        { service with
          loop := service.loop.complete cycle
            (!service.registry.activeWatchers.isEmpty && !service.aborted) } after) :
      Course config service after (.occurs (.cycleCompletes cycle))

section Step

variable (config : Config) (service : Service)

theorem invoke_course (api : Api) :
    Course config service (service.invoke config api) (.call api) := by
  cases api with
  | watch transactionId hasOnError =>
      unfold Service.invoke
      dsimp only
      cases full : config.maxWatched.atMost service.registry.watchers.entries.length with
      | true => exact .same (.refl service)
      | false => exact .watched transactionId hasOnError full (.refl _)
  | unsubscribe handle =>
      unfold Service.invoke
      dsimp only
      cases found : service.registry.states[handle]? with
      | none => exact .same (.refl service)
      | some state =>
          exact .unsubscribed handle state.transactionId state.active
            (Registry.tag_of_states found) (.refl _)
  | destroy => exact .destroyed (.refl _)
  | abort =>
      unfold Service.invoke
      dsimp only
      split
      · exact .aborted ⟨.refl _, rfl, rfl, rfl, rfl, rfl⟩
      · exact .same (.refl service)

theorem resumeStart_course (number : Nat) (supportsSse : Bool) :
    SameCourse
      { service with
        starting := service.starting.erase number
        started := number :: service.started
        loop := if service.registry.isActive number && !supportsSse
          then service.loop.ensurePollLoop else service.loop }
      (service.resumeStart config number supportsSse) := by
  unfold Service.resumeStart
  dsimp only
  cases active : service.registry.isActive number with
  | false => exact .refl _
  | true =>
      cases supportsSse with
      | true => exact SameCourse.startSse _ number config 0
      | false => exact .refl _

theorem occur_course (occurrence : Occurrence) :
    Course config service (service.occur config occurrence) (.occurs occurrence) := by
  cases occurrence with
  | detected supportsSse =>
      unfold Service.occur
      dsimp only
      split
      · rename_i detecting
        exact .detected supportsSse detecting (.refl _)
      · exact .same (.refl service)
  | startResumes number =>
      unfold Service.occur
      dsimp only
      split
      · rename_i supportsSse known
        split
        · rename_i waiting
          exact .resumed number supportsSse known waiting
            (resumeStart_course config service number _)
        · exact .same (.refl service)
      · exact .same (.refl service)
  | message index data =>
      unfold Service.occur
      dsimp only
      split
      · exact .same (.refl service)
      · split
        · exact .same (SameCourse.handleSseMessage service _ data)
        · exact .same (.refl service)
  | sseError index =>
      unfold Service.occur
      dsimp only
      split
      · exact .same (.refl service)
      · split
        · exact .same (SameCourse.handleSseError service config index _)
        · exact .same (.refl service)
  | reconnectFires index =>
      unfold Service.occur
      dsimp only
      split
      · exact .same (.refl service)
      · have fired : SameCourse service
            { service with reconnects := service.reconnects.eraseIdx index } :=
          ⟨.refl _, rfl, rfl, rfl, rfl, rfl⟩
        exact .same (fired.trans (SameCourse.openSse _ _ config _))
  | pollTimerFires timer =>
      unfold Service.occur
      dsimp only
      split
      · rename_i armed
        exact .timerFired timer armed (.refl _)
      · exact .same (.refl service)
  | pollSettles cycle number reply =>
      unfold Service.occur
      dsimp only
      split
      · split
        · exact .settled cycle number reply (.refl _)
        · exact .settled cycle number reply (SameCourse.dispatchUpdate _ number _ .poll)
        · exact .settled cycle number reply (SameCourse.reportPollError _ number _)
      · exact .same (.refl service)
  | cycleCompletes cycle =>
      unfold Service.occur
      dsimp only
      split
      · exact .completed cycle (.refl _)
      · exact .same (.refl service)

theorem returns_course (thrown : Option String) (frame : Frame)
    (calling : service.calling = some frame) :
    Course config service ({ service with calling := none }.resume config thrown frame)
      (.returns thrown) := by
  have idle : SameCourse service { service with calling := none } :=
    ⟨.refl _, rfl, rfl, rfl, rfl, rfl⟩
  cases frame with
  | afterEvent number isTerminal transport =>
      cases thrown with
      | none =>
          unfold Service.resume
          dsimp only
          cases isTerminal with
          | false => exact .same idle
          | true =>
              cases found : service.registry.states[number]? with
              | none => exact .same idle
              | some state =>
                  exact .finished number transport state.transactionId state.active calling
                    (Registry.tag_of_states found) ⟨.refl _, rfl, rfl, rfl, rfl, rfl⟩
      | some reason =>
          cases transport with
          | poll => exact .same (idle.trans (SameCourse.reportPollError _ number reason))
          | sse => exact .same idle
  | afterPollError number => exact .same idle
  | afterSseError number backoff =>
      cases thrown with
      | none => exact .same (idle.trans (SameCourse.startSse _ number config backoff))
      | some reason => exact .same idle

theorem step_course (event : Event) :
    Course config service (service.step config event) event := by
  cases event with
  | call api => exact invoke_course config service api
  | returns thrown =>
      unfold Service.step
      dsimp only
      cases calling : service.calling with
      | none => exact .same (.refl service)
      | some frame => exact returns_course config service thrown frame calling
  | occurs occurrence =>
      unfold Service.step
      dsimp only
      cases service.calling with
      | none => exact occur_course config service occurrence
      | some frame => exact .same (.refl service)

end Step

inductive StartChange (config : Config) (service after : Service) : Event → Prop
  | kept {event : Event} (starting : after.starting = service.starting)
      (started : after.started = service.started)
      (capability : after.capability = service.capability) :
      StartChange config service after event
  | watched (transactionId : String) (hasOnError : Bool)
      (starting : after.starting = service.starting ++ [service.registry.states.length])
      (started : after.started = service.started)
      (capability : after.capability = service.capability.ask config)
      (tracking : SameTracking (service.registry.add transactionId hasOnError) after.registry) :
      StartChange config service after (.call (.watch transactionId hasOnError))
  | detected (supportsSse : Bool) (detecting : service.capability = .detecting)
      (starting : after.starting = service.starting)
      (started : after.started = service.started)
      (capability : after.capability = .known supportsSse) :
      StartChange config service after (.occurs (.detected supportsSse))
  | resumed (number : Nat) (supportsSse : Bool)
      (known : service.capability = .known supportsSse) (waiting : number ∈ service.starting)
      (starting : after.starting = service.starting.erase number)
      (started : after.started = number :: service.started)
      (capability : after.capability = service.capability) :
      StartChange config service after (.occurs (.startResumes number))

theorem step_starts (config : Config) (service : Service) (event : Event) :
    StartChange config service (service.step config event) event := by
  cases step_course config service event with
  | same course => exact .kept course.starting course.started course.capability
  | watched transactionId hasOnError room course =>
      exact .watched transactionId hasOnError course.starting course.started
        course.capability course.tracking
  | unsubscribed handle transactionId active known course =>
      exact .kept course.starting course.started course.capability
  | finished number transport transactionId active calling known course =>
      exact .kept course.starting course.started course.capability
  | destroyed course => exact .kept course.starting course.started course.capability
  | aborted course => exact .kept course.starting course.started course.capability
  | detected supportsSse detecting course =>
      exact .detected supportsSse detecting course.starting course.started course.capability
  | resumed number supportsSse known waiting course =>
      exact .resumed number supportsSse known waiting course.starting course.started
        course.capability
  | timerFired timer armed course =>
      exact .kept course.starting course.started course.capability
  | settled cycle number reply course =>
      exact .kept course.starting course.started course.capability
  | completed cycle course => exact .kept course.starting course.started course.capability

/-! ## The callback of a step -/

/-- The watcher whose poll fails in this step: its request does, or its callback throws
while a polled transaction is dispatched. -/
def failedPoll (service : Service) : Event → Option Nat
  | .occurs (.pollSettles _ number reply) =>
      match reply.transaction with
      | .error _ => some number
      | .ok _ => none
  | .returns (some _) =>
      match service.calling with
      | some (.afterEvent number _ .poll) => some number
      | _ => none
  | _ => none

/-- The callback that a step invokes, if any, and what is left to do after it. -/
inductive Notified (failed : Option Nat) (before after : Service) : Prop
  | quiet (log : after.log = before.log)
      (calling : after.calling = before.calling ∨ after.calling = none)
  | event (number : Nat) (event : TransactionStreamEvent)
      (active : before.registry.isActive number = true)
      (log : after.log = before.log ++ [.event number event])
      (calling : after.calling = some (.afterEvent number event.isTerminal event.transport))
  | pollError (number : Nat) (error : TransactionStreamError) (fails : failed = some number)
      (code : error.code = "POLL_ERROR")
      (log : after.log = before.log ++ [.error number error])
      (calling : after.calling = some (.afterPollError number))
  | sseError (number : Nat) (error : TransactionStreamError) (backoff : ℚ)
      (active : before.registry.isActive number = true)
      (log : after.log = before.log ++ [.error number error])
      (calling : after.calling = some (.afterSseError number backoff))

namespace Notified

variable {failed : Option Nat}

theorem refl (service : Service) : Notified failed service service := .quiet rfl (.inl rfl)

theorem of_same {before other after : Service} (notified : Notified failed other after)
    (registry : other.registry = before.registry) (log : other.log = before.log)
    (calling : other.calling = before.calling ∨ other.calling = none) :
    Notified failed before after := by
  cases notified with
  | quiet sameLog sameCalling =>
      refine .quiet (sameLog.trans log) ?_
      rcases sameCalling with same | idle
      · rw [same]
        exact calling
      · exact .inr idle
  | event number event active appended next =>
      exact .event number event (registry ▸ active) (log ▸ appended) next
  | pollError number error fails code appended next =>
      exact .pollError number error fails code (log ▸ appended) next
  | sseError number error backoff active appended next =>
      exact .sseError number error backoff (registry ▸ active) (log ▸ appended) next

variable (service : Service) (number : Nat)

theorem dispatchUpdate (tx : Json) (transport : Transport) :
    Notified failed service (service.dispatchUpdate number tx transport) := by
  unfold Service.dispatchUpdate
  cases found : service.registry.states[number]? with
  | none => exact refl service
  | some state =>
      dsimp only
      split
      · rename_i active
        split
        · exact .quiet rfl (.inl rfl)
        · refine .event number _ ?_ rfl rfl
          rw [Registry.isActive, found]
          exact active
      · exact refl service

theorem reportPollError (reason : String) :
    Notified (some number) service (service.reportPollError number reason) := by
  unfold Service.reportPollError
  cases service.registry.states[number]? with
  | none => exact refl service
  | some state =>
      dsimp only
      split
      · exact .pollError number _ rfl rfl rfl rfl
      · exact refl service

theorem openSse (config : Config) (backoff : ℚ) :
    Notified failed service (service.openSse config number backoff) := by
  obtain ⟨opened, same⟩ := openSse_eq config service number backoff
  rw [same]
  exact .quiet rfl (.inl rfl)

theorem startSse (config : Config) (backoff : ℚ) :
    Notified failed service (service.startSse config number backoff) := by
  obtain ⟨opened, planned, same⟩ := startSse_eq config service number backoff
  rw [same]
  exact .quiet rfl (.inl rfl)

theorem handleSseMessage (data : Option Json) :
    Notified failed service (service.handleSseMessage number data) := by
  unfold Service.handleSseMessage
  split
  · split
    · exact refl service
    · exact dispatchUpdate service number _ .sse
  · exact refl service

theorem handleSseError (config : Config) (index : Nat) (connection : Connection) :
    Notified failed service (service.handleSseError config index connection) := by
  unfold Service.handleSseError
  dsimp only
  cases found : service.registry.states[connection.watcher]? with
  | none => exact .quiet rfl (.inl rfl)
  | some state =>
      dsimp only
      cases active : state.active with
      | false =>
          rw [if_pos (by simp)]
          exact .quiet rfl (.inl rfl)
      | true =>
          split
          · exact .quiet rfl (.inl rfl)
          · split
            · refine .sseError connection.watcher _ _ ?_ rfl rfl
              rw [Registry.isActive, found]
              exact active
            · obtain ⟨opened, planned, same⟩ := startSse_eq config _ connection.watcher _
              rw [same]
              exact .quiet rfl (.inl rfl)

theorem resumeStart (config : Config) (supportsSse : Bool) :
    Notified failed service (service.resumeStart config number supportsSse) := by
  unfold Service.resumeStart
  dsimp only
  split
  · split
    · obtain ⟨opened, planned, same⟩ := startSse_eq config _ number 0
      rw [same]
      exact .quiet rfl (.inl rfl)
    · exact .quiet rfl (.inl rfl)
  · exact .quiet rfl (.inl rfl)

end Notified

section Callback

variable (config : Config) (service : Service)

theorem invoke_silent (api : Api) :
    (service.invoke config api).log = service.log ∧
      (service.invoke config api).calling = service.calling := by
  cases api with
  | watch transactionId hasOnError =>
      unfold Service.invoke
      dsimp only
      split
      · exact ⟨rfl, rfl⟩
      · exact ⟨rfl, rfl⟩
  | unsubscribe handle =>
      unfold Service.invoke
      dsimp only
      split
      · exact ⟨rfl, rfl⟩
      · exact ⟨rfl, rfl⟩
  | destroy => exact ⟨rfl, rfl⟩
  | abort =>
      unfold Service.invoke
      dsimp only
      split
      · exact ⟨rfl, rfl⟩
      · exact ⟨rfl, rfl⟩

theorem occur_notified (occurrence : Occurrence) :
    Notified (failedPoll service (.occurs occurrence)) service
      (service.occur config occurrence) := by
  unfold Service.occur
  cases occurrence with
  | detected supportsSse =>
      dsimp only
      split
      · exact .quiet rfl (.inl rfl)
      · exact .refl service
  | startResumes number =>
      dsimp only
      split
      · split
        · exact Notified.resumeStart service number config _
        · exact .refl service
      · exact .refl service
  | message index data =>
      dsimp only
      split
      · exact .refl service
      · split
        · exact Notified.handleSseMessage service _ data
        · exact .refl service
  | sseError index =>
      dsimp only
      split
      · exact .refl service
      · split
        · exact Notified.handleSseError service config index _
        · exact .refl service
  | reconnectFires index =>
      dsimp only
      split
      · exact .refl service
      · exact (Notified.openSse _ _ config _).of_same rfl rfl (.inl rfl)
  | pollTimerFires timer =>
      dsimp only
      split
      · exact .quiet rfl (.inl rfl)
      · exact .refl service
  | pollSettles cycle number reply =>
      dsimp only
      split
      · cases settles : reply.transaction with
        | ok found =>
            cases found with
            | none => exact .quiet rfl (.inl rfl)
            | some tx =>
                exact (Notified.dispatchUpdate _ number tx .poll).of_same rfl rfl (.inl rfl)
        | error reason =>
            have fails : failedPoll service (.occurs (.pollSettles cycle number reply)) =
                some number := by
              rw [failedPoll, settles]
            rw [fails]
            exact (Notified.reportPollError _ number reason).of_same rfl rfl (.inl rfl)
      · exact .refl service
  | cycleCompletes cycle =>
      dsimp only
      split
      · exact .quiet rfl (.inl rfl)
      · exact .refl service

theorem resume_notified (thrown : Option String) (frame : Frame)
    (calling : service.calling = some frame) :
    Notified (failedPoll service (.returns thrown)) { service with calling := none }
      ({ service with calling := none }.resume config thrown frame) := by
  cases frame with
  | afterEvent number isTerminal transport =>
      cases thrown with
      | none =>
          unfold Service.resume
          dsimp only
          split
          · split
            · exact .refl _
            · exact .quiet rfl (.inl rfl)
          · exact .refl _
      | some reason =>
          cases transport with
          | poll =>
              have fails : failedPoll service (.returns (some reason)) = some number := by
                rw [failedPoll, calling]
              rw [fails]
              exact Notified.reportPollError _ number reason
          | sse => exact .refl _
  | afterPollError number => exact .refl _
  | afterSseError number backoff =>
      cases thrown with
      | none => exact Notified.startSse _ number config backoff
      | some reason => exact .refl _

theorem step_notified (event : Event) :
    Notified (failedPoll service event) service (service.step config event) := by
  cases event with
  | call api =>
      obtain ⟨log, calling⟩ := invoke_silent config service api
      exact .quiet log (.inl calling)
  | returns thrown =>
      unfold Service.step
      dsimp only
      cases calling : service.calling with
      | none => exact .refl service
      | some frame =>
          exact (resume_notified config service thrown frame calling).of_same rfl rfl (.inr rfl)
  | occurs occurrence =>
      unfold Service.step
      dsimp only
      cases service.calling with
      | none => exact occur_notified config service occurrence
      | some frame => exact .refl service

end Callback

end AnchorKit.Sdk.Streaming
