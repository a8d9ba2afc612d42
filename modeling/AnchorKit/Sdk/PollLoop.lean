import AnchorKit.Sdk.Tracking

/-!
# The shared poll loop does not stall

The flag `pollLoopRunning`, the timer and the cycles in flight are changed by five
operations.  Every poll timer that is armed is the one `pollTimerId` names, and the
flag is set only while a timer is armed or a cycle is in flight; hence a watcher that
the map tracks is always going to be polled.  A watcher that was replaced in the map
is not: the loop ends when the last tracked watcher is gone.
-/

set_option autoImplicit false

namespace AnchorKit.Sdk.Streaming

open AnchorKit.Base

namespace PollLoop

variable {loop : PollLoop}

/-- A poll timer is armed or a cycle is in flight. -/
def Busy (loop : PollLoop) : Prop := loop.timers ≠ [] ∨ loop.cycles ≠ []

structure Sound (loop : PollLoop) : Prop where
  current : ∀ timer ∈ loop.timers, loop.pollTimerId = some timer
  single : loop.timers.length ≤ 1
  running : loop.pollLoopRunning = true → loop.Busy

/-! ## The operations on the loop -/

theorem clearTimer_timers (current : ∀ timer ∈ loop.timers, loop.pollTimerId = some timer) :
    loop.clearTimer.timers = [] := by
  rw [clearTimer, List.filter_eq_nil_iff]
  intro timer armed
  simp [current timer armed]

theorem schedulePoll_timers (current : ∀ timer ∈ loop.timers, loop.pollTimerId = some timer) :
    loop.schedulePoll.timers = [loop.nextTimer] := by
  unfold schedulePoll
  dsimp only
  rw [clearTimer_timers current]

theorem schedulePoll_busy (loop : PollLoop) : loop.schedulePoll.Busy :=
  Or.inl (List.cons_ne_nil _ _)

theorem Sound.schedulePoll (current : ∀ timer ∈ loop.timers, loop.pollTimerId = some timer) :
    loop.schedulePoll.Sound where
  current := by
    rw [schedulePoll_timers current]
    intro timer armed
    rw [List.mem_singleton.mp armed]
    rfl
  single := by
    rw [schedulePoll_timers current]
    exact Nat.le_refl 1
  running := fun _ => schedulePoll_busy loop

theorem Sound.ensurePollLoop (sound : loop.Sound) : loop.ensurePollLoop.Sound := by
  unfold PollLoop.ensurePollLoop
  split
  · exact sound
  · exact Sound.schedulePoll sound.current

theorem Sound.ensurePollLoop_busy (sound : loop.Sound) : loop.ensurePollLoop.Busy := by
  unfold PollLoop.ensurePollLoop
  split
  · rename_i running
    exact sound.running running
  · exact schedulePoll_busy _

theorem Sound.halt (sound : loop.Sound) : loop.halt.Sound where
  current := by
    intro timer armed
    rw [PollLoop.halt, clearTimer_timers sound.current] at armed
    cases armed
  single := by
    rw [PollLoop.halt, clearTimer_timers sound.current]
    exact Nat.zero_le 1
  running := by
    intro running
    cases running

theorem Sound.fired (sound : loop.Sound) (timer : Nat) :
    (∀ other ∈ loop.timers.erase timer, loop.pollTimerId = some other) ∧
      (loop.timers.erase timer).length ≤ 1 := by
  constructor
  · intro other armed
    exact sound.current other (List.mem_of_mem_erase armed)
  · exact Nat.le_trans (List.length_erase_le) sound.single

theorem Sound.runPollCycle (sound : loop.Sound) (timer : Nat) (aborted : Bool)
    (active : List Nat) : (loop.runPollCycle timer aborted active).Sound := by
  obtain ⟨current, single⟩ := sound.fired timer
  unfold PollLoop.runPollCycle
  dsimp only
  split
  · exact ⟨current, single, fun running => nomatch running⟩
  · split
    · exact ⟨current, single, fun running => nomatch running⟩
    · refine ⟨current, single, fun _ => Or.inr ?_⟩
      simp

theorem runPollCycle_busy (timer : Nat) {active : List Nat} (present : active ≠ []) :
    (loop.runPollCycle timer false active).Busy := by
  unfold runPollCycle
  dsimp only
  rw [if_neg Bool.false_ne_true, if_neg (by simpa using present)]
  exact Or.inr (by simp)

theorem settle_cycles_ne_nil (loop : PollLoop) (cycle number : Nat) :
    (loop.settle cycle number).cycles ≠ [] ↔ loop.cycles ≠ [] := by
  rw [← List.length_pos_iff, ← List.length_pos_iff, settle, List.length_modify]

theorem settle_busy (cycle number : Nat) (busy : loop.Busy) :
    (loop.settle cycle number).Busy := by
  rcases busy with armed | flying
  · exact Or.inl armed
  · exact Or.inr ((settle_cycles_ne_nil loop cycle number).mpr flying)

theorem Sound.settle (sound : loop.Sound) (cycle number : Nat) :
    (loop.settle cycle number).Sound :=
  ⟨sound.current, sound.single, fun running => settle_busy cycle number (sound.running running)⟩

theorem Sound.complete (sound : loop.Sound) (cycle : Nat) (goOn : Bool) :
    (loop.complete cycle goOn).Sound := by
  unfold PollLoop.complete
  dsimp only
  split
  · exact Sound.schedulePoll sound.current
  · exact ⟨sound.current, sound.single, fun running => nomatch running⟩

end PollLoop

/-! ## Watchers that have started -/

/-- The calls of `_startWatcher` belong to watchers that exist, and none of them
completes before the capabilities are known. -/
structure Enrolled (service : Service) : Prop where
  starting : ∀ number ∈ service.starting, service.registry.tag number ≠ none
  started : ∀ number ∈ service.started, service.registry.tag number ≠ none
  unknown : (∀ supportsSse, service.capability ≠ .known supportsSse) → service.started = []

theorem step_tag_ne_none (config : Config) (service : Service) (event : Event) (number : Nat)
    (known : service.registry.tag number ≠ none) :
    (service.step config event).registry.tag number ≠ none := by
  obtain ⟨⟨transactionId, active⟩, tagged⟩ := Option.ne_none_iff_exists'.mp known
  rcases (step_registry config service event).tag_of_tag tagged with same | same
  · simp [same]
  · simp [same]

theorem Capability.ask_known {config : Config} {capability : Capability} {supportsSse : Bool}
    (known : capability = .known supportsSse) : capability.ask config = .known supportsSse := by
  rw [known]
  rfl

theorem enrolled_step (config : Config) (service : Service) (event : Event)
    (enrolled : Enrolled service) : Enrolled (service.step config event) := by
  have kept := step_tag_ne_none config service event
  have waiting : ∀ number ∈ service.starting,
      (service.step config event).registry.tag number ≠ none :=
    fun number member => kept number (enrolled.starting number member)
  have complete : ∀ number ∈ service.started,
      (service.step config event).registry.tag number ≠ none :=
    fun number member => kept number (enrolled.started number member)
  cases step_starts config service event with
  | kept starting started capability =>
      refine ⟨?_, ?_, ?_⟩
      · rw [starting]
        exact waiting
      · rw [started]
        exact complete
      · rw [capability, started]
        exact enrolled.unknown
  | watched transactionId hasOnError starting started capability tracking =>
      refine ⟨?_, ?_, ?_⟩
      · rw [starting]
        intro number member
        rcases List.mem_append.mp member with old | new
        · exact waiting number old
        · rw [List.mem_singleton.mp new, tracking.tags, Registry.tag_add, if_pos rfl]
          exact Option.some_ne_none _
      · rw [started]
        exact complete
      · rw [capability, started]
        intro unknown
        apply enrolled.unknown
        intro supportsSse known
        exact unknown supportsSse (Capability.ask_known known)
  | detected supportsSse detecting starting started capability =>
      refine ⟨?_, ?_, ?_⟩
      · rw [starting]
        exact waiting
      · rw [started]
        exact complete
      · intro unknown
        exact absurd capability (unknown supportsSse)
  | resumed number supportsSse known waits starting started capability =>
      refine ⟨?_, ?_, ?_⟩
      · rw [starting]
        intro other member
        exact waiting other (List.mem_of_mem_erase member)
      · rw [started]
        intro other member
        rcases List.mem_cons.mp member with own | old
        · rw [own]
          exact waiting number waits
        · exact complete other old
      · intro unknown
        exact absurd (capability.trans known) (unknown supportsSse)

/-! ## Tracked watchers are attended to -/

structure Attended (service : Service) : Prop where
  loop : service.loop.Sound
  busy : service.capability = .known false → service.aborted = false →
    ∀ transactionId number, service.registry.watchers.lookup transactionId = some number →
      number ∈ service.started → service.loop.Busy

theorem Attended.of_sameCourse {before after : Service} (same : SameCourse before after)
    (attended : Attended before) : Attended after := by
  constructor
  · rw [same.loop]
    exact attended.loop
  · rw [same.loop, same.capability, same.aborted, same.tracking.watchers, same.started]
    exact attended.busy

theorem Registry.activeWatchers_ne_nil {registry : Registry} (well : WellTracked registry)
    {transactionId : String} {number : Nat}
    (tracked : registry.watchers.lookup transactionId = some number) :
    registry.activeWatchers ≠ [] := by
  apply List.ne_nil_of_mem (a := number)
  rw [activeWatchers, List.mem_filter, isActive_iff]
  refine ⟨?_, transactionId, well transactionId number tracked⟩
  exact List.mem_map_of_mem (AList.mem_lookup_iff.mp tracked)

theorem Attended.fewer {service : Service} (attended : Attended service) {registry : Registry}
    (fewer : ∀ transactionId number, registry.watchers.lookup transactionId = some number →
      service.registry.watchers.lookup transactionId = some number) :
    Attended { service with registry := registry } where
  loop := attended.loop
  busy := by
    intro polling going transactionId number tracked
    exact attended.busy polling going transactionId number (fewer _ _ tracked)

theorem Registry.lookup_of_lookup_remove {registry : Registry} {removedId transactionId : String}
    {number : Nat}
    (tracked : (registry.remove removedId).watchers.lookup transactionId = some number) :
    registry.watchers.lookup transactionId = some number := by
  rw [lookup_remove] at tracked
  split at tracked
  · cases tracked
  · exact tracked

theorem Attended.watched {service : Service} (attended : Attended service) (config : Config)
    (enrolled : Enrolled service) (transactionId : String) (hasOnError : Bool) :
    Attended { service with
      registry := service.registry.add transactionId hasOnError
      capability := service.capability.ask config
      starting := service.starting ++ [service.registry.states.length] } := by
  refine ⟨attended.loop, ?_⟩
  intro polling going otherId number tracked started
  dsimp only at polling going tracked started
  have polled : service.capability = .known false := by
    cases capability : service.capability with
    | known supportsSse =>
        rw [Capability.ask_known capability] at polling
        exact polling
    | unasked => simp [enrolled.unknown (by simp [capability])] at started
    | detecting => simp [enrolled.unknown (by simp [capability])] at started
  refine attended.busy polled going otherId number ?_ started
  rw [Registry.lookup_add] at tracked
  split at tracked
  · have absent := enrolled.started number started
    rw [← Option.some.inj tracked, Registry.tag_length] at absent
    exact absurd rfl absent
  · exact tracked

theorem Attended.resumed {service : Service} (attended : Attended service)
    (well : WellTracked service.registry) {supportsSse : Bool}
    (known : service.capability = .known supportsSse) (number : Nat) :
    Attended { service with
      starting := service.starting.erase number
      started := number :: service.started
      loop := if service.registry.isActive number && !supportsSse
        then service.loop.ensurePollLoop else service.loop } := by
  cases ensured : service.registry.isActive number && !supportsSse with
  | true =>
      exact ⟨attended.loop.ensurePollLoop, fun _ _ _ _ _ _ =>
        attended.loop.ensurePollLoop_busy⟩
  | false =>
      refine ⟨attended.loop, ?_⟩
      intro polling going transactionId other tracked started
      have polled := known.symm.trans polling
      cases polled
      rcases List.mem_cons.mp started with own | old
      · have active := Registry.isActive_iff.mpr ⟨_, well transactionId other tracked⟩
        rw [own] at active
        simp [active] at ensured
      · exact attended.busy known going transactionId other tracked old

theorem attended_step (config : Config) (service : Service) (event : Event)
    (well : WellTracked service.registry) (enrolled : Enrolled service)
    (attended : Attended service) : Attended (service.step config event) := by
  cases step_course config service event with
  | same course => exact attended.of_sameCourse course
  | unsubscribed handle transactionId active known course =>
      exact (attended.fewer fun _ _ => Registry.lookup_of_lookup_remove).of_sameCourse course
  | finished number transport transactionId active calling known course =>
      exact (attended.fewer fun _ _ => Registry.lookup_of_lookup_remove).of_sameCourse course
  | watched transactionId hasOnError room course =>
      exact (attended.watched config enrolled transactionId hasOnError).of_sameCourse course
  | destroyed course =>
      refine Attended.of_sameCourse course ⟨attended.loop.halt, ?_⟩
      intro polling going transactionId number tracked
      rw [Service.destroy, Registry.lookup_clear] at tracked
      cases tracked
  | aborted course =>
      refine Attended.of_sameCourse course ⟨attended.loop.halt, ?_⟩
      intro polling going
      cases going
  | detected supportsSse detecting course =>
      refine Attended.of_sameCourse course ⟨attended.loop, ?_⟩
      intro polling going transactionId number tracked started
      rw [enrolled.unknown (by simp [detecting])] at started
      cases started
  | resumed number supportsSse known waiting course =>
      exact (attended.resumed well known number).of_sameCourse course
  | timerFired timer armed course =>
      refine Attended.of_sameCourse course ⟨attended.loop.runPollCycle timer _ _, ?_⟩
      intro polling going transactionId number tracked started
      dsimp only at going tracked ⊢
      rw [going]
      exact PollLoop.runPollCycle_busy timer (Registry.activeWatchers_ne_nil well tracked)
  | settled cycle number reply course =>
      refine Attended.of_sameCourse course ⟨attended.loop.settle cycle number, ?_⟩
      intro polling going transactionId other tracked started
      exact PollLoop.settle_busy cycle number
        (attended.busy polling going transactionId other tracked started)
  | completed cycle course =>
      refine Attended.of_sameCourse course ⟨attended.loop.complete cycle _, ?_⟩
      intro polling going transactionId number tracked started
      dsimp only at going tracked ⊢
      have someActive := Registry.activeWatchers_ne_nil well tracked
      rw [going, List.isEmpty_eq_false_iff.mpr someActive]
      exact PollLoop.schedulePoll_busy _

theorem attended_reached (config : Config) (events : List Event) :
    Attended (Service.reached config events) := by
  refine (Machine.run_invariant (Service.step config)
    (fun service => WellTracked service.registry ∧ Enrolled service ∧ Attended service)
    ?_ events Service.create ?_).2.2
  · rintro service event ⟨well, enrolled, attended⟩
    exact ⟨(step_registry config service event).wellTracked well,
      enrolled_step config service event enrolled,
      attended_step config service event well enrolled attended⟩
  · refine ⟨?_, ⟨?_, ?_, fun _ => rfl⟩, ⟨⟨?_, Nat.zero_le 1, ?_⟩, ?_⟩⟩
    · intro transactionId number tracked
      cases tracked
    · intro number member
      cases member
    · intro number member
      cases member
    · intro timer armed
      cases armed
    · intro running
      cases running
    · intro polling
      cases polling

/-- At most one poll timer is armed in any state.  Unless a `watch` replaced a watcher
that was still tracked, an active watcher that has started to be polled has a timer or
a cycle to wait for. -/
theorem poll_loop_never_stalls (config : Config) (events : List Event) :
    (Service.reached config events).loop.timers.length ≤ 1 ∧
      ((∀ visit ∈ visits config events, replaces config visit = false) →
        (Service.reached config events).capability = .known false →
        (Service.reached config events).aborted = false →
        ∀ number ∈ (Service.reached config events).started,
          (Service.reached config events).registry.isActive number = true →
          (Service.reached config events).loop.timers ≠ [] ∨
            (Service.reached config events).loop.cycles ≠ []) := by
  have attended := attended_reached config events
  refine ⟨attended.loop.single, ?_⟩
  intro single polling going number started active
  obtain ⟨transactionId, tagged⟩ := Registry.isActive_iff.mp active
  have tracked := allTracked_reached config events single transactionId number tagged
  exact attended.busy polling going transactionId number tracked started

def pollingConfig : Config where
  maxWatched := .finite 50
  reconnectDelay := 1000
  maxReconnectDelay := 30000
  preferSse := some false
  eventSourceAvailable := false
  addressable := fun _ => true
  hasSignal := false

def polledRun : List Event :=
  [.call (.watch "deposit" false), .call (.watch "withdrawal" false),
    .occurs (.startResumes 0), .occurs (.startResumes 1), .occurs (.pollTimerFires 0),
    .call (.unsubscribe 0)]

theorem polledRun_waits_for_cycle :
    (Service.reached pollingConfig polledRun).registry.isActive 1 = true ∧
      ((Service.reached pollingConfig polledRun).loop.timers ≠ [] ∨
        (Service.reached pollingConfig polledRun).loop.cycles ≠ []) :=
  ⟨by decide +kernel, (poll_loop_never_stalls pollingConfig polledRun).2 (by decide +kernel)
    (by decide +kernel) (by decide +kernel) 1 (by decide +kernel) (by decide +kernel)⟩

def replacedRun : List Event :=
  [.call (.watch "deposit" false), .call (.watch "deposit" false),
    .occurs (.startResumes 0), .occurs (.startResumes 1), .call (.unsubscribe 1),
    .occurs (.pollTimerFires 0)]

theorem replacedRun_stalls :
    (Service.reached pollingConfig replacedRun).capability = .known false ∧
      (Service.reached pollingConfig replacedRun).aborted = false ∧
      0 ∈ (Service.reached pollingConfig replacedRun).started ∧
      (Service.reached pollingConfig replacedRun).registry.isActive 0 = true ∧
      (Service.reached pollingConfig replacedRun).loop.timers = [] ∧
      (Service.reached pollingConfig replacedRun).loop.cycles = [] := by
  decide +kernel

end AnchorKit.Sdk.Streaming
