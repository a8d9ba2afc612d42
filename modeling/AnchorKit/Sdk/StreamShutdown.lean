import AnchorKit.Sdk.StatusEvents
import AnchorKit.Sdk.Subscriptions
import Mathlib.Algebra.Order.BigOperators.Group.List
import Mathlib.Algebra.Order.Group.Nat
import Mathlib.Data.List.Perm.Subperm
import Mathlib.Tactic.Linarith

/-!
# Shutting the streaming service down

`destroy` turns the tracked watchers off and clears the poll timer.  What is already on its
way is not called back: polls settle, timers of reconnections fire, callbacks return.  With
every watcher off none of that opens a connection or plans a poll, and all that may still be
reported is the failure of a poll, for `_pollOne` does not ask whether its watcher is active.
-/

set_option autoImplicit false

namespace AnchorKit.Sdk.Streaming

open AnchorKit.Base

def Event.watches : Event → Bool
  | .call (.watch _ _) => true
  | _ => false

def Notification.isPollError : Notification → Bool
  | .error _ failure => failure.code == "POLL_ERROR"
  | .event _ _ => false

def Frame.ofPoll : Frame → Bool
  | .afterEvent _ _ .poll => true
  | _ => false

/-- The polls that may still fail: those in flight, and the one whose callback is running. -/
def Service.pollsLeft (service : Service) : Nat :=
  (service.loop.cycles.map List.length).sum + (service.calling.any Frame.ofPoll).toNat

/-- Every watcher is off, and no poll is planned. -/
structure Silent (service : Service) : Prop where
  inactive : ∀ number, service.registry.isActive number = false
  timers : service.loop.timers = []

/-- From the one state to the other no connection is opened, and the failures reported are
paid for with polls. -/
structure Winds (before after : Service) : Prop where
  silent : Silent after
  connections : after.connections.length = before.connections.length
  reports : ∃ shown, after.log = before.log ++ shown ∧
    (∀ notification ∈ shown, notification.isPollError = true) ∧
    shown.length + after.pollsLeft ≤ before.pollsLeft

section Winding

variable {service : Service}

theorem Winds.refl (silent : Silent service) : Winds service service where
  silent := silent
  connections := rfl
  reports := ⟨[], (List.append_nil _).symm, nofun, by simp⟩

theorem Winds.trans {first second third : Service} (one : Winds first second)
    (two : Winds second third) : Winds first third where
  silent := two.silent
  connections := two.connections.trans one.connections
  reports := by
    obtain ⟨shown, log, only, paid⟩ := one.reports
    obtain ⟨more, log', only', paid'⟩ := two.reports
    refine ⟨shown ++ more, by rw [log', log, List.append_assoc], ?_, ?_⟩
    · intro notification member
      rcases List.mem_append.mp member with early | late
      · exact only notification early
      · exact only' notification late
    · rw [List.length_append]
      omega

theorem Winds.quiet {after : Service} (silent : Silent after)
    (connections : after.connections.length = service.connections.length)
    (log : after.log = service.log) (polls : after.pollsLeft ≤ service.pollsLeft) :
    Winds service after where
  silent := silent
  connections := connections
  reports := ⟨[], log.trans (List.append_nil _).symm, nofun, by simpa using polls⟩

/-! ## Inactive watchers -/

section Inactive

variable {number : Nat} (inactive : service.registry.isActive number = false)

include inactive

theorem active_eq_false {state : WatcherState}
    (found : service.registry.states[number]? = some state) : state.active = false := by
  rw [Registry.isActive, found] at inactive
  exact inactive

theorem openSse_of_inactive (config : Config) (backoff : ℚ) :
    service.openSse config number backoff = service := by
  unfold Service.openSse
  split
  · rfl
  · rename_i state found
    rw [active_eq_false inactive found]
    rfl

theorem startSse_of_inactive (config : Config) (backoff : ℚ) :
    service.startSse config number backoff = service := by
  unfold Service.startSse
  rw [inactive]
  rfl

theorem handleSseMessage_of_inactive (data : Option Json) :
    service.handleSseMessage number data = service := by
  unfold Service.handleSseMessage
  rw [inactive]
  rfl

end Inactive

theorem winds_reportPollError {before : Service} {number : Nat} {reason : String}
    (silent : Silent service) (log : service.log = before.log)
    (connections : service.connections.length = before.connections.length)
    (idle : service.calling = none) (polls : service.pollsLeft + 1 ≤ before.pollsLeft) :
    Winds before (service.reportPollError number reason) := by
  unfold Service.reportPollError
  split
  · exact .quiet silent connections log (by omega)
  · split
    · refine ⟨⟨silent.inactive, silent.timers⟩, connections, _, by rw [log], ?_, ?_⟩
      · intro notification member
        rw [List.mem_singleton.mp member]
        rfl
      · simp only [Service.pollsLeft, idle, Option.any_none, Bool.toNat_false] at polls
        simp only [Service.pollsLeft, Option.any_some, Frame.ofPoll, Bool.toNat_false,
          List.length_singleton]
        omega
    · exact .quiet silent connections log (by omega)

/-! ## One step -/

theorem Silent.registry (silent : Silent service) (config : Config) (event : Event)
    (unwatched : event.watches = false) (number : Nat) :
    (service.step config event).registry.isActive number = false := by
  by_contra active
  obtain ⟨transactionId, tagged⟩ :=
    Registry.isActive_iff.mp ((Bool.not_eq_false _).mp active)
  have off := silent.inactive number
  have before : service.registry.tag number ≠ some (transactionId, true) := by
    intro same
    rw [Registry.isActive_iff.mpr ⟨transactionId, same⟩] at off
    cases off
  cases step_registry config service event with
  | kept same => exact before ((same.tags number).symm.trans tagged)
  | added addedId hasOnError room same => cases unwatched
  | removed other otherId otherActive ended known same =>
      rw [same.tags, Registry.tag_remove] at tagged
      split at tagged
      · cases own : service.registry.tag number with
        | none => simp [deactivated, own] at tagged
        | some own' => simp [deactivated, own] at tagged
      · exact before tagged
  | cleared ended same =>
      rw [same.tags] at tagged
      rcases Registry.tag_clear service.registry number with kept | deactivates
      · exact before (kept.symm.trans tagged)
      · cases own : service.registry.tag number with
        | none => simp [deactivates, deactivated, own] at tagged
        | some own' => simp [deactivates, deactivated, own] at tagged

theorem PollLoop.clearTimer_of_no_timers {loop : PollLoop} (none : loop.timers = []) :
    loop.clearTimer.timers = [] := by
  rw [PollLoop.clearTimer, none]
  rfl

theorem sum_length_modify_erase {cycles : List (List Nat)} {cycle number : Nat}
    (member : number ∈ cycles.getD cycle []) :
    ((cycles.modify cycle (·.erase number)).map List.length).sum + 1 =
      (cycles.map List.length).sum := by
  induction cycles generalizing cycle with
  | nil => cases member
  | cons first rest ih =>
      cases cycle with
      | zero =>
          have shorter := List.length_erase_of_mem member
          have positive := List.length_pos_of_mem member
          simp only [List.getD_cons_zero] at shorter positive
          simp only [List.modify_zero_cons, List.map_cons, List.sum_cons, shorter]
          omega
      | succ cycle =>
          have inRest : number ∈ rest.getD cycle [] := member
          have later := ih inRest
          simp only [List.modify_succ_cons, List.map_cons, List.sum_cons]
          omega

theorem sum_length_eraseIdx_le (cycles : List (List Nat)) (cycle : Nat) :
    ((cycles.eraseIdx cycle).map List.length).sum ≤ (cycles.map List.length).sum :=
  ((cycles.eraseIdx_sublist cycle).map List.length).sum_le_sum fun _ _ => Nat.zero_le _

theorem winds_invoke (silent : Silent service) (config : Config) (api : Api)
    (unwatched : (Event.call api).watches = false) :
    Winds service (service.invoke config api) := by
  have inactive := silent.registry config (.call api) unwatched
  have halted := PollLoop.clearTimer_of_no_timers silent.timers
  cases api with
  | watch transactionId hasOnError => cases unwatched
  | unsubscribe handle =>
      refine .quiet ⟨inactive, ?_⟩ ?_ ?_ ?_
      all_goals
        unfold Service.invoke
        dsimp only
        split
      · exact silent.timers
      · exact silent.timers
      · rfl
      · rfl
      · rfl
      · rfl
      · exact Nat.le_refl _
      · exact Nat.le_refl _
  | destroy => exact .quiet ⟨inactive, halted⟩ rfl rfl (Nat.le_refl _)
  | abort =>
      dsimp only [Service.step] at inactive
      unfold Service.invoke at inactive ⊢
      dsimp only at inactive ⊢
      split
      · rename_i signalled
        rw [if_pos signalled] at inactive
        exact .quiet ⟨inactive, halted⟩ (List.length_map _) rfl (Nat.le_refl _)
      · exact .refl silent

theorem winds_resume (silent : Silent service) (config : Config) (thrown : Option String)
    {frame : Frame} (calling : service.calling = some frame) :
    Winds service ({ service with calling := none }.resume config thrown frame) := by
  have inactive := silent.registry config (.returns thrown) rfl
  dsimp only [Service.step] at inactive
  rw [calling] at inactive
  dsimp only at inactive
  have returned : Silent { service with calling := none } := ⟨silent.inactive, silent.timers⟩
  have idle : ({ service with calling := none } : Service).pollsLeft ≤ service.pollsLeft := by
    simp [Service.pollsLeft]
  cases frame with
  | afterEvent number isTerminal transport =>
      cases thrown with
      | none =>
          have rest : (({ service with calling := none } : Service).resume config none
              (.afterEvent number isTerminal transport)) =
                { service with
                  calling := none
                  registry := (({ service with calling := none } : Service).resume config none
                    (.afterEvent number isTerminal transport)).registry } := by
            dsimp only [Service.resume]
            split
            · split
              · rfl
              · rfl
            · rfl
          rw [rest]
          exact .quiet ⟨inactive, silent.timers⟩ rfl rfl idle
      | some reason =>
          cases transport with
          | sse => exact .quiet returned rfl rfl idle
          | poll =>
              refine winds_reportPollError returned rfl rfl rfl ?_
              simp [Service.pollsLeft, calling, Frame.ofPoll]
  | afterPollError number => exact .quiet returned rfl rfl idle
  | afterSseError number backoff =>
      cases thrown with
      | none =>
          have same : ({ service with calling := none } : Service).startSse config number backoff =
              { service with calling := none } :=
            startSse_of_inactive (returned.inactive number) config backoff
          dsimp only [Service.resume]
          rw [same]
          exact .quiet returned rfl rfl idle
      | some reason => exact .quiet returned rfl rfl idle

theorem winds_occur (silent : Silent service) (config : Config) (occurrence : Occurrence)
    (idle : service.calling = none) : Winds service (service.occur config occurrence) := by
  cases occurrence with
  | detected supportsSse =>
      dsimp only [Service.occur]
      split
      · exact .quiet ⟨silent.inactive, silent.timers⟩ rfl rfl (Nat.le_refl _)
      · exact .refl silent
  | startResumes number =>
      dsimp only [Service.occur]
      split
      · split
        · rw [Service.resumeStart]
          dsimp only
          rw [silent.inactive number]
          exact .quiet ⟨silent.inactive, silent.timers⟩ rfl rfl (Nat.le_refl _)
        · exact .refl silent
      · exact .refl silent
  | message index data =>
      dsimp only [Service.occur]
      split
      · exact .refl silent
      · rename_i connection found
        split
        · rw [handleSseMessage_of_inactive (silent.inactive connection.watcher) data]
          exact .refl silent
        · exact .refl silent
  | sseError index =>
      dsimp only [Service.occur]
      split
      · exact .refl silent
      · rename_i connection found
        split
        · unfold Service.handleSseError
          dsimp only
          split
          · exact .quiet ⟨silent.inactive, silent.timers⟩ (List.length_set ..) rfl (Nat.le_refl _)
          · rename_i state known
            rw [active_eq_false (silent.inactive connection.watcher) known,
              if_pos (by simp)]
            exact .quiet ⟨silent.inactive, silent.timers⟩ (List.length_set ..) rfl (Nat.le_refl _)
        · exact .refl silent
  | reconnectFires index =>
      dsimp only [Service.occur]
      split
      · exact .refl silent
      · rename_i number backoff found
        have fired : Silent { service with reconnects := service.reconnects.eraseIdx index } :=
          ⟨silent.inactive, silent.timers⟩
        rw [openSse_of_inactive (fired.inactive number) config backoff]
        exact .quiet fired rfl rfl (Nat.le_refl _)
  | pollTimerFires timer =>
      dsimp only [Service.occur]
      rw [silent.timers, if_neg List.not_mem_nil]
      exact .refl silent
  | pollSettles cycle number reply =>
      dsimp only [Service.occur]
      split
      · rename_i member
        have settled : Silent { service with loop := service.loop.settle cycle number } :=
          ⟨silent.inactive, silent.timers⟩
        have fewer : ({ service with loop := service.loop.settle cycle number } :
            Service).pollsLeft + 1 ≤ service.pollsLeft := by
          have paid := sum_length_modify_erase member
          simp only [Service.pollsLeft, PollLoop.settle]
          omega
        split
        · exact .quiet settled rfl rfl (by omega)
        · rename_i tx answered
          rw [dispatchUpdate_of_inactive (settled.inactive number) tx .poll]
          exact .quiet settled rfl rfl (by omega)
        · exact winds_reportPollError settled rfl rfl idle fewer
      · exact .refl silent
  | cycleCompletes cycle =>
      dsimp only [Service.occur]
      split
      · have none : service.registry.activeWatchers = [] :=
          List.filter_eq_nil_iff.mpr fun number _ => by simp [silent.inactive number]
        rw [none]
        refine .quiet ⟨silent.inactive, silent.timers⟩ rfl rfl ?_
        have shorter := sum_length_eraseIdx_le service.loop.cycles cycle
        exact Nat.add_le_add_right shorter _
      · exact .refl silent

theorem winds_step (silent : Silent service) (config : Config) (event : Event)
    (unwatched : event.watches = false) : Winds service (service.step config event) := by
  cases event with
  | call api => exact winds_invoke silent config api unwatched
  | returns thrown =>
      dsimp only [Service.step]
      split
      · exact .refl silent
      · rename_i frame calling
        exact winds_resume silent config thrown calling
  | occurs occurrence =>
      dsimp only [Service.step]
      split
      · rename_i idle
        exact winds_occur silent config occurrence idle
      · exact .refl silent

theorem winds_run (config : Config) (events : List Event) (silent : Silent service)
    (unwatched : ∀ event ∈ events, event.watches = false) :
    Winds service (service.run config events) := by
  induction events generalizing service with
  | nil => exact .refl silent
  | cons event rest ih =>
      have first := winds_step silent config event (unwatched event (List.mem_cons_self ..))
      refine first.trans (ih first.silent ?_)
      exact fun later member => unwatched later (List.mem_cons_of_mem _ member)

/-- If every active watcher is tracked, `destroy` turns all of them off. -/
theorem silent_destroy (all : AllTracked service.registry) (sound : service.loop.Sound) :
    Silent service.destroy where
  inactive := by
    intro number
    by_contra active
    obtain ⟨transactionId, tagged⟩ :=
      Registry.isActive_iff.mp ((Bool.not_eq_false _).mp active)
    have cleared : service.registry.clear.tag number = some (transactionId, true) := tagged
    have before : service.registry.tag number = some (transactionId, true) := by
      rcases Registry.tag_clear service.registry number with kept | off
      · exact kept.symm.trans cleared
      · cases own : service.registry.tag number with
        | none => simp [off, deactivated, own] at cleared
        | some own' => simp [off, deactivated, own] at cleared
    rw [Registry.tag_clear_of_tracked (all transactionId number before), before] at cleared
    simp [deactivated] at cleared
  timers := PollLoop.clearTimer_timers sound.current

end Winding

/-- Unless an id was watched again while it was tracked, after `destroy` and until the next
`watch` no connection is opened and no poll is made, whatever is still on its way.  No
watcher is told anything but the failure of a poll, and of each poll that was on its way
once at most. -/
theorem destroy_silences (config : Config) (events : List Event)
    (single : ∀ visit ∈ visits config events, replaces config visit = false)
    (later : List Event) (unwatched : ∀ event ∈ later, event.watches = false) :
    let service := Service.reached config events
    let after := service.run config (.call .destroy :: later)
    (∀ number, after.registry.isActive number = false) ∧
    after.connections.length = service.connections.length ∧ after.loop.timers = [] ∧
    ∃ shown, after.log = service.log ++ shown ∧
      (∀ notification ∈ shown, notification.isPollError = true) ∧
      shown.length + after.pollsLeft ≤ service.pollsLeft := by
  intro service after
  have silent : Silent service.destroy :=
    silent_destroy (allTracked_reached config events single) (attended_reached config events).loop
  have winds : Winds service.destroy after := winds_run config later silent unwatched
  exact ⟨winds.silent.inactive, winds.connections, winds.silent.timers, winds.reports⟩

theorem polledRun_silenced :
    let after := (Service.reached pollingConfig polledRun).run pollingConfig
      [.call .destroy, .occurs (.pollSettles 0 1 (.rejected "offline")),
        .occurs (.cycleCompletes 0)]
    after.loop.timers = [] ∧ after.connections.length = 0 := by
  obtain ⟨-, unopened, unplanned, -⟩ := destroy_silences pollingConfig polledRun
    (by decide +kernel)
    [.occurs (.pollSettles 0 1 (.rejected "offline")), .occurs (.cycleCompletes 0)]
    (by decide)
  exact ⟨unplanned, unopened.trans (by decide +kernel)⟩

/-! ## How many are watched -/

section Capacity

theorem Registry.length_remove_le (registry : Registry) (transactionId : String) :
    (registry.remove transactionId).watchers.entries.length ≤
      registry.watchers.entries.length := by
  unfold Registry.remove
  split
  · exact Nat.le_refl _
  · exact (List.kerase_sublist transactionId registry.watchers.entries).length_le

theorem Registry.length_clear_le (registry : Registry) :
    registry.clear.watchers.entries.length ≤ registry.watchers.entries.length := by
  unfold Registry.clear
  generalize registry.watchers.keys = ids
  induction ids generalizing registry with
  | nil => exact Nat.le_refl _
  | cons id rest ih => exact (ih (registry.remove id)).trans (registry.length_remove_le id)

theorem Registry.length_add_le (registry : Registry) (transactionId : String)
    (hasOnError : Bool) :
    (registry.add transactionId hasOnError).watchers.entries.length ≤
      registry.watchers.entries.length + 1 := by
  rw [Registry.add, AList.entries_insert, List.length_cons]
  exact Nat.add_le_add_right
    (List.kerase_sublist transactionId registry.watchers.entries).length_le 1

/-- A `watch` goes through only below the limit, so that the map never outgrows it. -/
theorem tracked_lt (config : Config) {limit : ℚ} (limited : config.maxWatched = .finite limit)
    (events : List Event) :
    ((Service.reached config events).registry.watchers.entries.length : ℚ) <
      max limit 0 + 1 := by
  refine Machine.run_invariant (Service.step config)
    (fun service => (service.registry.watchers.entries.length : ℚ) < max limit 0 + 1)
    ?_ events Service.create ?_
  · intro service event bounded
    have shrinks : ∀ after : Registry,
        after.watchers.entries.length ≤ service.registry.watchers.entries.length →
        (after.watchers.entries.length : ℚ) < max limit 0 + 1 :=
      fun after le => lt_of_le_of_lt (Nat.cast_le.mpr le) bounded
    cases step_registry config service event with
    | kept same => exact shrinks _ (by rw [same.watchers])
    | removed other otherId otherActive ended known same =>
        exact shrinks _ (by rw [same.watchers]; exact service.registry.length_remove_le otherId)
    | cleared ended same =>
        exact shrinks _ (by rw [same.watchers]; exact service.registry.length_clear_le)
    | added transactionId hasOnError room same =>
        have grows := service.registry.length_add_le transactionId hasOnError
        rw [← same.watchers] at grows
        rw [limited, Number.atMost, decide_eq_false_iff_not, not_le] at room
        have most : ((service.step config (.call (.watch transactionId
            hasOnError))).registry.watchers.entries.length : ℚ) ≤
              service.registry.watchers.entries.length + 1 := by
          exact_mod_cast grows
        have within := le_max_left limit 0
        linarith
  · have nonneg := le_max_right limit 0
    have none : (Service.create.registry.watchers.entries.length : ℚ) = 0 := rfl
    rw [none]
    linarith

theorem AllTracked.length_active_le {registry : Registry} (all : AllTracked registry)
    {numbers : List Nat} (distinct : numbers.Nodup)
    (active : ∀ number ∈ numbers, registry.isActive number = true) :
    numbers.length ≤ registry.watchers.entries.length := by
  have entries : numbers ⊆ registry.watchers.entries.map Sigma.snd := by
    intro number member
    obtain ⟨transactionId, tagged⟩ := Registry.isActive_iff.mp (active number member)
    have entry := AList.mem_lookup_iff.mp (all transactionId number tagged)
    exact List.mem_map.mpr ⟨_, entry, rfl⟩
  have fewer := (List.subperm_of_subset distinct entries).length_le
  rwa [List.length_map] at fewer

end Capacity

/-- Unless an id was watched again while it was tracked, no more watchers are active at a
time than the limit allows. -/
theorem active_watchers_bounded (config : Config) (limit : ℚ)
    (limited : config.maxWatched = .finite limit) (events : List Event)
    (single : ∀ visit ∈ visits config events, replaces config visit = false)
    (numbers : List Nat) (distinct : numbers.Nodup)
    (active : ∀ number ∈ numbers,
      (Service.reached config events).registry.isActive number = true) :
    (numbers.length : ℚ) < max limit 0 + 1 := by
  have all := allTracked_reached config events single
  have within : (numbers.length : ℚ) ≤
      (Service.reached config events).registry.watchers.entries.length := by
    exact_mod_cast all.length_active_le distinct active
  exact lt_of_le_of_lt within (tracked_lt config limited events)

section Sample

def narrowConfig : Config := { pollingConfig with maxWatched := .finite 1 }

def crowdedRun : List Event :=
  [.call (.watch "deposit" false), .call (.watch "withdrawal" false)]

end Sample

theorem crowdedRun_bounded :
    (Service.reached narrowConfig crowdedRun).registry.isActive 0 = true ∧
      ∀ numbers : List Nat, numbers.Nodup →
        (∀ number ∈ numbers,
          (Service.reached narrowConfig crowdedRun).registry.isActive number = true) →
        (numbers.length : ℚ) < max 1 0 + 1 :=
  ⟨by decide +kernel,
    active_watchers_bounded narrowConfig 1 rfl crowdedRun (by decide +kernel)⟩

end AnchorKit.Sdk.Streaming
