import AnchorKit.Sdk.PollLoop

/-!
# Subscriptions do not affect each other

A handle removes its transaction id from the map, whoever is tracked under it by then.
As long as no `watch` replaces a tracked watcher and no removal hits the watcher of
another subscription, a handle that has unsubscribed hears of no further status, and
a subscription goes on until it unsubscribes itself, its transaction is terminal, or
the service is destroyed or aborted.
-/

set_option autoImplicit false

namespace AnchorKit.Sdk.Streaming

open AnchorKit.Base

/-- The id removed on behalf of one watcher is the one under which another is tracked. -/
def displaces (visit : Service × Event) : Bool :=
  (ends visit.1 visit.2).any fun number =>
    (visit.1.registry.tag number).any fun own =>
      (visit.1.registry.watchers.lookup own.1).any (· != number)

/-- A poll fails whose watcher is no longer active. -/
def reportsLate (visit : Service × Event) : Bool :=
  (failedPoll visit.1 visit.2).any fun number => !visit.1.registry.isActive number

/-- The watcher for which a step asks for a connection at once. -/
def opening (config : Config) (visit : Service × Event) : Option Nat :=
  match visit.2, visit.1.calling with
  | .occurs (.startResumes number), none =>
      if visit.1.capability = .known true ∧ number ∈ visit.1.starting then some number else none
  | .occurs (.reconnectFires index), none => (visit.1.reconnects[index]?).map Prod.fst
  | .occurs (.sseError index), none =>
      ((visit.1.connections[index]?).filter fun connection =>
        connection.isOpen && decide (config.nextBackoff connection.backoff ≤ 0) &&
          !(visit.1.registry.states[connection.watcher]?).any WatcherState.hasOnError).map
        Connection.watcher
  | .returns none, some (.afterSseError number backoff) =>
      if backoff ≤ 0 then some number else none
  | _, _ => none

def Registry.opensFor (config : Config) (registry : Registry) (number : Nat) : Bool :=
  (registry.states[number]?).all fun state => config.opens (state.cursor.filter Json.truthy)

/-- The watcher whose `onError` throws out of the error listener of its connection. -/
def throwsOut (visit : Service × Event) : Option Nat :=
  match visit.2, visit.1.calling with
  | .returns (some _), some (.afterSseError number _) => some number
  | _, _ => none

/-- The active watcher that a step leaves without a connection: its `onError` throws, or the
connection that is asked for is not opened. -/
def abandons (config : Config) (visit : Service × Event) : Option Nat :=
  ((throwsOut visit).or ((opening config visit).filter fun number =>
    !visit.1.registry.opensFor config number)).filter visit.1.registry.isActive

theorem opensFor_of_waits {config : Config} {visit : Service × Event} {number : Nat}
    (asks : opening config visit = some number) (returns : throwsOut visit = none)
    (active : visit.1.registry.isActive number = true)
    (waits : abandons config visit ≠ some number) :
    visit.1.registry.opensFor config number = true := by
  by_contra shut
  exact waits (by simp [abandons, returns, asks, active, shut])

def Notification.watcher : Notification → Nat
  | .event number _ => number
  | .error number _ => number

/-! ## The log only grows -/

theorem step_log_grows (config : Config) (service : Service) (event : Event) :
    service.log <+: (service.step config event).log := by
  cases step_notified config service event with
  | quiet log calling => exact ⟨[], (List.append_nil _).trans log.symm⟩
  | event number event active log calling => exact ⟨_, log.symm⟩
  | pollError number error fails code log calling => exact ⟨_, log.symm⟩
  | sseError number error backoff active log calling => exact ⟨_, log.symm⟩

theorem run_log_grows (config : Config) (service : Service) (events : List Event) :
    service.log <+: (service.run config events).log :=
  Machine.run_relates (Service.step config) (fun before after => before.log <+: after.log)
    (fun _ => List.prefix_refl _) (fun _ _ _ => List.IsPrefix.trans)
    (step_log_grows config) events service

theorem run_log_of_visits (config : Config) (service : Service) (events : List Event)
    (Holds : Service → Prop) (Shown : Notification → Prop) (start : Holds service)
    (kept : ∀ visit ∈ Machine.visits (Service.step config) service events, Holds visit.1 →
      Holds (visit.1.step config visit.2) ∧
        ∃ shown, (visit.1.step config visit.2).log = visit.1.log ++ shown ∧
          ∀ notification ∈ shown, Shown notification) :
    ∀ notification ∈ (service.run config events).log.drop service.log.length,
      Shown notification := by
  have grown := Machine.run_invariant_of_visits (Service.step config)
    (fun state => Holds state ∧ ∃ shown, state.log = service.log ++ shown ∧
      ∀ notification ∈ shown, Shown notification) events service ?_
      ⟨start, [], (List.append_nil _).symm, fun _ member => nomatch member⟩
  · obtain ⟨_, shown, appended, only⟩ := grown
    rw [Service.run, appended, List.drop_left]
    exact only
  · rintro visit member ⟨holds, earlier, appended, only⟩
    obtain ⟨next, shown, log, onlyShown⟩ := kept visit member holds
    refine ⟨next, earlier ++ shown, ?_, ?_⟩
    · rw [log, appended, List.append_assoc]
    · intro notification within
      rcases List.mem_append.mp within with old | new
      · exact only notification old
      · exact onlyShown notification new

/-! ## After `unsubscribe` -/

/-- A step tells an inactive watcher nothing but the failure of its poll. -/
theorem step_log_of_inactive (config : Config) (service : Service) (event : Event)
    {number : Nat} (inactive : service.registry.isActive number = false) :
    ∃ shown, (service.step config event).log = service.log ++ shown ∧
      ∀ notification ∈ shown, (∀ update, notification ≠ .event number update) ∧
        (failedPoll service event ≠ some number → notification.watcher ≠ number) := by
  cases step_notified config service event with
  | quiet log calling =>
      exact ⟨[], log.trans (List.append_nil _).symm, fun _ member => nomatch member⟩
  | event other update active log calling =>
      have different : other ≠ number := by
        intro same
        rw [same, inactive] at active
        cases active
      refine ⟨_, log, ?_⟩
      intro notification member
      rw [List.mem_singleton.mp member]
      refine ⟨?_, fun _ => different⟩
      intro own same
      cases same
      exact different rfl
  | pollError other error fails code log calling =>
      refine ⟨_, log, ?_⟩
      intro notification member
      rw [List.mem_singleton.mp member]
      refine ⟨fun _ same => Notification.noConfusion same, ?_⟩
      intro healthy same
      apply healthy
      rw [fails]
      exact congrArg some same
  | sseError other error backoff active log calling =>
      refine ⟨_, log, ?_⟩
      intro notification member
      rw [List.mem_singleton.mp member]
      refine ⟨fun _ same => Notification.noConfusion same, ?_⟩
      intro _ same
      rw [show other = number from same, inactive] at active
      cases active

theorem isActive_of_tag_inactive {registry : Registry} {number : Nat} {transactionId : String}
    (tagged : registry.tag number = some (transactionId, false)) :
    registry.isActive number = false := by
  by_contra active
  obtain ⟨other, otherTag⟩ := Registry.isActive_iff.mp ((Bool.not_eq_false _).mp active)
  rw [tagged] at otherTag
  cases otherTag

theorem unsubscribe_deactivates (config : Config) (service : Service)
    (all : AllTracked service.registry) {handle : Nat} {transactionId : String} {active : Bool}
    (known : service.registry.tag handle = some (transactionId, active)) :
    (service.step config (.call (.unsubscribe handle))).registry.tag handle =
      some (transactionId, false) := by
  obtain ⟨state, found, own⟩ := Option.map_eq_some_iff.mp known
  have removed : (service.step config (.call (.unsubscribe handle))).registry =
      service.registry.remove transactionId := by
    have sameId : state.transactionId = transactionId := congrArg Prod.fst own
    simp only [Service.step, Service.invoke, found, sameId]
  rw [removed, Registry.tag_remove]
  split
  · rw [known]
    rfl
  · rename_i untracked
    cases active with
    | false => exact known
    | true => exact absurd (all transactionId handle known) untracked

theorem run_log_of_inactive (config : Config) (service : Service) (events : List Event)
    {number : Nat} {transactionId : String}
    (tagged : service.registry.tag number = some (transactionId, false)) :
    ∀ notification ∈ (service.run config events).log.drop service.log.length,
      (∀ visit ∈ Machine.visits (Service.step config) service events,
        reportsLate visit = false) → notification.watcher ≠ number := by
  intro notification member prompt
  refine run_log_of_visits config service events
    (fun state => state.registry.tag number = some (transactionId, false))
    (fun shown => shown.watcher ≠ number) tagged ?_ notification member
  intro visit visited inactive
  have unheard := isActive_of_tag_inactive inactive
  obtain ⟨shown, log, only⟩ := step_log_of_inactive config visit.1 visit.2 unheard
  refine ⟨step_tag_inactive config visit.1 visit.2 inactive, shown, log, ?_⟩
  intro own within
  refine (only own within).2 ?_
  intro fails
  have late := prompt visit visited
  simp [reportsLate, fails, unheard] at late

/-! ## A subscription goes on -/

structure Subscribed (service : Service) (transactionId : String) (number : Nat) : Prop where
  active : service.registry.tag number = some (transactionId, true)
  tracked : service.registry.watchers.lookup transactionId = some number

theorem Subscribed.step {config : Config} {service : Service} {event : Event}
    {transactionId : String} {number : Nat} (subscribed : Subscribed service transactionId number)
    (well : WellTracked service.registry)
    (single : ∀ hasOnError, event = .call (.watch transactionId hasOnError) →
      config.maxWatched.atMost service.registry.watchers.entries.length = true)
    (lasts : ∀ other active, ends service event = some other →
      service.registry.tag other ≠ some (transactionId, active))
    (standing : event ≠ .call .destroy ∧ event ≠ .call .abort) :
    Subscribed (service.step config event) transactionId number := by
  obtain ⟨active, tracked⟩ := subscribed
  cases step_registry config service event with
  | kept same => exact ⟨(same.tags number).trans active, same.watchers ▸ tracked⟩
  | added addedId hasOnError room same =>
      have different : transactionId ≠ addedId := by
        intro sameId
        have full := single hasOnError (by rw [sameId])
        rw [room] at full
        cases full
      constructor
      · rw [same.tags, Registry.tag_add, if_neg, active]
        intro new
        rw [new, Registry.tag_length] at active
        cases active
      · rw [same.watchers, Registry.lookup_add, if_neg different, tracked]
  | removed other otherId otherActive ended known same =>
      have different : transactionId ≠ otherId := by
        intro sameId
        rw [← sameId] at known
        exact lasts other otherActive ended known
      constructor
      · rw [same.tags, Registry.tag_remove, if_neg, active]
        intro sameNumber
        rw [well otherId number sameNumber] at active
        cases active
        exact different rfl
      · rw [same.watchers, Registry.lookup_remove, if_neg different, tracked]
  | cleared ended same =>
      rcases ended with destroyed | aborted
      · exact absurd destroyed standing.1
      · exact absurd aborted standing.2

def TerminalLogged (service : Service) : Prop :=
  ∀ number transport, service.calling = some (.afterEvent number true transport) →
    ∃ event : TransactionStreamEvent,
      .event number event ∈ service.log ∧ event.isTerminal = true

theorem terminalLogged_step (config : Config) (service : Service) (event : Event)
    (logged : TerminalLogged service) : TerminalLogged (service.step config event) := by
  intro number transport running
  cases step_notified config service event with
  | quiet log calling =>
      rw [log]
      rcases calling with same | idle
      · exact logged number transport (same.symm.trans running)
      · rw [idle] at running
        cases running
  | event other update active log calling =>
      rw [calling] at running
      injection running with frame
      injection frame with sameNumber isTerminal
      exact ⟨update, by rw [log, sameNumber]; simp, isTerminal⟩
  | pollError other error fails code log calling =>
      rw [calling] at running
      cases running
  | sseError other error backoff active log calling =>
      rw [calling] at running
      cases running

theorem terminalLogged_reached (config : Config) (events : List Event) :
    TerminalLogged (Service.reached config events) := by
  refine Machine.run_invariant (Service.step config) TerminalLogged
    (terminalLogged_step config) events Service.create ?_
  intro number transport running
  cases running

/-! ## The connections of a watcher -/

/-- A connection is open or will be. -/
def Feeding (service : Service) (number : Nat) : Prop :=
  (∃ connection ∈ service.connections,
    connection.watcher = number ∧ connection.isOpen = true) ∨
    ∃ backoff, (number, backoff) ∈ service.reconnects

/-- Or the error callback is running after which it will be. -/
def Fed (service : Service) (number : Nat) : Prop :=
  Feeding service number ∨ ∃ backoff, service.calling = some (.afterSseError number backoff)

theorem Feeding.mono {before after : Service} {number : Nat} (feeding : Feeding before number)
    (connections : before.connections ⊆ after.connections)
    (reconnects : before.reconnects ⊆ after.reconnects) : Feeding after number := by
  rcases feeding with ⟨connection, member, own⟩ | ⟨backoff, planned⟩
  · exact .inl ⟨connection, connections member, own⟩
  · exact .inr ⟨backoff, reconnects planned⟩

variable {service : Service} {number : Nat}

theorem Feeding.openSse (feeding : Feeding service number) (config : Config) (other : Nat)
    (backoff : ℚ) : Feeding (service.openSse config other backoff) number := by
  obtain ⟨opened, same⟩ := openSse_eq config service other backoff
  rw [same]
  exact feeding.mono (List.subset_append_left _ _) (List.Subset.refl _)

theorem Feeding.startSse (feeding : Feeding service number) (config : Config) (other : Nat)
    (backoff : ℚ) : Feeding (service.startSse config other backoff) number := by
  obtain ⟨opened, planned, same⟩ := startSse_eq config service other backoff
  rw [same]
  exact feeding.mono (List.subset_append_left _ _) (List.subset_append_left _ _)

theorem openSse_feeding {config : Config} (active : service.registry.isActive number = true)
    (opens : service.registry.opensFor config number = true) (backoff : ℚ) :
    Feeding (service.openSse config number backoff) number := by
  unfold Registry.isActive at active
  unfold Registry.opensFor at opens
  unfold Service.openSse
  cases found : service.registry.states[number]? with
  | none => simp [found] at active
  | some state =>
      rw [found, Option.any_some] at active
      rw [found, Option.all_some] at opens
      dsimp only
      rw [active, opens]
      exact .inl ⟨_, List.mem_append_right _ (List.mem_singleton.mpr rfl), rfl, rfl⟩

theorem startSse_feeding {config : Config} (active : service.registry.isActive number = true)
    {backoff : ℚ} (opens : backoff ≤ 0 → service.registry.opensFor config number = true) :
    Feeding (service.startSse config number backoff) number := by
  unfold Service.startSse
  rw [if_pos active]
  split
  · exact .inr ⟨backoff, List.mem_append_right _ (List.mem_singleton.mpr rfl)⟩
  · rename_i immediate
    exact openSse_feeding active (opens (not_lt.mp immediate)) backoff

theorem Feeding.dispatchUpdate (feeding : Feeding service number) (other : Nat) (tx : Json)
    (transport : Transport) : Feeding (service.dispatchUpdate other tx transport) number := by
  unfold Service.dispatchUpdate
  split
  · exact feeding
  · dsimp only
    split
    · split
      · exact feeding
      · exact feeding
    · exact feeding

theorem Feeding.reportPollError (feeding : Feeding service number) (other : Nat)
    (reason : String) : Feeding (service.reportPollError other reason) number := by
  unfold Service.reportPollError
  split
  · exact feeding
  · split
    · exact feeding
    · exact feeding

theorem Feeding.resumeStart (feeding : Feeding service number) (config : Config) (other : Nat)
    (supportsSse : Bool) : Feeding (service.resumeStart config other supportsSse) number := by
  unfold Service.resumeStart
  dsimp only
  split
  · split
    · have resumed : Feeding
          { service with
            starting := service.starting.erase other
            started := other :: service.started } number := feeding
      exact resumed.startSse config other 0
    · exact feeding
  · exact feeding

theorem Feeding.handleSseError (feeding : Feeding service number) {config : Config}
    {index : Nat} {connection : Connection}
    (found : service.connections[index]? = some connection)
    (isOpen : connection.isOpen = true) (idle : service.calling = none)
    (active : service.registry.isActive number = true) (going : service.aborted = false)
    (waits : abandons config (service, .occurs (.sseError index)) ≠ some number) :
    Fed (service.handleSseError config index connection) number := by
  unfold Service.handleSseError
  dsimp only
  by_cases own : connection.watcher = number
  · rw [own]
    cases known : service.registry.states[number]? with
    | none => simp [Registry.isActive, known] at active
    | some state =>
        have stateActive : state.active = true := by
          simpa [Registry.isActive, known] using active
        dsimp only
        rw [if_neg (by simp [going, stateActive])]
        split
        · exact .inr ⟨_, rfl⟩
        · rename_i silent
          refine .inl (startSse_feeding ?_ ?_)
          · exact active
          · intro immediate
            refine opensFor_of_waits ?_ rfl active waits
            simp [opening, idle, found, isOpen, immediate, own, known, silent]
  · -- only a connection of another watcher is closed
    have still : Feeding
        { service with
          connections := service.connections.set index { connection with isOpen := false } }
        number := by
      rcases feeding with ⟨other, member, watcher, isOpen⟩ | planned
      · obtain ⟨place, otherFound⟩ := List.mem_iff_getElem?.mp member
        have elsewhere : index ≠ place := by
          intro same
          rw [← same, found] at otherFound
          cases otherFound
          exact own watcher
        refine .inl ⟨other, List.mem_iff_getElem?.mpr ⟨place, ?_⟩, watcher, isOpen⟩
        rw [List.getElem?_set_ne elsewhere, otherFound]
      · exact .inr planned
    split
    · exact .inl still
    · split
      · exact .inl still
      · split
        · exact .inl still
        · exact .inl (still.startSse config _ _)

theorem Feeding.reconnectFires (feeding : Feeding service number) {config : Config}
    {index other : Nat} {backoff : ℚ}
    (found : service.reconnects[index]? = some (other, backoff))
    (idle : service.calling = none) (active : service.registry.isActive number = true)
    (waits : abandons config (service, .occurs (.reconnectFires index)) ≠ some number) :
    Feeding ({ service with reconnects := service.reconnects.eraseIdx index }.openSse config
      other backoff) number := by
  by_cases own : other = number
  · subst own
    refine openSse_feeding ?_ ?_ backoff
    · exact active
    · exact opensFor_of_waits (by simp [opening, idle, found]) rfl active waits
  · have still : Feeding { service with reconnects := service.reconnects.eraseIdx index }
        number := by
      rcases feeding with connected | ⟨delay, planned⟩
      · exact .inl connected
      · obtain ⟨place, otherFound⟩ := List.mem_iff_getElem?.mp planned
        have elsewhere : place ≠ index := by
          intro same
          rw [same, found] at otherFound
          cases otherFound
          exact own rfl
        exact .inr ⟨delay, List.mem_eraseIdx_iff_getElem?.mpr ⟨place, elsewhere, otherFound⟩⟩
    exact still.openSse config other backoff

theorem Feeding.occur (feeding : Feeding service number) {config : Config}
    {occurrence : Occurrence} (idle : service.calling = none)
    (active : service.registry.isActive number = true) (going : service.aborted = false)
    (waits : abandons config (service, .occurs occurrence) ≠ some number) :
    Fed (service.occur config occurrence) number := by
  cases occurrence with
  | detected supportsSse =>
      unfold Service.occur
      dsimp only
      split
      · exact .inl feeding
      · exact .inl feeding
  | startResumes other =>
      unfold Service.occur
      dsimp only
      split
      · split
        · exact .inl (feeding.resumeStart config other _)
        · exact .inl feeding
      · exact .inl feeding
  | message index data =>
      unfold Service.occur
      dsimp only
      split
      · exact .inl feeding
      · split
        · unfold Service.handleSseMessage
          split
          · split
            · exact .inl feeding
            · exact .inl (feeding.dispatchUpdate _ _ _)
          · exact .inl feeding
        · exact .inl feeding
  | sseError index =>
      unfold Service.occur
      dsimp only
      split
      · exact .inl feeding
      · rename_i connection found
        split
        · rename_i isOpen
          exact feeding.handleSseError found isOpen idle active going waits
        · exact .inl feeding
  | reconnectFires index =>
      unfold Service.occur
      dsimp only
      split
      · exact .inl feeding
      · rename_i other backoff found
        exact .inl (feeding.reconnectFires found idle active waits)
  | pollTimerFires timer =>
      unfold Service.occur
      dsimp only
      split
      · exact .inl feeding
      · exact .inl feeding
  | pollSettles cycle other reply =>
      have settled : Feeding { service with loop := service.loop.settle cycle other } number :=
        feeding
      unfold Service.occur
      dsimp only
      split
      · split
        · exact .inl settled
        · exact .inl (settled.dispatchUpdate other _ _)
        · exact .inl (settled.reportPollError other _)
      · exact .inl feeding
  | cycleCompletes cycle =>
      unfold Service.occur
      dsimp only
      split
      · exact .inl feeding
      · exact .inl feeding

theorem Fed.returns (fed : Fed service number) {config : Config} {frame : Frame}
    {thrown : Option String} (calling : service.calling = some frame)
    (active : service.registry.isActive number = true)
    (waits : abandons config (service, .returns thrown) ≠ some number) :
    Fed ({ service with calling := none }.resume config thrown frame) number := by
  rcases fed with feeding | ⟨backoff, own⟩
  · have returned : Feeding { service with calling := none } number := feeding
    cases frame with
    | afterEvent other isTerminal transport =>
        cases thrown with
        | none =>
            unfold Service.resume
            dsimp only
            split
            · split
              · exact .inl returned
              · exact .inl feeding
            · exact .inl returned
        | some reason =>
            cases transport with
            | poll => exact .inl (returned.reportPollError other reason)
            | sse => exact .inl returned
    | afterPollError other => exact .inl returned
    | afterSseError other delay =>
        cases thrown with
        | none => exact .inl (returned.startSse config other delay)
        | some reason => exact .inl returned
  · cases Option.some.inj (calling.symm.trans own)
    cases thrown with
    | none =>
        refine .inl (startSse_feeding ?_ ?_)
        · exact active
        · intro immediate
          exact opensFor_of_waits (by simp [opening, own, immediate]) rfl active waits
    | some reason =>
        simp [abandons, throwsOut, own, active] at waits

theorem Fed.invoke (fed : Fed service number) (config : Config) (api : Api)
    (going : (service.invoke config api).aborted = false) :
    Fed (service.invoke config api) number := by
  cases api with
  | watch transactionId hasOnError =>
      unfold Service.invoke
      dsimp only
      split
      · exact fed
      · exact fed
  | unsubscribe handle =>
      unfold Service.invoke
      dsimp only
      split
      · exact fed
      · exact fed
  | destroy => exact fed
  | abort =>
      unfold Service.invoke at going ⊢
      dsimp only at going ⊢
      split
      · rename_i takes
        rw [if_pos takes] at going
        cases going
      · exact fed

theorem step_aborted (config : Config) (service : Service) (event : Event)
    (going : (service.step config event).aborted = false) : service.aborted = false := by
  cases step_course config service event with
  | same course => exact course.aborted ▸ going
  | watched transactionId hasOnError room course => exact course.aborted ▸ going
  | unsubscribed handle transactionId active known course => exact course.aborted ▸ going
  | finished number transport transactionId active calling known course =>
      exact course.aborted ▸ going
  | destroyed course => exact course.aborted ▸ going
  | aborted course =>
      rw [course.aborted] at going
      cases going
  | detected supportsSse detecting course => exact course.aborted ▸ going
  | resumed number supportsSse known waiting course => exact course.aborted ▸ going
  | timerFired timer armed course => exact course.aborted ▸ going
  | settled cycle number reply course => exact course.aborted ▸ going
  | completed cycle course => exact course.aborted ▸ going

theorem Fed.step (fed : Fed service number) (config : Config) (event : Event)
    (active : service.registry.isActive number = true)
    (going : (service.step config event).aborted = false)
    (waits : abandons config (service, event) ≠ some number) :
    Fed (service.step config event) number := by
  have before := step_aborted config service event going
  cases event with
  | call api => exact fed.invoke config api going
  | returns thrown =>
      unfold Service.step
      dsimp only
      cases calling : service.calling with
      | none => exact fed
      | some frame => exact fed.returns calling active waits
  | occurs occurrence =>
      unfold Service.step
      dsimp only
      cases calling : service.calling with
      | some frame => exact fed
      | none =>
          rcases fed with feeding | ⟨backoff, own⟩
          · exact feeding.occur calling active before waits
          · rw [calling] at own
            cases own

/-! ## The way to a watcher -/

/-- The start of the watcher is pending or complete, and over SSE a connection is kept
up for it. -/
def Placed (service : Service) (number : Nat) : Prop :=
  number ∈ service.starting ∨ number ∈ service.started ∧
    (service.capability = .known false ∨ service.capability = .known true ∧ Fed service number)

theorem resumeStart_feeding {config : Config} (active : service.registry.isActive number = true)
    (opens : service.registry.opensFor config number = true) :
    Feeding (service.resumeStart config number true) number := by
  unfold Service.resumeStart
  dsimp only
  rw [if_pos active, if_pos rfl]
  refine startSse_feeding ?_ ?_
  · exact active
  · exact fun _ => opens

theorem step_enrolment (config : Config) (service : Service) (event : Event) :
    (∀ number ∈ service.started, number ∈ (service.step config event).started) ∧
      (∀ supportsSse, service.capability = .known supportsSse →
        (service.step config event).capability = .known supportsSse) ∧
      (∀ number ∈ service.starting, event ≠ .occurs (.startResumes number) →
        number ∈ (service.step config event).starting) := by
  cases step_starts config service event with
  | kept starting started capability =>
      rw [started, capability, starting]
      exact ⟨fun _ => id, fun _ => id, fun _ member _ => member⟩
  | watched transactionId hasOnError starting started capability tracking =>
      rw [started, capability, starting]
      exact ⟨fun _ => id, fun _ => Capability.ask_known,
        fun _ member _ => List.mem_append_left _ member⟩
  | detected supportsSse detecting starting started capability =>
      rw [started, capability, starting]
      refine ⟨fun _ => id, ?_, fun _ member _ => member⟩
      intro other known
      rw [detecting] at known
      cases known
  | resumed other supportsSse known waiting starting started capability =>
      rw [started, capability, starting]
      refine ⟨fun _ => List.mem_cons_of_mem _, fun _ => id, ?_⟩
      intro number member elsewhere
      refine (List.mem_erase_of_ne ?_).mpr member
      intro same
      exact elsewhere (by rw [same])

theorem Placed.step (placed : Placed service number) (config : Config) (event : Event)
    (active : service.registry.isActive number = true)
    (going : (service.step config event).aborted = false)
    (waits : abandons config (service, event) ≠ some number) :
    Placed (service.step config event) number := by
  obtain ⟨startedStays, knownStays, startingStays⟩ := step_enrolment config service event
  rcases placed with waiting | ⟨started, transport⟩
  · by_cases resumes : event = .occurs (.startResumes number)
    · subst resumes
      unfold Service.step
      dsimp only
      cases calling : service.calling with
      | some frame => exact .inl waiting
      | none =>
          unfold Service.occur
          dsimp only
          cases capability : service.capability with
          | unasked => exact .inl waiting
          | detecting => exact .inl waiting
          | known supportsSse =>
              dsimp only
              rw [if_pos waiting]
              have course := resumeStart_course config service number supportsSse
              refine .inr ⟨?_, ?_⟩
              · rw [course.started]
                exact List.mem_cons_self
              · rw [course.capability]
                cases supportsSse with
                | false => exact .inl capability
                | true =>
                    refine .inr ⟨capability, .inl (resumeStart_feeding active ?_)⟩
                    exact opensFor_of_waits (by simp [opening, calling, capability, waiting])
                      rfl active waits
    · exact .inl (startingStays number waiting resumes)
  · refine .inr ⟨startedStays number started, ?_⟩
    rcases transport with polling | ⟨streaming, fed⟩
    · exact .inl (knownStays false polling)
    · exact .inr ⟨knownStays true streaming, fed.step config event active going waits⟩

/-! ## Whole runs -/

theorem mem_visits_reached {config : Config} {events : List Event} {visit : Service × Event}
    (member : visit ∈ visits config events) :
    ∃ earlier later, events = earlier ++ visit.2 :: later ∧
      visit.1 = Service.reached config earlier :=
  (Machine.mem_visits_iff (Service.step config) Service.create events visit.1 visit.2).mp member

theorem visit_log_subset {config : Config} {events : List Event} {visit : Service × Event}
    (member : visit ∈ visits config events) :
    visit.1.log ⊆ (Service.reached config events).log := by
  obtain ⟨earlier, later, split, reached⟩ := mem_visits_reached member
  rw [split, Service.reached, Service.run, Machine.run_append, reached]
  exact (run_log_grows config _ (visit.2 :: later)).subset

theorem ends_eq_some {service : Service} {event : Event} {number : Nat}
    (ended : ends service event = some number) :
    event = .call (.unsubscribe number) ∨ event = .returns none ∧
      ∃ transport, service.calling = some (.afterEvent number true transport) := by
  unfold ends at ended
  split at ended
  · cases ended
    exact .inl rfl
  · split at ended
    · rename_i calling
      cases ended
      exact .inr ⟨rfl, _, calling⟩
    · cases ended
  · cases ended

/-- Since these events, nothing has happened that may end the subscription. -/
structure Lasting (config : Config) (events after : List Event) (number : Nat) : Prop where
  calls : ∀ event ∈ after, event ≠ .call (.unsubscribe number) ∧
    event ≠ .call .destroy ∧ event ≠ .call .abort
  pending : ∀ event : TransactionStreamEvent,
    .event number event ∈ (Service.reached config events).log → event.isTerminal = false

theorem Lasting.not_ended {config : Config} {events after : List Event} {number : Nat}
    (lasting : Lasting config events after number) {visit : Service × Event}
    (member : visit ∈ visits config events) (later : visit.2 ∈ after) :
    ends visit.1 visit.2 ≠ some number := by
  intro ended
  rcases ends_eq_some ended with unsubscribed | ⟨_, transport, calling⟩
  · exact (lasting.calls visit.2 later).1 unsubscribed
  · obtain ⟨earlier, rest, split, reached⟩ := mem_visits_reached member
    have logged := terminalLogged_reached config earlier
    rw [← reached] at logged
    obtain ⟨event, inLog, isTerminal⟩ := logged number transport calling
    have pending := lasting.pending event (visit_log_subset member inLog)
    rw [isTerminal] at pending
    cases pending

theorem watch_subscribes (config : Config) (service : Service) (transactionId : String)
    (hasOnError : Bool)
    (room : config.maxWatched.atMost service.registry.watchers.entries.length = false) :
    Subscribed (service.step config (.call (.watch transactionId hasOnError))) transactionId
        service.registry.states.length ∧
      Placed (service.step config (.call (.watch transactionId hasOnError)))
        service.registry.states.length := by
  unfold Service.step Service.invoke
  dsimp only
  rw [if_neg (by simp [room])]
  refine ⟨⟨?_, ?_⟩, .inl ?_⟩
  · rw [Registry.tag_add, if_pos rfl]
  · rw [Registry.lookup_add, if_pos rfl]
  · exact List.mem_append_right _ (List.mem_singleton.mpr rfl)

section Continues

variable {config : Config} {before after : List Event} {start : Event}

theorem reached_split (config : Config) (before : List Event) (start : Event)
    (after : List Event) :
    Service.reached config (before ++ start :: after) =
      ((Service.reached config before).step config start).run config after := by
  rw [Service.reached, Service.run, Machine.run_append]
  rfl

theorem mem_visits_of_later {visit : Service × Event}
    (member : visit ∈ Machine.visits (Service.step config)
      ((Service.reached config before).step config start) after) :
    visit ∈ visits config (before ++ start :: after) ∧ visit.2 ∈ after := by
  constructor
  · rw [visits, Machine.visits_append]
    exact List.mem_append_right _ (List.mem_cons_of_mem _ member)
  · obtain ⟨earlier, later, split, _⟩ := (Machine.mem_visits_iff _ _ _ _ _).mp member
    rw [split]
    exact List.mem_append_right _ List.mem_cons_self

variable {transactionId : String} {number : Nat}
  (apart : ∀ visit ∈ visits config (before ++ start :: after),
    replaces config visit = false ∧ displaces visit = false)
  (lasting : Lasting config (before ++ start :: after) after number)
  (subscribed : Subscribed ((Service.reached config before).step config start)
    transactionId number)

include apart lasting

theorem Subscribed.step_of_later {visit : Service × Event}
    (member : visit ∈ Machine.visits (Service.step config)
      ((Service.reached config before).step config start) after)
    (current : Subscribed visit.1 transactionId number) :
    Subscribed (visit.1.step config visit.2) transactionId number := by
  obtain ⟨whole, later⟩ := mem_visits_of_later member
  obtain ⟨earlier, rest, split, reached⟩ := mem_visits_reached whole
  have well := wellTracked_reached config earlier
  rw [← reached] at well
  obtain ⟨single, own⟩ := apart visit whole
  refine current.step well ?_ ?_ (lasting.calls visit.2 later).2
  · intro hasOnError again
    simpa [replaces, again, current.tracked] using single
  · intro other active ended known
    have same : number = other := by
      simpa [displaces, ended, known, current.tracked] using own
    rw [← same] at ended
    exact lasting.not_ended whole later ended

include subscribed

theorem Subscribed.reached :
    Subscribed (Service.reached config (before ++ start :: after)) transactionId number := by
  rw [reached_split]
  refine Machine.run_invariant_of_visits (Service.step config)
    (fun state => Subscribed state transactionId number) after _ ?_ subscribed
  intro visit member current
  exact current.step_of_later apart lasting member

theorem Placed.reached
    (placed : Placed ((Service.reached config before).step config start) number)
    (waits : ∀ visit ∈ visits config (before ++ start :: after),
      abandons config visit ≠ some number)
    (going : (Service.reached config (before ++ start :: after)).aborted = false) :
    Placed (Service.reached config (before ++ start :: after)) number := by
  rw [reached_split] at going ⊢
  refine (Machine.run_invariant_of_visits (Service.step config)
    (fun state => Subscribed state transactionId number ∧
      (state.aborted = false → Placed state number)) after _ ?_
    ⟨subscribed, fun _ => placed⟩).2 going
  rintro visit member ⟨current, stays⟩
  refine ⟨current.step_of_later apart lasting member, ?_⟩
  intro stillGoing
  have active := Registry.isActive_iff.mpr ⟨_, current.active⟩
  exact (stays (step_aborted config visit.1 visit.2 stillGoing)).step config visit.2 active
    stillGoing (waits visit (mem_visits_of_later member).1)

end Continues

/-! ## The law -/

/-- A new status that arrives for the watcher is handed to its callback, and the next
poll cycle asks for one. -/
structure Receiving (service : Service) (transactionId : String) (number : Nat) : Prop where
  tracked : service.registry.watchers.lookup transactionId = some number
  polled : number ∈ service.registry.activeWatchers
  delivered : ∀ state, service.registry.states[number]? = some state →
    ∀ tx transport, strictEq state.lastStatus (tx.get "status") = false →
      ∃ event : TransactionStreamEvent, event.status = tx.get "status" ∧
        (service.dispatchUpdate number tx transport).log =
          service.log ++ [.event number event]

/-- Its start is pending, the poll loop is alive, or a connection is kept up for it. -/
def Connected (service : Service) (number : Nat) : Prop :=
  number ∈ service.starting ∨ number ∈ service.started ∧
    (service.capability = .known false ∧ service.loop.Busy ∨
      service.capability = .known true ∧ Fed service number)

theorem Subscribed.receiving {transactionId : String}
    (subscribed : Subscribed service transactionId number) :
    Receiving service transactionId number where
  tracked := subscribed.tracked
  polled := by
    rw [Registry.activeWatchers, List.mem_filter, Registry.isActive_iff]
    exact ⟨List.mem_map_of_mem (AList.mem_lookup_iff.mp subscribed.tracked),
      transactionId, subscribed.active⟩
  delivered := by
    intro state found tx transport newStatus
    have active : state.active = true := by
      have tagged := subscribed.active
      rw [Registry.tag_of_states found] at tagged
      exact congrArg Prod.snd (Option.some.inj tagged)
    unfold Service.dispatchUpdate
    simp only [found, active, newStatus, if_true, Bool.false_eq_true, if_false]
    exact ⟨_, rfl, rfl⟩

/-- As long as no `watch` replaces a tracked watcher, no removal hits another one, no poll
fails late, and no watcher is left without a connection by its own `onError` or by the
browser. -/
theorem subscriptions_do_not_interfere (config : Config) (events : List Event)
    (apart : ∀ visit ∈ visits config events,
      replaces config visit = false ∧ displaces visit = false ∧ reportsLate visit = false ∧
        abandons config visit = none) :
    (∀ before handle after, events = before ++ .call (.unsubscribe handle) :: after →
      handle < (Service.reached config before).registry.states.length →
      ∀ notification ∈ (Service.reached config events).log.drop
          (Service.reached config before).log.length,
        notification.watcher ≠ handle) ∧
      (∀ before transactionId hasOnError after,
        events = before ++ .call (.watch transactionId hasOnError) :: after →
        config.maxWatched.atMost
          (Service.reached config before).registry.watchers.entries.length = false →
        Lasting config events after (Service.reached config before).registry.states.length →
        Receiving (Service.reached config events) transactionId
            (Service.reached config before).registry.states.length ∧
          ((Service.reached config events).aborted = false →
            Connected (Service.reached config events)
              (Service.reached config before).registry.states.length)) := by
  constructor
  · intro before handle after split issued notification member
    subst split
    have all := allTracked_reached config before (by
      intro visit member
      refine (apart visit ?_).1
      rw [visits, Machine.visits_append]
      exact List.mem_append_left _ member)
    have known := List.getElem?_eq_getElem issued
    have inactive := unsubscribe_deactivates config _ all (Registry.tag_of_states known)
    have quiet := run_log_of_inactive config _ after inactive
    have sameLog : ((Service.reached config before).step config
        (.call (.unsubscribe handle))).log = (Service.reached config before).log := by
      simp only [Service.step, Service.invoke, known]
    rw [sameLog] at quiet
    rw [reached_split] at member
    refine quiet notification member ?_
    intro visit later
    exact (apart visit (mem_visits_of_later later).1).2.2.1
  · intro before transactionId hasOnError after split room lasting
    subst split
    have separate : ∀ visit ∈ visits config
        (before ++ .call (.watch transactionId hasOnError) :: after),
        replaces config visit = false ∧ displaces visit = false :=
      fun visit member => ⟨(apart visit member).1, (apart visit member).2.1⟩
    obtain ⟨subscribed, placed⟩ :=
      watch_subscribes config (Service.reached config before) transactionId hasOnError room
    have current := subscribed.reached separate lasting
    refine ⟨current.receiving, ?_⟩
    intro going
    have waits : ∀ visit ∈ visits config
        (before ++ .call (.watch transactionId hasOnError) :: after),
        abandons config visit ≠
          some (Service.reached config before).registry.states.length := by
      intro visit member
      rw [(apart visit member).2.2.2]
      nofun
    rcases placed.reached separate lasting subscribed waits going with waiting | ⟨started, way⟩
    · exact .inl waiting
    · refine .inr ⟨started, ?_⟩
      rcases way with polling | streaming
      · exact .inl ⟨polling, (attended_reached config _).busy polling going transactionId _
          current.tracked started⟩
      · exact .inr streaming

def sseConfig : Config :=
  { pollingConfig with preferSse := some true, eventSourceAvailable := true }

def statusMessage (connection : Nat) (status : String) : Event :=
  .occurs (.message connection (some (.object [("status", .string status)])))

def separateRun : List Event :=
  [.call (.watch "deposit" false), .call (.watch "withdrawal" false),
    .occurs (.startResumes 0), .occurs (.startResumes 1),
    statusMessage 0 "pending_anchor", .returns none, .call (.unsubscribe 0),
    statusMessage 0 "completed"]

theorem separateRun_undisturbed :
    (∀ notification ∈ (Service.reached sseConfig separateRun).log.drop
        (Service.reached sseConfig (separateRun.take 6)).log.length,
      notification.watcher ≠ 0) ∧
      Receiving (Service.reached sseConfig separateRun) "withdrawal" 1 ∧
      Connected (Service.reached sseConfig separateRun) 1 := by
  have law := subscriptions_do_not_interfere sseConfig separateRun (by decide +kernel)
  have others : ∀ notification ∈ (Service.reached sseConfig separateRun).log,
      notification.watcher = 0 := by
    decide +kernel
  have second : (Service.reached sseConfig (separateRun.take 1)).registry.states.length = 1 := by
    decide +kernel
  have lasting : Lasting sseConfig separateRun (separateRun.drop 2) 1 := by
    refine ⟨by simp [separateRun, statusMessage], ?_⟩
    intro event member
    cases others _ member
  rw [← second] at lasting
  obtain ⟨receiving, connected⟩ := law.2 (separateRun.take 1) "withdrawal" false
    (separateRun.drop 2) rfl (by decide +kernel) lasting
  rw [second] at receiving connected
  exact ⟨law.1 (separateRun.take 6) 0 (separateRun.drop 7) rfl (by decide +kernel), receiving,
    connected (by decide +kernel)⟩

/-- One transaction is watched twice; the handle of the first unsubscribes. -/
def overlapRun : List Event :=
  [.call (.watch "deposit" false), .call (.watch "deposit" false),
    .occurs (.startResumes 0), .occurs (.startResumes 1), .call (.unsubscribe 0),
    statusMessage 1 "pending_anchor", statusMessage 0 "pending_anchor"]

/-- The callback that unsubscribed is invoked, and the other one is not. -/
theorem overlapRun_crosses :
    (Service.reached sseConfig (overlapRun.take 4)).log = [] ∧
      overlapRun[4]? = some (.call (.unsubscribe 0)) ∧
      (∃ update, (Service.reached sseConfig overlapRun).log = [.event 0 update]) ∧
      (Service.reached sseConfig overlapRun).registry.isActive 1 = false :=
  ⟨rfl, rfl, ⟨_, rfl⟩, by decide +kernel⟩

end AnchorKit.Sdk.Streaming
