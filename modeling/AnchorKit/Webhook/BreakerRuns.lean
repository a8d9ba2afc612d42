import AnchorKit.Webhook.CircuitBreaker

/-!
# The circuit breaker under overlapping calls

A permit granted while the breaker was closed may be resolved when it is open or
half-open.  No such late outcome can wedge the breaker, but a late success closes
it in the middle of a cooldown, and a late outcome of either kind can take it out
of the half-open state while the probe is still out.  The runs without such
outcomes keep the cooldown and never have two probes.
-/

set_option autoImplicit false

namespace AnchorKit.Webhook

open AnchorKit.Base

variable {config : CircuitBreakerConfig} {traffic later : Traffic} {event : Event}

theorem held_of_release {permits : Nat → Option Permit} {number other : Nat}
    {permit : Permit}
    (held : Function.update permits number none other = some permit) :
    permits other = some permit := by
  by_cases same : other = number
  · subst other
    simp at held
  · rwa [Function.update_of_ne same] at held

/-! ## What holds in every run -/

structure Sound (traffic : Traffic) : Prop where
  fresh : ∀ number, traffic.granted ≤ number → traffic.permits number = none
  probing : traffic.inner.state = .halfOpen →
    ∃ number, traffic.lastProbe = some number ∧ traffic.permits number = some ⟨true⟩
  stamped : traffic.inner.state = .opened → ∃ openedAt, traffic.inner.openedAt = some openedAt
  recorded : ∀ openedAt, traffic.inner.openedAt = some openedAt →
    openedAt ∈ traffic.tripTimes
  past : ∀ time ∈ traffic.tripTimes, time ≤ traffic.now

theorem sound_new (start : Nat) : Sound (Traffic.new start) where
  fresh _ _ := rfl
  probing state := by cases state
  stamped state := by cases state
  recorded _ stamped := by cases stamped
  past _ member := by cases member

theorem Sound.fresh_release (sound : Sound traffic) (number : Nat) :
    ∀ other, traffic.granted ≤ other →
      Function.update traffic.permits number none other = none := by
  intro other beyond
  by_cases same : other = number
  · simp [same]
  · rw [Function.update_of_ne same]
    exact sound.fresh other beyond

theorem Sound.fresh_grant (sound : Sound traffic) (permit : Permit) :
    ∀ other, traffic.granted + 1 ≤ other →
      Function.update traffic.permits traffic.granted (some permit) other = none := by
  intro other beyond
  rw [Function.update_of_ne (by omega)]
  exact sound.fresh other (by omega)

theorem Sound.transition (sound : Sound traffic)
    (transition : Transition config traffic event later) : Sound later := by
  cases transition with
  | elapsed duration =>
      refine ⟨sound.fresh, sound.probing, sound.stamped, sound.recorded, ?_⟩
      intro time member
      exact Nat.le_trans (sound.past time member) (Nat.le_add_right _ _)
  | admitted closed =>
      refine ⟨sound.fresh_grant ⟨false⟩, ?_, sound.stamped, sound.recorded, sound.past⟩
      intro halfOpen
      have contradictory := closed.symm.trans halfOpen
      cases contradictory
  | probed opened cooled =>
      refine ⟨sound.fresh_grant ⟨true⟩, ?_, ?_, sound.recorded, sound.past⟩
      · intro _
        exact ⟨traffic.granted, rfl, Function.update_self _ _ _⟩
      · intro stillOpen
        cases stillOpen
  | refused _ => exact sound
  | ignored _ _ _ => exact sound
  | succeeded number permit held =>
      refine ⟨sound.fresh_release number, ?_, ?_, ?_, sound.past⟩
      · intro halfOpen
        cases halfOpen
      · intro opened
        cases opened
      · intro openedAt stamped
        cases stamped
  | tripped number permit failures held _ _ =>
      refine ⟨sound.fresh_release number, ?_, fun _ => ⟨traffic.now, rfl⟩, ?_, ?_⟩
      · intro halfOpen
        cases halfOpen
      · intro openedAt stamped
        cases Option.some.inj stamped
        exact List.mem_cons_self
      · intro time member
        rcases List.mem_cons.mp member with rfl | earlier
        · exact Nat.le_refl _
        · exact sound.past time earlier
  | tolerated number permit failures held _ ordinary _ =>
      refine ⟨sound.fresh_release number, ?_, sound.stamped, sound.recorded, sound.past⟩
      intro halfOpen
      obtain ⟨probe, last, out⟩ := sound.probing halfOpen
      have different : probe ≠ number := by
        intro same
        rw [same, held] at out
        cases Option.some.inj out
        cases ordinary
      refine ⟨probe, last, ?_⟩
      exact (Function.update_of_ne different _ _).trans out

theorem reached_sound (config : CircuitBreakerConfig) (start : Nat) (events : List Event) :
    Sound (Traffic.reached config start events) := by
  refine Machine.run_invariant (Traffic.step config) Sound ?_ events (Traffic.new start)
    (sound_new start)
  intro traffic event sound
  exact sound.transition (step_transition config traffic event)

/-- A half-open breaker waits for its last probe and an open one knows when it
opened; with no permit out a call is granted once the breaker is closed or the
cooldown is over, and so at the latest one cooldown from now. -/
structure Responsive (config : CircuitBreakerConfig) (traffic : Traffic) : Prop where
  probing : traffic.inner.state = .halfOpen →
    ∃ number, traffic.lastProbe = some number ∧ traffic.permits number = some ⟨true⟩
  stamped : traffic.inner.state = .opened →
    ∃ openedAt, traffic.inner.openedAt = some openedAt
  ready : (∀ number, traffic.permits number = none) →
    traffic.inner.state = .closed ∨
      (∃ openedAt, traffic.inner.openedAt = some openedAt ∧
        config.cooldown ≤ traffic.now - openedAt) →
    ∃ permit, (tryAcquire config traffic.now traffic.inner).1 = .ok permit
  recovers : (∀ number, traffic.permits number = none) →
    ∃ permit, (tryAcquire config (traffic.now + config.cooldown) traffic.inner).1 =
      .ok permit

theorem cooldownElapsed_iff (config : CircuitBreakerConfig) (now : Nat) (inner : Inner) :
    cooldownElapsed config now inner = true ↔
      ∃ openedAt, inner.openedAt = some openedAt ∧ config.cooldown ≤ now - openedAt := by
  simp [cooldownElapsed, Option.any_eq_true]

theorem tryAcquire_closed (config : CircuitBreakerConfig) (now : Nat) {inner : Inner}
    (closed : inner.state = .closed) :
    (tryAcquire config now inner).1 = .ok ⟨false⟩ := by
  simp [tryAcquire, closed]

theorem tryAcquire_opened (config : CircuitBreakerConfig) (now : Nat) {inner : Inner}
    (opened : inner.state = .opened) :
    (tryAcquire config now inner).1 =
      if cooldownElapsed config now inner then .ok ⟨true⟩ else .error ⟨⟩ := by
  simp only [tryAcquire, opened]
  split
  · rfl
  · rfl

theorem Sound.idle_cases (sound : Sound traffic)
    (idle : ∀ number, traffic.permits number = none) :
    traffic.inner.state = .closed ∨ traffic.inner.state = .opened := by
  cases state : traffic.inner.state with
  | closed => exact Or.inl rfl
  | opened => exact Or.inr rfl
  | halfOpen =>
      obtain ⟨number, _, out⟩ := sound.probing state
      rw [idle number] at out
      cases out

theorem Sound.responsive (sound : Sound traffic) (config : CircuitBreakerConfig) :
    Responsive config traffic where
  probing := sound.probing
  stamped := sound.stamped
  ready := by
    intro idle ready
    rcases sound.idle_cases idle with closed | opened
    · exact ⟨_, tryAcquire_closed config traffic.now closed⟩
    · rcases ready with closed | cooled
      · rw [closed] at opened
        cases opened
      · refine ⟨⟨true⟩, ?_⟩
        rw [tryAcquire_opened config traffic.now opened]
        exact if_pos ((cooldownElapsed_iff config traffic.now traffic.inner).mpr cooled)
  recovers := by
    intro idle
    rcases sound.idle_cases idle with closed | opened
    · exact ⟨_, tryAcquire_closed config _ closed⟩
    · obtain ⟨openedAt, stamped⟩ := sound.stamped opened
      have notLater := sound.past openedAt (sound.recorded openedAt stamped)
      refine ⟨⟨true⟩, ?_⟩
      rw [tryAcquire_opened config _ opened]
      apply if_pos
      apply (cooldownElapsed_iff config _ traffic.inner).mpr
      exact ⟨openedAt, stamped, by omega⟩

/-- No interleaving of overlapping calls wedges the breaker. -/
theorem breaker_never_wedged (config : CircuitBreakerConfig) (start : Nat)
    (events : List Event) :
    Responsive config (Traffic.reached config start events) :=
  (reached_sound config start events).responsive config

/-! ## Probes -/

def AtMostOneProbe (traffic : Traffic) : Prop :=
  ∀ first second, traffic.permits first = some ⟨true⟩ →
    traffic.permits second = some ⟨true⟩ → first = second

/-- While a probe is out, a permit granted by the closed breaker reports a success
or the failure that reaches the threshold. -/
def displacesProbe (config : CircuitBreakerConfig) (visit : Traffic × Event) : Bool :=
  match visit.2 with
  | .resolve number outcome =>
      visit.1.inner.state == .halfOpen && visit.1.permits number == some ⟨false⟩ &&
        (outcome == .success || trips config ⟨false⟩ outcome visit.1.inner)
  | _ => false

/-- Only the last probe may be out, and only while the breaker is half-open. -/
def ProbeGuarded (traffic : Traffic) : Prop :=
  ∀ number, traffic.permits number = some ⟨true⟩ →
    traffic.inner.state = .halfOpen ∧ traffic.lastProbe = some number

theorem ProbeGuarded.atMostOneProbe (guarded : ProbeGuarded traffic) :
    AtMostOneProbe traffic := by
  intro first second firstOut secondOut
  have last := (guarded first firstOut).2
  rw [(guarded second secondOut).2] at last
  exact (Option.some.inj last).symm

/-- If an undisturbed outcome moves the breaker, no probe is out afterwards. -/
theorem ProbeGuarded.no_probe_left (guarded : ProbeGuarded traffic) {number : Nat}
    {permit : Permit} {outcome : Outcome} (held : traffic.permits number = some permit)
    (moves : outcome = .success ∨ trips config permit outcome traffic.inner = true)
    (undisturbed : displacesProbe config (traffic, .resolve number outcome) = false)
    {other : Nat} : Function.update traffic.permits number none other ≠ some ⟨true⟩ := by
  intro out
  have different : other ≠ number := by
    intro same
    rw [same, Function.update_self] at out
    cases out
  obtain ⟨halfOpen, last⟩ := guarded other (held_of_release out)
  obtain ⟨isProbe⟩ := permit
  cases isProbe with
  | true =>
      have lastAgain := (guarded number held).2
      rw [last] at lastAgain
      exact different (Option.some.inj lastAgain)
  | false =>
      have displaces : displacesProbe config (traffic, .resolve number outcome) = true := by
        rcases moves with rfl | tripped
        · simp [displacesProbe, halfOpen, held]
        · simp [displacesProbe, halfOpen, held, tripped]
      rw [undisturbed] at displaces
      cases displaces

theorem ProbeGuarded.transition (guarded : ProbeGuarded traffic)
    (transition : Transition config traffic event later)
    (undisturbed : displacesProbe config (traffic, event) = false) :
    ProbeGuarded later := by
  cases transition with
  | elapsed duration => exact guarded
  | admitted closed =>
      intro number out
      by_cases new : number = traffic.granted
      · subst number
        simp [Traffic.grant] at out
      · have out' : traffic.permits number = some ⟨true⟩ :=
          (Function.update_of_ne new _ _).symm.trans out
        exact guarded number out'
  | probed opened cooled =>
      intro number out
      by_cases new : number = traffic.granted
      · subst number
        exact ⟨rfl, rfl⟩
      · have out' : traffic.permits number = some ⟨true⟩ :=
          (Function.update_of_ne new _ _).symm.trans out
        have halfOpen := (guarded number out').1
        rw [opened] at halfOpen
        cases halfOpen
  | refused _ => exact guarded
  | ignored _ _ _ => exact guarded
  | succeeded number permit held =>
      intro other out
      exact absurd out (guarded.no_probe_left held (Or.inl rfl) undisturbed)
  | tripped number permit failures held failed cause =>
      intro other out
      have tripping := trips_of_cause failed cause
      exact absurd out (guarded.no_probe_left held (Or.inr tripping) undisturbed)
  | tolerated number permit failures held _ ordinary _ =>
      intro other out
      exact guarded other (held_of_release out)

/-- In a run in which no late outcome displaces a probe, at most one probe is
unresolved at any moment. -/
theorem at_most_one_probe_unless_displaced (config : CircuitBreakerConfig) (start : Nat)
    (events : List Event)
    (undisturbed : ∀ visit ∈ Traffic.visits config start events,
      displacesProbe config visit = false) :
    ∀ earlier more, events = earlier ++ more →
      AtMostOneProbe (Traffic.reached config start earlier) := by
  intro earlier more split
  apply ProbeGuarded.atMostOneProbe
  have fresh : ProbeGuarded (Traffic.new start) := by
    intro number out
    cases out
  refine Machine.prefix_invariant (Traffic.step config) ProbeGuarded
    (fun visit => displacesProbe config visit = false) ?_ (Traffic.new start) fresh
    events undisturbed earlier more split
  intro traffic event guarded apart
  exact guarded.transition (step_transition config traffic event) apart

section Sample

/-- Six calls are let through and five of them fail, which opens the breaker; one
cooldown later a probe is granted. -/
def probedRun : List Event :=
  List.replicate 6 .tryAcquire ++
    [.resolve 0 .failure, .resolve 1 .failure, .resolve 2 .failure, .resolve 3 .failure,
      .resolve 4 .failure, .elapse (30 * 10 ^ 9), .tryAcquire]

/-- The sixth call fails late, and one more cooldown later a call is made. -/
def secondProbeRun : List Event :=
  probedRun ++ [.resolve 5 .failure, .elapse (30 * 10 ^ 9), .tryAcquire]

end Sample

theorem probedRun_has_one_probe :
    (Traffic.reached .default 0 probedRun).permits 6 = some ⟨true⟩ ∧
      AtMostOneProbe (Traffic.reached .default 0 probedRun) :=
  ⟨by decide +kernel, at_most_one_probe_unless_displaced .default 0 probedRun
    (by decide +kernel) probedRun [] (by simp)⟩

/-- A late failure puts the half-open breaker back to open, and the next probe is
granted while the first one is still out. -/
theorem second_probe_after_late_failure :
    (Traffic.reached .default 0 secondProbeRun).permits 6 = some ⟨true⟩ ∧
      (Traffic.reached .default 0 secondProbeRun).permits 7 = some ⟨true⟩ ∧
      ¬ AtMostOneProbe (Traffic.reached .default 0 secondProbeRun) := by
  have first : (Traffic.reached .default 0 secondProbeRun).permits 6 = some ⟨true⟩ := by
    decide +kernel
  have second : (Traffic.reached .default 0 secondProbeRun).permits 7 = some ⟨true⟩ := by
    decide +kernel
  refine ⟨first, second, ?_⟩
  intro atMostOne
  have same := atMostOne 6 7 first second
  omega

/-! ## The cooldown -/

/-- No call is granted before a cooldown has passed since any trip so far. -/
def RespectsCooldown (config : CircuitBreakerConfig) (traffic : Traffic) : Prop :=
  ∀ time ∈ traffic.tripTimes, traffic.now < time + config.cooldown →
    (tryAcquire config traffic.now traffic.inner).1 = .error ⟨⟩

/-- A permit reports a success while the breaker is open and cooling down. -/
def earlySuccess (config : CircuitBreakerConfig) (visit : Traffic × Event) : Bool :=
  match visit.2 with
  | .resolve number .success =>
      (visit.1.permits number).isSome && visit.1.inner.state == .opened &&
        !cooldownElapsed config visit.1.now visit.1.inner
  | _ => false

/-- Until a cooldown has passed since a trip the breaker is open, and opened no
earlier than that trip. -/
def Cooling (config : CircuitBreakerConfig) (traffic : Traffic) : Prop :=
  ∀ time ∈ traffic.tripTimes, traffic.now < time + config.cooldown →
    traffic.inner.state = .opened ∧
      ∃ openedAt, traffic.inner.openedAt = some openedAt ∧ time ≤ openedAt

theorem Cooling.not_elapsed (cooling : Cooling config traffic) (sound : Sound traffic)
    {time : Nat} (member : time ∈ traffic.tripTimes)
    (early : traffic.now < time + config.cooldown) :
    cooldownElapsed config traffic.now traffic.inner = false := by
  obtain ⟨_, openedAt, stamped, notEarlier⟩ := cooling time member early
  have past := sound.past openedAt (sound.recorded openedAt stamped)
  simp only [cooldownElapsed, stamped, Option.any_some, decide_eq_false_iff_not]
  omega

theorem Cooling.respectsCooldown (cooling : Cooling config traffic)
    (sound : Sound traffic) : RespectsCooldown config traffic := by
  intro time member early
  have opened := (cooling time member early).1
  rw [tryAcquire_opened config traffic.now opened, cooling.not_elapsed sound member early]
  rfl

theorem Cooling.transition (cooling : Cooling config traffic) (sound : Sound traffic)
    (transition : Transition config traffic event later)
    (patient : earlySuccess config (traffic, event) = false) :
    Cooling config later := by
  cases transition with
  | elapsed duration =>
      intro time member early
      have sooner : traffic.now < time + config.cooldown :=
        Nat.lt_of_le_of_lt (Nat.le_add_right _ _) early
      exact cooling time member sooner
  | admitted closed => exact cooling
  | probed opened cooled =>
      intro time member early
      have running := cooling.not_elapsed sound member early
      rw [cooled] at running
      cases running
  | refused _ => exact cooling
  | ignored _ _ _ => exact cooling
  | succeeded number permit held =>
      intro time member early
      have opened := (cooling time member early).1
      have running := cooling.not_elapsed sound member early
      simp [earlySuccess, held, opened, running] at patient
  | tripped number permit failures held _ _ =>
      intro time member _
      refine ⟨rfl, traffic.now, rfl, ?_⟩
      rcases List.mem_cons.mp member with rfl | earlier
      · exact Nat.le_refl _
      · exact sound.past time earlier
  | tolerated number permit failures held _ _ _ => exact cooling

theorem earlySuccess_grants (sound : Sound traffic)
    (early : earlySuccess config (traffic, event) = true) :
    ¬ RespectsCooldown config (traffic.step config event) := by
  intro respects
  cases event with
  | tryAcquire => cases early
  | elapse _ => cases early
  | resolve number outcome =>
      cases outcome with
      | failure => cases early
      | dropped => cases early
      | success =>
          simp only [earlySuccess, Bool.and_eq_true, Bool.not_eq_true', beq_iff_eq] at early
          obtain ⟨⟨present, opened⟩, running⟩ := early
          obtain ⟨permit, held⟩ := Option.isSome_iff_exists.mp present
          obtain ⟨openedAt, stamped⟩ := sound.stamped opened
          have member := sound.recorded openedAt stamped
          have sooner : traffic.now < openedAt + config.cooldown := by
            simp only [cooldownElapsed, stamped, Option.any_some,
              decide_eq_false_iff_not] at running
            omega
          have closes : traffic.step config (.resolve number .success) =
              traffic.close number := by
            simp only [Traffic.step, held]
            rfl
          rw [closes] at respects
          have refused := respects openedAt member sooner
          have granted : (tryAcquire config traffic.now Inner.new).1 = .ok ⟨false⟩ :=
            tryAcquire_closed config traffic.now rfl
          have contradictory := refused.symm.trans granted
          cases contradictory

/-- A run respects the cooldown in every state it reaches exactly when none of its
permits reports a success while the breaker is open and cooling down. -/
theorem cooldown_respected_iff (config : CircuitBreakerConfig) (start : Nat)
    (events : List Event) :
    (∀ earlier more, events = earlier ++ more →
        RespectsCooldown config (Traffic.reached config start earlier)) ↔
      ∀ visit ∈ Traffic.visits config start events, earlySuccess config visit = false := by
  refine Machine.prefixes_iff_visits (Traffic.step config) (RespectsCooldown config)
    (fun traffic => Sound traffic ∧ Cooling config traffic)
    (fun visit => earlySuccess config visit = false) ?_ ?_ ?_ (Traffic.new start) ?_ events
  · intro traffic strong
    exact strong.2.respectsCooldown strong.1
  · intro traffic event strong patient
    have transition := step_transition config traffic event
    exact ⟨strong.1.transition transition,
      strong.2.transition strong.1 transition patient⟩
  · intro traffic event strong respects
    by_contra early
    exact earlySuccess_grants strong.1 (eq_true_of_ne_false early) respects
  · refine ⟨sound_new start, ?_⟩
    intro time member
    cases member

section Sample

def lateSuccessRun : List Event :=
  probedRun.take 11 ++ [.elapse (10 ^ 9), .resolve 5 .success]

end Sample

/-- A late success lets calls through 29 seconds before the cooldown is over. -/
theorem late_success_ends_cooldown :
    (Traffic.reached .default 0 (probedRun.take 11)).inner =
        ⟨.opened, 5, some 0⟩ ∧
      (Traffic.reached .default 0 lateSuccessRun).tripTimes = [0] ∧
      (Traffic.reached .default 0 lateSuccessRun).now = 10 ^ 9 ∧
      ¬ RespectsCooldown .default (Traffic.reached .default 0 lateSuccessRun) := by
  refine ⟨by decide +kernel, by decide +kernel, by decide +kernel, ?_⟩
  intro respects
  have member : 0 ∈ (Traffic.reached .default 0 lateSuccessRun).tripTimes := by
    decide +kernel
  have refused := respects 0 member (by decide +kernel)
  have granted : (tryAcquire .default (Traffic.reached .default 0 lateSuccessRun).now
      (Traffic.reached .default 0 lateSuccessRun).inner).1.toBool = true := by
    decide +kernel
  rw [refused] at granted
  cases granted

end AnchorKit.Webhook
