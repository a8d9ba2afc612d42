import AnchorKit.Webhook.BreakerRuns
import Mathlib.Data.List.Induction

/-!
# The circuit breaker under sequential calls

When every permit is resolved before the next call is made, the breaker's mode,
counter and time stamp are a function of the outcomes reported so far: only the
failures since the last success matter.  The closed form is stated over those,
and the breaker simulates it through all three modes.
-/

set_option autoImplicit false

namespace AnchorKit.Webhook

open AnchorKit.Base

def resolutions (visit : Traffic × Event) : List (Outcome × Nat) :=
  match visit.2 with
  | .resolve number outcome =>
      if (visit.1.permits number).isSome then [(outcome, visit.1.now)] else []
  | _ => []

def outcomeHistory (config : CircuitBreakerConfig) (start : Nat) (events : List Event) :
    List (Outcome × Nat) :=
  Machine.outputs (Traffic.step config) resolutions (Traffic.new start) events

def noteOutcome (times : List Nat) (resolution : Outcome × Nat) : List Nat :=
  if resolution.1 = .success then [] else resolution.2 :: times

/-- The times of the failed and dropped permits since the last success, latest
first. -/
def failureTimes (history : List (Outcome × Nat)) : List Nat :=
  history.foldl noteOutcome []

/-- A call is only made when no permit is out. -/
def Sequential (config : CircuitBreakerConfig) (start : Nat) (events : List Event) : Prop :=
  ∀ visit ∈ Traffic.visits config start events, visit.2 = .tryAcquire →
    ∀ number, visit.1.permits number = none

/-- The number of failures that opens the breaker. -/
def tripCount (config : CircuitBreakerConfig) : Nat :=
  max 1 config.failureThreshold.toNat

theorem tripCount_lt (config : CircuitBreakerConfig) : tripCount config < 2 ^ 32 := by
  have bound := config.failureThreshold.toNat_lt
  unfold tripCount
  omega

/-! ## The simulation -/

/-- The breaker's mode, counter and time stamp as the failures since the last
success determine them. -/
structure Mirrors (config : CircuitBreakerConfig) (traffic : Traffic)
    (times : List Nat) : Prop where
  closed : traffic.inner.state = .closed →
    traffic.inner.consecutiveFailures.toNat = times.length ∧
      times.length < tripCount config ∧
      ∀ number permit, traffic.permits number = some permit → permit.isProbe = false
  opened : traffic.inner.state = .opened →
    tripCount config ≤ times.length ∧ traffic.inner.openedAt = times.head? ∧
      ∀ number, traffic.permits number = none
  halfOpen : traffic.inner.state = .halfOpen →
    tripCount config ≤ times.length ∧
      ∀ number permit, traffic.permits number = some permit → permit.isProbe = true
  single : ∀ first second, traffic.permits first ≠ none →
    traffic.permits second ≠ none → first = second

section Simulation

variable {config : CircuitBreakerConfig} {traffic later : Traffic} {event : Event}
  {times : List Nat}

theorem mirrors_new (config : CircuitBreakerConfig) (start : Nat) :
    Mirrors config (Traffic.new start) [] where
  closed _ := ⟨rfl, Nat.lt_of_lt_of_le Nat.one_pos (Nat.le_max_left _ _),
    fun _ _ held => by cases held⟩
  opened state := by cases state
  halfOpen state := by cases state
  single _ _ held := absurd rfl held

theorem Mirrors.idle_after (mirrors : Mirrors config traffic times) {number : Nat}
    {permit : Permit} (held : traffic.permits number = some permit) :
    ∀ other, Function.update traffic.permits number none other = none := by
  intro other
  by_cases same : other = number
  · rw [same, Function.update_self]
  · rw [Function.update_of_ne same]
    by_contra out
    have present : traffic.permits number ≠ none := by
      rw [held]
      exact Option.some_ne_none permit
    exact same (mirrors.single other number out present)

theorem Mirrors.state_of_held (mirrors : Mirrors config traffic times) {number : Nat}
    {permit : Permit} (held : traffic.permits number = some permit) :
    traffic.inner.state = if permit.isProbe then .halfOpen else .closed := by
  cases state : traffic.inner.state with
  | closed =>
      have ordinary := (mirrors.closed state).2.2 number permit held
      rw [ordinary]
      rfl
  | opened =>
      have absent := (mirrors.opened state).2.2 number
      rw [held] at absent
      cases absent
  | halfOpen =>
      have probe := (mirrors.halfOpen state).2 number permit held
      rw [probe]
      rfl

theorem single_of_idle {permits : Nat → Option Permit}
    (idle : ∀ number, permits number = none) :
    ∀ first second, permits first ≠ none → permits second ≠ none → first = second := by
  intro first second held
  exact absurd (idle first) held

theorem granted_permit {permits : Nat → Option Permit} {granted : Nat} {permit : Permit}
    (idle : ∀ number, permits number = none) {number : Nat} {found : Permit}
    (held : Function.update permits granted (some permit) number = some found) :
    number = granted ∧ found = permit := by
  by_cases same : number = granted
  · rw [same, Function.update_self] at held
    exact ⟨same, (Option.some.inj held).symm⟩
  · rw [Function.update_of_ne same, idle number] at held
    cases held

theorem granted_single {permits : Nat → Option Permit} {granted : Nat} {permit : Permit}
    (idle : ∀ number, permits number = none) :
    ∀ first second, Function.update permits granted (some permit) first ≠ none →
      Function.update permits granted (some permit) second ≠ none → first = second := by
  intro first second firstOut secondOut
  obtain ⟨_, firstHeld⟩ := Option.ne_none_iff_exists'.mp firstOut
  obtain ⟨_, secondHeld⟩ := Option.ne_none_iff_exists'.mp secondOut
  rw [(granted_permit idle firstHeld).1, (granted_permit idle secondHeld).1]

theorem Mirrors.admitted (mirrors : Mirrors config traffic times)
    (idle : ∀ number, traffic.permits number = none)
    (closed : traffic.inner.state = .closed) :
    Mirrors config (traffic.grant ⟨false⟩ traffic.inner) times where
  closed _ := by
    obtain ⟨counted, below, _⟩ := mirrors.closed closed
    refine ⟨counted, below, ?_⟩
    intro number permit held
    rw [(granted_permit idle held).2]
  opened opened := by
    have contradictory := closed.symm.trans opened
    cases contradictory
  halfOpen halfOpen := by
    have contradictory := closed.symm.trans halfOpen
    cases contradictory
  single := granted_single idle

theorem Mirrors.probed (mirrors : Mirrors config traffic times)
    (idle : ∀ number, traffic.permits number = none)
    (opened : traffic.inner.state = .opened) :
    Mirrors config (traffic.grant ⟨true⟩ { traffic.inner with state := .halfOpen })
      times where
  closed closed := by cases closed
  opened stillOpen := by cases stillOpen
  halfOpen _ := by
    refine ⟨(mirrors.opened opened).1, ?_⟩
    intro number permit held
    rw [(granted_permit idle held).2]
  single := granted_single idle

theorem Mirrors.succeeded (mirrors : Mirrors config traffic times) {number : Nat}
    {permit : Permit} (held : traffic.permits number = some permit) :
    Mirrors config (traffic.close number) [] where
  closed _ := by
    refine ⟨rfl, Nat.lt_of_lt_of_le Nat.one_pos (Nat.le_max_left _ _), ?_⟩
    intro other found out
    have contradictory := out.symm.trans (mirrors.idle_after held other)
    cases contradictory
  opened opened := by cases opened
  halfOpen halfOpen := by cases halfOpen
  single := single_of_idle (mirrors.idle_after held)

theorem Mirrors.tripped (mirrors : Mirrors config traffic times) {number : Nat}
    {permit : Permit} {failures : UInt32}
    (held : traffic.permits number = some permit)
    (cause : permit.isProbe = true ∨ permit.isProbe = false ∧
      nextFailures traffic.inner.consecutiveFailures = some failures ∧
        config.failureThreshold ≤ failures) :
    Mirrors config (traffic.trip number failures) (traffic.now :: times) where
  closed closed := by cases closed
  opened _ := by
    refine ⟨?_, rfl, mirrors.idle_after held⟩
    have state := mirrors.state_of_held held
    rw [List.length_cons]
    rcases cause with probe | ⟨ordinary, next, reached⟩
    · rw [probe] at state
      have enough := (mirrors.halfOpen state).1
      omega
    · rw [ordinary] at state
      have counted := (mirrors.closed state).1
      have advanced := nextFailures_toNat next
      have threshold := UInt32.le_iff_toNat_le.mp reached
      unfold tripCount
      omega
  halfOpen halfOpen := by cases halfOpen
  single := single_of_idle (mirrors.idle_after held)

/-- In a closed breaker the counter stays far from its limit, so a tolerated
failure is always counted. -/
theorem Mirrors.tolerated (mirrors : Mirrors config traffic times) {number : Nat}
    {permit : Permit} {failures : UInt32}
    (held : traffic.permits number = some permit) (ordinary : permit.isProbe = false)
    (counted : nextFailures traffic.inner.consecutiveFailures = some failures ∧
        failures < config.failureThreshold ∨
      nextFailures traffic.inner.consecutiveFailures = none ∧
        failures = traffic.inner.consecutiveFailures) :
    Mirrors config (traffic.tolerate number failures) (traffic.now :: times) := by
  have state := mirrors.state_of_held held
  rw [ordinary] at state
  obtain ⟨same, below, _⟩ := mirrors.closed state
  refine ⟨?_, ?_, ?_, single_of_idle (mirrors.idle_after held)⟩
  · intro _
    rcases counted with ⟨next, less⟩ | ⟨full, _⟩
    · have advanced := nextFailures_toNat next
      have threshold := UInt32.lt_iff_toNat_lt.mp less
      refine ⟨?_, ?_, ?_⟩
      · rw [List.length_cons, ← same]
        exact advanced
      · rw [List.length_cons]
        unfold tripCount
        omega
      · intro other found out
        have contradictory := out.symm.trans (mirrors.idle_after held other)
        cases contradictory
    · have limit := tripCount_lt config
      unfold nextFailures MachineInt.checkedSucc at full
      split at full
      · cases full
      · omega
  · intro opened
    have contradictory := state.symm.trans opened
    cases contradictory
  · intro halfOpen
    have contradictory := state.symm.trans halfOpen
    cases contradictory

theorem Mirrors.transition (mirrors : Mirrors config traffic times)
    (transition : Transition config traffic event later)
    (sequential : event = .tryAcquire → ∀ number, traffic.permits number = none) :
    Mirrors config later ((resolutions (traffic, event)).foldl noteOutcome times) := by
  cases transition with
  | elapsed duration => exact ⟨mirrors.closed, mirrors.opened, mirrors.halfOpen, mirrors.single⟩
  | admitted closed => exact mirrors.admitted (sequential rfl) closed
  | probed opened _ => exact mirrors.probed (sequential rfl) opened
  | refused _ => exact mirrors
  | ignored number outcome absent =>
      simp only [resolutions, absent]
      exact mirrors
  | succeeded number permit held =>
      simp only [resolutions, held]
      exact mirrors.succeeded held
  | tripped number permit failures held failed cause =>
      simp only [resolutions, held, Option.isSome_some, if_true, List.foldl_cons,
        List.foldl_nil, noteOutcome, failed, if_false]
      exact mirrors.tripped held cause
  | tolerated number permit failures held failed ordinary counted =>
      simp only [resolutions, held, Option.isSome_some, if_true, List.foldl_cons,
        List.foldl_nil, noteOutcome, failed, if_false]
      exact mirrors.tolerated held ordinary counted

end Simulation

theorem reached_mirrors (config : CircuitBreakerConfig) (start : Nat) (events : List Event)
    (sequential : Sequential config start events) :
    Mirrors config (Traffic.reached config start events)
      (failureTimes (outcomeHistory config start events)) := by
  refine Machine.history_invariant (Traffic.step config)
    (fun past traffic => Mirrors config traffic (failureTimes (past.flatMap resolutions)))
    events (Traffic.new start) ?_ (mirrors_new config start)
  intro past visit member before
  have after := before.transition (step_transition config visit.1 visit.2)
    (sequential visit member)
  rw [List.flatMap_append, List.flatMap_singleton, failureTimes, List.foldl_append]
  exact after

/-! ## The closed form -/

/-- The breaker as the failures since the last success, latest first, predict it. -/
structure ClosedForm (config : CircuitBreakerConfig) (traffic : Traffic)
    (times : List Nat) : Prop where
  closed_iff : traffic.inner.state = .closed ↔
    times.length < max 1 config.failureThreshold.toNat
  granted_iff : (∀ number, traffic.permits number = none) →
    ((∃ permit, (tryAcquire config traffic.now traffic.inner).1 = .ok permit) ↔
      times.length < max 1 config.failureThreshold.toNat ∨
        ∃ time, times.head? = some time ∧ config.cooldown ≤ traffic.now - time)
  probe_iff : (∀ number, traffic.permits number = none) →
    ∀ permit, (tryAcquire config traffic.now traffic.inner).1 = .ok permit →
      (permit.isProbe = true ↔ max 1 config.failureThreshold.toNat ≤ times.length)

theorem Mirrors.closed_iff {config : CircuitBreakerConfig} {traffic : Traffic}
    {times : List Nat} (mirrors : Mirrors config traffic times) :
    traffic.inner.state = .closed ↔ times.length < tripCount config := by
  constructor
  · intro closed
    exact (mirrors.closed closed).2.1
  · intro below
    cases state : traffic.inner.state with
    | closed => rfl
    | opened =>
        have enough := (mirrors.opened state).1
        omega
    | halfOpen =>
        have enough := (mirrors.halfOpen state).1
        omega

theorem Mirrors.closedForm {config : CircuitBreakerConfig} {traffic : Traffic}
    {times : List Nat} (mirrors : Mirrors config traffic times) (sound : Sound traffic) :
    ClosedForm config traffic times where
  closed_iff := mirrors.closed_iff
  granted_iff := by
    intro idle
    rcases sound.idle_cases idle with closed | opened
    · have below := mirrors.closed_iff.mp closed
      exact iff_of_true ⟨_, tryAcquire_closed config traffic.now closed⟩ (Or.inl below)
    · obtain ⟨enough, stamped, _⟩ := mirrors.opened opened
      have notBelow : ¬ times.length < tripCount config := by omega
      have cooled := cooldownElapsed_iff config traffic.now traffic.inner
      rw [stamped] at cooled
      rw [tryAcquire_opened config traffic.now opened, ← cooled]
      constructor
      · intro granted
        obtain ⟨permit, grants⟩ := granted
        split at grants
        · rename_i elapsed
          exact Or.inr elapsed
        · cases grants
      · intro ready
        rcases ready with below | elapsed
        · exact absurd below notBelow
        · exact ⟨⟨true⟩, if_pos elapsed⟩
  probe_iff := by
    intro idle permit grants
    rcases sound.idle_cases idle with closed | opened
    · rw [tryAcquire_closed config traffic.now closed] at grants
      cases Except.ok.inj grants
      have below := mirrors.closed_iff.mp closed
      exact iff_of_false (by decide) (Nat.not_le.mpr below)
    · rw [tryAcquire_opened config traffic.now opened] at grants
      split at grants
      · cases Except.ok.inj grants
        exact iff_of_true rfl (mirrors.opened opened).1
      · cases grants

/-- Under sequential calls the breaker is closed as long as fewer failures than
the threshold (at least one) have followed the last success, and then a call is
granted only as a probe, one cooldown after the last failure. -/
theorem sequential_closed_form (config : CircuitBreakerConfig) (start : Nat)
    (events : List Event) (sequential : Sequential config start events) :
    ClosedForm config (Traffic.reached config start events)
      (failureTimes (outcomeHistory config start events)) :=
  (reached_mirrors config start events sequential).closedForm
    (reached_sound config start events)

section Sample

def sequentialRun : List Event :=
  [.tryAcquire, .resolve 0 .failure, .tryAcquire, .elapse 5, .resolve 1 .dropped]

end Sample

theorem sequentialRun_closed_form :
    Sequential ⟨2, 10⟩ 0 sequentialRun ∧
      failureTimes (outcomeHistory ⟨2, 10⟩ 0 sequentialRun) = [5, 0] ∧
      ClosedForm ⟨2, 10⟩ (Traffic.reached ⟨2, 10⟩ 0 sequentialRun)
        (failureTimes (outcomeHistory ⟨2, 10⟩ 0 sequentialRun)) := by
  have sequential : Sequential ⟨2, 10⟩ 0 sequentialRun := by
    intro visit member acquires number
    simp only [Traffic.visits, sequentialRun, Machine.visits, List.mem_cons,
      List.not_mem_nil, or_false] at member
    rcases member with rfl | rfl | rfl | rfl | rfl
    · rfl
    · cases acquires
    · cases number with
      | zero => rfl
      | succ _ => rfl
    · cases acquires
    · cases acquires
  exact ⟨sequential, by decide +kernel,
    sequential_closed_form ⟨2, 10⟩ 0 sequentialRun sequential⟩

end AnchorKit.Webhook
