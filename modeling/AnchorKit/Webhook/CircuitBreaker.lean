import AnchorKit.Base.Machine
import AnchorKit.Base.MachineInt
import Mathlib.Logic.Function.Basic

/-!
# The circuit breaker of `circuit_breaker.rs`

`tryAcquire`, `recordSuccess` and `recordFailure` follow the methods of
`CircuitBreaker`; each runs under one lock, so a run of a breaker and its callers
is a sequence of them.  `Traffic` is the breaker together with the clock and the
permits that are out.  A permit is consumed by its outcome, and a dropped permit
reports a failure, so every permit is resolved at most once.

Instants and durations are nanoseconds.  The failure counter is 32 bits wide and
its increment is overflow-checked: the panic leaves the counter as it was.
-/

set_option autoImplicit false

namespace AnchorKit.Webhook

open AnchorKit.Base

inductive CircuitState where
  | closed
  | opened
  | halfOpen
  deriving DecidableEq, Repr

structure CircuitBreakerConfig where
  failureThreshold : UInt32
  cooldown : Nat

def CircuitBreakerConfig.default : CircuitBreakerConfig where
  failureThreshold := 5
  cooldown := 30 * 10 ^ 9

structure Inner where
  state : CircuitState
  consecutiveFailures : UInt32
  openedAt : Option Nat
  deriving DecidableEq, Repr

structure CircuitOpen where
  deriving DecidableEq, Repr

structure Permit where
  isProbe : Bool
  deriving DecidableEq, Repr

def Inner.new : Inner where
  state := .closed
  consecutiveFailures := 0
  openedAt := none

/-- `opened_at.is_some_and(|t| t.elapsed() >= cooldown)`. -/
def cooldownElapsed (config : CircuitBreakerConfig) (now : Nat) (inner : Inner) : Bool :=
  inner.openedAt.any fun openedAt => decide (config.cooldown ≤ now - openedAt)

def tryAcquire (config : CircuitBreakerConfig) (now : Nat) (inner : Inner) :
    Except CircuitOpen Permit × Inner :=
  match inner.state with
  | .closed => (.ok ⟨false⟩, inner)
  | .opened =>
      if cooldownElapsed config now inner then
        (.ok ⟨true⟩, { inner with state := .halfOpen })
      else (.error ⟨⟩, inner)
  | .halfOpen => (.error ⟨⟩, inner)

/-- The source ignores whether the permit was a probe. -/
def recordSuccess (_ : Bool) (_ : Inner) : Inner where
  state := .closed
  consecutiveFailures := 0
  openedAt := none

/-- `consecutive_failures += 1`, none when the overflow check panics. -/
def nextFailures (failures : UInt32) : Option UInt32 :=
  MachineInt.checkedSucc failures

def recordFailure (config : CircuitBreakerConfig) (now : Nat) (isProbe : Bool)
    (inner : Inner) : Inner :=
  if isProbe then { inner with state := .opened, openedAt := some now }
  else
    match nextFailures inner.consecutiveFailures with
    | none => inner
    | some failures =>
        if config.failureThreshold ≤ failures then
          { state := .opened, consecutiveFailures := failures, openedAt := some now }
        else { inner with consecutiveFailures := failures }

theorem nextFailures_toNat {failures next : UInt32}
    (counted : nextFailures failures = some next) :
    next.toNat = failures.toNat + 1 :=
  MachineInt.checkedSucc_toNat counted

inductive Outcome where
  | success
  | failure
  | dropped
  deriving DecidableEq, Repr

/-- `Permit::success`, `Permit::failure` and the drop of an unresolved permit. -/
def report (config : CircuitBreakerConfig) (now : Nat) (permit : Permit) :
    Outcome → Inner → Inner
  | .success, inner => recordSuccess permit.isProbe inner
  | .failure, inner => recordFailure config now permit.isProbe inner
  | .dropped, inner => recordFailure config now permit.isProbe inner

/-- Whether the overflow check of the failure counter panics on the report. -/
def overflows (permit : Permit) (outcome : Outcome) (inner : Inner) : Bool :=
  outcome != .success && !permit.isProbe && (nextFailures inner.consecutiveFailures).isNone

/-! ## The breaker and its callers -/

/-- Whether the outcome makes `record_failure` trip the breaker. -/
def trips (config : CircuitBreakerConfig) (permit : Permit) (outcome : Outcome)
    (inner : Inner) : Bool :=
  outcome != .success &&
    (permit.isProbe || (nextFailures inner.consecutiveFailures).any
      fun failures => decide (config.failureThreshold ≤ failures))

/-- A breaker in use: the clock, the permits that are out under the number they
were granted with, and what has been observed of it: the number of grants, the
last probe and the times at which it tripped. -/
structure Traffic where
  inner : Inner
  now : Nat
  permits : Nat → Option Permit
  granted : Nat
  lastProbe : Option Nat
  tripTimes : List Nat

def Traffic.new (start : Nat) : Traffic where
  inner := Inner.new
  now := start
  permits := fun _ => none
  granted := 0
  lastProbe := none
  tripTimes := []

inductive Event where
  | tryAcquire
  | resolve (number : Nat) (outcome : Outcome)
  | elapse (duration : Nat)
  deriving DecidableEq, Repr

def Traffic.grant (traffic : Traffic) (permit : Permit) (inner : Inner) : Traffic :=
  { traffic with
    inner := inner
    permits := Function.update traffic.permits traffic.granted (some permit)
    granted := traffic.granted + 1
    lastProbe := if permit.isProbe then some traffic.granted else traffic.lastProbe }

def Traffic.release (config : CircuitBreakerConfig) (traffic : Traffic) (number : Nat)
    (permit : Permit) (outcome : Outcome) : Traffic :=
  { traffic with
    inner := report config traffic.now permit outcome traffic.inner
    permits := Function.update traffic.permits number none
    tripTimes := if trips config permit outcome traffic.inner then
      traffic.now :: traffic.tripTimes else traffic.tripTimes }

def Traffic.step (config : CircuitBreakerConfig) (traffic : Traffic) :
    Event → Traffic
  | .tryAcquire =>
      match Webhook.tryAcquire config traffic.now traffic.inner with
      | (.ok permit, inner) => traffic.grant permit inner
      | (.error _, inner) => { traffic with inner := inner }
  | .resolve number outcome =>
      match traffic.permits number with
      | some permit => traffic.release config number permit outcome
      | none => traffic
  | .elapse duration => { traffic with now := traffic.now + duration }

def Traffic.reached (config : CircuitBreakerConfig) (start : Nat)
    (events : List Event) : Traffic :=
  Machine.run (Traffic.step config) (Traffic.new start) events

def Traffic.visits (config : CircuitBreakerConfig) (start : Nat)
    (events : List Event) : List (Traffic × Event) :=
  Machine.visits (Traffic.step config) (Traffic.new start) events

/-! ## What one event does -/

def Traffic.close (traffic : Traffic) (number : Nat) : Traffic :=
  { traffic with
    inner := Inner.new
    permits := Function.update traffic.permits number none }

def Traffic.trip (traffic : Traffic) (number : Nat) (failures : UInt32) : Traffic :=
  { traffic with
    inner := ⟨.opened, failures, some traffic.now⟩
    permits := Function.update traffic.permits number none
    tripTimes := traffic.now :: traffic.tripTimes }

def Traffic.tolerate (traffic : Traffic) (number : Nat) (failures : UInt32) : Traffic :=
  { traffic with
    inner := { traffic.inner with consecutiveFailures := failures }
    permits := Function.update traffic.permits number none }

/-- Everything an event may do.  A failure trips the breaker when it is a probe's
or reaches the threshold, and is tolerated otherwise, also when the counter is
full. -/
inductive Transition (config : CircuitBreakerConfig) (traffic : Traffic) :
    Event → Traffic → Prop
  | elapsed (duration : Nat) :
      Transition config traffic (.elapse duration)
        { traffic with now := traffic.now + duration }
  | admitted (closed : traffic.inner.state = .closed) :
      Transition config traffic .tryAcquire (traffic.grant ⟨false⟩ traffic.inner)
  | probed (opened : traffic.inner.state = .opened)
      (cooled : cooldownElapsed config traffic.now traffic.inner = true) :
      Transition config traffic .tryAcquire
        (traffic.grant ⟨true⟩ { traffic.inner with state := .halfOpen })
  | refused (busy : traffic.inner.state = .opened ∧
        cooldownElapsed config traffic.now traffic.inner = false ∨
      traffic.inner.state = .halfOpen) :
      Transition config traffic .tryAcquire traffic
  | ignored (number : Nat) (outcome : Outcome) (absent : traffic.permits number = none) :
      Transition config traffic (.resolve number outcome) traffic
  | succeeded (number : Nat) (permit : Permit)
      (held : traffic.permits number = some permit) :
      Transition config traffic (.resolve number .success) (traffic.close number)
  | tripped (number : Nat) (permit : Permit) {outcome : Outcome} (failures : UInt32)
      (held : traffic.permits number = some permit) (failed : outcome ≠ .success)
      (cause : permit.isProbe = true ∨ permit.isProbe = false ∧
        nextFailures traffic.inner.consecutiveFailures = some failures ∧
          config.failureThreshold ≤ failures) :
      Transition config traffic (.resolve number outcome) (traffic.trip number failures)
  | tolerated (number : Nat) (permit : Permit) {outcome : Outcome} (failures : UInt32)
      (held : traffic.permits number = some permit) (failed : outcome ≠ .success)
      (ordinary : permit.isProbe = false)
      (counted : nextFailures traffic.inner.consecutiveFailures = some failures ∧
          failures < config.failureThreshold ∨
        nextFailures traffic.inner.consecutiveFailures = none ∧
          failures = traffic.inner.consecutiveFailures) :
      Transition config traffic (.resolve number outcome)
        (traffic.tolerate number failures)

theorem release_transition (config : CircuitBreakerConfig) (traffic : Traffic)
    {number : Nat} {permit : Permit} (held : traffic.permits number = some permit)
    (outcome : Outcome) (failed : outcome ≠ .success) :
    Transition config traffic (.resolve number outcome)
      (traffic.release config number permit outcome) := by
  have reports : report config traffic.now permit outcome traffic.inner =
      recordFailure config traffic.now permit.isProbe traffic.inner := by
    cases outcome with
    | success => exact absurd rfl failed
    | failure => rfl
    | dropped => rfl
  have failing : (outcome != .success) = true := by
    simpa using failed
  unfold Traffic.release
  rw [reports, trips, failing]
  cases probe : permit.isProbe with
  | true =>
      exact .tripped number permit traffic.inner.consecutiveFailures held failed
        (Or.inl probe)
  | false =>
      cases next : nextFailures traffic.inner.consecutiveFailures with
      | none =>
          simp only [recordFailure, next]
          exact .tolerated number permit traffic.inner.consecutiveFailures held failed
            probe (Or.inr ⟨next, rfl⟩)
      | some failures =>
          simp only [recordFailure, next, Bool.false_eq_true, if_false, Option.any_some,
            Bool.false_or, Bool.true_and, decide_eq_true_eq]
          by_cases reached : config.failureThreshold ≤ failures
          · simp only [reached, if_true]
            exact .tripped number permit failures held failed
              (Or.inr ⟨probe, next, reached⟩)
          · simp only [reached, if_false]
            exact .tolerated number permit failures held failed probe
              (Or.inl ⟨next, UInt32.not_le.mp reached⟩)

theorem step_transition (config : CircuitBreakerConfig) (traffic : Traffic)
    (event : Event) :
    Transition config traffic event (traffic.step config event) := by
  cases event with
  | elapse duration => exact .elapsed duration
  | tryAcquire =>
      simp only [Traffic.step, Webhook.tryAcquire]
      cases state : traffic.inner.state with
      | closed => exact .admitted state
      | opened =>
          by_cases cooled : cooldownElapsed config traffic.now traffic.inner = true
          · simp only [cooled, if_true]
            exact .probed state cooled
          · simp only [cooled]
            exact .refused (Or.inl ⟨state, Bool.eq_false_iff.mpr cooled⟩)
      | halfOpen => exact .refused (Or.inr state)
  | resolve number outcome =>
      simp only [Traffic.step]
      cases held : traffic.permits number with
      | none => exact .ignored number outcome held
      | some permit =>
          by_cases succeeds : outcome = .success
          · subst outcome
            exact .succeeded number permit held
          · exact release_transition config traffic held outcome succeeds

theorem trips_of_cause {config : CircuitBreakerConfig} {permit : Permit}
    {outcome : Outcome} {inner : Inner} {failures : UInt32} (failed : outcome ≠ .success)
    (cause : permit.isProbe = true ∨ permit.isProbe = false ∧
      nextFailures inner.consecutiveFailures = some failures ∧
        config.failureThreshold ≤ failures) :
    trips config permit outcome inner = true := by
  rcases cause with probe | ⟨_, next, reached⟩
  · simp [trips, failed, probe]
  · simp [trips, failed, next, reached]

end AnchorKit.Webhook
