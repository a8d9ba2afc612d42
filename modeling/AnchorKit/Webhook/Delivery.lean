import AnchorKit.Webhook.CircuitBreaker

/-!
# Delivery with retries, of `delivery.rs` and `retry.rs`

`deliver` awaits the reply of every request and the backoff after every failed
one, so that other calls run in between.  Its loop is cut there: `beginAttempt`
goes from the head of the loop to the request and `settleAttempt` from the reply to
the backoff or the return.  What `reqwest` makes of a URL and of a request is not
in the crate: the host of a URL is a parameter, and a reply is an input.

The backoff only delays the next attempt, which may come at any time here.
-/

set_option autoImplicit false

namespace AnchorKit.Webhook

open AnchorKit.Base

inductive WebhookError where
  | deliveryFailed (reason : String)
  | maxRetriesExceeded
  | circuitOpen
  | httpError (source : String)
  deriving DecidableEq, Repr

def WebhookError.toString : WebhookError → String
  | .deliveryFailed reason => "Delivery failed: " ++ reason
  | .maxRetriesExceeded => "Max retries exceeded"
  | .circuitOpen =>
      "Circuit breaker open: refusing to call a repeatedly failing destination"
  | .httpError source => "HTTP error: " ++ source

structure WebhookDelivery (Value : Type) where
  url : String
  payload : Value
  statusCode : Option UInt16
  responseBody : Option String
  attempt : UInt32
  error : Option String
  lastAttemptedAt : Option Nat
  delivered : Bool

def WebhookDelivery.new {Value : Type} (url : String) (payload : Value) :
    WebhookDelivery Value where
  url := url
  payload := payload
  statusCode := none
  responseBody := none
  attempt := 0
  error := none
  lastAttemptedAt := none
  delivered := false

structure RetryConfig where
  maxRetries : UInt32

def RetryConfig.shouldRetry (config : RetryConfig) (attempt : UInt32) : Bool :=
  decide (attempt < config.maxRetries)

structure WebhookDeliverer where
  retryConfig : RetryConfig
  circuitBreakers : Option CircuitBreakerConfig

/-- One breaker for each destination host, created on first use. -/
def CircuitBreakerRegistry : Type := String → Option Inner

def CircuitBreakerRegistry.breakerFor (registry : CircuitBreakerRegistry) (key : String) :
    Inner :=
  (registry key).getD Inner.new

def CircuitBreakerRegistry.store (registry : CircuitBreakerRegistry) (key : String)
    (inner : Inner) : CircuitBreakerRegistry :=
  Function.update registry key (some inner)

/-- `Permit::drop`. -/
def dropReports (resolved : Bool) : List Outcome :=
  if resolved then [] else [.dropped]

/-- What a permit reports until it is gone.  `success` and `failure` set the flag before they
report, and the permit is dropped as they return. -/
def Outcome.reports : Outcome → List Outcome
  | .success => .success :: dropReports true
  | .failure => .failure :: dropReports true
  | .dropped => dropReports false

theorem Outcome.reports_eq (outcome : Outcome) : outcome.reports = [outcome] := by
  cases outcome with
  | success => rfl
  | failure => rfl
  | dropped => rfl

inductive Reply where
  | response (status : UInt16) (body : Option String)
  | unreachable (error : String)
  deriving DecidableEq, Repr

def isSuccess (status : UInt16) : Bool :=
  decide (200 ≤ status ∧ status < 300)

def send : Reply → Except WebhookError (UInt16 × Option String)
  | .response status body =>
      if isSuccess status then .ok (status, body)
      else .error (.deliveryFailed
        ("HTTP " ++ ToString.toString status ++ ": " ++ body.getD ""))
  | .unreachable error => .error (.httpError error)

/-- Where a run of `deliver` stands: at the head of the loop, waiting for a reply
under a permit, or returned.  The attempt counter and the failure counter of the
breaker are overflow-checked, and a panic ends the run as well. -/
inductive Progress where
  | attempting
  | sending (permit : Option Permit)
  | delivered
  | failed (error : WebhookError)
  | panicked
  deriving DecidableEq, Repr

structure Delivering (Value : Type) where
  delivery : WebhookDelivery Value
  progress : Progress

section Deliver

variable {Value : Type} (circuitKey : String → Option String)
  (deliverer : WebhookDeliverer) (now : Nat)

/-- The breaker of a destination, if breakers are attached and the URL has a host. -/
def WebhookDeliverer.breaker (url : String) : Option (CircuitBreakerConfig × String) :=
  match deliverer.circuitBreakers, circuitKey url with
  | some config, some key => some (config, key)
  | _, _ => none

def acquire (url : String) (registry : CircuitBreakerRegistry) :
    Except CircuitOpen (Option Permit) × CircuitBreakerRegistry :=
  match deliverer.breaker circuitKey url with
  | none => (.ok none, registry)
  | some (config, key) =>
      match tryAcquire config now (registry.breakerFor key) with
      | (.ok permit, inner) => (.ok (some permit), registry.store key inner)
      | (.error refusal, inner) => (.error refusal, registry.store key inner)

def resolve (url : String) (permit : Option Permit) (outcome : Outcome)
    (registry : CircuitBreakerRegistry) : CircuitBreakerRegistry :=
  match permit, deliverer.breaker circuitKey url with
  | some permit, some (config, key) =>
      outcome.reports.foldl (fun registry reported =>
        registry.store key (report config now permit reported (registry.breakerFor key)))
        registry
  | _, _ => registry

def resolvePanics (url : String) (permit : Option Permit) (outcome : Outcome)
    (registry : CircuitBreakerRegistry) : Bool :=
  match permit, deliverer.breaker circuitKey url with
  | some permit, some (_, key) => overflows permit outcome (registry.breakerFor key)
  | _, _ => false

def beginAttempt (delivery : WebhookDelivery Value) (registry : CircuitBreakerRegistry) :
    Delivering Value × CircuitBreakerRegistry :=
  match MachineInt.checkedSucc delivery.attempt with
  | none => (⟨delivery, .panicked⟩, registry)
  | some attempt =>
      let attempted :=
        { delivery with attempt := attempt, lastAttemptedAt := some now }
      match acquire circuitKey deliverer now delivery.url registry with
      | (.ok permit, registry) => (⟨attempted, .sending permit⟩, registry)
      | (.error _, registry) =>
          (⟨{ attempted with error := some WebhookError.circuitOpen.toString },
            .failed .circuitOpen⟩, registry)

def settleAttempt (delivery : WebhookDelivery Value) (permit : Option Permit)
    (reply : Reply) (registry : CircuitBreakerRegistry) :
    Delivering Value × CircuitBreakerRegistry :=
  match send reply with
  | .ok (status, body) =>
      (⟨{ delivery with statusCode := some status, responseBody := body, delivered := true },
        .delivered⟩,
        resolve circuitKey deliverer now delivery.url permit .success registry)
  | .error error =>
      (⟨{ delivery with error := some error.toString },
        if resolvePanics circuitKey deliverer delivery.url permit .failure registry then
          .panicked
        else if deliverer.retryConfig.shouldRetry delivery.attempt then .attempting
        else .failed .maxRetriesExceeded⟩,
        resolve circuitKey deliverer now delivery.url permit .failure registry)

/-! ## What the pieces can lead to -/

theorem beginAttempt_payload (delivery : WebhookDelivery Value)
    (registry : CircuitBreakerRegistry) :
    (beginAttempt circuitKey deliverer now delivery registry).1.delivery.payload =
      delivery.payload := by
  unfold beginAttempt
  split
  · rfl
  · dsimp only
    split
    · rfl
    · rfl

theorem beginAttempt_not_delivered (delivery : WebhookDelivery Value)
    (registry : CircuitBreakerRegistry) :
    (beginAttempt circuitKey deliverer now delivery registry).1.progress ≠ .delivered := by
  unfold beginAttempt
  split
  · exact nofun
  · dsimp only
    split
    · exact nofun
    · exact nofun

theorem settleAttempt_payload (delivery : WebhookDelivery Value)
    (permit : Option Permit) (reply : Reply) (registry : CircuitBreakerRegistry) :
    (settleAttempt circuitKey deliverer now delivery permit reply registry).1.delivery.payload =
      delivery.payload := by
  unfold settleAttempt
  split
  · rfl
  · rfl

theorem settleAttempt_keeps (delivery : WebhookDelivery Value)
    (permit : Option Permit) (reply : Reply) (registry : CircuitBreakerRegistry) :
    let settled := (settleAttempt circuitKey deliverer now delivery permit reply registry).1
    settled.delivery.url = delivery.url ∧ settled.delivery.attempt = delivery.attempt := by
  unfold settleAttempt
  split
  · exact ⟨rfl, rfl⟩
  · exact ⟨rfl, rfl⟩

/-- Whether the request was answered with a 2xx status. -/
def Reply.succeeds : Reply → Bool
  | .response status _ => isSuccess status
  | .unreachable _ => false

theorem settleAttempt_of_failure (delivery : WebhookDelivery Value)
    (permit : Option Permit) {reply : Reply} (registry : CircuitBreakerRegistry)
    (failure : reply.succeeds = false) :
    (settleAttempt circuitKey deliverer now delivery permit reply registry).1.progress =
      if resolvePanics circuitKey deliverer delivery.url permit .failure registry then
        .panicked
      else if deliverer.retryConfig.shouldRetry delivery.attempt then .attempting
      else .failed .maxRetriesExceeded := by
  cases reply with
  | unreachable error => rfl
  | response status body =>
      simp only [Reply.succeeds] at failure
      simp only [settleAttempt, send, failure, Bool.false_eq_true, if_false]

theorem settleAttempt_of_success (delivery : WebhookDelivery Value)
    (permit : Option Permit) {reply : Reply} (registry : CircuitBreakerRegistry)
    (success : reply.succeeds = true) :
    (settleAttempt circuitKey deliverer now delivery permit reply registry).1.progress =
      .delivered := by
  cases reply with
  | unreachable error => cases success
  | response status body =>
      simp only [Reply.succeeds] at success
      simp only [settleAttempt, send, success, if_true]

theorem settleAttempt_delivered_iff (delivery : WebhookDelivery Value)
    (permit : Option Permit) (reply : Reply) (registry : CircuitBreakerRegistry) :
    (settleAttempt circuitKey deliverer now delivery permit reply registry).1.progress =
      .delivered ↔ reply.succeeds = true := by
  cases answered : reply.succeeds with
  | true =>
      simp [settleAttempt_of_success circuitKey deliverer now delivery permit registry answered]
  | false =>
      rw [settleAttempt_of_failure circuitKey deliverer now delivery permit registry answered]
      simp only [Bool.false_eq_true, iff_false]
      split
      · exact nofun
      · split
        · exact nofun
        · exact nofun

end Deliver

end AnchorKit.Webhook
