import AnchorKit.Webhook.Delivery

/-!
# Whole runs of `deliver`

A turn is what the surroundings contribute to one pass of the loop: the times, the
reply, and what other deliveries do to the breakers while this one waits.  The caller
may also drop the call while it waits for the reply, and the permit with it.

A run keeps of every pass how it found the breakers and how it left them.  What the
breaker of the destination granted, refused and was told is read off these changes, by
what one `try_acquire` and one report do to a breaker.
-/

set_option autoImplicit false

namespace AnchorKit.Webhook

open AnchorKit.Base

structure Turn where
  begins : Nat
  duringRequest : CircuitBreakerRegistry → CircuitBreakerRegistry
  /-- `none` if the call is dropped before there is a reply. -/
  reply : Option Reply
  answered : Nat
  duringBackoff : CircuitBreakerRegistry → CircuitBreakerRegistry

/-- A request, and the breakers before and after its reply was dealt with. -/
structure Exchange where
  reply : Option Reply
  answered : Nat
  before : CircuitBreakerRegistry
  after : CircuitBreakerRegistry

/-- A pass of the loop, with the breakers at its head and when it had asked for a permit. -/
structure Pass where
  begins : Nat
  found : CircuitBreakerRegistry
  acquired : CircuitBreakerRegistry
  request : Option Exchange

def Pass.left (pass : Pass) : CircuitBreakerRegistry :=
  match pass.request with
  | some exchange => exchange.after
  | none => pass.acquired

inductive Ending (Value : Type) where
  | returned (result : Except WebhookError (WebhookDelivery Value))
  | panicked
  | abandoned

inductive Next (Value : Type) where
  | again (delivery : WebhookDelivery Value)
  | ended (ending : Ending Value)

structure Iteration (Value : Type) where
  next : Next Value
  registry : CircuitBreakerRegistry
  pass : Pass

structure Run (Value : Type) where
  ending : Ending Value
  registry : CircuitBreakerRegistry
  log : List Pass

variable {Value : Type}

/-- A delivery that still waits has been abandoned by its caller. -/
def Delivering.next : Delivering Value → Next Value
  | ⟨delivery, .attempting⟩ => .again delivery
  | ⟨_, .sending _⟩ => .ended .abandoned
  | ⟨delivery, .delivered⟩ => .ended (.returned (.ok delivery))
  | ⟨_, .failed error⟩ => .ended (.returned (.error error))
  | ⟨_, .panicked⟩ => .ended .panicked

def outcomeOf : Option Reply → Outcome
  | some reply => if reply.succeeds then .success else .failure
  | none => .dropped

/-! ## The loop -/

section Loop

variable (circuitKey : String → Option String) (deliverer : WebhookDeliverer)

def afterRequest (turn : Turn) (delivery : WebhookDelivery Value) (permit : Option Permit)
    (registry : CircuitBreakerRegistry) : Next Value × CircuitBreakerRegistry :=
  match turn.reply with
  | some reply =>
      let (settled, registry) :=
        settleAttempt circuitKey deliverer turn.answered delivery permit reply registry
      (settled.next, registry)
  | none =>
      (.ended (if resolvePanics circuitKey deliverer delivery.url permit .dropped registry then
        .panicked else .abandoned),
        resolve circuitKey deliverer turn.answered delivery.url permit .dropped registry)

def iteration (turn : Turn) (delivery : WebhookDelivery Value)
    (registry : CircuitBreakerRegistry) : Iteration Value :=
  let (begun, acquired) := beginAttempt circuitKey deliverer turn.begins delivery registry
  match begun with
  | ⟨attempted, .sending permit⟩ =>
      let before := turn.duringRequest acquired
      let (next, after) := afterRequest circuitKey deliverer turn attempted permit before
      { next := next
        registry := after
        pass := ⟨turn.begins, registry, acquired, some ⟨turn.reply, turn.answered, before, after⟩⟩ }
  | ⟨attempted, progress⟩ =>
      { next := Delivering.next ⟨attempted, progress⟩
        registry := acquired
        pass := ⟨turn.begins, registry, acquired, none⟩ }

end Loop

/-! ## What a breaker is asked and told -/

section Breaker

variable (breaker : Option (CircuitBreakerConfig × String)) (now : Nat)
  (registry : CircuitBreakerRegistry)

/-- The answer of the destination's breaker to one `try_acquire`; without a breaker there is
no permit to ask for. -/
def answerOf : Except CircuitOpen (Option Permit) :=
  match breaker with
  | none => .ok none
  | some (config, key) => (tryAcquire config now (registry.breakerFor key)).1.map some

/-- The breakers after one `try_acquire`. -/
def askedOnce : CircuitBreakerRegistry :=
  match breaker with
  | none => registry
  | some (config, key) =>
      registry.store key (tryAcquire config now (registry.breakerFor key)).2

/-- The breakers after one report. -/
def toldOnce (permit : Option Permit) (outcome : Outcome) : CircuitBreakerRegistry :=
  match breaker, permit with
  | some (config, key), some permit =>
      registry.store key (report config now permit outcome (registry.breakerFor key))
  | _, _ => registry

def findsFull (permit : Option Permit) (outcome : Outcome) : Bool :=
  match breaker, permit with
  | some (_, key), some permit => overflows permit outcome (registry.breakerFor key)
  | _, _ => false

end Breaker

section Reading

variable (breaker : Option (CircuitBreakerConfig × String)) (pass : Pass)

def Pass.answer : Except CircuitOpen (Option Permit) :=
  answerOf breaker pass.begins pass.found

def Pass.isRefused : Bool :=
  match pass.answer breaker with
  | .error _ => true
  | .ok _ => false

def Pass.succeeds : Bool :=
  pass.request.any fun exchange => exchange.reply.any Reply.succeeds

/-- The reply to the request was not waited for. -/
def Pass.isDropped : Bool :=
  pass.request.any fun exchange => exchange.reply.isNone

def Pass.overflows : Bool :=
  match pass.answer breaker, pass.request with
  | .ok permit, some exchange =>
      findsFull breaker exchange.before permit (outcomeOf exchange.reply)
  | _, _ => false

/-- The pass asks the breaker once.  Under the permit it is granted it makes one request and
reports its outcome once; refused, it makes none.  Nothing else changes the breakers. -/
structure Pass.Settled : Prop where
  asked : pass.acquired = askedOnce breaker pass.begins pass.found
  granted : ∀ permit, pass.answer breaker = .ok permit → ∃ exchange,
    pass.request = some exchange ∧
      exchange.after = toldOnce breaker exchange.answered exchange.before permit
        (outcomeOf exchange.reply)
  refused : pass.isRefused breaker = true → pass.request = none

structure Pass.Meets (turn : Turn) (pass : Pass) : Prop where
  begins : pass.begins = turn.begins
  request : ∀ exchange, pass.request = some exchange →
    exchange.reply = turn.reply ∧ exchange.answered = turn.answered ∧
      exchange.before = turn.duringRequest pass.acquired

end Reading

/-! ## One pass -/

section OnePass

variable (circuitKey : String → Option String) (deliverer : WebhookDeliverer)

theorem acquire_eq (now : Nat) (url : String) (registry : CircuitBreakerRegistry) :
    acquire circuitKey deliverer now url registry =
      (answerOf (deliverer.breaker circuitKey url) now registry,
        askedOnce (deliverer.breaker circuitKey url) now registry) := by
  unfold acquire answerOf askedOnce
  cases deliverer.breaker circuitKey url with
  | none => rfl
  | some breaker =>
      obtain ⟨config, key⟩ := breaker
      dsimp only
      generalize tryAcquire config now (registry.breakerFor key) = asked
      obtain ⟨answer, inner⟩ := asked
      cases answer with
      | ok permit => rfl
      | error refusal => rfl

/-- Whatever becomes of a permit is told to the breaker once. -/
theorem resolve_eq (now : Nat) (url : String) (permit : Option Permit) (outcome : Outcome)
    (registry : CircuitBreakerRegistry) :
    resolve circuitKey deliverer now url permit outcome registry =
      toldOnce (deliverer.breaker circuitKey url) now registry permit outcome := by
  unfold resolve toldOnce
  rw [outcome.reports_eq]
  cases deliverer.breaker circuitKey url with
  | none => cases permit <;> rfl
  | some breaker => cases permit <;> rfl

theorem resolvePanics_eq (url : String) (permit : Option Permit) (outcome : Outcome)
    (registry : CircuitBreakerRegistry) :
    resolvePanics circuitKey deliverer url permit outcome registry =
      findsFull (deliverer.breaker circuitKey url) registry permit outcome := by
  unfold resolvePanics findsFull
  cases deliverer.breaker circuitKey url with
  | none => cases permit <;> rfl
  | some breaker => cases permit <;> rfl

end OnePass

section Shapes

variable (breaker : Option (CircuitBreakerConfig × String)) (turn : Turn)
  (registry : CircuitBreakerRegistry) (permit : Option Permit)

def refusedPass : Pass where
  begins := turn.begins
  found := registry
  acquired := askedOnce breaker turn.begins registry
  request := none

def beforeReply : CircuitBreakerRegistry :=
  turn.duringRequest (askedOnce breaker turn.begins registry)

def sentPass : Pass where
  begins := turn.begins
  found := registry
  acquired := askedOnce breaker turn.begins registry
  request := some
    { reply := turn.reply
      answered := turn.answered
      before := beforeReply breaker turn registry
      after := toldOnce breaker turn.answered (beforeReply breaker turn registry) permit
        (outcomeOf turn.reply) }

def counterFull : Bool :=
  findsFull breaker (beforeReply breaker turn registry) permit (outcomeOf turn.reply)

theorem refusedPass_meets : (refusedPass breaker turn registry).Meets turn :=
  ⟨rfl, nofun⟩

theorem sentPass_meets : (sentPass breaker turn registry permit).Meets turn := by
  refine ⟨rfl, ?_⟩
  intro exchange made
  cases made
  exact ⟨rfl, rfl, rfl⟩

variable {breaker turn registry permit}

theorem refusedPass_settled {refusal : CircuitOpen}
    (shut : answerOf breaker turn.begins registry = .error refusal) :
    (refusedPass breaker turn registry).Settled breaker where
  asked := rfl
  granted := by
    intro permit granted
    rw [Pass.answer, refusedPass, shut] at granted
    cases granted
  refused := fun _ => rfl

theorem sentPass_settled (granted : answerOf breaker turn.begins registry = .ok permit) :
    (sentPass breaker turn registry permit).Settled breaker where
  asked := rfl
  granted := by
    intro other answered
    rw [Pass.answer, sentPass, granted] at answered
    cases answered
    exact ⟨_, rfl, rfl⟩
  refused := by
    intro refused
    rw [Pass.isRefused, Pass.answer, sentPass, granted] at refused
    cases refused

theorem refusedPass_isRefused {refusal : CircuitOpen}
    (shut : answerOf breaker turn.begins registry = .error refusal) :
    (refusedPass breaker turn registry).isRefused breaker = true := by
  rw [Pass.isRefused, Pass.answer, refusedPass, shut]

theorem refusedPass_overflows {refusal : CircuitOpen}
    (shut : answerOf breaker turn.begins registry = .error refusal) :
    (refusedPass breaker turn registry).overflows breaker = false := by
  rw [Pass.overflows, Pass.answer, refusedPass, shut]

theorem sentPass_isRefused (granted : answerOf breaker turn.begins registry = .ok permit) :
    (sentPass breaker turn registry permit).isRefused breaker = false := by
  rw [Pass.isRefused, Pass.answer, sentPass, granted]

theorem sentPass_overflows (granted : answerOf breaker turn.begins registry = .ok permit) :
    (sentPass breaker turn registry permit).overflows breaker =
      counterFull breaker turn registry permit := by
  rw [Pass.overflows, Pass.answer, sentPass, granted]
  rfl

theorem sentPass_succeeds :
    (sentPass breaker turn registry permit).succeeds = turn.reply.any Reply.succeeds :=
  rfl

theorem sentPass_isDropped :
    (sentPass breaker turn registry permit).isDropped = turn.reply.isNone :=
  rfl

theorem counterFull_of_success (success : turn.reply.any Reply.succeeds = true) :
    counterFull breaker turn registry permit = false := by
  unfold counterFull
  cases answered : turn.reply with
  | none =>
      rw [answered] at success
      cases success
  | some reply =>
      rw [answered, Option.any_some] at success
      rw [outcomeOf, success, if_pos rfl]
      unfold findsFull
      split
      · rfl
      · rfl

end Shapes

inductive Follows (deliverer : WebhookDeliverer) (url : String) (attempt : Nat)
    (reply : Option Reply) (full : Bool) : Next Value → Prop
  | delivered (final : WebhookDelivery Value) (success : reply.any Reply.succeeds = true)
      (counted : final.attempt.toNat = attempt) :
      Follows deliverer url attempt reply full (.ended (.returned (.ok final)))
  | overflowed (failure : reply.any Reply.succeeds = false) (overflow : full = true) :
      Follows deliverer url attempt reply full (.ended .panicked)
  | abandoned (dropped : reply = none) (counts : full = false) :
      Follows deliverer url attempt reply full (.ended .abandoned)
  | exhausted (answered : reply.isNone = false) (failure : reply.any Reply.succeeds = false)
      (counts : full = false) (last : deliverer.retryConfig.maxRetries.toNat ≤ attempt) :
      Follows deliverer url attempt reply full
        (.ended (.returned (.error .maxRetriesExceeded)))
  | retried (next : WebhookDelivery Value) (answered : reply.isNone = false)
      (failure : reply.any Reply.succeeds = false) (counts : full = false)
      (more : attempt < deliverer.retryConfig.maxRetries.toNat)
      (counted : next.attempt.toNat = attempt) (same : next.url = url) :
      Follows deliverer url attempt reply full (.again next)

section Settling

variable (circuitKey : String → Option String) (deliverer : WebhookDeliverer)

theorem settleAttempt_follows_of_success (now : Nat) (delivery : WebhookDelivery Value)
    (permit : Option Permit) {reply : Reply} (registry : CircuitBreakerRegistry) (full : Bool)
    (success : reply.succeeds = true) :
    Follows deliverer delivery.url delivery.attempt.toNat (some reply) full
      (settleAttempt circuitKey deliverer now delivery permit reply registry).1.next := by
  have kept := settleAttempt_keeps circuitKey deliverer now delivery permit reply registry
  have progress := settleAttempt_of_success circuitKey deliverer now delivery permit registry
    success
  generalize (settleAttempt circuitKey deliverer now delivery permit reply registry).1 =
    settled at kept progress
  obtain ⟨final, reached⟩ := settled
  cases progress
  exact .delivered final success (congrArg UInt32.toNat kept.2)

theorem settleAttempt_follows_of_failure (now : Nat) (delivery : WebhookDelivery Value)
    (permit : Option Permit) {reply : Reply} (registry : CircuitBreakerRegistry)
    (failure : reply.succeeds = false) :
    Follows deliverer delivery.url delivery.attempt.toNat (some reply)
      (findsFull (deliverer.breaker circuitKey delivery.url) registry permit .failure)
      (settleAttempt circuitKey deliverer now delivery permit reply registry).1.next := by
  have kept := settleAttempt_keeps circuitKey deliverer now delivery permit reply registry
  have progress := settleAttempt_of_failure circuitKey deliverer now delivery permit registry
    failure
  rw [resolvePanics_eq] at progress
  generalize (settleAttempt circuitKey deliverer now delivery permit reply registry).1 =
    settled at kept progress
  obtain ⟨final, reached⟩ := settled
  change reached = _ at progress
  subst reached
  cases full : findsFull (deliverer.breaker circuitKey delivery.url) registry permit .failure with
  | true => exact .overflowed failure rfl
  | false =>
      cases more : deliverer.retryConfig.shouldRetry delivery.attempt with
      | true =>
          exact .retried final rfl failure rfl
            (UInt32.lt_iff_toNat_lt.mp (of_decide_eq_true more))
            (congrArg UInt32.toNat kept.2) kept.1
      | false =>
          exact .exhausted rfl failure rfl (Nat.le_of_not_lt fun fewer =>
            of_decide_eq_false more (UInt32.lt_iff_toNat_lt.mpr fewer))

theorem settleAttempt_registry {now : Nat} {registry : CircuitBreakerRegistry}
    (delivery : WebhookDelivery Value) (permit : Option Permit) (reply : Reply) :
    (settleAttempt circuitKey deliverer now delivery permit reply registry).2 =
      resolve circuitKey deliverer now delivery.url permit (outcomeOf (some reply))
        registry := by
  cases reply with
  | unreachable error => rfl
  | response status body =>
      cases answered : isSuccess status with
      | true => simp [settleAttempt, send, outcomeOf, Reply.succeeds, answered]
      | false => simp [settleAttempt, send, outcomeOf, Reply.succeeds, answered]

theorem afterRequest_registry (turn : Turn) (delivery : WebhookDelivery Value)
    (permit : Option Permit) (registry : CircuitBreakerRegistry) :
    (afterRequest circuitKey deliverer turn delivery permit registry).2 =
      toldOnce (deliverer.breaker circuitKey delivery.url) turn.answered registry permit
        (outcomeOf turn.reply) := by
  rw [← resolve_eq]
  unfold afterRequest
  cases turn.reply with
  | none => rfl
  | some reply => exact settleAttempt_registry circuitKey deliverer delivery permit reply

theorem afterRequest_follows (turn : Turn) (delivery : WebhookDelivery Value)
    (permit : Option Permit) (registry : CircuitBreakerRegistry) :
    Follows deliverer delivery.url delivery.attempt.toNat turn.reply
      (findsFull (deliverer.breaker circuitKey delivery.url) registry permit
        (outcomeOf turn.reply))
      (afterRequest circuitKey deliverer turn delivery permit registry).1 := by
  unfold afterRequest
  cases turn.reply with
  | none =>
      have panics := resolvePanics_eq circuitKey deliverer delivery.url permit .dropped registry
      dsimp only [outcomeOf]
      rw [← panics]
      cases resolvePanics circuitKey deliverer delivery.url permit .dropped registry with
      | true => exact .overflowed rfl rfl
      | false => exact .abandoned rfl rfl
  | some reply =>
      cases answered : reply.succeeds with
      | true =>
          exact settleAttempt_follows_of_success circuitKey deliverer _ delivery permit registry _
            answered
      | false =>
          rw [outcomeOf, answered, if_neg Bool.false_ne_true]
          exact settleAttempt_follows_of_failure circuitKey deliverer _ delivery permit registry
            answered

inductive Begins (breaker : Option (CircuitBreakerConfig × String)) (now : Nat)
    (delivery : WebhookDelivery Value) (registry : CircuitBreakerRegistry) :
    Delivering Value × CircuitBreakerRegistry → Prop
  | refused (attempted : WebhookDelivery Value) (refusal : CircuitOpen)
      (shut : answerOf breaker now registry = .error refusal) :
      Begins breaker now delivery registry
        (⟨attempted, .failed .circuitOpen⟩, askedOnce breaker now registry)
  | sending (attempted : WebhookDelivery Value) (permit : Option Permit)
      (granted : answerOf breaker now registry = .ok permit)
      (same : attempted.url = delivery.url)
      (counted : attempted.attempt.toNat = delivery.attempt.toNat + 1) :
      Begins breaker now delivery registry
        (⟨attempted, .sending permit⟩, askedOnce breaker now registry)

theorem beginAttempt_begins (now : Nat) (delivery : WebhookDelivery Value)
    (registry : CircuitBreakerRegistry) (room : delivery.attempt.toNat + 1 < 2 ^ 32) :
    Begins (deliverer.breaker circuitKey delivery.url) now delivery registry
      (beginAttempt circuitKey deliverer now delivery registry) := by
  have counts : MachineInt.checkedSucc delivery.attempt = some (delivery.attempt + 1) :=
    if_pos room
  unfold beginAttempt
  rw [counts, acquire_eq]
  dsimp only
  cases answered : answerOf (deliverer.breaker circuitKey delivery.url) now registry with
  | ok permit => exact .sending _ permit answered rfl (MachineInt.checkedSucc_toNat counts)
  | error refusal => exact .refused _ refusal answered

end Settling

inductive Iterates (breaker : Option (CircuitBreakerConfig × String))
    (deliverer : WebhookDeliverer) (turn : Turn) (delivery : WebhookDelivery Value)
    (registry : CircuitBreakerRegistry) : Iteration Value → Prop
  | refused (refusal : CircuitOpen)
      (shut : answerOf breaker turn.begins registry = .error refusal) :
      Iterates breaker deliverer turn delivery registry
        ⟨.ended (.returned (.error .circuitOpen)), (refusedPass breaker turn registry).left,
          refusedPass breaker turn registry⟩
  | sent (permit : Option Permit) (next : Next Value)
      (granted : answerOf breaker turn.begins registry = .ok permit)
      (follows : Follows deliverer delivery.url (delivery.attempt.toNat + 1) turn.reply
        (counterFull breaker turn registry permit) next) :
      Iterates breaker deliverer turn delivery registry
        ⟨next, (sentPass breaker turn registry permit).left,
          sentPass breaker turn registry permit⟩

theorem iteration_iterates (circuitKey : String → Option String)
    (deliverer : WebhookDeliverer) (turn : Turn) (delivery : WebhookDelivery Value)
    (registry : CircuitBreakerRegistry) (room : delivery.attempt.toNat + 1 < 2 ^ 32) :
    Iterates (deliverer.breaker circuitKey delivery.url) deliverer turn delivery registry
      (iteration circuitKey deliverer turn delivery registry) := by
  have begins := beginAttempt_begins circuitKey deliverer turn.begins delivery registry room
  unfold iteration
  generalize beginAttempt circuitKey deliverer turn.begins delivery registry = begun at begins
  cases begins with
  | refused attempted refusal shut => exact .refused refusal shut
  | sending attempted permit granted same counted =>
      have after := afterRequest_registry circuitKey deliverer turn attempted permit
        (beforeReply (deliverer.breaker circuitKey delivery.url) turn registry)
      have follows := afterRequest_follows circuitKey deliverer turn attempted permit
        (beforeReply (deliverer.breaker circuitKey delivery.url) turn registry)
      rw [same] at after
      rw [same, counted] at follows
      have shape := Iterates.sent permit _ granted follows
      rw [sentPass, ← after] at shape
      exact shape

theorem iteration_again {circuitKey : String → Option String} {deliverer : WebhookDeliverer}
    {registry : CircuitBreakerRegistry} {turn : Turn} {delivery next : WebhookDelivery Value}
    (again : (iteration circuitKey deliverer turn delivery registry).next = .again next) :
    delivery.attempt.toNat < next.attempt.toNat ∧
      next.attempt.toNat < deliverer.retryConfig.maxRetries.toNat := by
  by_cases room : delivery.attempt.toNat + 1 < 2 ^ 32
  · have iterates := iteration_iterates circuitKey deliverer turn delivery registry room
    generalize iteration circuitKey deliverer turn delivery registry = passed at again iterates
    cases iterates with
    | refused refusal shut => cases again
    | sent permit following granted follows =>
        cases again
        cases follows with
        | retried next answered failure counts more counted same =>
            rw [counted]
            exact ⟨Nat.lt_succ_self _, more⟩
  · have full : MachineInt.checkedSucc delivery.attempt = none := if_neg room
    simp [iteration, beginAttempt, full, Delivering.next] at again

/-- The whole loop.  Every pass that goes on has counted an attempt below the limit. -/
def deliver (circuitKey : String → Option String) (deliverer : WebhookDeliverer)
    (turns : Nat → Turn) (delivery : WebhookDelivery Value)
    (registry : CircuitBreakerRegistry) : Run Value :=
  match passed : iteration circuitKey deliverer (turns 0) delivery registry with
  | ⟨.again next, registry, pass⟩ =>
      let rest := deliver circuitKey deliverer (fun number => turns (number + 1)) next
        ((turns 0).duringBackoff registry)
      { rest with log := pass :: rest.log }
  | ⟨.ended ending, registry, pass⟩ => ⟨ending, registry, [pass]⟩
termination_by deliverer.retryConfig.maxRetries.toNat - delivery.attempt.toNat
decreasing_by
  have bounds := iteration_again (congrArg Iteration.next passed)
  omega

/-! ## Whole runs -/

inductive Runs (breaker : Option (CircuitBreakerConfig × String))
    (deliverer : WebhookDeliverer) (url : String) :
    Nat → (Nat → Turn) → CircuitBreakerRegistry → Run Value → Prop
  | refused (attempts : Nat) (turns : Nat → Turn) (registry : CircuitBreakerRegistry)
      (refusal : CircuitOpen)
      (shut : answerOf breaker (turns 0).begins registry = .error refusal) :
      Runs breaker deliverer url attempts turns registry
        ⟨.returned (.error .circuitOpen), (refusedPass breaker (turns 0) registry).left,
          [refusedPass breaker (turns 0) registry]⟩
  | ended (attempts : Nat) (turns : Nat → Turn) (registry : CircuitBreakerRegistry)
      (permit : Option Permit) (ending : Ending Value)
      (granted : answerOf breaker (turns 0).begins registry = .ok permit)
      (follows : Follows deliverer url (attempts + 1) (turns 0).reply
        (counterFull breaker (turns 0) registry permit) (.ended ending)) :
      Runs breaker deliverer url attempts turns registry
        ⟨ending, (sentPass breaker (turns 0) registry permit).left,
          [sentPass breaker (turns 0) registry permit]⟩
  | retried (attempts : Nat) (turns : Nat → Turn) (registry : CircuitBreakerRegistry)
      (permit : Option Permit) (rest : Run Value)
      (granted : answerOf breaker (turns 0).begins registry = .ok permit)
      (answered : (turns 0).reply.isNone = false)
      (failure : (turns 0).reply.any Reply.succeeds = false)
      (counts : counterFull breaker (turns 0) registry permit = false)
      (more : attempts + 1 < deliverer.retryConfig.maxRetries.toNat)
      (later : Runs breaker deliverer url (attempts + 1) (fun number => turns (number + 1))
        ((turns 0).duringBackoff (sentPass breaker (turns 0) registry permit).left) rest) :
      Runs breaker deliverer url attempts turns registry
        { rest with log := sentPass breaker (turns 0) registry permit :: rest.log }

theorem deliver_runs (circuitKey : String → Option String) (deliverer : WebhookDeliverer)
    (turns : Nat → Turn) (delivery : WebhookDelivery Value)
    (registry : CircuitBreakerRegistry) (room : delivery.attempt.toNat + 1 < 2 ^ 32) :
    Runs (deliverer.breaker circuitKey delivery.url) deliverer delivery.url
      delivery.attempt.toNat turns registry
      (deliver circuitKey deliverer turns delivery registry) := by
  fun_induction deliver circuitKey deliverer turns delivery registry with
  | case1 turns delivery registry next after pass passed rest ih =>
      have iterates := iteration_iterates circuitKey deliverer (turns 0) delivery registry room
      have bounds := iteration_again (congrArg Iteration.next passed)
      have small := deliverer.retryConfig.maxRetries.toNat_lt
      have later := ih (by omega)
      rw [passed] at iterates
      cases iterates with
      | sent permit following granted follows =>
          cases follows with
          | retried next answered failure counts more counted same =>
              rw [counted, same] at later
              exact .retried _ turns registry permit rest granted answered failure counts more
                later
  | case2 turns delivery registry ending after pass passed =>
      have iterates := iteration_iterates circuitKey deliverer (turns 0) delivery registry room
      rw [passed] at iterates
      cases iterates with
      | refused refusal shut => exact .refused _ turns registry refusal shut
      | sent permit following granted follows =>
          exact .ended _ turns registry permit ending granted follows

/-! ## Reading the log -/

def replies (log : List Pass) : List (Option Reply) :=
  log.filterMap fun pass => pass.request.map Exchange.reply

/-- The passes take the breakers over from each other: in between only the surroundings
change them, and what the last one leaves is what the run leaves. -/
inductive Linked : (Nat → Turn) → CircuitBreakerRegistry → List Pass →
    CircuitBreakerRegistry → Prop
  | last (turns : Nat → Turn) (pass : Pass) (meets : pass.Meets (turns 0)) :
      Linked turns pass.found [pass] pass.left
  | next (turns : Nat → Turn) (pass : Pass) (rest : List Pass)
      (final : CircuitBreakerRegistry) (meets : pass.Meets (turns 0))
      (later : Linked (fun number => turns (number + 1))
        ((turns 0).duringBackoff pass.left) rest final) :
      Linked turns pass.found (pass :: rest) final

def Explains (breaker : Option (CircuitBreakerConfig × String)) (log : List Pass) :
    Ending Value → Prop
  | .returned (.ok _) =>
      log.any Pass.succeeds = true ∧ log.any (Pass.isRefused breaker) = false ∧
        log.any (Pass.overflows breaker) = false ∧ log.any Pass.isDropped = false
  | .returned (.error .circuitOpen) =>
      log.any Pass.succeeds = false ∧ log.any (Pass.isRefused breaker) = true ∧
        log.any (Pass.overflows breaker) = false ∧ log.any Pass.isDropped = false
  | .returned (.error .maxRetriesExceeded) =>
      log.any Pass.succeeds = false ∧ log.any (Pass.isRefused breaker) = false ∧
        log.any (Pass.overflows breaker) = false ∧ log.any Pass.isDropped = false
  | .returned (.error _) => False
  | .panicked =>
      log.any Pass.succeeds = false ∧ log.any (Pass.isRefused breaker) = false ∧
        log.any (Pass.overflows breaker) = true
  | .abandoned =>
      log.any Pass.succeeds = false ∧ log.any (Pass.isRefused breaker) = false ∧
        log.any (Pass.overflows breaker) = false ∧ log.any Pass.isDropped = true

section Runs

variable {breaker : Option (CircuitBreakerConfig × String)} {deliverer : WebhookDeliverer}
  {url : String} {attempts : Nat} {turns : Nat → Turn} {registry : CircuitBreakerRegistry}
  {run : Run Value}

theorem replies_sentPass (turn : Turn) (permit : Option Permit) (log : List Pass) :
    replies (sentPass breaker turn registry permit :: log) = turn.reply :: replies log :=
  rfl

theorem Follows.explains {attempt : Nat} {turn : Turn} {permit : Option Permit}
    {ending : Ending Value}
    (granted : answerOf breaker turn.begins registry = .ok permit)
    (follows : Follows deliverer url attempt turn.reply
      (counterFull breaker turn registry permit) (.ended ending)) :
    Explains breaker [sentPass breaker turn registry permit] ending := by
  have refused := sentPass_isRefused granted
  have full := sentPass_overflows granted
  unfold Explains
  simp only [List.any_cons, List.any_nil, Bool.or_false, sentPass_succeeds, refused, full,
    sentPass_isDropped]
  cases follows with
  | delivered final success counted =>
      refine ⟨success, trivial, counterFull_of_success success, ?_⟩
      cases answered : turn.reply with
      | none =>
          rw [answered] at success
          cases success
      | some reply => rfl
  | overflowed failure overflow => exact ⟨failure, trivial, overflow⟩
  | abandoned dropped counts =>
      rw [dropped]
      exact ⟨rfl, trivial, counts, rfl⟩
  | exhausted answered failure counts last => exact ⟨failure, trivial, counts, answered⟩

theorem Runs.explains (runs : Runs breaker deliverer url attempts turns registry run) :
    Explains breaker run.log run.ending := by
  induction runs with
  | refused attempts turns registry refusal shut =>
      have refused := refusedPass_isRefused shut
      have counts := refusedPass_overflows shut
      exact ⟨rfl, by rw [List.any_cons, refused]; rfl, by rw [List.any_cons, counts]; rfl, rfl⟩
  | ended attempts turns registry permit ending granted follows => exact follows.explains granted
  | retried attempts turns registry permit rest granted answered failure counts more later ih =>
      unfold Explains at ih ⊢
      simpa only [List.any_cons, sentPass_succeeds, sentPass_isRefused granted,
        sentPass_overflows granted, sentPass_isDropped, failure, counts, answered,
        Bool.false_or] using ih

theorem Runs.linked (runs : Runs breaker deliverer url attempts turns registry run) :
    Linked turns registry run.log run.registry := by
  induction runs with
  | refused attempts turns registry refusal shut =>
      exact .last turns (refusedPass breaker (turns 0) registry) (refusedPass_meets ..)
  | ended attempts turns registry permit ending granted follows =>
      exact .last turns (sentPass breaker (turns 0) registry permit) (sentPass_meets ..)
  | retried attempts turns registry permit rest granted answered failure counts more later ih =>
      exact .next turns (sentPass breaker (turns 0) registry permit) _ _ (sentPass_meets ..) ih

theorem Runs.settled (runs : Runs breaker deliverer url attempts turns registry run) :
    ∀ pass ∈ run.log, pass.Settled breaker := by
  induction runs with
  | refused attempts turns registry refusal shut =>
      exact List.forall_mem_singleton.mpr (refusedPass_settled shut)
  | ended attempts turns registry permit ending granted follows =>
      exact List.forall_mem_singleton.mpr (sentPass_settled granted)
  | retried attempts turns registry permit rest granted answered failure counts more later ih =>
      exact List.forall_mem_cons.mpr ⟨sentPass_settled granted, ih⟩

theorem Runs.bounded (runs : Runs breaker deliverer url attempts turns registry run) :
    attempts + (replies run.log).length ≤
      max (attempts + 1) deliverer.retryConfig.maxRetries.toNat := by
  induction runs with
  | refused attempts turns registry refusal shut =>
      exact (Nat.le_succ attempts).trans (Nat.le_max_left _ _)
  | ended attempts turns registry permit ending granted follows => exact Nat.le_max_left _ _
  | retried attempts turns registry permit rest granted answered failure counts more later ih =>
      rw [replies_sentPass, List.length_cons]
      omega

theorem Runs.made (runs : Runs breaker deliverer url attempts turns registry run) :
    replies run.log =
      (List.range (replies run.log).length).map fun number => (turns number).reply := by
  induction runs with
  | refused attempts turns registry refusal shut => rfl
  | ended attempts turns registry permit ending granted follows => rfl
  | retried attempts turns registry permit rest granted answered failure counts more later ih =>
      rw [replies_sentPass, List.length_cons, List.range_succ_eq_map, List.map_cons,
        List.map_map]
      exact congrArg _ ih

theorem Runs.counted (runs : Runs breaker deliverer url attempts turns registry run)
    (final : WebhookDelivery Value) (delivered : run.ending = .returned (.ok final)) :
    final.attempt.toNat = attempts + (replies run.log).length := by
  induction runs with
  | refused attempts turns registry refusal shut => cases delivered
  | ended attempts turns registry permit ending granted follows =>
      cases delivered
      cases follows with
      | delivered final success counted => exact counted
  | retried attempts turns registry permit rest granted answered failure counts more later ih =>
      rw [ih delivered, replies_sentPass, List.length_cons]
      omega

theorem Runs.exhausted (runs : Runs breaker deliverer url attempts turns registry run)
    (spent : run.ending = .returned (.error .maxRetriesExceeded)) :
    attempts + (replies run.log).length =
      max (attempts + 1) deliverer.retryConfig.maxRetries.toNat := by
  induction runs with
  | refused attempts turns registry refusal shut => cases spent
  | ended attempts turns registry permit ending granted follows =>
      cases spent
      cases follows with
      | exhausted answered failure counts last => exact (Nat.max_eq_left last).symm
  | retried attempts turns registry permit rest granted answered failure counts more later ih =>
      have spread := ih spent
      rw [replies_sentPass, List.length_cons]
      omega

end Runs

/-! ## The account of a run -/

structure Caused (breaker : Option (CircuitBreakerConfig × String)) (ending : Ending Value)
    (log : List Pass) : Prop where
  ok_iff : (∃ final, ending = .returned (.ok final)) ↔ log.any Pass.succeeds = true
  open_iff : ending = .returned (.error .circuitOpen) ↔
    log.any (Pass.isRefused breaker) = true
  panicked_iff : ending = .panicked ↔ log.any (Pass.overflows breaker) = true
  abandoned_iff : ending = .abandoned ↔
    log.any Pass.isDropped = true ∧ log.any (Pass.overflows breaker) = false
  exhausted_iff : ending = .returned (.error .maxRetriesExceeded) ↔
    log.any Pass.succeeds = false ∧ log.any (Pass.isRefused breaker) = false ∧
      log.any (Pass.overflows breaker) = false ∧ log.any Pass.isDropped = false

/-- The log of an ending shows none of the other causes. -/
theorem Explains.caused {breaker : Option (CircuitBreakerConfig × String)} {log : List Pass}
    {ending : Ending Value} (explains : Explains breaker log ending) :
    Caused breaker ending log := by
  cases ending with
  | returned result =>
      cases result with
      | ok final =>
          obtain ⟨success, refusal, overflow, dropped⟩ := explains
          constructor <;> simp [success, refusal, overflow, dropped]
      | error error =>
          cases error with
          | circuitOpen =>
              obtain ⟨success, refusal, overflow, dropped⟩ := explains
              constructor <;> simp [success, refusal, overflow, dropped]
          | maxRetriesExceeded =>
              obtain ⟨success, refusal, overflow, dropped⟩ := explains
              constructor <;> simp [success, refusal, overflow, dropped]
          | deliveryFailed reason => cases explains
          | httpError source => cases explains
  | panicked =>
      obtain ⟨success, refusal, overflow⟩ := explains
      constructor <;> simp [success, refusal, overflow]
  | abandoned =>
      obtain ⟨success, refusal, overflow, dropped⟩ := explains
      constructor <;> simp [success, refusal, overflow, dropped]

/-- What a run amounts to: how many requests it makes and with which replies, why it ends
as it does, and what it does to the breakers. -/
structure Accounted (breaker : Option (CircuitBreakerConfig × String))
    (deliverer : WebhookDeliverer) (turns : Nat → Turn) (registry : CircuitBreakerRegistry)
    (run : Run Value) : Prop where
  bounded : (replies run.log).length ≤ max 1 deliverer.retryConfig.maxRetries.toNat
  made : replies run.log =
    (List.range (replies run.log).length).map fun number => (turns number).reply
  caused : Caused breaker run.ending run.log
  counted : ∀ final, run.ending = .returned (.ok final) →
    final.attempt.toNat = (replies run.log).length
  exhausted : run.ending = .returned (.error .maxRetriesExceeded) →
    (replies run.log).length = max 1 deliverer.retryConfig.maxRetries.toNat
  settled : ∀ pass ∈ run.log, pass.Settled breaker
  linked : Linked turns registry run.log run.registry

theorem deliver_accounted (circuitKey : String → Option String) (deliverer : WebhookDeliverer)
    (turns : Nat → Turn) (delivery : WebhookDelivery Value) (registry : CircuitBreakerRegistry)
    (fresh : delivery.attempt = 0) :
    Accounted (deliverer.breaker circuitKey delivery.url) deliverer turns registry
      (deliver circuitKey deliverer turns delivery registry) := by
  have runs := deliver_runs circuitKey deliverer turns delivery registry
    (by rw [fresh]; decide)
  rw [fresh] at runs
  have bounded := runs.bounded
  have counted := runs.counted
  have exhausted := runs.exhausted
  simp only [UInt32.toNat_zero, Nat.zero_add] at bounded counted exhausted
  exact ⟨bounded, runs.made, runs.explains.caused, counted, exhausted, runs.settled,
    runs.linked⟩

section Sample

/-- A breaker that needs every failure a counter can hold before it trips. -/
def patient : CircuitBreakerConfig where
  failureThreshold := 4294967295
  cooldown := 0

def patientDeliverer : WebhookDeliverer where
  retryConfig := ⟨2⟩
  circuitBreakers := some patient

def quietTurn (reply : Option Reply) : Turn where
  begins := 0
  duringRequest := id
  reply := reply
  answered := 1
  duringBackoff := id

/-- Another delivery to the same destination fails during the request. -/
def crowdedTurn (reply : Option Reply) : Turn :=
  { quietTurn reply with
    duringRequest := resolve some patientDeliverer 1 "a.example" (some ⟨false⟩) .failure }

def strained : Inner where
  state := .closed
  consecutiveFailures := 4294967294
  openedAt := none

end Sample

def failingThenAnswered (number : Nat) : Turn :=
  quietTurn (some (.response (if number = 0 then 500 else 200) none))

theorem failingThenAnswered_accounted :
    let run := deliver some patientDeliverer failingThenAnswered (.new "a.example" "event")
      (fun _ => none)
    (replies run.log).length = 2 ∧
      Accounted (some (patient, "a.example")) patientDeliverer failingThenAnswered
        (fun _ => none) run :=
  ⟨by decide +kernel, deliver_accounted some patientDeliverer failingThenAnswered
    (.new "a.example" "event") (fun _ => none) rfl⟩

/-- Failures below the threshold leave the breaker closed and counting. -/
theorem failures_in_a_row (config : CircuitBreakerConfig) (now count : Nat)
    (below : count < config.failureThreshold.toNat) :
    (report config now ⟨false⟩ .failure)^[count] Inner.new =
      ⟨.closed, UInt32.ofNat count, none⟩ := by
  induction count with
  | zero => rfl
  | succ count ih =>
      have small := config.failureThreshold.toNat_lt
      have held : (UInt32.ofNat count).toNat = count :=
        UInt32.toNat_ofNat_of_lt' (show count < 2 ^ 32 by omega)
      have next : nextFailures (UInt32.ofNat count) = some (UInt32.ofNat (count + 1)) := by
        unfold nextFailures MachineInt.checkedSucc
        rw [held, if_pos (by omega), UInt32.ofNat_add]
        rfl
      have under : ¬ config.failureThreshold ≤ UInt32.ofNat (count + 1) := by
        rw [UInt32.le_iff_toNat_le, UInt32.toNat_ofNat_of_lt' (show count + 1 < 2 ^ 32 by omega)]
        omega
      rw [Function.iterate_succ_apply', ih (by omega)]
      simp only [report, recordFailure, Bool.false_eq_true, if_false, next, if_neg under]

/-- Two requests are out when the breaker is one failure short of its trip: the first
failure trips it with a full counter, and the report of the second one panics. -/
theorem full_counter_panics :
    (report patient 0 ⟨false⟩ .failure)^[4294967294] Inner.new = strained ∧
      let run := deliver some patientDeliverer
        (fun _ => crowdedTurn (some (.response 500 none))) (.new "a.example" "event")
        (fun _ => some strained)
      run.log.any Pass.succeeds = false ∧
        run.log.any (Pass.isRefused (some (patient, "a.example"))) = false ∧
        run.log.any Pass.isDropped = false ∧ run.ending = .panicked := by
  refine ⟨?_, by decide +kernel, by decide +kernel, by decide +kernel, ?_⟩
  · rw [failures_in_a_row patient 0 4294967294 (by decide)]
    rfl
  · have caused := (deliver_runs some patientDeliverer
      (fun _ => crowdedTurn (some (.response 500 none))) (.new "a.example" "event")
      (fun _ => some strained) (by decide)).explains.caused
    refine caused.panicked_iff.mpr ?_
    decide +kernel

end AnchorKit.Webhook
