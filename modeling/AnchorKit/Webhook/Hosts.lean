import AnchorKit.Base.Renaming
import AnchorKit.Webhook.BreakerRuns
import AnchorKit.Webhook.Retries
import AnchorKit.Webhook.Service

/-!
# The breakers of the hosts

All calls share the registry, and each of them uses the breaker of its own host only.  So
the breaker of a host is a fold over what the calls to that host have done, whatever the
others did meanwhile; and it is one breaker in use, `Traffic`, whose permits are those in
the hands of the calls in flight to that host.  No host is locked out: a half-open breaker
waits for a call that is in flight, and once none is, the next call gets through after the
cooldown.
-/

set_option autoImplicit false

namespace AnchorKit.Webhook

open AnchorKit.Base

variable {Value : Type} {libraries : Libraries Value}

/-! ## Permits by host -/

/-- The permit for the host in the hands of a call. -/
def Call.permitFor (circuitKey : String → Option String) (key : String) (call : Call Value) :
    Option Permit :=
  match call.phase with
  | .delivering (.sending permit) =>
      if circuitKey call.delivery.url = some key then permit else none
  | _ => none

def System.permits (system : System libraries) (key : String) (number : Nat) : Option Permit :=
  system.calls[number]?.bind (Call.permitFor libraries.circuitKey key)

section Permits

variable {system : System libraries} {number : Nat} {before : Call Value}

theorem System.permits_of_found (found : system.calls[number]? = some before) (key : String) :
    system.permits key number = before.permitFor libraries.circuitKey key := by
  rw [System.permits, found, Option.bind_some]

theorem System.permits_move (found : system.calls[number]? = some before) (after : Call Value)
    (key : String) :
    (system.move number after).permits key =
      Function.update (system.permits key) number
        (after.permitFor libraries.circuitKey key) := by
  have inside := (List.getElem?_eq_some_iff.mp found).1
  funext other
  unfold System.permits System.move
  dsimp only
  by_cases same : other = number
  · subst other
    rw [List.getElem?_set_self inside, Function.update_self, Option.bind_some]
  · rw [List.getElem?_set_ne (Ne.symm same), Function.update_of_ne same]

theorem System.permits_move_of_none (found : system.calls[number]? = some before)
    {after : Call Value} {key : String}
    (held : before.permitFor libraries.circuitKey key = none)
    (holds : after.permitFor libraries.circuitKey key = none) :
    (system.move number after).permits key = system.permits key := by
  rw [System.permits_move found, holds, ← held, ← System.permits_of_found found key,
    Function.update_eq_self]

theorem System.permits_append (system : System libraries) (delivery : WebhookDelivery Value)
    (key : String) :
    ({ system with calls := system.calls ++ [⟨delivery, .lookingUp⟩] } :
      System libraries).permits key = system.permits key := by
  funext number
  unfold System.permits
  dsimp only
  rcases Nat.lt_trichotomy number system.calls.length with inside | here | beyond
  · rw [List.getElem?_append_left inside]
  · subst number
    rw [List.getElem?_concat_length, List.getElem?_eq_none (Nat.le_refl _)]
    rfl
  · rw [List.getElem?_eq_none (by rw [List.length_append, List.length_singleton]; omega),
      List.getElem?_eq_none (Nat.le_of_lt beyond)]

theorem Call.permitFor_of_waits {call : Call Value} (waits : call.phase.waits = true)
    (circuitKey : String → Option String) (key : String) :
    call.permitFor circuitKey key = none := by
  obtain ⟨delivery, phase⟩ := call
  cases phase with
  | lookingUp => rfl
  | finished result => rfl
  | delivering progress =>
      cases progress with
      | sending permit => cases waits
      | _ => rfl

end Permits

@[simp]
theorem CircuitBreakerRegistry.breakerFor_store_self (registry : CircuitBreakerRegistry)
    (key : String) (inner : Inner) : (registry.store key inner).breakerFor key = inner := by
  have stored : registry.store key inner key = some inner :=
    Function.update_self (β := fun _ => Option Inner) key (some inner) registry
  rw [breakerFor, stored, Option.getD_some]

theorem CircuitBreakerRegistry.breakerFor_store_of_ne (registry : CircuitBreakerRegistry)
    {key host : String} (different : key ≠ host) (inner : Inner) :
    (registry.store host inner).breakerFor key = registry.breakerFor key := by
  have kept : registry.store host inner key = registry key :=
    Function.update_of_ne (β := fun _ => Option Inner) different (some inner) registry
  rw [breakerFor, kept]
  rfl

/-! ## What a call does to the breakers -/

section Breakers

variable {deliverer : WebhookDeliverer} {config : CircuitBreakerConfig} {now : Nat}
  {circuitKey : String → Option String} {registry : CircuitBreakerRegistry}

inductive Attempts (config : CircuitBreakerConfig) (circuitKey : String → Option String)
    (now : Nat) (delivery : WebhookDelivery Value) (registry : CircuitBreakerRegistry) :
    Delivering Value × CircuitBreakerRegistry → Prop
  | overflowed (full : MachineInt.checkedSucc delivery.attempt = none) :
      Attempts config circuitKey now delivery registry (⟨delivery, .panicked⟩, registry)
  | unguarded (hostless : circuitKey delivery.url = none) (attempted : WebhookDelivery Value) :
      Attempts config circuitKey now delivery registry (⟨attempted, .sending none⟩, registry)
  | granted {host : String} {permit : Permit} {inner : Inner}
      {attempted : WebhookDelivery Value}
      (counted : (MachineInt.checkedSucc delivery.attempt).isSome = true)
      (hosted : circuitKey delivery.url = some host)
      (acquired : tryAcquire config now (registry.breakerFor host) = (.ok permit, inner))
      (same : attempted.url = delivery.url) :
      Attempts config circuitKey now delivery registry
        (⟨attempted, .sending (some permit)⟩, registry.store host inner)
  | refused {host : String} {refusal : CircuitOpen} {inner : Inner}
      (counted : (MachineInt.checkedSucc delivery.attempt).isSome = true)
      (hosted : circuitKey delivery.url = some host)
      (acquired : tryAcquire config now (registry.breakerFor host) = (.error refusal, inner))
      (attempted : WebhookDelivery Value) :
      Attempts config circuitKey now delivery registry
        (⟨attempted, .failed .circuitOpen⟩, registry.store host inner)

theorem breaker_eq (attached : deliverer.circuitBreakers = some config) (url : String) :
    deliverer.breaker circuitKey url = (circuitKey url).map fun host => (config, host) := by
  unfold WebhookDeliverer.breaker
  rw [attached]
  cases circuitKey url with
  | none => rfl
  | some host => rfl

theorem beginAttempt_attempts (attached : deliverer.circuitBreakers = some config)
    (delivery : WebhookDelivery Value) :
    Attempts config circuitKey now delivery registry
      (beginAttempt circuitKey deliverer now delivery registry) := by
  unfold beginAttempt
  cases counted : MachineInt.checkedSucc delivery.attempt with
  | none => exact .overflowed counted
  | some attempt =>
      have some : (MachineInt.checkedSucc delivery.attempt).isSome = true := by
        rw [counted]
        rfl
      dsimp only
      rw [acquire, breaker_eq attached]
      cases hosted : circuitKey delivery.url with
      | none => exact .unguarded hosted _
      | some host =>
          dsimp only [Option.map_some]
          cases acquired : tryAcquire config now (registry.breakerFor host) with
          | mk answer inner =>
              cases answer with
              | ok permit => exact .granted some hosted acquired rfl
              | error refusal => exact .refused some hosted acquired _

theorem resolve_hosted (attached : deliverer.circuitBreakers = some config) {url host : String}
    (hosted : circuitKey url = some host) (permit : Permit) (outcome : Outcome) :
    resolve circuitKey deliverer now url (some permit) outcome registry =
      registry.store host (report config now permit outcome (registry.breakerFor host)) := by
  rw [resolve_eq, breaker_eq attached, hosted]
  rfl

theorem resolve_hostless (attached : deliverer.circuitBreakers = some config) {url : String}
    (hostless : circuitKey url = none) (permit : Option Permit) (outcome : Outcome) :
    resolve circuitKey deliverer now url permit outcome registry = registry := by
  rw [resolve_eq, breaker_eq attached, hostless]
  rfl

theorem breakerFor_resolve (attached : deliverer.circuitBreakers = some config)
    (key url : String) (permit : Option Permit) (outcome : Outcome) :
    (resolve circuitKey deliverer now url permit outcome registry).breakerFor key =
      match if circuitKey url = some key then permit else none with
      | some permit => report config now permit outcome (registry.breakerFor key)
      | none => registry.breakerFor key := by
  cases permit with
  | none =>
      rw [ite_self]
      rfl
  | some permit =>
      cases hosted : circuitKey url with
      | none => rw [resolve_hostless attached hosted, if_neg nofun]
      | some host =>
          rw [resolve_hosted attached hosted]
          by_cases same : key = host
          · subst host
            rw [if_pos rfl, CircuitBreakerRegistry.breakerFor_store_self]
          · rw [if_neg fun equal => same (Option.some.inj equal).symm,
              CircuitBreakerRegistry.breakerFor_store_of_ne registry same]

theorem settleAttempt_permitFor {delivery : WebhookDelivery Value} {permit : Option Permit}
    {reply : Reply} {settled : Delivering Value × CircuitBreakerRegistry}
    (settles : settleAttempt circuitKey deliverer now delivery permit reply registry = settled)
    (key : String) :
    Call.permitFor circuitKey key
      ⟨settled.1.delivery, .delivering settled.1.progress⟩ = none := by
  subst settled
  unfold Call.permitFor
  dsimp only
  cases answered : reply.succeeds with
  | true => rw [settleAttempt_of_success _ deliverer now delivery permit registry answered]
  | false =>
      rw [settleAttempt_of_failure _ deliverer now delivery permit registry answered]
      split
      · rename_i sending
        split at sending
        · cases sending
        · split at sending
          · cases sending
          · cases sending
      · rfl

end Breakers

/-! ## A host's breaker is a fold over its own calls -/

inductive Use where
  | tryAcquire (now : Nat)
  | report (now : Nat) (permit : Permit) (outcome : Outcome)

def Use.apply (config : CircuitBreakerConfig) (inner : Inner) : Use → Inner
  | .tryAcquire now => (Webhook.tryAcquire config now inner).2
  | .report now permit outcome => Webhook.report config now permit outcome inner

/-- How an incident uses the breaker of a host: an attempt of a call to it, and the reply
or the end of a call that holds a permit for it. -/
def uses (key : String) (visit : Service libraries × Incident Value) : List Use :=
  match visit.2 with
  | .attempt number =>
      match visit.1.system.calls[number]? with
      | some ⟨delivery, .delivering .attempting⟩ =>
          if libraries.circuitKey delivery.url = some key ∧
              (MachineInt.checkedSucc delivery.attempt).isSome = true then
            [.tryAcquire visit.1.clock]
          else []
      | _ => []
  | .answer number reply =>
      (visit.1.system.permits key number).toList.map fun permit =>
        .report visit.1.clock permit (outcomeOf (some reply))
  | .abandon number =>
      (visit.1.system.permits key number).toList.map fun permit =>
        .report visit.1.clock permit .dropped
  | _ => []

section Isolation

variable {deliverer : WebhookDeliverer} {config : CircuitBreakerConfig}

theorem Attempts.breakerFor {circuitKey : String → Option String} {now : Nat}
    {delivery : WebhookDelivery Value} {registry : CircuitBreakerRegistry}
    {begun : Delivering Value × CircuitBreakerRegistry}
    (attempts : Attempts config circuitKey now delivery registry begun) (key : String) :
    begun.2.breakerFor key =
      if circuitKey delivery.url = some key ∧
          (MachineInt.checkedSucc delivery.attempt).isSome = true then
        (tryAcquire config now (registry.breakerFor key)).2
      else registry.breakerFor key := by
  cases attempts with
  | overflowed full => rw [if_neg fun both => by rw [full] at both; cases both.2]
  | unguarded hostless attempted =>
      rw [if_neg fun both => by rw [hostless] at both; cases both.1]
  | granted counted hosted acquired same =>
      rw [hosted]
      split
      · rename_i both
        cases both.1
        rw [CircuitBreakerRegistry.breakerFor_store_self, acquired]
      · rename_i other
        exact registry.breakerFor_store_of_ne (fun equal => other ⟨by rw [equal], counted⟩) _
  | refused counted hosted acquired attempted =>
      rw [hosted]
      split
      · rename_i both
        cases both.1
        rw [CircuitBreakerRegistry.breakerFor_store_self, acquired]
      · rename_i other
        exact registry.breakerFor_store_of_ne (fun equal => other ⟨by rw [equal], counted⟩) _

theorem System.permits_eq_none {system : System libraries} {number : Nat}
    (grounded : ∀ delivery permit,
      system.calls[number]? ≠ some ⟨delivery, .delivering (.sending permit)⟩) (key : String) :
    system.permits key number = none := by
  unfold System.permits
  cases found : system.calls[number]? with
  | none => rfl
  | some call =>
      obtain ⟨delivery, phase⟩ := call
      cases phase with
      | lookingUp => rfl
      | finished result => rfl
      | delivering progress =>
          cases progress with
          | sending permit => exact absurd found (grounded delivery permit)
          | _ => rfl

theorem foldl_report (now : Nat) (outcome : Outcome) (permit : Option Permit) (inner : Inner) :
    (permit.toList.map fun permit => Use.report now permit outcome).foldl (Use.apply config)
        inner =
      match permit with
      | some permit => report config now permit outcome inner
      | none => inner := by
  cases permit with
  | none => rfl
  | some permit => rfl

theorem System.breakerFor_resolve (attached : deliverer.circuitBreakers = some config)
    (system : System libraries) {number : Nat} {delivery : WebhookDelivery Value}
    {permit : Option Permit}
    (found : system.calls[number]? = some ⟨delivery, .delivering (.sending permit)⟩)
    (now : Nat) (outcome : Outcome) (key : String) :
    (resolve libraries.circuitKey deliverer now delivery.url permit outcome
        system.registry).breakerFor key =
      ((system.permits key number).toList.map fun permit =>
        Use.report now permit outcome).foldl (Use.apply config)
          (system.registry.breakerFor key) := by
  rw [Webhook.breakerFor_resolve attached, foldl_report, System.permits_of_found found]
  rfl

theorem Service.step_attempt_of_resting {service : Service libraries} {number : Nat}
    (resting : ∀ delivery,
      service.system.calls[number]? ≠ some ⟨delivery, .delivering .attempting⟩) :
    service.step deliverer (.attempt number) = service := by
  dsimp only [Service.step, System.step]
  split
  · rename_i delivery found
    exact absurd found (resting delivery)
  · rfl

theorem uses_attempt_of_resting (key : String) {service : Service libraries} {number : Nat}
    (resting : ∀ delivery,
      service.system.calls[number]? ≠ some ⟨delivery, .delivering .attempting⟩) :
    uses key (service, .attempt number) = [] := by
  dsimp only [uses]
  split
  · rename_i delivery found
    exact absurd found (resting delivery)
  · rfl

theorem step_folds_uses (attached : deliverer.circuitBreakers = some config) (key : String)
    (service : Service libraries) (incident : Incident Value) :
    (service.step deliverer incident).system.registry.breakerFor key =
      (uses key (service, incident)).foldl (Use.apply config)
        (service.system.registry.breakerFor key) := by
  cases incident with
  | attempt number =>
      by_cases waiting : ∃ delivery,
          service.system.calls[number]? = some ⟨delivery, .delivering .attempting⟩
      · obtain ⟨delivery, found⟩ := waiting
        have begins : Attempts config libraries.circuitKey service.clock delivery
            service.system.registry (beginAttempt libraries.circuitKey deliverer service.clock
              delivery service.system.registry) := beginAttempt_attempts attached delivery
        dsimp only [Service.step, System.step, uses]
        rw [found]
        dsimp only [System.move]
        rw [begins.breakerFor]
        split
        · rfl
        · rfl
      · have resting : ∀ delivery,
            service.system.calls[number]? ≠ some ⟨delivery, .delivering .attempting⟩ :=
          fun delivery found => waiting ⟨delivery, found⟩
        rw [Service.step_attempt_of_resting resting, uses_attempt_of_resting key resting]
        rfl
  | answer number reply =>
      dsimp only [Service.step, System.step, uses]
      split
      · rename_i delivery permit found
        dsimp only [System.move]
        rw [settleAttempt_registry]
        exact service.system.breakerFor_resolve attached found service.clock
          (outcomeOf (some reply)) key
      · rename_i grounded
        rw [System.permits_eq_none fun delivery permit => grounded delivery permit]
        rfl
  | abandon number =>
      dsimp only [Service.step, uses]
      unfold System.abandon
      split
      · rename_i absent
        rw [System.permits_eq_none fun delivery permit => by rw [absent]; exact nofun]
        rfl
      · rename_i delivery result found
        rw [System.permits_of_found found]
        rfl
      · rename_i delivery permit found
        exact service.system.breakerFor_resolve attached found service.clock .dropped key
      · rename_i delivery phase running inFlight found
        rw [System.permits_eq_none fun other permit => ?_]
        · rfl
        · intro sending
          rw [found] at sending
          cases Option.some.inj sending
          exact inFlight permit rfl
  | lookup number =>
      dsimp only [Service.step, System.step, uses]
      split
      · rfl
      · rfl
  | record number createdAt =>
      dsimp only [Service.step, System.step, uses]
      split
      · rfl
      · rfl
      · rfl
  | process delivery => rfl
  | cleanupOldRecords daysAgo => rfl
  | elapse duration => rfl

/-- Whatever the calls to other hosts do, the breaker of a host has come to where the
attempts, the replies and the ends of the calls to that host alone would take a new one. -/
theorem host_breakers_isolated (attached : deliverer.circuitBreakers = some config)
    (store : IdempotencyStore libraries) (clock : Nat) (incidents : List (Incident Value))
    (key : String) :
    (Service.reached deliverer store clock incidents).system.registry.breakerFor key =
      ((Service.visits deliverer store clock incidents).flatMap (uses key)).foldl
        (Use.apply config) Inner.new :=
  Machine.foldl_outputs (Service.step deliverer) (uses key)
    (fun service => service.system.registry.breakerFor key) (Use.apply config)
    (step_folds_uses attached key) incidents (Service.start store clock)

end Isolation

section Sample

def fragile : CircuitBreakerConfig where
  failureThreshold := 1
  cooldown := 10

def guarded : WebhookDeliverer where
  retryConfig := ⟨3⟩
  circuitBreakers := some fragile

def failedBeside : List (Incident String) :=
  [.process (.new "a.example" "event"), .process (.new "b.example" "other"), .lookup 0,
    .lookup 1, .attempt 0, .attempt 1, .elapse 5, .answer 0 (.response 500 none)]

end Sample

theorem neighbour_stays_closed :
    let service := Service.reached guarded emptyStore 0 failedBeside
    (service.system.registry.breakerFor "a.example").state = .opened ∧
      service.system.registry.breakerFor "b.example" = Inner.new :=
  ⟨by decide +kernel,
    (host_breakers_isolated rfl emptyStore 0 failedBeside "b.example").trans rfl⟩

/-! ## A host's breaker is one breaker in use -/

/-- The breaker of the host and the clock are those of the traffic, and the permits that are
out are those of the calls in flight to the host. -/
structure Tracks (key : String) (service : Service libraries) (traffic : Traffic) : Prop where
  inner : service.system.registry.breakerFor key = traffic.inner
  clock : service.clock = traffic.now
  permits : Renamed (service.system.permits key) traffic.permits

section Tracking

variable {deliverer : WebhookDeliverer} {config : CircuitBreakerConfig} {key : String}
  {service later : Service libraries} {traffic : Traffic} {incident : Incident Value}

def Followed (config : CircuitBreakerConfig) (key : String) (traffic : Traffic)
    (later : Service libraries) : Prop :=
  ∃ events, Tracks key later (Machine.run (Traffic.step config) traffic events)

theorem Tracks.quiet (tracks : Tracks key service traffic)
    (breakers : later.system.registry.breakerFor key =
      service.system.registry.breakerFor key)
    (clock : later.clock = service.clock)
    (permits : later.system.permits key = service.system.permits key) :
    Followed config key traffic later := by
  refine ⟨[], breakers.trans tracks.inner, clock.trans tracks.clock, ?_⟩
  rw [permits]
  exact tracks.permits

theorem Tracks.granted (tracks : Tracks key service traffic) (sound : Sound traffic)
    {number : Nat} {before after : Call Value} {permit : Permit} {inner : Inner}
    (found : service.system.calls[number]? = some before)
    (empty : before.permitFor libraries.circuitKey key = none)
    (holds : after.permitFor libraries.circuitKey key = some permit)
    (acquired : tryAcquire config service.clock (service.system.registry.breakerFor key) =
      (.ok permit, inner)) :
    Followed config key traffic
      { service with
        system := { service.system.move number after with
          registry := service.system.registry.store key inner } } := by
  have steps : Traffic.step config traffic .tryAcquire = traffic.grant permit inner := by
    rw [tracks.clock, tracks.inner] at acquired
    rw [Traffic.step, acquired]
  refine ⟨[.tryAcquire], ?_⟩
  rw [Machine.run, Machine.run, steps]
  refine ⟨CircuitBreakerRegistry.breakerFor_store_self _ _ _, tracks.clock, ?_⟩
  have moved := System.permits_move found after key
  rw [holds] at moved
  have free : service.system.permits key number = none :=
    (System.permits_of_found found key).trans empty
  exact moved ▸ tracks.permits.insert free (sound.fresh traffic.granted (Nat.le_refl _)) permit

theorem Tracks.refused (tracks : Tracks key service traffic) {number : Nat}
    {before after : Call Value} {refusal : CircuitOpen} {inner : Inner}
    (found : service.system.calls[number]? = some before)
    (empty : before.permitFor libraries.circuitKey key = none)
    (stays : after.permitFor libraries.circuitKey key = none)
    (acquired : tryAcquire config service.clock (service.system.registry.breakerFor key) =
      (.error refusal, inner)) :
    Followed config key traffic
      { service with
        system := { service.system.move number after with
          registry := service.system.registry.store key inner } } := by
  have steps : Traffic.step config traffic .tryAcquire = { traffic with inner := inner } := by
    rw [tracks.clock, tracks.inner] at acquired
    rw [Traffic.step, acquired]
  refine ⟨[.tryAcquire], ?_⟩
  rw [Machine.run, Machine.run, steps]
  refine ⟨CircuitBreakerRegistry.breakerFor_store_self _ _ _, tracks.clock, ?_⟩
  have same := System.permits_move_of_none found empty stays
  exact same ▸ tracks.permits

theorem Tracks.attempted (tracks : Tracks key service traffic) (sound : Sound traffic)
    {number : Nat} {delivery : WebhookDelivery Value}
    {begun : Delivering Value × CircuitBreakerRegistry}
    (found : service.system.calls[number]? = some ⟨delivery, .delivering .attempting⟩)
    (attempts : Attempts config libraries.circuitKey service.clock delivery
      service.system.registry begun) :
    Followed config key traffic
      { service with
        system :=
          { service.system.move number ⟨begun.1.delivery, .delivering begun.1.progress⟩ with
            registry := begun.2 } } := by
  cases attempts with
  | overflowed full =>
      exact tracks.quiet rfl rfl (System.permits_move_of_none found rfl rfl)
  | unguarded hostless attempted =>
      refine tracks.quiet rfl rfl (System.permits_move_of_none found rfl ?_)
      exact ite_self none
  | @granted host permit inner attempted counted hosted acquired same =>
      by_cases here : key = host
      · subst host
        exact tracks.granted sound found rfl (by simp [Call.permitFor, same, hosted]) acquired
      · refine tracks.quiet ?_ rfl (System.permits_move_of_none found rfl ?_)
        · exact CircuitBreakerRegistry.breakerFor_store_of_ne _ here inner
        · simp [Call.permitFor, same, hosted, Ne.symm here]
  | @refused host refusal inner counted hosted acquired attempted =>
      by_cases here : key = host
      · subst host
        exact tracks.refused found rfl rfl acquired
      · refine tracks.quiet ?_ rfl (System.permits_move_of_none found rfl rfl)
        exact CircuitBreakerRegistry.breakerFor_store_of_ne _ here inner

theorem Tracks.resolved (attached : deliverer.circuitBreakers = some config)
    (tracks : Tracks key service traffic) {number : Nat} {delivery : WebhookDelivery Value}
    {permit : Option Permit} {after : Call Value}
    (found : service.system.calls[number]? = some ⟨delivery, .delivering (.sending permit)⟩)
    (settled : after.permitFor libraries.circuitKey key = none) (outcome : Outcome) :
    Followed config key traffic
      { service with
        system := { service.system.move number after with
          registry := resolve libraries.circuitKey deliverer service.clock delivery.url permit
            outcome service.system.registry } } := by
  have report : (resolve libraries.circuitKey deliverer service.clock delivery.url permit outcome
      service.system.registry).breakerFor key = _ :=
    breakerFor_resolve attached key delivery.url permit outcome
  have moved := System.permits_move found after key
  rw [settled] at moved
  have held := System.permits_of_found found key
  unfold Call.permitFor at held
  dsimp only at held
  rw [← held] at report
  cases holds : service.system.permits key number with
  | none =>
      rw [holds] at report held
      exact tracks.quiet report rfl (System.permits_move_of_none found held.symm settled)
  | some permit =>
      rw [holds] at report
      obtain ⟨ticket, out, renamed⟩ := tracks.permits.erase holds
      refine ⟨[.resolve ticket outcome], ?_⟩
      have steps : Traffic.step config traffic (.resolve ticket outcome) =
          traffic.release config ticket permit outcome := by
        rw [Traffic.step, out]
      rw [Machine.run, Machine.run, steps]
      refine ⟨?_, tracks.clock, moved ▸ renamed⟩
      dsimp only [Traffic.release]
      rw [report, tracks.clock, tracks.inner]

theorem Tracks.takes (attached : deliverer.circuitBreakers = some config)
    (tracks : Tracks key service traffic) (sound : Sound traffic)
    (takes : Takes deliverer service incident later) : Followed config key traffic later := by
  cases takes with
  | idle _ _ => exact tracks.quiet rfl rfl rfl
  | made delivery =>
      exact tracks.quiet rfl rfl (System.permits_append service.system delivery key)
  | hit number result found _ =>
      exact tracks.quiet rfl rfl (System.permits_move_of_none found rfl rfl)
  | missed number found _ =>
      exact tracks.quiet rfl rfl (System.permits_move_of_none found rfl rfl)
  | @attempted number delivery begun registry found begins =>
      have attempts : Attempts config libraries.circuitKey service.clock delivery
          service.system.registry (begun, registry) :=
        begins ▸ beginAttempt_attempts attached delivery
      exact tracks.attempted sound found attempts
  | @answered number reply delivery permit settled registry found settles =>
      have reported : registry = resolve libraries.circuitKey deliverer service.clock
          delivery.url permit (outcomeOf (some reply)) service.system.registry :=
        (congrArg Prod.snd settles).symm.trans (settleAttempt_registry _ _ delivery permit reply)
      rw [reported]
      exact tracks.resolved attached found (settleAttempt_permitFor settles key)
        (outcomeOf (some reply))
  | recorded number createdAt found =>
      exact tracks.quiet rfl rfl (System.permits_move_of_none found rfl rfl)
  | recordedFailure number createdAt found =>
      exact tracks.quiet rfl rfl (System.permits_move_of_none found rfl rfl)
  | dropped number found => exact tracks.resolved attached found rfl .dropped
  | abandoned number found waits =>
      exact tracks.quiet rfl rfl (System.permits_move_of_none found
        (Call.permitFor_of_waits waits _ key) rfl)
  | cleaned daysAgo => exact tracks.quiet rfl rfl rfl
  | elapsed duration =>
      refine ⟨[.elapse duration], tracks.inner, ?_, tracks.permits⟩
      exact congrArg (· + duration) tracks.clock

/-- In every run the breaker of a host is a breaker in use by the calls to that host. -/
theorem reached_tracked (attached : deliverer.circuitBreakers = some config)
    (store : IdempotencyStore libraries) (clock : Nat) (incidents : List (Incident Value))
    (key : String) :
    ∃ events, Tracks key (Service.reached deliverer store clock incidents)
      (Traffic.reached config clock events) := by
  refine Machine.run_invariant (Service.step deliverer)
    (fun service => ∃ events, Tracks key service (Traffic.reached config clock events)) ?_
    incidents (Service.start store clock) ⟨[], rfl, rfl, .empty⟩
  rintro service incident ⟨events, tracks⟩
  obtain ⟨more, followed⟩ := tracks.takes attached (reached_sound config clock events)
    (step_takes deliverer service incident)
  refine ⟨events ++ more, ?_⟩
  rw [Traffic.reached, Machine.run_append]
  exact followed

/-- With no call in flight to the host, an attempt at a time when the breaker would let one
through is let through. -/
theorem permits_of_acquired (attached : deliverer.circuitBreakers = some config) {number : Nat}
    {delivery : WebhookDelivery Value}
    (found : service.system.calls[number]? = some ⟨delivery, .delivering .attempting⟩)
    (hosted : libraries.circuitKey delivery.url = some key)
    (room : delivery.attempt.toNat + 1 < 2 ^ 32)
    (free : ∃ permit, (tryAcquire config service.clock
      (service.system.registry.breakerFor key)).1 = .ok permit) :
    ∃ permit, (service.step deliverer (.attempt number)).system.permits key number =
      some permit := by
  obtain ⟨permit, acquires⟩ := free
  have begins : Attempts config libraries.circuitKey service.clock delivery
      service.system.registry (beginAttempt libraries.circuitKey deliverer service.clock
        delivery service.system.registry) := beginAttempt_attempts attached delivery
  have counts : MachineInt.checkedSucc delivery.attempt = some (delivery.attempt + 1) :=
    if_pos room
  simp only [Service.step, System.step, found]
  generalize beginAttempt libraries.circuitKey deliverer service.clock delivery
    service.system.registry = begun at begins
  have moved : ∀ registry, System.permits
      { service.system.move number ⟨begun.1.delivery, .delivering begun.1.progress⟩ with
        registry := registry } key number =
      Call.permitFor libraries.circuitKey key
        ⟨begun.1.delivery, .delivering begun.1.progress⟩ := by
    intro registry
    have updated := congrFun (System.permits_move found
      ⟨begun.1.delivery, .delivering begun.1.progress⟩ key) number
    rw [Function.update_self] at updated
    exact updated
  rw [moved]
  cases begins with
  | overflowed full =>
      rw [counts] at full
      cases full
  | unguarded hostless attempted =>
      rw [hosted] at hostless
      cases hostless
  | @granted host granted inner attempted _ hostedAgain acquired same =>
      exact ⟨granted, by simp [Call.permitFor, same, hosted]⟩
  | @refused host refusal inner _ hostedAgain acquired attempted =>
      rw [hosted] at hostedAgain
      cases Option.some.inj hostedAgain
      rw [acquired] at acquires
      cases acquires

/-- No interleaving of calls, replies and calls that end early locks a host out: a breaker is
half-open only while a call to its host holds a probe, and once none is in flight an attempt
is let through after the cooldown. -/
theorem no_host_locked_out (attached : deliverer.circuitBreakers = some config)
    (store : IdempotencyStore libraries) (clock : Nat) (incidents : List (Incident Value))
    (key : String) :
    let service := Service.reached deliverer store clock incidents
    ((service.system.registry.breakerFor key).state = .halfOpen →
      ∃ number, service.system.permits key number = some ⟨true⟩) ∧
    ((∀ number, service.system.permits key number = none) →
      ∀ wait number delivery, config.cooldown ≤ wait →
        service.system.calls[number]? = some ⟨delivery, .delivering .attempting⟩ →
        libraries.circuitKey delivery.url = some key → delivery.attempt.toNat + 1 < 2 ^ 32 →
        ∃ permit, ((service.step deliverer (.elapse wait)).step deliverer
          (.attempt number)).system.permits key number = some permit) := by
  intro service
  obtain ⟨events, tracks⟩ : ∃ events, Tracks key service (Traffic.reached config clock events) :=
    reached_tracked attached store clock incidents key
  refine ⟨?_, ?_⟩
  · intro halfOpen
    rw [tracks.inner] at halfOpen
    obtain ⟨ticket, _, out⟩ := (reached_sound config clock events).probing halfOpen
    exact (tracks.permits.exists_iff ⟨true⟩).mpr ⟨ticket, out⟩
  · intro grounded wait number delivery cooled found hosted room
    -- The breaker is asked one cooldown after a time that is itself reached.
    obtain ⟨extra, rfl⟩ := Nat.exists_eq_add_of_le' cooled
    have idle : ∀ ticket,
        (Traffic.reached config clock (events ++ [.elapse extra])).permits ticket = none := by
      intro ticket
      rw [Traffic.reached, Machine.run_append]
      rw [Option.eq_none_iff_forall_ne_some]
      intro permit out
      obtain ⟨number, holds⟩ := (tracks.permits.exists_iff permit).mpr ⟨ticket, out⟩
      rw [grounded number] at holds
      cases holds
    have responsive := (reached_sound config clock (events ++ [.elapse extra])).responsive config
    obtain ⟨permit, acquires⟩ := responsive.recovers idle
    refine permits_of_acquired attached found hosted room ⟨permit, ?_⟩
    rw [Traffic.reached, Machine.run_append] at acquires
    rw [← acquires]
    dsimp only [Service.step]
    rw [tracks.inner, tracks.clock, ← Nat.add_assoc]
    rfl

end Tracking

theorem failed_host_called_again :
    let service := Service.reached guarded emptyStore 0 failedBeside
    ∃ permit, ((service.step guarded (.elapse 10)).step guarded
      (.attempt 0)).system.permits "a.example" 0 = some permit := by
  intro service
  have grounded : ∀ number, service.system.permits "a.example" number = none := by
    intro number
    rcases number with _ | _ | number
    · decide +kernel
    · decide +kernel
    · rfl
  exact (no_host_locked_out rfl emptyStore 0 failedBeside "a.example").2 grounded 10 0 _
    (Nat.le_refl 10) rfl rfl (by decide +kernel)

end AnchorKit.Webhook
