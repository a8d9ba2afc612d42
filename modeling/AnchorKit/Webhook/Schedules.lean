import AnchorKit.Webhook.Replays

/-!
# Calls one after the other are a schedule

`process` runs a call from its beginning to its end, `System.step` runs the calls
piecewise and in any order.  Calls that are left alone, each made after the one before
has ended, are one of the schedules: the store, the breakers and the results are those
of the calls one after the other.
-/

set_option autoImplicit false

namespace AnchorKit.Webhook

open AnchorKit.Base

variable {Value : Type}

/-- Nothing else uses the breakers meanwhile, and there is a reply. -/
structure Turn.Alone (turn : Turn) : Prop where
  request : turn.duringRequest = id
  backoff : turn.duringBackoff = id
  replied : turn.reply.isSome = true

def Call.result (call : Call Value) : Option (Except WebhookError (ProcessingResult Value)) :=
  match call.phase with
  | .finished result => some result
  | _ => none

section Schedule

variable {libraries : Libraries Value} (deliverer : WebhookDeliverer)
  (store : IdempotencyStore libraries) (calls : List (Call Value))

def delivering (stand : Delivering Value × CircuitBreakerRegistry) : System libraries where
  store := store
  registry := stand.2
  calls := calls ++ [⟨stand.1.delivery, .delivering stand.1.progress⟩]

theorem attempt_step (now : Nat) (delivery : WebhookDelivery Value)
    (registry : CircuitBreakerRegistry) :
    (delivering store calls (⟨delivery, .attempting⟩, registry)).step deliverer
        (.attempt calls.length now) =
      delivering store calls
        (beginAttempt libraries.circuitKey deliverer now delivery registry) := by
  simp [System.step, System.move, delivering]

theorem answer_step (now : Nat) (delivery : WebhookDelivery Value) (permit : Option Permit)
    (reply : Reply) (registry : CircuitBreakerRegistry) :
    (delivering store calls (⟨delivery, .sending permit⟩, registry)).step deliverer
        (.answer calls.length now reply) =
      delivering store calls
        (settleAttempt libraries.circuitKey deliverer now delivery permit reply registry) := by
  simp [System.step, System.move, delivering]

theorem settleAttempt_not_sending (now : Nat) (delivery : WebhookDelivery Value)
    (permit : Option Permit) (reply : Reply) (registry : CircuitBreakerRegistry)
    (other : Option Permit) :
    (settleAttempt libraries.circuitKey deliverer now delivery permit reply registry).1.progress ≠
      .sending other := by
  cases answered : reply.succeeds with
  | true =>
      rw [settleAttempt_of_success _ deliverer now delivery permit registry answered]
      exact nofun
  | false =>
      rw [settleAttempt_of_failure _ deliverer now delivery permit registry answered]
      split
      · exact nofun
      · split
        · exact nofun
        · exact nofun

theorem Delivering.eq_of_next_again {stand : Delivering Value} {next : WebhookDelivery Value}
    (again : stand.next = .again next) : stand = ⟨next, .attempting⟩ := by
  obtain ⟨delivery, progress⟩ := stand
  cases progress with
  | attempting =>
      cases again
      rfl
  | _ => cases again

structure Passed (delivery : WebhookDelivery Value) (next : Next Value)
    (stand : Delivering Value) : Prop where
  next : stand.next = next
  payload : stand.delivery.payload = delivery.payload
  replied : ∀ permit, stand.progress ≠ .sending permit

theorem iteration_scheduled {turn : Turn} (alone : turn.Alone) (delivery : WebhookDelivery Value)
    (registry : CircuitBreakerRegistry) :
    let passed := iteration libraries.circuitKey deliverer turn delivery registry
    ∃ stand, Passed delivery passed.next stand ∧
      Machine.Reaches (System.step deliverer)
        (delivering store calls (⟨delivery, .attempting⟩, registry))
        (delivering store calls (stand, passed.registry)) := by
  have kept := beginAttempt_payload libraries.circuitKey deliverer turn.begins delivery registry
  have begins := attempt_step deliverer store calls turn.begins delivery registry
  obtain ⟨reply, replied⟩ := Option.isSome_iff_exists.mp alone.replied
  unfold iteration
  generalize beginAttempt libraries.circuitKey deliverer turn.begins delivery registry = begun
    at kept begins
  obtain ⟨⟨attempted, progress⟩, acquired⟩ := begun
  cases progress with
  | sending permit =>
      dsimp only
      rw [alone.request, id_eq, afterRequest, replied]
      refine ⟨(settleAttempt libraries.circuitKey deliverer turn.answered attempted permit reply
        acquired).1, ⟨rfl, ?_, ?_⟩, ?_⟩
      · exact (settleAttempt_payload libraries.circuitKey deliverer turn.answered attempted permit
          reply acquired).trans kept
      · exact settleAttempt_not_sending deliverer turn.answered attempted permit reply acquired
      · exact (Machine.reaches_of_step _ begins).trans (Machine.reaches_of_step _
          (answer_step deliverer store calls turn.answered attempted permit reply acquired))
  | attempting => exact ⟨_, ⟨rfl, kept, nofun⟩, Machine.reaches_of_step _ begins⟩
  | delivered => exact ⟨_, ⟨rfl, kept, nofun⟩, Machine.reaches_of_step _ begins⟩
  | failed error => exact ⟨_, ⟨rfl, kept, nofun⟩, Machine.reaches_of_step _ begins⟩
  | panicked => exact ⟨_, ⟨rfl, kept, nofun⟩, Machine.reaches_of_step _ begins⟩

theorem deliver_scheduled {turns : Nat → Turn} (alone : ∀ number, (turns number).Alone)
    (delivery : WebhookDelivery Value) (registry : CircuitBreakerRegistry) :
    let run := deliver libraries.circuitKey deliverer turns delivery registry
    ∃ stand, Passed delivery (.ended run.ending) stand ∧
      Machine.Reaches (System.step deliverer)
        (delivering store calls (⟨delivery, .attempting⟩, registry))
        (delivering store calls (stand, run.registry)) := by
  dsimp only
  fun_induction deliver libraries.circuitKey deliverer turns delivery registry with
  | case1 turns delivery registry next after log passed rest ih =>
      have scheduled := iteration_scheduled deliverer store calls (alone 0) delivery registry
      rw [passed] at scheduled
      obtain ⟨stand, head, reached⟩ := scheduled
      cases Delivering.eq_of_next_again head.next
      obtain ⟨last, tail, later⟩ := ih fun number => alone (number + 1)
      have undisturbed : delivering store calls
          (⟨next, .attempting⟩, (turns 0).duringBackoff after) =
            delivering store calls (⟨next, .attempting⟩, after) := by
        rw [(alone 0).backoff]
        rfl
      rw [undisturbed] at later
      exact ⟨last, ⟨tail.next, tail.payload.trans head.payload, tail.replied⟩,
        reached.trans later⟩
  | case2 turns delivery registry ending after log passed =>
      have scheduled := iteration_scheduled deliverer store calls (alone 0) delivery registry
      rw [passed] at scheduled
      exact scheduled

theorem lookup_step (delivery : WebhookDelivery Value) (registry : CircuitBreakerRegistry) :
    System.step deliverer ⟨store, registry, calls ++ [⟨delivery, .lookingUp⟩]⟩
        (.lookup calls.length) =
      ⟨store, registry, calls ++ [⟨delivery, lookup libraries store delivery⟩]⟩ := by
  simp [System.step, System.move]

theorem record_delivered_step (now : Nat) (delivery : WebhookDelivery Value)
    (registry : CircuitBreakerRegistry) :
    (delivering store calls (⟨delivery, .delivered⟩, registry)).step deliverer
        (.record calls.length now) =
      ⟨(recordDelivered libraries now delivery store).2, registry,
        calls ++ [⟨delivery, (recordDelivered libraries now delivery store).1⟩]⟩ := by
  simp [System.step, System.move, delivering]

theorem record_failed_step (now : Nat) (delivery : WebhookDelivery Value) (error : WebhookError)
    (registry : CircuitBreakerRegistry) :
    (delivering store calls (⟨delivery, .failed error⟩, registry)).step deliverer
        (.record calls.length now) =
      ⟨(recordFailed libraries now delivery error store).2, registry,
        calls ++ [⟨delivery, (recordFailed libraries now delivery error store).1⟩]⟩ := by
  simp [System.step, System.move, delivering]

theorem process_scheduled (submission : Submission Value)
    (alone : ∀ number, (submission.turns number).Alone) (registry : CircuitBreakerRegistry) :
    let called := process libraries deliverer submission ⟨store, registry⟩
    ∃ call : Call Value, call.result = called.1.result ∧
      Machine.Reaches (System.step deliverer) ⟨store, registry, calls⟩
        ⟨called.2.store, called.2.registry, calls ++ [call]⟩ := by
  have made : Machine.Reaches (System.step deliverer) ⟨store, registry, calls⟩
      ⟨store, registry, calls ++ [⟨.new submission.url submission.payload,
        lookup libraries store (.new submission.url submission.payload)⟩]⟩ :=
    ⟨[.process (.new submission.url submission.payload), .lookup calls.length],
      lookup_step deliverer store calls (.new submission.url submission.payload) registry⟩
  unfold lookup at made
  unfold process
  dsimp only at made ⊢
  split
  · rename_i cached hit
    rw [hit] at made
    exact ⟨_, rfl, made⟩
  · rename_i missed
    rw [missed] at made
    obtain ⟨⟨final, progress⟩, passed, reached⟩ := deliver_scheduled deliverer store calls alone
      (.new submission.url submission.payload) registry
    generalize deliver libraries.circuitKey deliverer submission.turns
      (.new submission.url submission.payload) registry = run at passed reached
    have delivered := made.trans reached
    have same := passed.payload
    dsimp only at same
    obtain ⟨ending, breakers, log⟩ := run
    cases progress with
    | attempting => cases passed.next
    | sending permit => exact absurd rfl (passed.replied permit)
    | delivered =>
        cases passed.next
        dsimp only
        rw [← same]
        exact ⟨_, rfl, delivered.trans (Machine.reaches_of_step _
          (record_delivered_step deliverer store calls submission.recordedAt final breakers))⟩
    | failed error =>
        cases passed.next
        dsimp only
        rw [← same]
        exact ⟨_, rfl, delivered.trans (Machine.reaches_of_step _
          (record_failed_step deliverer store calls submission.recordedAt final error breakers))⟩
    | panicked =>
        cases passed.next
        exact ⟨_, rfl, delivered⟩

end Schedule

theorem history_scheduled {libraries : Libraries Value} (deliverer : WebhookDeliverer)
    (registry : CircuitBreakerRegistry) (submissions : List (Submission Value))
    (alone : ∀ submission ∈ submissions, ∀ number, (submission.turns number).Alone) :
    let history := History.reached libraries deliverer registry submissions
    ∃ calls : List (Call Value),
      calls.map Call.result = history.answers.map Answer.result ∧
        Machine.Reaches (System.step deliverer)
          (System.start libraries (IdempotencyStore.empty libraries) registry)
          ⟨history.processor.store, history.processor.registry, calls⟩ := by
  refine Machine.run_invariant_of_visits (History.step deliverer)
    (fun history => ∃ calls : List (Call Value),
      calls.map Call.result = history.answers.map Answer.result ∧
        Machine.Reaches (System.step deliverer)
          (System.start libraries (IdempotencyStore.empty libraries) registry)
          ⟨history.processor.store, history.processor.registry, calls⟩)
    submissions _ ?_ ⟨[], rfl, .refl _⟩
  rintro ⟨history, submission⟩ member ⟨calls, results, reached⟩
  have made : submission ∈ submissions := by
    obtain ⟨before, after, split, _⟩ := (Machine.mem_visits_iff _ _ _ _ _).mp member
    rw [split]
    exact List.mem_append_right _ List.mem_cons_self
  obtain ⟨call, result, later⟩ := process_scheduled deliverer history.processor.store calls
    submission (alone submission made) history.processor.registry
  refine ⟨calls ++ [call], ?_, reached.trans later⟩
  rw [List.map_append, results, List.map_singleton, result, ← List.map_singleton,
    ← List.map_append]
  rfl

end AnchorKit.Webhook
