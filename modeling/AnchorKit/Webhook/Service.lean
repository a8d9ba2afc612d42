import AnchorKit.Webhook.Tables

/-!
# The processor in service

`System.step` has neither a call that ends early nor a cleanup.  Here a call may end at
any of the points where it waits: its future is dropped, or the store fails it.  The
permit it holds then is dropped with it, and reports a failure.  Old records are cleaned
up between any two steps, and the clock that the breakers read only goes forward.

The store of the processor is a map; the table of `idempotency.rs` is kept in step with it
by one statement for each record and each cleanup.
-/

set_option autoImplicit false

namespace AnchorKit.Webhook

open AnchorKit.Base
open AnchorKit.Base.Rfc3339

variable {Value : Type} {libraries : Libraries Value}

def IdempotencyStore.cleanupOldRecords (store : IdempotencyStore libraries) (daysAgo : Nat) :
    IdempotencyStore libraries where
  rows := fun key => (store.rows key).filter fun row => decide (daysAgo ≤ row.createdAt)
  readable := by
    intro key row found
    exact store.readable key row (Option.filter_eq_some_iff.mp found).1

/-! ## The service -/

/-- A call whose future was dropped, or that the store failed, is over as one that has
panicked is: it goes no further and has recorded nothing. -/
def System.abandon (deliverer : WebhookDeliverer) (now : Nat) (system : System libraries)
    (number : Nat) : System libraries :=
  match system.calls[number]? with
  | none => system
  | some ⟨_, .finished _⟩ => system
  | some ⟨delivery, .delivering (.sending permit)⟩ =>
      { system.move number ⟨delivery, .delivering .panicked⟩ with
        registry := resolve libraries.circuitKey deliverer now delivery.url permit .dropped
          system.registry }
  | some ⟨delivery, _⟩ => system.move number ⟨delivery, .delivering .panicked⟩

structure Service (libraries : Libraries Value) where
  system : System libraries
  clock : Nat

/-- The time of a record and that of a cleanup are read from the wall clock. -/
inductive Incident (Value : Type) where
  | process (delivery : WebhookDelivery Value)
  | lookup (number : Nat)
  | attempt (number : Nat)
  | answer (number : Nat) (reply : Reply)
  | record (number : Nat) (createdAt : Nat)
  | abandon (number : Nat)
  | cleanupOldRecords (daysAgo : Nat)
  | elapse (duration : Nat)

variable (deliverer : WebhookDeliverer)

def Service.step (service : Service libraries) : Incident Value → Service libraries
  | .process delivery =>
      { service with system := service.system.step deliverer (.process delivery) }
  | .lookup number =>
      { service with system := service.system.step deliverer (.lookup number) }
  | .attempt number =>
      { service with system := service.system.step deliverer (.attempt number service.clock) }
  | .answer number reply =>
      { service with
        system := service.system.step deliverer (.answer number service.clock reply) }
  | .record number createdAt =>
      { service with system := service.system.step deliverer (.record number createdAt) }
  | .abandon number =>
      { service with system := service.system.abandon deliverer service.clock number }
  | .cleanupOldRecords daysAgo =>
      { service with
        system := { service.system with
          store := service.system.store.cleanupOldRecords daysAgo } }
  | .elapse duration => { service with clock := service.clock + duration }

/-- No breaker has been used yet; the table may be an old one. -/
def Service.start (store : IdempotencyStore libraries) (clock : Nat) : Service libraries where
  system := System.start libraries store fun _ => none
  clock := clock

def Service.reached (store : IdempotencyStore libraries) (clock : Nat)
    (incidents : List (Incident Value)) : Service libraries :=
  Machine.run (Service.step deliverer) (Service.start store clock) incidents

def Service.visits (store : IdempotencyStore libraries) (clock : Nat)
    (incidents : List (Incident Value)) : List (Service libraries × Incident Value) :=
  Machine.visits (Service.step deliverer) (Service.start store clock) incidents

/-! ## What one incident does -/

/-- Whether a call at this point can end early without a permit in its hands. -/
def Phase.waits : Phase Value → Bool
  | .lookingUp => true
  | .delivering (.sending _) => false
  | .delivering _ => true
  | .finished _ => false

/-- Everything an incident may do to the calls, the store, the breakers and the clock. -/
inductive Takes (service : Service libraries) : Incident Value → Service libraries → Prop
  | idle (incident : Incident Value)
      (grounded : ∀ number reply, incident = .answer number reply → ∀ delivery permit,
        service.system.calls[number]? ≠ some ⟨delivery, .delivering (.sending permit)⟩) :
      Takes service incident service
  | made (delivery : WebhookDelivery Value) :
      Takes service (.process delivery)
        { service with
          system.calls := service.system.calls ++ [⟨delivery, .lookingUp⟩] }
  | hit (number : Nat) {delivery : WebhookDelivery Value} (result : ProcessingResult Value)
      (found : service.system.calls[number]? = some ⟨delivery, .lookingUp⟩)
      (duplicate : result.isDuplicate = true) :
      Takes service (.lookup number)
        { service with
          system := service.system.move number ⟨delivery, .finished (.ok result)⟩ }
  | missed (number : Nat) {delivery : WebhookDelivery Value}
      (found : service.system.calls[number]? = some ⟨delivery, .lookingUp⟩)
      (absent : ¬ service.system.store.Has (deriveIdempotencyKey libraries delivery.payload)) :
      Takes service (.lookup number)
        { service with
          system := service.system.move number ⟨delivery, .delivering .attempting⟩ }
  | attempted (number : Nat) {delivery : WebhookDelivery Value} {begun : Delivering Value}
      {registry : CircuitBreakerRegistry}
      (found : service.system.calls[number]? = some ⟨delivery, .delivering .attempting⟩)
      (begins : beginAttempt libraries.circuitKey deliverer service.clock delivery
        service.system.registry = (begun, registry)) :
      Takes service (.attempt number)
        { service with
          system :=
            { service.system.move number ⟨begun.delivery, .delivering begun.progress⟩ with
              registry := registry } }
  | answered (number : Nat) (reply : Reply) {delivery : WebhookDelivery Value}
      {permit : Option Permit} {settled : Delivering Value} {registry : CircuitBreakerRegistry}
      (found : service.system.calls[number]? =
        some ⟨delivery, .delivering (.sending permit)⟩)
      (settles : settleAttempt libraries.circuitKey deliverer service.clock delivery permit
        reply service.system.registry = (settled, registry)) :
      Takes service (.answer number reply)
        { service with
          system :=
            { service.system.move number ⟨settled.delivery, .delivering settled.progress⟩ with
              registry := registry } }
  | recorded (number createdAt : Nat) {delivery : WebhookDelivery Value}
      (found : service.system.calls[number]? = some ⟨delivery, .delivering .delivered⟩) :
      Takes service (.record number createdAt)
        { service with
          system :=
            { service.system.move number ⟨delivery,
                (recordDelivered libraries createdAt delivery service.system.store).1⟩ with
              store :=
                (recordDelivered libraries createdAt delivery service.system.store).2 } }
  | recordedFailure (number createdAt : Nat) {delivery : WebhookDelivery Value}
      {error : WebhookError}
      (found : service.system.calls[number]? = some ⟨delivery, .delivering (.failed error)⟩) :
      Takes service (.record number createdAt)
        { service with
          system :=
            { service.system.move number ⟨delivery,
                (recordFailed libraries createdAt delivery error service.system.store).1⟩ with
              store :=
                (recordFailed libraries createdAt delivery error service.system.store).2 } }
  | dropped (number : Nat) {delivery : WebhookDelivery Value} {permit : Option Permit}
      (found : service.system.calls[number]? =
        some ⟨delivery, .delivering (.sending permit)⟩) :
      Takes service (.abandon number)
        { service with
          system :=
            { service.system.move number ⟨delivery, .delivering .panicked⟩ with
              registry := resolve libraries.circuitKey deliverer service.clock delivery.url
                permit .dropped service.system.registry } }
  | abandoned (number : Nat) {call : Call Value}
      (found : service.system.calls[number]? = some call) (waits : call.phase.waits = true) :
      Takes service (.abandon number)
        { service with
          system := service.system.move number ⟨call.delivery, .delivering .panicked⟩ }
  | cleaned (daysAgo : Nat) :
      Takes service (.cleanupOldRecords daysAgo)
        { service with
          system.store := service.system.store.cleanupOldRecords daysAgo }
  | elapsed (duration : Nat) :
      Takes service (.elapse duration) { service with clock := service.clock + duration }

theorem lookup_takes (service : Service libraries) {number : Nat}
    {delivery : WebhookDelivery Value}
    (found : service.system.calls[number]? = some ⟨delivery, .lookingUp⟩) :
    Takes deliverer service (.lookup number)
      { service with
        system := service.system.move number
          ⟨delivery, lookup libraries service.system.store delivery⟩ } := by
  have agrees := service.system.store.get_isSome
    (deriveIdempotencyKey libraries delivery.payload)
  unfold lookup
  dsimp only
  split
  · exact .hit number _ found rfl
  · rename_i unread
    refine .missed number found ?_
    intro has
    rw [unread, has] at agrees
    cases agrees

theorem abandon_takes (service : Service libraries) (number : Nat) :
    Takes deliverer service (.abandon number)
      { service with system := service.system.abandon deliverer service.clock number } := by
  unfold System.abandon
  split
  · exact .idle _ nofun
  · exact .idle _ nofun
  · rename_i found
    exact .dropped number found
  · rename_i delivery phase running inFlight found
    refine .abandoned number found ?_
    cases phase with
    | lookingUp => rfl
    | finished result => exact absurd rfl (running result)
    | delivering progress =>
        cases progress with
        | sending permit => exact absurd rfl (inFlight permit)
        | _ => rfl

theorem step_takes (service : Service libraries) (incident : Incident Value) :
    Takes deliverer service incident (service.step deliverer incident) := by
  cases incident with
  | process delivery => exact .made delivery
  | lookup number =>
      dsimp only [Service.step, System.step]
      split
      · rename_i found
        exact lookup_takes deliverer service found
      · exact .idle _ nofun
  | attempt number =>
      dsimp only [Service.step, System.step]
      split
      · rename_i found
        exact .attempted number found rfl
      · exact .idle _ nofun
  | answer number reply =>
      dsimp only [Service.step, System.step]
      split
      · rename_i found
        exact .answered number reply found rfl
      · rename_i grounded
        refine .idle _ ?_
        rintro _ _ ⟨⟩
        exact grounded
  | record number createdAt =>
      dsimp only [Service.step, System.step]
      split
      · rename_i found
        exact .recorded number createdAt found
      · rename_i found
        exact .recordedFailure number createdAt found
      · exact .idle _ nofun
  | abandon number => exact abandon_takes deliverer service number
  | cleanupOldRecords daysAgo => exact .cleaned daysAgo
  | elapse duration => exact .elapsed duration

/-! ## The table behind the store -/

def Keyed (table : List IdempotencyRecord) : Prop :=
  table.Pairwise fun first second => first.idempotencyKey ≠ second.idempotencyKey

theorem Keyed.record {table : List IdempotencyRecord} (keyed : Keyed table) (now : Instant)
    (key payload response : String) :
    Keyed (IdempotencyTable.record table now key payload response) := by
  unfold IdempotencyTable.record
  split
  · exact keyed
  · rename_i absent
    refine List.pairwise_append.mpr ⟨keyed, List.pairwise_singleton _ _, ?_⟩
    intro row member new here
    rw [List.mem_singleton.mp here]
    intro same
    exact absent (List.any_eq_true.mpr ⟨row, member, beq_iff_eq.mpr same⟩)

theorem Keyed.filter {table : List IdempotencyRecord} (keyed : Keyed table)
    (keep : IdempotencyRecord → Bool) : Keyed (table.filter keep) :=
  List.Pairwise.filter keep keyed

theorem Keyed.find?_filter {table : List IdempotencyRecord} (keyed : Keyed table)
    (keep : IdempotencyRecord → Bool) (key : String) :
    (table.filter keep).find? (fun row => row.idempotencyKey == key) =
      (table.find? fun row => row.idempotencyKey == key).filter keep := by
  induction table with
  | nil => rfl
  | cons row rest ih =>
      obtain ⟨others, keyedRest⟩ := List.pairwise_cons.mp keyed
      by_cases same : row.idempotencyKey = key
      · have absent : rest.find? (fun row => row.idempotencyKey == key) = none := by
          rw [List.find?_eq_none]
          intro other member taken
          exact others other member (same.trans (beq_iff_eq.mp taken).symm)
        cases kept : keep row with
        | true => simp [kept, same, Option.filter]
        | false => simp [kept, same, ih keyedRest, absent, Option.filter]
      · cases kept : keep row with
        | true => simp [kept, same, ih keyedRest]
        | false => simp [kept, same, ih keyedRest]

/-- The table holds what the store of the model does. -/
structure Behind (table : List IdempotencyRecord) (store : IdempotencyStore libraries) :
    Prop where
  keyed : Keyed table
  rows : store.rows = rowsOf table

/-- What a statement does to the table. -/
inductive Writes (table : List IdempotencyRecord) : List IdempotencyRecord → Prop
  | nothing : Writes table table
  | record (now : Instant) (key payload response : String) :
      Writes table (IdempotencyTable.record table now key payload response)
  | cleanup (now : Instant) (retentionDays : Int32) {deleted : Nat}
      {left : List IdempotencyRecord}
      (cleaned : Webhook.cleanupOldRecords table now retentionDays = some (deleted, left)) :
      Writes table left

def Incident.Timed : Incident Value → Prop
  | .record _ createdAt => ∃ now : Instant, createdAt = now.nanos
  | .cleanupOldRecords daysAgo => ∃ (now : Instant) (retentionDays : Int32) (cutoff : Instant),
      minusDays now retentionDays.toInt = some cutoff ∧ daysAgo = cutoff.nanos
  | _ => True

section Behind

variable {table : List IdempotencyRecord} {store : IdempotencyStore libraries}

theorem Behind.record (behind : Behind table store) (now : Instant) (key : String)
    (payload : Value) (response : List (String × Scalar)) :
    ∃ after, Writes table after ∧
      Behind after (store.record libraries now.nanos key payload response) := by
  refine ⟨_, .record now key (libraries.toString payload)
    (libraries.toString (libraries.object response)), behind.keyed.record .., ?_⟩
  rw [rowsOf_record, ← behind.rows]
  rfl

theorem Behind.cleanup (behind : Behind table store) {now cutoff : Instant}
    {retentionDays : Int32} (inRange : minusDays now retentionDays.toInt = some cutoff) :
    ∃ after, Writes table after ∧ Behind after (store.cleanupOldRecords cutoff.nanos) := by
  refine ⟨_, .cleanup now retentionDays (cleanupOldRecords_eq inRange table),
    behind.keyed.filter _, ?_⟩
  funext key
  unfold IdempotencyStore.cleanupOldRecords rowsOf
  dsimp only
  rw [behind.rows, rowsOf, behind.keyed.find?_filter]
  cases table.find? fun row => row.idempotencyKey == key with
  | none => rfl
  | some row =>
      by_cases young : cutoff.nanos ≤ row.created.nanos
      · simp [young, Option.filter]
      · simp [young, Option.filter]

theorem Behind.step {service : Service libraries} (behind : Behind table service.system.store)
    {incident : Incident Value} (timed : incident.Timed) :
    ∃ after, Writes table after ∧
      Behind after (service.step deliverer incident).system.store := by
  have takes := step_takes deliverer service incident
  generalize service.step deliverer incident = next at takes
  cases takes with
  | recorded number createdAt found =>
      obtain ⟨now, rfl⟩ := timed
      exact behind.record now _ _ _
  | recordedFailure number createdAt found =>
      obtain ⟨now, rfl⟩ := timed
      exact behind.record now _ _ _
  | cleaned daysAgo =>
      obtain ⟨now, retentionDays, cutoff, inRange, rfl⟩ := timed
      exact behind.cleanup inRange
  | _ => exact ⟨table, .nothing, behind⟩

/-- Along every run the statements keep a table that holds what the store does. -/
theorem Behind.reached (behind : Behind table store) (clock : Nat)
    (incidents : List (Incident Value)) (timed : ∀ incident ∈ incidents, incident.Timed) :
    ∃ after, Relation.ReflTransGen Writes table after ∧
      Behind after (Service.reached deliverer store clock incidents).system.store := by
  induction incidents using List.reverseRecOn with
  | nil => exact ⟨table, .refl, behind⟩
  | append_singleton earlier incident ih =>
      obtain ⟨before, written, held⟩ :=
        ih fun other member => timed other (List.mem_append_left _ member)
      obtain ⟨after, writes, holds⟩ :=
        held.step deliverer (timed incident (List.mem_append_right _ (List.mem_singleton_self _)))
      refine ⟨after, written.tail writes, ?_⟩
      rw [Service.reached, Machine.run_append]
      exact holds

end Behind

end AnchorKit.Webhook
