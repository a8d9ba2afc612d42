import AnchorKit.Webhook.Delivery

/-!
# Idempotent processing, of `processor.rs` and `idempotency.rs`

`process` looks its key up, delivers on a miss and records the response.  It awaits
the lookup, every request and the record, so concurrent calls interleave there:
`System.step` runs one call from one of these points to the next, and an action at
a point where the call does not stand does nothing.  A call that is never
scheduled again has been abandoned.

The storage has no errors and no row is ever cleaned up.
-/

set_option autoImplicit false

namespace AnchorKit.Webhook

open AnchorKit.Base

inductive Scalar where
  | null
  | bool (value : Bool)
  | number (value : Nat)
  | string (value : String)
  deriving DecidableEq, Repr

/-- What the crate takes from `serde_json`, `sha2` and `reqwest`.  The text of a
built object can be read back. -/
structure Libraries (Value : Type) where
  toString : Value → String
  fromStr : String → Option Value
  object : List (String × Scalar) → Value
  sha256Hex : String → String
  circuitKey : String → Option String
  reads : ∀ members, (fromStr (toString (object members))).isSome = true

variable {Value : Type} (libraries : Libraries Value)

def deriveIdempotencyKey (payload : Value) : String :=
  libraries.sha256Hex (libraries.toString payload)

/-! ## The store -/

structure Row where
  payload : String
  response : String
  createdAt : Nat

/-- The table of recorded responses, each of which was written from an object. -/
structure IdempotencyStore where
  rows : String → Option Row
  readable : ∀ key row, rows key = some row →
    (libraries.fromStr row.response).isSome = true

/-- A row whose response does not parse counts as absent. -/
def IdempotencyStore.get (store : IdempotencyStore libraries) (key : String) :
    Option Value :=
  (store.rows key).bind fun row => libraries.fromStr row.response

def newRow (now : Nat) (payload : Value) (response : List (String × Scalar)) : Row where
  payload := libraries.toString payload
  response := libraries.toString (libraries.object response)
  createdAt := now

/-- `INSERT OR IGNORE`. -/
def IdempotencyStore.record (store : IdempotencyStore libraries) (now : Nat)
    (key : String) (payload : Value) (response : List (String × Scalar)) :
    IdempotencyStore libraries where
  rows := Function.update store.rows key
    (some ((store.rows key).getD (newRow libraries now payload response)))
  readable := by
    intro other row found
    by_cases same : other = key
    · subst other
      rw [Function.update_self] at found
      cases Option.some.inj found
      cases before : store.rows key with
      | none => exact libraries.reads response
      | some old => exact store.readable key old before
    · rw [Function.update_of_ne same] at found
      exact store.readable other row found

variable {libraries}

theorem IdempotencyStore.get_isSome (store : IdempotencyStore libraries) (key : String) :
    (store.get libraries key).isSome = (store.rows key).isSome := by
  unfold IdempotencyStore.get
  cases found : store.rows key with
  | none => rfl
  | some row => exact store.readable key row found

def IdempotencyStore.Has (store : IdempotencyStore libraries) (key : String) : Prop :=
  (store.rows key).isSome = true

theorem IdempotencyStore.has_record (store : IdempotencyStore libraries) (now : Nat)
    (key : String) (payload : Value) (response : List (String × Scalar)) :
    (store.record libraries now key payload response).Has key := by
  simp [IdempotencyStore.Has, IdempotencyStore.record]

theorem IdempotencyStore.Has.record {store : IdempotencyStore libraries} {key : String}
    (has : store.Has key) (now : Nat) (other : String) (payload : Value)
    (response : List (String × Scalar)) :
    (store.record libraries now other payload response).Has key := by
  by_cases same : key = other
  · subst other
    exact store.has_record now key payload response
  · have kept : (store.record libraries now other payload response).rows key =
        store.rows key := Function.update_of_ne same _ _
    unfold IdempotencyStore.Has
    rw [kept]
    exact has

/-! ## Calls of `process` -/

structure ProcessingResult (Value : Type) where
  idempotencyKey : String
  isDuplicate : Bool
  response : Value

inductive Phase (Value : Type) where
  | lookingUp
  | delivering (progress : Progress)
  | finished (result : Except WebhookError (ProcessingResult Value))

structure Call (Value : Type) where
  delivery : WebhookDelivery Value
  phase : Phase Value

/-- `{"delivered": true, "attempt": .., "status_code": ..}`. -/
def deliveredResponse (delivery : WebhookDelivery Value) : List (String × Scalar) :=
  [("delivered", .bool true), ("attempt", .number delivery.attempt.toNat),
    ("status_code", match delivery.statusCode with
      | some status => .number status.toNat
      | none => .null)]

/-- `{"delivered": false, "error": ..}`. -/
def failedResponse (error : WebhookError) : List (String × Scalar) :=
  [("delivered", .bool false), ("error", .string error.toString)]

variable (libraries)

def lookup (store : IdempotencyStore libraries) (delivery : WebhookDelivery Value) :
    Phase Value :=
  let key := deriveIdempotencyKey libraries delivery.payload
  match store.get libraries key with
  | some cached => .finished (.ok ⟨key, true, cached⟩)
  | none => .delivering .attempting

def recordDelivered (now : Nat) (delivery : WebhookDelivery Value)
    (store : IdempotencyStore libraries) : Phase Value × IdempotencyStore libraries :=
  let key := deriveIdempotencyKey libraries delivery.payload
  (.finished (.ok ⟨key, false, libraries.object (deliveredResponse delivery)⟩),
    store.record libraries now key delivery.payload (deliveredResponse delivery))

/-- A failure is recorded under an empty payload. -/
def recordFailed (now : Nat) (delivery : WebhookDelivery Value) (error : WebhookError)
    (store : IdempotencyStore libraries) : Phase Value × IdempotencyStore libraries :=
  let key := deriveIdempotencyKey libraries delivery.payload
  (.finished (.error error),
    store.record libraries now key (libraries.object []) (failedResponse error))

/-! ## Concurrent calls -/

/-- The calls made so far, under the number they were made with, and what they
share. -/
structure System where
  store : IdempotencyStore libraries
  registry : CircuitBreakerRegistry
  calls : List (Call Value)

def System.start (store : IdempotencyStore libraries)
    (registry : CircuitBreakerRegistry) : System libraries where
  store := store
  registry := registry
  calls := []

inductive Action (Value : Type) where
  | process (delivery : WebhookDelivery Value)
  | lookup (number : Nat)
  | attempt (number : Nat) (now : Nat)
  | answer (number : Nat) (now : Nat) (reply : Reply)
  | record (number : Nat) (now : Nat)

variable {libraries}

def System.move (system : System libraries) (number : Nat) (call : Call Value) :
    System libraries :=
  { system with calls := system.calls.set number call }

variable (deliverer : WebhookDeliverer)

def System.step (system : System libraries) : Action Value → System libraries
  | .process delivery =>
      { system with calls := system.calls ++ [⟨delivery, .lookingUp⟩] }
  | .lookup number =>
      match system.calls[number]? with
      | some ⟨delivery, .lookingUp⟩ =>
          system.move number ⟨delivery, Webhook.lookup libraries system.store delivery⟩
      | _ => system
  | .attempt number now =>
      match system.calls[number]? with
      | some ⟨delivery, .delivering .attempting⟩ =>
          let (begun, registry) :=
            beginAttempt libraries.circuitKey deliverer now delivery system.registry
          { system.move number ⟨begun.delivery, .delivering begun.progress⟩ with
            registry := registry }
      | _ => system
  | .answer number now reply =>
      match system.calls[number]? with
      | some ⟨delivery, .delivering (.sending permit)⟩ =>
          let (settled, registry) := settleAttempt libraries.circuitKey deliverer now
            delivery permit reply system.registry
          { system.move number ⟨settled.delivery, .delivering settled.progress⟩ with
            registry := registry }
      | _ => system
  | .record number now =>
      match system.calls[number]? with
      | some ⟨delivery, .delivering .delivered⟩ =>
          let (phase, store) := recordDelivered libraries now delivery system.store
          { system.move number ⟨delivery, phase⟩ with store := store }
      | some ⟨delivery, .delivering (.failed error)⟩ =>
          let (phase, store) := recordFailed libraries now delivery error system.store
          { system.move number ⟨delivery, phase⟩ with store := store }
      | _ => system

def System.visits (store : IdempotencyStore libraries) (registry : CircuitBreakerRegistry)
    (actions : List (Action Value)) : List (System libraries × Action Value) :=
  Machine.visits (System.step deliverer) (System.start libraries store registry) actions

/-! ## What one action does -/

/-- Everything an action may do.  A lookup is a hit exactly if the key is recorded,
an attempt never delivers, and an answer delivers if its status is 2xx. -/
inductive Moves (system : System libraries) : Action Value → System libraries → Prop
  | idle (action : Action Value) : Moves system action system
  | made (delivery : WebhookDelivery Value) :
      Moves system (.process delivery)
        { system with calls := system.calls ++ [⟨delivery, .lookingUp⟩] }
  | hit (number : Nat) {delivery : WebhookDelivery Value} (result : ProcessingResult Value)
      (found : system.calls[number]? = some ⟨delivery, .lookingUp⟩)
      (duplicate : result.isDuplicate = true) :
      Moves system (.lookup number) (system.move number ⟨delivery, .finished (.ok result)⟩)
  | missed (number : Nat) {delivery : WebhookDelivery Value}
      (found : system.calls[number]? = some ⟨delivery, .lookingUp⟩)
      (absent : ¬ system.store.Has (deriveIdempotencyKey libraries delivery.payload)) :
      Moves system (.lookup number) (system.move number ⟨delivery, .delivering .attempting⟩)
  | attempted (number now : Nat) {delivery : WebhookDelivery Value}
      (begun : Delivering Value) (registry : CircuitBreakerRegistry)
      (found : system.calls[number]? = some ⟨delivery, .delivering .attempting⟩)
      (same : begun.delivery.payload = delivery.payload)
      (pending : begun.progress ≠ .delivered) :
      Moves system (.attempt number now)
        { system.move number ⟨begun.delivery, .delivering begun.progress⟩ with
          registry := registry }
  | answered (number now : Nat) (reply : Reply) {delivery : WebhookDelivery Value}
      {permit : Option Permit} (settled : Delivering Value)
      (registry : CircuitBreakerRegistry)
      (found : system.calls[number]? = some ⟨delivery, .delivering (.sending permit)⟩)
      (same : settled.delivery.payload = delivery.payload)
      (outcome : settled.progress = .delivered ↔ reply.succeeds = true) :
      Moves system (.answer number now reply)
        { system.move number ⟨settled.delivery, .delivering settled.progress⟩ with
          registry := registry }
  | recorded (number now : Nat) {delivery : WebhookDelivery Value}
      (found : system.calls[number]? = some ⟨delivery, .delivering .delivered⟩) :
      Moves system (.record number now)
        { system.move number
            ⟨delivery, (recordDelivered libraries now delivery system.store).1⟩ with
          store := (recordDelivered libraries now delivery system.store).2 }
  | recordedFailure (number now : Nat) {delivery : WebhookDelivery Value}
      {error : WebhookError}
      (found : system.calls[number]? = some ⟨delivery, .delivering (.failed error)⟩) :
      Moves system (.record number now)
        { system.move number
            ⟨delivery, (recordFailed libraries now delivery error system.store).1⟩ with
          store := (recordFailed libraries now delivery error system.store).2 }

theorem lookup_moves (system : System libraries) {number : Nat}
    {delivery : WebhookDelivery Value}
    (found : system.calls[number]? = some ⟨delivery, .lookingUp⟩) :
    Moves system (.lookup number)
      (system.move number ⟨delivery, lookup libraries system.store delivery⟩) := by
  have agrees := system.store.get_isSome (deriveIdempotencyKey libraries delivery.payload)
  unfold lookup
  dsimp only
  split
  · exact .hit number _ found rfl
  · rename_i unread
    refine .missed number found ?_
    intro has
    rw [unread, has] at agrees
    cases agrees

theorem step_moves (system : System libraries) (action : Action Value) :
    Moves system action (system.step deliverer action) := by
  cases action with
  | process delivery => exact .made delivery
  | lookup number =>
      dsimp only [System.step]
      split
      · rename_i found
        exact lookup_moves system found
      · exact .idle _
  | attempt number now =>
      dsimp only [System.step]
      split
      · rename_i delivery found
        exact .attempted number now _ _ found (beginAttempt_payload _ _ _ _ _)
          (beginAttempt_not_delivered _ _ _ _ _)
      · exact .idle _
  | answer number now reply =>
      dsimp only [System.step]
      split
      · rename_i delivery permit found
        exact .answered number now reply _ _ found (settleAttempt_payload _ _ _ _ _ _ _)
          (settleAttempt_delivered_iff _ _ _ _ _ _ _)
      · exact .idle _
  | record number now =>
      dsimp only [System.step]
      split
      · rename_i found
        exact .recorded number now found
      · rename_i found
        exact .recordedFailure number now found
      · exact .idle _

/-! ## Deliveries of one payload -/

/-- Whether the call can still deliver, or has delivered without recording it. -/
def Phase.unsettled : Phase Value → Bool
  | .delivering .attempting => true
  | .delivering (.sending _) => true
  | .delivering .delivered => true
  | _ => false

def Phase.settled : Phase Value → Bool
  | .finished (.ok result) => !result.isDuplicate
  | _ => false

def Phase.hasDelivered (phase : Phase Value) : Bool :=
  match phase with
  | .delivering .delivered => true
  | _ => phase.settled

section Payload

variable [DecidableEq Value]

/-- A request that carries the payload is answered with a 2xx status. -/
def delivers (payload : Value) (visit : System libraries × Action Value) : Bool :=
  match visit.2 with
  | .answer number _ reply =>
      match visit.1.calls[number]? with
      | some ⟨delivery, .delivering (.sending _)⟩ =>
          decide (delivery.payload = payload) && reply.succeeds
      | _ => false
  | _ => false

/-- A call misses its lookup while another one that carries the same payload can
still deliver, or has delivered without recording it. -/
def overlaps (payload : Value) (visit : System libraries × Action Value) : Bool :=
  match visit.2 with
  | .lookup number =>
      match visit.1.calls[number]? with
      | some ⟨delivery, .lookingUp⟩ =>
          decide (delivery.payload = payload) &&
            (visit.1.store.get libraries (deriveIdempotencyKey libraries payload)).isNone &&
            visit.1.calls.any fun other =>
              decide (other.delivery.payload = payload) && other.phase.unsettled
      | _ => false
  | _ => false

end Payload

def Stands (calls : List (Call Value)) (payload : Value) (points : Phase Value → Bool)
    (number : Nat) : Prop :=
  ∃ call, calls[number]? = some call ∧ call.delivery.payload = payload ∧
    points call.phase = true

section Stands

variable {calls : List (Call Value)} {payload : Value} {points : Phase Value → Bool}
  {number other : Nat} {before after : Call Value}

theorem Stands.of_append {delivery : WebhookDelivery Value}
    (stands : Stands (calls ++ [⟨delivery, .lookingUp⟩]) payload points number)
    (silent : points .lookingUp = false) : Stands calls payload points number := by
  obtain ⟨call, found, carries, there⟩ := stands
  rw [List.getElem?_append] at found
  split at found
  · exact ⟨call, found, carries, there⟩
  · have new := List.mem_of_getElem? found
    rw [List.mem_singleton] at new
    subst call
    rw [silent] at there
    cases there

theorem Stands.append (stands : Stands calls payload points number)
    (more : List (Call Value)) : Stands (calls ++ more) payload points number := by
  obtain ⟨call, found, rest⟩ := stands
  have inside := (List.getElem?_eq_some_iff.mp found).1
  exact ⟨call, by rw [List.getElem?_append_left inside]; exact found, rest⟩

theorem Stands.of_set_ne
    (stands : Stands (calls.set number after) payload points other)
    (different : other ≠ number) : Stands calls payload points other := by
  obtain ⟨call, found, rest⟩ := stands
  rw [List.getElem?_set_ne different.symm] at found
  exact ⟨call, found, rest⟩

theorem Stands.set_ne (stands : Stands calls payload points other)
    (different : other ≠ number) :
    Stands (calls.set number after) payload points other := by
  obtain ⟨call, found, rest⟩ := stands
  exact ⟨call, by rw [List.getElem?_set_ne different.symm]; exact found, rest⟩

theorem Stands.of_set_self
    (stands : Stands (calls.set number after) payload points number) :
    after.delivery.payload = payload ∧ points after.phase = true := by
  obtain ⟨call, found, rest⟩ := stands
  have inside := (List.getElem?_eq_some_iff.mp found).1
  rw [List.length_set] at inside
  rw [List.getElem?_set_self inside] at found
  cases Option.some.inj found
  exact rest

theorem Stands.set_self (found : calls[number]? = some before)
    (carries : after.delivery.payload = payload) (there : points after.phase = true) :
    Stands (calls.set number after) payload points number := by
  have inside := (List.getElem?_eq_some_iff.mp found).1
  exact ⟨after, List.getElem?_set_self inside, carries, there⟩

theorem Stands.of_set (stands : Stands (calls.set number after) payload points other)
    (found : calls[number]? = some before)
    (same : after.delivery.payload = before.delivery.payload)
    (kept : points after.phase = true → points before.phase = true) :
    Stands calls payload points other := by
  by_cases moved : other = number
  · subst other
    obtain ⟨carries, there⟩ := stands.of_set_self
    exact ⟨before, found, same.symm.trans carries, kept there⟩
  · exact stands.of_set_ne moved

theorem Stands.set (stands : Stands calls payload points other)
    (found : calls[number]? = some before)
    (same : after.delivery.payload = before.delivery.payload)
    (kept : points before.phase = true → points after.phase = true) :
    Stands (calls.set number after) payload points other := by
  by_cases moved : other = number
  · subst other
    obtain ⟨call, foundAgain, carries, there⟩ := stands
    rw [found] at foundAgain
    cases Option.some.inj foundAgain
    exact .set_self found (same.trans carries) (kept there)
  · exact stands.set_ne moved

end Stands

/-- At most one call that carries the payload is unsettled, and none is once a
delivery of it has been recorded. -/
structure Exclusive (payload : Value) (system : System libraries) : Prop where
  unique : ∀ first second, Stands system.calls payload Phase.unsettled first →
    Stands system.calls payload Phase.unsettled second → first = second
  stored : ∀ number, Stands system.calls payload Phase.settled number →
    system.store.Has (deriveIdempotencyKey libraries payload) ∧
      ∀ other, ¬ Stands system.calls payload Phase.unsettled other

section Invariant

variable {system later : System libraries} {payload : Value} {action : Action Value}

theorem Exclusive.of_subset (exclusive : Exclusive payload system)
    (unsettled : ∀ number, Stands later.calls payload Phase.unsettled number →
      Stands system.calls payload Phase.unsettled number)
    (settled : ∀ number, Stands later.calls payload Phase.settled number →
      Stands system.calls payload Phase.settled number)
    (kept : system.store.Has (deriveIdempotencyKey libraries payload) →
      later.store.Has (deriveIdempotencyKey libraries payload)) :
    Exclusive payload later where
  unique := by
    intro first second firstStands secondStands
    exact exclusive.unique first second (unsettled first firstStands)
      (unsettled second secondStands)
  stored := by
    intro number stands
    obtain ⟨has, nobody⟩ := exclusive.stored number (settled number stands)
    exact ⟨kept has, fun other waiting => nobody other (unsettled other waiting)⟩

theorem Exclusive.quiet_move (exclusive : Exclusive payload system) {number : Nat}
    {before after : Call Value} (found : system.calls[number]? = some before)
    (moved : later.calls = system.calls.set number after)
    (same : after.delivery.payload = before.delivery.payload)
    (unsettled : after.phase.unsettled = true → before.phase.unsettled = true)
    (settled : after.phase.settled = true → before.phase.settled = true)
    (kept : system.store.Has (deriveIdempotencyKey libraries payload) →
      later.store.Has (deriveIdempotencyKey libraries payload)) :
    Exclusive payload later := by
  apply exclusive.of_subset
  · intro other stands
    rw [moved] at stands
    exact stands.of_set found same unsettled
  · intro other stands
    rw [moved] at stands
    exact stands.of_set found same settled
  · exact kept

theorem Exclusive.missed (exclusive : Exclusive payload system) {number : Nat}
    {delivery : WebhookDelivery Value}
    (found : system.calls[number]? = some ⟨delivery, .lookingUp⟩)
    (absent : ¬ system.store.Has (deriveIdempotencyKey libraries delivery.payload))
    (nobody : delivery.payload = payload →
      ∀ other, ¬ Stands system.calls payload Phase.unsettled other) :
    Exclusive payload (system.move number ⟨delivery, .delivering .attempting⟩) := by
  have settledBefore : ∀ other,
      Stands (system.calls.set number ⟨delivery, .delivering .attempting⟩) payload
        Phase.settled other → Stands system.calls payload Phase.settled other :=
    fun other stands => stands.of_set found rfl nofun
  by_cases carries : delivery.payload = payload
  · constructor
    · have onlyHere : ∀ other,
          Stands (system.calls.set number ⟨delivery, .delivering .attempting⟩) payload
            Phase.unsettled other → other = number := by
        intro other stands
        apply Decidable.byContradiction
        intro different
        exact nobody carries other (stands.of_set_ne different)
      intro first second firstStands secondStands
      exact (onlyHere first firstStands).trans (onlyHere second secondStands).symm
    · intro other stands
      have has := (exclusive.stored other (settledBefore other stands)).1
      rw [carries] at absent
      exact absurd has absent
  · refine exclusive.of_subset ?_ settledBefore id
    intro other stands
    by_cases moved : other = number
    · subst other
      exact absurd stands.of_set_self.1 carries
    · exact stands.of_set_ne moved

theorem Exclusive.recorded (exclusive : Exclusive payload system) {number now : Nat}
    {delivery : WebhookDelivery Value}
    (found : system.calls[number]? = some ⟨delivery, .delivering .delivered⟩)
    (moved : later.calls = system.calls.set number
      ⟨delivery, (recordDelivered libraries now delivery system.store).1⟩)
    (stored : later.store = (recordDelivered libraries now delivery system.store).2) :
    Exclusive payload later := by
  have unsettledBefore : ∀ other, Stands later.calls payload Phase.unsettled other →
      Stands system.calls payload Phase.unsettled other := by
    intro other stands
    rw [moved] at stands
    exact stands.of_set found rfl nofun
  by_cases carries : delivery.payload = payload
  · have waiting : Stands system.calls payload Phase.unsettled number :=
      ⟨_, found, carries, rfl⟩
    have nobody : ∀ other, ¬ Stands later.calls payload Phase.unsettled other := by
      intro other stands
      have same := exclusive.unique other number (unsettledBefore other stands) waiting
      subst other
      rw [moved] at stands
      cases stands.of_set_self.2
    constructor
    · intro first _ firstStands _
      exact absurd firstStands (nobody first)
    · intro _ _
      refine ⟨?_, nobody⟩
      rw [stored, ← carries]
      exact system.store.has_record now _ _ _
  · refine exclusive.of_subset unsettledBefore ?_ ?_
    · intro other stands
      rw [moved] at stands
      by_cases here : other = number
      · subst other
        exact absurd stands.of_set_self.1 carries
      · exact stands.of_set_ne here
    · intro has
      rw [stored]
      exact has.record now _ _ _

theorem nobody_unsettled [DecidableEq Value] {number : Nat}
    {delivery : WebhookDelivery Value}
    (found : system.calls[number]? = some ⟨delivery, .lookingUp⟩)
    (absent : ¬ system.store.Has (deriveIdempotencyKey libraries delivery.payload))
    (apart : overlaps payload (system, .lookup number) = false)
    (carries : delivery.payload = payload) (other : Nat) :
    ¬ Stands system.calls payload Phase.unsettled other := by
  rintro ⟨call, standing, same, there⟩
  have unread : (system.store.get libraries
      (deriveIdempotencyKey libraries payload)).isNone = true := by
    rw [← Option.not_isSome, system.store.get_isSome, ← carries]
    simpa [IdempotencyStore.Has] using absent
  have anybody : (system.calls.any fun other =>
      decide (other.delivery.payload = payload) && other.phase.unsettled) = true := by
    rw [List.any_eq_true]
    exact ⟨call, List.mem_of_getElem? standing, by simp [same, there]⟩
  simp [overlaps, found, carries, unread, anybody] at apart

theorem Exclusive.moves [DecidableEq Value] (exclusive : Exclusive payload system)
    (moves : Moves system action later)
    (apart : overlaps payload (system, action) = false) : Exclusive payload later := by
  cases moves with
  | idle _ => exact exclusive
  | made delivery =>
      exact exclusive.of_subset (fun _ stands => stands.of_append rfl)
        (fun _ stands => stands.of_append rfl) id
  | hit number result found duplicate =>
      refine exclusive.quiet_move found rfl rfl nofun ?_ id
      intro settled
      simp [Phase.settled, duplicate] at settled
  | missed number found absent =>
      exact exclusive.missed found absent (nobody_unsettled found absent apart)
  | attempted number now begun registry found same pending =>
      exact exclusive.quiet_move found rfl same (fun _ => rfl) nofun id
  | answered number now reply settled registry found same outcome =>
      exact exclusive.quiet_move found rfl same (fun _ => rfl) nofun id
  | recorded number now found => exact exclusive.recorded found rfl rfl
  | recordedFailure number now found =>
      refine exclusive.quiet_move found rfl rfl nofun nofun ?_
      intro has
      exact has.record now _ _ _

def Delivered (payload : Value) (system : System libraries) : Prop :=
  ∃ number, Stands system.calls payload Phase.hasDelivered number

theorem Delivered.moves (delivered : Delivered payload system)
    (moves : Moves system action later) : Delivered payload later := by
  obtain ⟨deliverer, stands⟩ := delivered
  refine ⟨deliverer, ?_⟩
  cases moves with
  | idle _ => exact stands
  | made delivery => exact stands.append _
  | hit number result found duplicate => exact stands.set found rfl nofun
  | missed number found absent => exact stands.set found rfl nofun
  | attempted number now begun registry found same pending =>
      exact stands.set found same nofun
  | answered number now reply settled registry found same outcome =>
      exact stands.set found same nofun
  | recorded number now found => exact stands.set found rfl (fun _ => rfl)
  | recordedFailure number now found => exact stands.set found rfl nofun

variable [DecidableEq Value]

theorem delivers_cases {visit : System libraries × Action Value}
    (fires : delivers payload visit = true) :
    ∃ number now reply delivery permit, visit.2 = .answer number now reply ∧
      visit.1.calls[number]? = some ⟨delivery, .delivering (.sending permit)⟩ ∧
      delivery.payload = payload ∧ reply.succeeds = true := by
  unfold delivers at fires
  split at fires
  · rename_i number now reply answered
    split at fires
    · rename_i delivery permit found
      simp only [Bool.and_eq_true, decide_eq_true_eq] at fires
      exact ⟨number, now, reply, delivery, permit, answered, found, fires⟩
    · cases fires
  · cases fires

theorem Exclusive.silent (exclusive : Exclusive payload system)
    (delivered : Delivered payload system) (action : Action Value) :
    delivers payload (system, action) = false := by
  apply Bool.eq_false_iff.mpr
  intro fires
  obtain ⟨number, now, reply, delivery, permit, _, found, carries, _⟩ :=
    delivers_cases fires
  have sending : Stands system.calls payload Phase.unsettled number :=
    ⟨_, found, carries, rfl⟩
  obtain ⟨other, call, standing, same, there⟩ := delivered
  unfold Phase.hasDelivered at there
  split at there
  · rename_i phase
    have alsoWaiting : Stands system.calls payload Phase.unsettled other :=
      ⟨call, standing, same, by rw [phase]; rfl⟩
    have here := exclusive.unique other number alsoWaiting sending
    subst other
    rw [found] at standing
    cases Option.some.inj standing
    cases phase
  · exact (exclusive.stored other ⟨call, standing, same, there⟩).2 number sending

theorem delivers_delivered (deliverer : WebhookDeliverer)
    (fires : delivers payload (system, action) = true) :
    Delivered payload (system.step deliverer action) := by
  obtain ⟨number, now, reply, delivery, permit, answered, found, carries, success⟩ :=
    delivers_cases fires
  dsimp only at answered found
  subst action
  simp only [System.step, found]
  refine ⟨number, Stands.set_self found ?_ ?_⟩
  · exact (settleAttempt_payload _ _ _ _ _ _ _).trans carries
  · dsimp only
    rw [(settleAttempt_delivered_iff _ _ _ _ _ _ _).mpr success]
    rfl

end Invariant

/-- In a run in which no call misses its lookup while another one that carries the
same payload is unsettled, at most one request with that payload is answered with a
2xx status. -/
theorem at_most_one_delivery_unless_overlapping [DecidableEq Value]
    (deliverer : WebhookDeliverer) (store : IdempotencyStore libraries)
    (registry : CircuitBreakerRegistry) (actions : List (Action Value)) (payload : Value)
    (apart : ∀ visit ∈ System.visits deliverer store registry actions,
      overlaps payload visit = false) :
    (System.visits deliverer store registry actions).countP (delivers payload) ≤ 1 := by
  have fresh : Exclusive payload (System.start libraries store registry) := by
    constructor
    · intro first _ stands
      obtain ⟨call, found, _⟩ := stands
      cases found
    · intro number stands
      obtain ⟨call, found, _⟩ := stands
      cases found
  have exclusive := Machine.visits_invariant (System.step deliverer) (Exclusive payload)
    actions (System.start libraries store registry)
    (fun visit member exclusive =>
      exclusive.moves (step_moves deliverer visit.1 visit.2) (apart visit member)) fresh
  apply Machine.countP_visits_le_one (System.step deliverer) (delivers payload)
    (Delivered payload)
  · intro visit member delivered
    exact (exclusive visit member).silent delivered visit.2
  · intro system action delivered
    exact delivered.moves (step_moves deliverer system action)
  · intro system action fires
    exact delivers_delivered deliverer fires

section Sample

def plainLibraries : Libraries String where
  toString := id
  fromStr := some
  object := fun members => String.intercalate "," (members.map Prod.fst)
  sha256Hex := id
  circuitKey := some
  reads := fun _ => rfl

def emptyStore : IdempotencyStore plainLibraries where
  rows := fun _ => none
  readable := nofun

def fiveAttempts : WebhookDeliverer where
  retryConfig := ⟨5⟩
  circuitBreakers := none

def serialRun : List (Action String) :=
  [.process (.new "a.example" "event"), .lookup 0, .attempt 0 0,
    .answer 0 1 (.response 500 none), .attempt 0 2, .answer 0 3 (.response 200 none),
    .record 0 4, .process (.new "a.example" "event"), .lookup 1, .attempt 1 5]

/-- Both calls look before either of them records. -/
def overlappingRun : List (Action String) :=
  [.process (.new "a.example" "event"), .process (.new "a.example" "event"),
    .lookup 0, .lookup 1, .attempt 0 0, .attempt 1 0,
    .answer 0 1 (.response 200 none), .answer 1 1 (.response 200 none),
    .record 0 2, .record 1 2]

end Sample

theorem serialRun_delivers_once :
    (System.visits fiveAttempts emptyStore (fun _ => none) serialRun).countP
        (delivers "event") = 1 ∧
      (System.visits fiveAttempts emptyStore (fun _ => none) serialRun).countP
        (delivers "event") ≤ 1 :=
  ⟨by decide +kernel, at_most_one_delivery_unless_overlapping fiveAttempts emptyStore
    (fun _ => none) serialRun "event" (by decide +kernel)⟩

/-- Two overlapping calls both find nothing, and both deliver. -/
theorem overlapping_calls_deliver_twice :
    (System.visits fiveAttempts emptyStore (fun _ => none) overlappingRun).countP
      (delivers "event") = 2 := by
  decide +kernel

end AnchorKit.Webhook
