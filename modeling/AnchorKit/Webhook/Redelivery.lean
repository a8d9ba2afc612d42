import AnchorKit.Webhook.Service

/-!
# What a repeated delivery is due to

The processor promises to deliver a payload once.  With calls that overlap, calls that
end early and records that are cleaned up, it may deliver one again, and every further
delivery has one of three causes: a lookup missed while another call was still at it, a
call ended between its delivery and its record, or the record was cleaned up.
-/

set_option autoImplicit false

namespace AnchorKit.Webhook

open AnchorKit.Base

theorem countP_set_add {α : Type} {entries : List α} {number : Nat} {before : α} (after : α)
    (counted : α → Bool) (found : entries[number]? = some before) :
    (entries.set number after).countP counted + (counted before).toNat =
      entries.countP counted + (counted after).toNat := by
  obtain ⟨inside, here⟩ := List.getElem?_eq_some_iff.mp found
  rw [List.countP_set inside, here]
  cases leaves : counted before with
  | false =>
      cases counted after with
      | false => simp
      | true => simp
  | true =>
      have member : before ∈ entries := List.mem_of_getElem? found
      have positive : 0 < entries.countP counted :=
        List.countP_pos_iff.mpr ⟨before, member, leaves⟩
      cases counted after with
      | false =>
          simp only [if_true, Bool.false_eq_true, if_false, Bool.toNat_true, Bool.toNat_false]
          omega
      | true =>
          simp only [if_true, Bool.toNat_true]
          omega

theorem countP_or_le {α : Type} (first second : α → Bool) (entries : List α) :
    entries.countP (fun entry => first entry || second entry) ≤
      entries.countP first + entries.countP second := by
  induction entries with
  | nil => simp
  | cons entry rest ih =>
      simp only [List.countP_cons]
      cases first entry with
      | true =>
          simp only [Bool.true_or, if_true]
          omega
      | false =>
          simp only [Bool.false_or, Bool.false_eq_true, if_false]
          omega

def Phase.undelivered {Value : Type} : Phase Value → Bool
  | .delivering .attempting => true
  | .delivering (.sending _) => true
  | _ => false

theorem Phase.unsettled_of_undelivered {Value : Type} {phase : Phase Value}
    (ready : phase.undelivered = true) : phase.unsettled = true := by
  cases phase with
  | lookingUp => cases ready
  | finished result => cases ready
  | delivering progress =>
      cases progress with
      | attempting => rfl
      | sending permit => rfl
      | _ => cases ready

variable {Value : Type} {libraries : Libraries Value} [DecidableEq Value]

def Call.carries (payload : Value) (points : Phase Value → Bool) (call : Call Value) : Bool :=
  decide (call.delivery.payload = payload) && points call.phase

def openCalls (payload : Value) (service : Service libraries) : Nat :=
  service.system.calls.countP (Call.carries payload Phase.undelivered)

/-- The payload is recorded, or some call is at it: a lookup of another call should not miss. -/
def claimed (payload : Value) (service : Service libraries) : Bool :=
  (service.system.store.rows (deriveIdempotencyKey libraries payload)).isSome ||
    service.system.calls.any (Call.carries payload Phase.unsettled)

def deliveredBy (payload : Value) (visit : Service libraries × Incident Value) : Bool :=
  match visit.2 with
  | .answer number reply =>
      delivers payload (visit.1.system, .answer number visit.1.clock reply)
  | _ => false

/-- A cleanup deletes the record of the payload. -/
def forgets (payload : Value) (visit : Service libraries × Incident Value) : Bool :=
  match visit.2 with
  | .cleanupOldRecords daysAgo =>
      (visit.1.system.store.rows (deriveIdempotencyKey libraries payload)).any fun row =>
        decide (row.createdAt < daysAgo)
  | _ => false

/-- A call that has delivered the payload ends before it has recorded that. -/
def loses (payload : Value) (visit : Service libraries × Incident Value) : Bool :=
  match visit.2 with
  | .abandon number =>
      match visit.1.system.calls[number]? with
      | some ⟨delivery, .delivering .delivered⟩ => decide (delivery.payload = payload)
      | _ => false
  | _ => false

/-- A lookup misses while another call is at the payload. -/
def missesBeside (payload : Value) (visit : Service libraries × Incident Value) : Bool :=
  match visit.2 with
  | .lookup number => overlaps payload (visit.1.system, .lookup number)
  | _ => false

/-- What lets the payload be delivered once more. -/
def excuses (payload : Value) (visit : Service libraries × Incident Value) : Bool :=
  missesBeside payload visit || loses payload visit || forgets payload visit

/-! ## Every step is paid for -/

/-- A delivery, and a further call that can deliver, is paid for by an excuse, by a call that
can no longer deliver, or by the payload being claimed only now. -/
def Balanced (payload : Value) (service : Service libraries) (incident : Incident Value)
    (later : Service libraries) : Prop :=
  (deliveredBy payload (service, incident)).toNat + openCalls payload later +
      (claimed payload service).toNat ≤
    (excuses payload (service, incident)).toNat + openCalls payload service +
      (claimed payload later).toNat

section Balance

variable {deliverer : WebhookDeliverer} {service later : Service libraries}
  {incident : Incident Value} {payload : Value} {number : Nat} {before after : Call Value}
  {delivery : WebhookDelivery Value}

theorem claimed_iff :
    claimed payload service = true ↔
      service.system.store.Has (deriveIdempotencyKey libraries payload) ∨
        ∃ call ∈ service.system.calls, Call.carries payload Phase.unsettled call = true := by
  rw [claimed, Bool.or_eq_true, List.any_eq_true]
  rfl

theorem Balanced.quiet (silent : deliveredBy payload (service, incident) = false)
    (calls : openCalls payload later ≤ openCalls payload service)
    (kept : claimed payload service = true → claimed payload later = true) :
    Balanced payload service incident later := by
  have claims := Bool.toNat_le_toNat kept
  unfold Balanced
  rw [silent, Bool.toNat_false]
  omega

theorem claimed_of_move (found : service.system.calls[number]? = some before)
    (moved : later.system.calls = service.system.calls.set number after)
    (stored : service.system.store.Has (deriveIdempotencyKey libraries payload) →
      later.system.store.Has (deriveIdempotencyKey libraries payload))
    (claim : claimed payload service = true)
    (stays : Call.carries payload Phase.unsettled before = true →
      Call.carries payload Phase.unsettled after = true) :
    claimed payload later = true := by
  rcases claimed_iff.mp claim with has | ⟨call, member, there⟩
  · exact claimed_iff.mpr (Or.inl (stored has))
  · refine claimed_iff.mpr (Or.inr ?_)
    obtain ⟨other, standing⟩ := List.mem_iff_getElem?.mp member
    rw [moved]
    by_cases same : other = number
    · subst other
      rw [found] at standing
      cases Option.some.inj standing
      have inside := (List.getElem?_eq_some_iff.mp found).1
      exact ⟨after, List.mem_of_getElem? (List.getElem?_set_self inside), stays there⟩
    · have kept : (service.system.calls.set number after)[other]? = some call := by
        rw [List.getElem?_set_ne (Ne.symm same), standing]
      exact ⟨call, List.mem_of_getElem? kept, there⟩

theorem Balanced.of_move (found : service.system.calls[number]? = some before)
    (moved : later.system.calls = service.system.calls.set number after)
    (stored : service.system.store.Has (deriveIdempotencyKey libraries payload) →
      later.system.store.Has (deriveIdempotencyKey libraries payload))
    (paid : (deliveredBy payload (service, incident)).toNat +
        (Call.carries payload Phase.undelivered after).toNat +
        (Call.carries payload Phase.unsettled before &&
          !Call.carries payload Phase.unsettled after).toNat ≤
      (excuses payload (service, incident)).toNat +
        (Call.carries payload Phase.undelivered before).toNat) :
    Balanced payload service incident later := by
  have counts : openCalls payload later +
      (Call.carries payload Phase.undelivered before).toNat = openCalls payload service +
        (Call.carries payload Phase.undelivered after).toNat := by
    unfold openCalls
    rw [moved]
    exact countP_set_add after _ found
  have claims : (claimed payload service).toNat ≤ (claimed payload later).toNat +
      (Call.carries payload Phase.unsettled before &&
        !Call.carries payload Phase.unsettled after).toNat := by
    cases leaves : (Call.carries payload Phase.unsettled before &&
        !Call.carries payload Phase.unsettled after) with
    | true =>
        have one := Bool.toNat_le (claimed payload service)
        simp only [Bool.toNat_true]
        omega
    | false =>
        refine Bool.toNat_le_toNat fun claim => claimed_of_move found moved stored claim ?_
        intro there
        rw [there, Bool.true_and, Bool.not_eq_false'] at leaves
        exact leaves
  unfold Balanced
  omega

theorem Balanced.of_undelivered (found : service.system.calls[number]? = some before)
    (moved : later.system.calls = service.system.calls.set number after)
    (stored : later.system.store = service.system.store)
    (silent : deliveredBy payload (service, incident) = false)
    (same : after.delivery.payload = before.delivery.payload)
    (ready : before.phase.undelivered = true) :
    Balanced payload service incident later := by
  refine .of_move found moved (fun has => stored ▸ has) ?_
  rw [silent]
  unfold Call.carries
  rw [same, ready]
  by_cases carries : before.delivery.payload = payload
  · cases remains : after.phase.undelivered with
    | true => simp [carries, Phase.unsettled_of_undelivered remains]
    | false =>
        have one := Bool.toNat_le (before.phase.unsettled && !after.phase.unsettled)
        simp only [carries, decide_true, Bool.true_and, Bool.toNat_true, Bool.toNat_false]
        omega
  · simp [carries]

theorem Balanced.answered {permit : Option Permit} {reply : Reply} {settled : Delivering Value}
    {registry : CircuitBreakerRegistry}
    (found : service.system.calls[number]? = some ⟨delivery, .delivering (.sending permit)⟩)
    (settles : settleAttempt libraries.circuitKey deliverer service.clock delivery permit reply
      service.system.registry = (settled, registry)) :
    Balanced payload service (.answer number reply)
      { service with
        system :=
          { service.system.move number ⟨settled.delivery, .delivering settled.progress⟩ with
            registry := registry } } := by
  have same : settled.delivery.payload = delivery.payload := by
    have kept := settleAttempt_payload libraries.circuitKey deliverer service.clock delivery
      permit reply service.system.registry
    rwa [settles] at kept
  have fires : deliveredBy payload (service, .answer number reply) =
      (decide (delivery.payload = payload) && reply.succeeds) := by
    simp [deliveredBy, delivers, found]
  cases answered : reply.succeeds with
  | false =>
      rw [answered, Bool.and_false] at fires
      exact .of_undelivered found rfl rfl fires same rfl
  | true =>
      have delivered : settled.progress = .delivered := by
        have ends := settleAttempt_of_success libraries.circuitKey deliverer service.clock
          delivery permit service.system.registry answered
        rwa [settles] at ends
      refine .of_move found rfl id ?_
      rw [fires, answered, delivered]
      by_cases carries : delivery.payload = payload
      · simp [Call.carries, same, carries, Phase.undelivered, Phase.unsettled]
      · simp [Call.carries, same, carries]

/-- A lookup that misses is excused, or claims the payload. -/
theorem Balanced.missed
    (found : service.system.calls[number]? = some ⟨delivery, .lookingUp⟩)
    (absent : ¬ service.system.store.Has (deriveIdempotencyKey libraries delivery.payload)) :
    Balanced payload service (.lookup number)
      { service with
        system := service.system.move number ⟨delivery, .delivering .attempting⟩ } := by
  by_cases carries : delivery.payload = payload
  · have counts := countP_set_add ⟨delivery, .delivering .attempting⟩
      (Call.carries payload Phase.undelivered) found
    have claims : claimed payload
        { service with
          system := service.system.move number ⟨delivery, .delivering .attempting⟩ } = true := by
      have inside := (List.getElem?_eq_some_iff.mp found).1
      refine claimed_iff.mpr (Or.inr ⟨⟨delivery, .delivering .attempting⟩,
        List.mem_of_getElem? (List.getElem?_set_self inside), ?_⟩)
      simp [Call.carries, carries, Phase.unsettled]
    have excused : (claimed payload service).toNat ≤
        (excuses payload (service, .lookup number)).toNat := by
      refine Bool.toNat_le_toNat fun claim => ?_
      rcases claimed_iff.mp claim with has | ⟨other, member, there⟩
      · exact absurd (carries ▸ has) absent
      · have beside : missesBeside payload (service, .lookup number) = true := by
          apply Decidable.byContradiction
          intro apart
          obtain ⟨place, standing⟩ := List.mem_iff_getElem?.mp member
          simp only [Call.carries, Bool.and_eq_true, decide_eq_true_eq] at there
          exact nobody_unsettled found absent (Bool.eq_false_iff.mpr apart) carries place
            ⟨other, standing, there⟩
        simp [excuses, beside]
    simp only [Call.carries, carries, Phase.undelivered, decide_true, Bool.and_false,
      Bool.and_true, Bool.toNat_false, Bool.toNat_true] at counts
    unfold Balanced openCalls
    rw [claims]
    simp only [deliveredBy, Bool.toNat_false, Bool.toNat_true, System.move]
    omega
  · refine .of_move found rfl id ?_
    simp [Call.carries, carries, deliveredBy]

theorem Balanced.recorded {createdAt : Nat}
    (found : service.system.calls[number]? = some ⟨delivery, .delivering .delivered⟩) :
    Balanced payload service (.record number createdAt)
      { service with
        system :=
          { service.system.move number ⟨delivery,
              (recordDelivered libraries createdAt delivery service.system.store).1⟩ with
            store := (recordDelivered libraries createdAt delivery service.system.store).2 } } := by
  by_cases carries : delivery.payload = payload
  · refine .quiet rfl ?_ ?_
    · have counts := countP_set_add
        ⟨delivery, (recordDelivered libraries createdAt delivery service.system.store).1⟩
        (Call.carries payload Phase.undelivered) found
      simp only [Call.carries, Phase.undelivered, recordDelivered, Bool.and_false,
        Bool.toNat_false, Nat.add_zero] at counts
      exact Nat.le_of_eq counts
    · intro _
      refine claimed_iff.mpr (Or.inl ?_)
      rw [← carries]
      exact service.system.store.has_record createdAt _ _ _
  · refine .of_move found rfl (fun has => has.record createdAt _ _ _) ?_
    simp [Call.carries, carries, deliveredBy]

theorem Balanced.abandoned (found : service.system.calls[number]? = some before)
    (waits : before.phase.waits = true) :
    Balanced payload service (.abandon number)
      { service with
        system := service.system.move number ⟨before.delivery, .delivering .panicked⟩ } := by
  obtain ⟨delivery, phase⟩ := before
  cases phase with
  | finished result => cases waits
  | lookingUp =>
      refine .of_move found rfl id ?_
      simp [Call.carries, Phase.undelivered, Phase.unsettled, deliveredBy]
  | delivering progress =>
      cases progress with
      | sending permit => cases waits
      | attempting => exact .of_undelivered found rfl rfl rfl rfl rfl
      | delivered =>
          refine .of_move found rfl id ?_
          simp [Call.carries, Phase.undelivered, Phase.unsettled, deliveredBy, excuses, loses,
            found, missesBeside, forgets]
      | failed error =>
          refine .of_move found rfl id ?_
          simp [Call.carries, Phase.undelivered, Phase.unsettled, deliveredBy]
      | panicked =>
          refine .of_move found rfl id ?_
          simp [Call.carries, Phase.undelivered, Phase.unsettled, deliveredBy]

theorem Balanced.cleaned (daysAgo : Nat) :
    Balanced payload service (.cleanupOldRecords daysAgo)
      { service with system.store := service.system.store.cleanupOldRecords daysAgo } := by
  cases forgotten : forgets payload (service, .cleanupOldRecords daysAgo) with
  | true =>
      have one := Bool.toNat_le (claimed payload service)
      unfold Balanced
      simp only [excuses, forgotten, Bool.or_true, deliveredBy, openCalls, Bool.toNat_false,
        Bool.toNat_true]
      omega
  | false =>
      refine .quiet rfl (Nat.le_refl _) fun claim => claimed_iff.mpr ?_
      refine (claimed_iff.mp claim).imp_left fun has => ?_
      obtain ⟨row, stored⟩ := Option.isSome_iff_exists.mp has
      have young : daysAgo ≤ row.createdAt := by
        simpa [forgets, stored] using forgotten
      simp [IdempotencyStore.Has, IdempotencyStore.cleanupOldRecords, stored, young,
        Option.filter]

theorem Takes.balanced (takes : Takes deliverer service incident later) (payload : Value) :
    Balanced payload service incident later := by
  cases takes with
  | idle incident grounded =>
      refine .quiet ?_ (Nat.le_refl _) id
      cases incident with
      | answer number reply =>
          apply Bool.eq_false_iff.mpr
          intro fires
          have delivering : delivers payload
            (service.system, .answer number service.clock reply) = true := fires
          obtain ⟨_, _, _, delivery, permit, answered, found, _⟩ := delivers_cases delivering
          cases answered
          exact grounded number reply rfl delivery permit found
      | _ => rfl
  | made delivery =>
      refine .quiet rfl ?_ fun claim => ?_
      · simp [openCalls, List.countP_append, Call.carries, Phase.undelivered]
      · refine claimed_iff.mpr ((claimed_iff.mp claim).imp_right ?_)
        rintro ⟨call, member, there⟩
        exact ⟨call, List.mem_append_left _ member, there⟩
  | hit number result found duplicate =>
      refine .of_move found rfl id ?_
      simp [Call.carries, Phase.undelivered, Phase.unsettled, deliveredBy]
  | missed number found absent => exact .missed found absent
  | @attempted number delivery begun registry found begins =>
      have same := beginAttempt_payload libraries.circuitKey deliverer service.clock delivery
        service.system.registry
      rw [begins] at same
      exact .of_undelivered found rfl rfl rfl same rfl
  | answered number reply found settles => exact .answered found settles
  | recorded number createdAt found => exact .recorded found
  | recordedFailure number createdAt found =>
      refine .of_move found rfl (fun has => has.record createdAt _ _ _) ?_
      simp [Call.carries, Phase.undelivered, Phase.unsettled, deliveredBy, recordFailed]
  | dropped number found => exact .of_undelivered found rfl rfl rfl rfl rfl
  | abandoned number found waits => exact .abandoned found waits
  | cleaned daysAgo => exact .cleaned daysAgo
  | elapsed duration => exact .quiet rfl (Nat.le_refl _) id

end Balance

/-- Along every run the payload is delivered once at most, and once more for each of the
excuses; not even the first time if a record of it was there from the start. -/
theorem deliveries_accounted_for (deliverer : WebhookDeliverer)
    (store : IdempotencyStore libraries) (clock : Nat) (incidents : List (Incident Value))
    (payload : Value) :
    let visits := Service.visits deliverer store clock incidents
    visits.countP (deliveredBy payload) +
        (store.rows (deriveIdempotencyKey libraries payload)).isSome.toNat ≤
      1 + visits.countP (missesBeside payload) + visits.countP (loses payload) +
        visits.countP (forgets payload) := by
  intro visits
  have paid := Machine.countP_add_le (Service.step deliverer) (deliveredBy payload)
    (excuses payload) (openCalls payload) (fun service => (claimed payload service).toNat)
    (fun service incident => (step_takes deliverer service incident).balanced payload)
    incidents (Service.start store clock)
  have started : claimed payload (Service.start store clock) =
      (store.rows (deriveIdempotencyKey libraries payload)).isSome := Bool.or_false _
  have nobody : openCalls payload (Service.start store clock) = 0 := rfl
  have one := Bool.toNat_le
    (claimed payload (Machine.run (Service.step deliverer) (Service.start store clock) incidents))
  have split : visits.countP (excuses payload) ≤ visits.countP (missesBeside payload) +
      visits.countP (loses payload) + visits.countP (forgets payload) :=
    (countP_or_le _ _ visits).trans
      (Nat.add_le_add_right (countP_or_le _ _ visits) _)
  rw [started, nobody] at paid
  have bound : visits.countP (deliveredBy payload) + openCalls payload _ + _ ≤
    visits.countP (excuses payload) + 0 + _ := paid
  omega

def cleanedRun : List (Incident String) :=
  [.process (.new "a.example" "event"), .lookup 0, .attempt 0, .answer 0 (.response 200 none),
    .record 0 5, .cleanupOldRecords 6, .process (.new "a.example" "event"), .lookup 1,
    .attempt 1, .answer 1 (.response 200 none)]

example :
    let visits := Service.visits fiveAttempts emptyStore 0 cleanedRun
    visits.countP (deliveredBy "event") = 2 ∧ visits.countP (forgets "event") = 1 := by
  decide +kernel

end AnchorKit.Webhook
