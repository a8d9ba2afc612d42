import AnchorKit.Contract.Rent

/-!
# Rent of the sequence counters

The counter of a pair is written beside its record but never extended.  The two
entries expire together as long as no write buys the record more ledgers; the
first extension, and a renewal of an archived record, leave the counter behind.
-/

set_option autoImplicit false

namespace AnchorKit.Contract

open AnchorKit.Base AnchorKit.Base.MachineInt

/-- At every ledger at which a record is live, so is the counter of its pair. -/
def CounterOutlives (world : World) : Prop :=
  ∀ pair ledger, world.attestation.isLive ledger pair = true →
    world.attestationSeq.isLive ledger pair = true

/-- Record and counter of every pair are stored with one and the same expiry. -/
def InStep (world : World) : Prop :=
  ∀ pair, world.attestation.lease pair = world.attestationSeq.lease pair

/-- The counter of a pair was live at `current` and expires before its record. -/
def Behind (current : Nat) (pair : Pair) (world : World) : Prop :=
  ∃ held bought, world.attestationSeq.lease pair = some held ∧
    world.attestation.lease pair = some bought ∧ current ≤ held ∧ held < bought

theorem InStep.counterOutlives {world : World} (inStep : InStep world) :
    CounterOutlives world := by
  intro pair ledger live
  rw [LiveMap.isLive_eq_lease] at live ⊢
  rwa [← inStep pair]

theorem not_counterOutlives {world : World} {pair : Pair} {held bought : Nat}
    (counter : world.attestationSeq.lease pair = some held)
    (record : world.attestation.lease pair = some bought) (overtaken : held < bought) :
    ¬ CounterOutlives world := by
  intro outlives
  have live : world.attestation.isLive bought pair = true := by
    simp [LiveMap.isLive_eq_lease, record]
  have counterLive := outlives pair bought live
  simp only [LiveMap.isLive_eq_lease, counter, Option.any_some,
    decide_eq_true_eq] at counterLive
  omega

theorem InStep.of_fields {before after : World} (inStep : InStep before)
    (attestation : after.attestation = before.attestation)
    (sequence : after.attestationSeq = before.attestationSeq) : InStep after := by
  intro pair
  rw [attestation, sequence]
  exact inStep pair

theorem InStep.writeExpiry {world : World} (inStep : InStep world)
    (current minimum : Nat) (pair : Pair) :
    world.attestationSeq.writeExpiry current minimum pair =
      world.attestation.writeExpiry current minimum pair := by
  rw [LiveMap.writeExpiry_eq_lease, LiveMap.writeExpiry_eq_lease, inStep pair]

/-! ## One write of a record -/

def Unextended (env : Env) (pair : Pair) (attestation : Attestation)
    (world : World) : Prop :=
  (Storage.attestationTtlWindow (Storage.remainingSeconds attestation env)).1.toNat ≤
    heldLedgers env pair world

section Write

variable {env : Env} {pair : Pair} {attestation : Attestation} {before after : World}

theorem setAttestation_lease (env : Env) (pair : Pair) (attestation : Attestation)
    (world : World) (other : Pair) :
    (Storage.setAttestation pair attestation env world).attestation.lease other =
      if other = pair then
        some (env.ledger.sequenceNumber +
          if heldLedgers env pair world < (Storage.attestationTtlWindow
              (Storage.remainingSeconds attestation env)).1.toNat then
            (Storage.attestationTtlWindow
              (Storage.remainingSeconds attestation env)).2.toNat
          else heldLedgers env pair world)
      else world.attestation.lease other := by
  have written := world.attestation.current_le_writeExpiry env.ledger.sequenceNumber
    env.ledger.minPersistentEntryTtl pair
  rw [heldLedgers_eq]
  simp only [Storage.setAttestation, LiveMap.lease_set_extendTtl]
  split
  · split
    · rfl
    · congr 1
      omega
  · rfl

theorem Appended.counter_lease (appended : Appended env pair attestation before after)
    (other : Pair) :
    after.attestationSeq.lease other =
      if other = pair then
        some (before.attestationSeq.writeExpiry env.ledger.sequenceNumber
          env.ledger.minPersistentEntryTtl pair)
      else before.attestationSeq.lease other := by
  obtain ⟨sequence, _, rfl⟩ := appended
  exact LiveMap.lease_set _ _ _ pair other sequence

theorem Appended.record_lease (appended : Appended env pair attestation before after)
    (other : Pair) :
    after.attestation.lease other =
      (Storage.setAttestation pair attestation env before).attestation.lease other := by
  rw [appended.attestation_eq]

theorem Appended.inStep (appended : Appended env pair attestation before after)
    (inStep : InStep before) (unextended : Unextended env pair attestation before) :
    InStep after := by
  intro other
  have written := before.attestation.current_le_writeExpiry env.ledger.sequenceNumber
    env.ledger.minPersistentEntryTtl pair
  rw [appended.record_lease, appended.counter_lease, setAttestation_lease,
    if_neg (Nat.not_lt.mpr unextended), heldLedgers_eq, inStep.writeExpiry]
  split
  · congr 1
    omega
  · exact inStep other

theorem Appended.behind (appended : Appended env pair attestation before after)
    (inStep : InStep before) (extended : ¬ Unextended env pair attestation before) :
    Behind env.ledger.sequenceNumber pair after := by
  have written := before.attestation.current_le_writeExpiry env.ledger.sequenceNumber
    env.ledger.minPersistentEntryTtl pair
  have window := attestationTtlWindow_threshold_le
    (Storage.remainingSeconds attestation env)
  have low := Nat.not_le.mp extended
  have counter := appended.counter_lease pair
  rw [if_pos rfl, inStep.writeExpiry] at counter
  have record := appended.record_lease pair
  rw [setAttestation_lease, if_pos rfl, if_pos low] at record
  rw [heldLedgers_eq] at low
  exact ⟨_, _, counter, record, written, by omega⟩

theorem Behind.of_appended {overtaken : Pair}
    (behind : Behind env.ledger.sequenceNumber overtaken before)
    (appended : Appended env pair attestation before after) :
    Behind env.ledger.sequenceNumber overtaken after := by
  obtain ⟨held, bought, counter, record, live, less⟩ := behind
  by_cases same : overtaken = pair
  · subst overtaken
    have kept : after.attestationSeq.lease pair = some held := by
      rw [appended.counter_lease, if_pos rfl, LiveMap.writeExpiry_eq_lease, counter]
      simp [live]
    have extended : ∃ later, after.attestation.lease pair = some later ∧ bought ≤ later := by
      have window := attestationTtlWindow_threshold_le
        (Storage.remainingSeconds attestation env)
      have holding : before.attestation.writeExpiry env.ledger.sequenceNumber
          env.ledger.minPersistentEntryTtl pair = bought := by
        have recordLive : env.ledger.sequenceNumber ≤ bought := by omega
        rw [LiveMap.writeExpiry_eq_lease, record]
        simp [recordLive]
      rw [appended.record_lease, setAttestation_lease, if_pos rfl, heldLedgers_eq, holding]
      refine ⟨_, rfl, ?_⟩
      split
      · omega
      · omega
    obtain ⟨later, recordAfter, more⟩ := extended
    exact ⟨held, later, kept, recordAfter, live, by omega⟩
  · refine ⟨held, bought, ?_, ?_, live, less⟩
    · rw [appended.counter_lease, if_neg same]
      exact counter
    · rw [appended.record_lease, setAttestation_lease, if_neg same]
      exact record

theorem Behind.not_counterOutlives {current : Nat}
    (behind : Behind current pair before) : ¬ CounterOutlives before := by
  obtain ⟨_, _, counter, record, _, overtaken⟩ := behind
  exact AnchorKit.Contract.not_counterOutlives counter record overtaken

end Write

/-! ## Renewals -/

section Renewal

variable {env : Env} {pair : Pair} {attestation : Attestation} {world : World}

theorem heldLedgers_of_live (live : world.attestation.isLive
    env.ledger.sequenceNumber pair = true) :
    ∃ expiry, world.attestation.lease pair = some expiry ∧
      expiry = env.ledger.sequenceNumber + heldLedgers env pair world := by
  rw [LiveMap.isLive_eq_lease] at live
  obtain ⟨expiry, stored, notPast⟩ := (Option.any_eq_true _ _).mp live
  have future := of_decide_eq_true notPast
  have written : world.attestation.writeExpiry env.ledger.sequenceNumber
      env.ledger.minPersistentEntryTtl pair = expiry := by
    rw [LiveMap.writeExpiry_eq_lease, stored]
    simp [future]
  refine ⟨expiry, stored, ?_⟩
  rw [heldLedgers_eq, written]
  omega

theorem renewal_inStep (inStep : InStep world)
    (live : world.attestation.isLive env.ledger.sequenceNumber pair = true)
    (unextended : Unextended env pair attestation world) :
    InStep (Storage.setAttestation pair attestation env world) := by
  intro other
  obtain ⟨expiry, stored, same⟩ := heldLedgers_of_live live
  have counter : (Storage.setAttestation pair attestation env
      world).attestationSeq.lease other = world.attestation.lease other :=
    (inStep other).symm
  rw [setAttestation_lease, if_neg (Nat.not_lt.mpr unextended), counter]
  split
  · rename_i named
    rw [named, stored, same]
  · rfl

theorem renewal_overtakes (inStep : InStep world)
    (stored : Storage.getAttestation pair world = some attestation)
    (fails : ¬ (world.attestation.isLive env.ledger.sequenceNumber pair = true ∧
      Unextended env pair attestation world)) :
    ¬ CounterOutlives (Storage.setAttestation pair attestation env world) := by
  have present : (world.attestation.lease pair).isSome = true := by
    rw [LiveMap.lease_isSome]
    exact Option.isSome_of_eq_some stored
  obtain ⟨expiry, leased⟩ := Option.isSome_iff_exists.mp present
  have counter : (Storage.setAttestation pair attestation env
      world).attestationSeq.lease pair = some expiry :=
    (inStep pair).symm.trans leased
  have record := setAttestation_lease env pair attestation world pair
  rw [if_pos rfl] at record
  refine not_counterOutlives counter record ?_
  by_cases live : world.attestation.isLive env.ledger.sequenceNumber pair = true
  · have low := Nat.not_le.mp fun unextended => fails ⟨live, unextended⟩
    have window := attestationTtlWindow_threshold_le
      (Storage.remainingSeconds attestation env)
    obtain ⟨held, again, same⟩ := heldLedgers_of_live live
    cases Option.some.inj (leased.symm.trans again)
    rw [if_pos low]
    omega
  · have past : expiry < env.ledger.sequenceNumber := by
      rw [LiveMap.isLive_eq_lease, leased] at live
      simpa using live
    omega

end Renewal

/-! ## Whole calls -/

section Batch

variable {env : Env} {attestor : Address} {entries : List BatchAttestEntry}
  {before after : World}

def RecordWrite.Unextended (write : RecordWrite) : Prop :=
  AnchorKit.Contract.Unextended write.env write.pair write.attestation write.before

theorem Behind.of_recordedAll {pair : Pair}
    (recorded : RecordedAll env attestor entries before after)
    (behind : Behind env.ledger.sequenceNumber pair before) :
    Behind env.ledger.sequenceNumber pair after := by
  induction recorded with
  | nil world => exact behind
  | cons first _ ih =>
      obtain ⟨_, _, pushed, _, rfl⟩ := first.written
      have later := Behind.of_appended behind pushed
      exact ih later

theorem RecordedAll.inStep (recorded : RecordedAll env attestor entries before after)
    (inStep : InStep before)
    (unextended : ∀ write ∈ issueWrites env attestor before entries, write.Unextended) :
    InStep after := by
  induction recorded with
  | nil world => exact inStep
  | @cons entry rest start middle final first others ih =>
      have run : Entry.recordAttestation attestor entry env start = (.ok (), middle) :=
        recordAttestation_ok.mpr first
      simp only [issueWrites, Program.commit_of_ok run, List.forall_mem_cons] at unextended
      obtain ⟨_, _, pushed, _, rfl⟩ := first.written
      exact ih ((pushed.inStep inStep unextended.1).of_fields rfl rfl) unextended.2

theorem RecordedAll.behind (recorded : RecordedAll env attestor entries before after)
    (inStep : InStep before)
    (extended : ¬ ∀ write ∈ issueWrites env attestor before entries, write.Unextended) :
    ∃ pair, Behind env.ledger.sequenceNumber pair after := by
  induction recorded with
  | nil world => simp [issueWrites] at extended
  | @cons entry rest start middle final first others ih =>
      have run : Entry.recordAttestation attestor entry env start = (.ok (), middle) :=
        recordAttestation_ok.mpr first
      simp only [issueWrites, Program.commit_of_ok run, List.forall_mem_cons] at extended
      obtain ⟨_, _, pushed, _, rfl⟩ := first.written
      by_cases unextended : AnchorKit.Contract.Unextended env (Entry.pairOf entry)
          (Entry.issued attestor entry env.ledger.timestamp) start
      · refine ih ((pushed.inStep inStep unextended).of_fields rfl rfl) ?_
        intro rest
        exact extended ⟨unextended, rest⟩
      · have behind := pushed.behind inStep unextended
        exact ⟨Entry.pairOf entry, Behind.of_recordedAll others behind⟩

end Batch

/-- No write of the invocation extends a record, and no renewal meets an archived
one.  The worlds inside a batch are those between two entries. -/
def ExtensionFree (visit : World × Step) : Prop :=
  visit.2.succeeds visit.1 = true →
    match visit.2.call with
    | .attest attestor entry =>
        ∀ write ∈ issueWrites visit.2.env attestor visit.1 [entry], write.Unextended
    | .attestBatch attestor entries =>
        ∀ write ∈ issueWrites visit.2.env attestor visit.1 entries, write.Unextended
    | .revoke _ pair =>
        ∀ attestation, Storage.getAttestation pair visit.1 = some attestation →
          Unextended visit.2.env pair (Entry.markRevoked attestation) visit.1
    | .renewAttestation _ pair =>
        ∀ attestation, Storage.getAttestation pair visit.1 = some attestation →
          visit.1.attestation.isLive visit.2.env.ledger.sequenceNumber pair = true ∧
            Unextended visit.2.env pair attestation visit.1
    | _ => True

theorem extensionFree_of_issues {world : World} {step : Step} {attestor : Address}
    {entries : List BatchAttestEntry} (succeeded : step.succeeds world = true)
    (issues : step.call.issues = some (attestor, entries)) :
    ExtensionFree (world, step) ↔
      ∀ write ∈ issueWrites step.env attestor world entries, write.Unextended := by
  rcases Call.issues_cases issues with ⟨entry, attests, rfl⟩ | attests
  · simp only [ExtensionFree, succeeded, attests, forall_const]
  · simp only [ExtensionFree, succeeded, attests, forall_const]

/-- From a world in step, a call that extends nothing leads to another one, and
any other call lets a record overtake its counter. -/
theorem step_inStep_or_overtaken (world : World) (step : Step) (inStep : InStep world) :
    ExtensionFree (world, step) ∧ InStep (world.step step) ∨
      ¬ ExtensionFree (world, step) ∧ ¬ CounterOutlives (world.step step) := by
  rcases step_cases world step with ⟨failed, same⟩ | ⟨succeeded, committed⟩
  · refine Or.inl ⟨?_, by rwa [same]⟩
    intro succeeded
    rw [failed] at succeeded
    contradiction
  have quiet : ∀ later, later.attestation = world.attestation →
      later.attestationSeq = world.attestationSeq → InStep later := by
    intro later attestation sequence
    exact inStep.of_fields attestation sequence
  generalize world.step step = later at committed ⊢
  obtain ⟨env, call⟩ := step
  cases committed with
  | query readOnly =>
      refine Or.inl ⟨?_, inStep⟩
      intro _
      cases call <;> trivial
  | initialized _ _ => exact Or.inl ⟨fun _ => trivial, quiet _ rfl rfl⟩
  | administered _ _ write =>
      cases write <;> exact Or.inl ⟨fun _ => trivial, quiet _ rfl rfl⟩
  | @issued _ attestor entries _ _ issues _ _ _ _ recorded =>
      rw [extensionFree_of_issues succeeded issues]
      by_cases free : ∀ write ∈ issueWrites env attestor world entries, write.Unextended
      · exact Or.inl ⟨free, recorded.inStep inStep free⟩
      · obtain ⟨pair, behind⟩ := recorded.behind inStep free
        exact Or.inr ⟨free, behind.not_counterOutlives⟩
  | @revoked caller admin pair attestation _ _ _ _ stored _ _ _ write =>
      by_cases free : Unextended env pair (Entry.markRevoked attestation) world
      · refine Or.inl ⟨?_, (write.inStep inStep free).of_fields rfl rfl⟩
        intro _ other again
        cases Option.some.inj (stored.symm.trans again)
        exact free
      · refine Or.inr ⟨fun holds => free (holds succeeded attestation stored), ?_⟩
        exact (write.behind inStep free).not_counterOutlives
  | @renewed caller admin pair attestation _ _ stored _ _ =>
      by_cases free : world.attestation.isLive env.ledger.sequenceNumber pair = true ∧
          Unextended env pair attestation world
      · refine Or.inl ⟨?_, (renewal_inStep inStep free.1 free.2).of_fields rfl rfl⟩
        intro _ other again
        cases Option.some.inj (stored.symm.trans again)
        exact free
      · refine Or.inr ⟨fun holds => free (holds succeeded attestation stored), ?_⟩
        exact renewal_overtakes inStep stored free
  | configured _ _ => exact Or.inl ⟨fun _ => trivial, quiet _ rfl rfl⟩
  | rotated _ _ _ => exact Or.inl ⟨fun _ => trivial, quiet _ rfl rfl⟩

/-- Along a run the counters outlive their records in every world reached exactly
when no invocation of the run extends a record or renews an archived one. -/
theorem counter_outlives_record_iff (steps : List Step) :
    (∀ earlier later, steps = earlier ++ later → CounterOutlives (reached earlier)) ↔
      ∀ visit ∈ visits steps, ExtensionFree visit := by
  refine Machine.prefixes_iff_visits World.step CounterOutlives InStep ExtensionFree
    (fun _ inStep => inStep.counterOutlives) ?_ ?_ World.deployed (fun _ => rfl) steps
  · intro world step inStep free
    rcases step_inStep_or_overtaken world step inStep with ⟨_, later⟩ | ⟨extended, _⟩
    · exact later
    · exact absurd free extended
  · intro world step inStep outlives
    rcases step_inStep_or_overtaken world step inStep with ⟨free, _⟩ | ⟨_, overtaken⟩
    · exact free
    · exact absurd outlives overtaken

/-- After one attest for 200 days under a network minimum of 4096 ledgers the
counter is archived at ledger 4097 while the record stays live. -/
theorem counter_archived_before_record :
    (reached rentRun).attestation.isLive 4097 (Entry.pairOf (sampleEntry 200)) = true ∧
      (reached rentRun).attestationSeq.isLive 4097 (Entry.pairOf (sampleEntry 200)) =
        false ∧
      ¬ CounterOutlives (reached rentRun) := by
  have live : (reached rentRun).attestation.isLive 4097
      (Entry.pairOf (sampleEntry 200)) = true := by
    decide +kernel
  have archived : (reached rentRun).attestationSeq.isLive 4097
      (Entry.pairOf (sampleEntry 200)) = false := by
    decide +kernel
  refine ⟨live, archived, ?_⟩
  intro outlives
  rw [outlives _ _ live] at archived
  contradiction

end AnchorKit.Contract
