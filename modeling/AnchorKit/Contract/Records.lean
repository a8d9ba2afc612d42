import AnchorKit.Contract.Outcome
import Mathlib.Logic.Relation

/-!
# What an invocation does to the records

The records are the current attestations, the sequence counters, the history
entries and the attestation count.  Seen through the storage readers, every
committed call is a finite sequence of `RecordStep`s: it keeps all records,
issues an attestation or revokes one.  A batch is one step per entry.
-/

set_option autoImplicit false

namespace AnchorKit.Contract

open AnchorKit.Base AnchorKit.Base.MachineInt

structure SameRecords (before after : World) : Prop where
  attestation : ∀ pair,
    Storage.getAttestation pair after = Storage.getAttestation pair before
  sequence : ∀ pair,
    Storage.getAttestationSeq pair after = Storage.getAttestationSeq pair before
  history : ∀ pair number,
    Storage.getHistoryEntry pair number after =
      Storage.getHistoryEntry pair number before
  count : Storage.getAttestationCount after = Storage.getAttestationCount before

/-- The record of one pair was replaced and its history grew by one entry. -/
structure Wrote (pair : Pair) (attestation : Attestation)
    (before after : World) : Prop where
  stored : ∀ other, Storage.getAttestation other after =
    if other = pair then some attestation else Storage.getAttestation other before
  advanced : (Storage.getAttestationSeq pair after).toNat =
    (Storage.getAttestationSeq pair before).toNat + 1
  unmoved : ∀ other, other ≠ pair →
    Storage.getAttestationSeq other after = Storage.getAttestationSeq other before
  logged : ∀ other number, Storage.getHistoryEntry other number after =
    if other = pair ∧ number = Storage.getAttestationSeq pair after then
      some (Storage.historyEntry number attestation)
    else Storage.getHistoryEntry other number before

inductive RecordStep (env : Env) (before after : World) : Prop
  | kept (same : SameRecords before after)
  | issued (attestor : Address) (entry : BatchAttestEntry)
      (wrote : Wrote (Entry.pairOf entry)
        (Entry.issued attestor entry env.ledger.timestamp) before after)
      (counted : (Storage.getAttestationCount after).toNat =
        (Storage.getAttestationCount before).toNat + 1)
  | revoked (pair : Pair) (attestation : Attestation)
      (stored : Storage.getAttestation pair before = some attestation)
      (unrevoked : attestation.status ≠ .revoked)
      (wrote : Wrote pair (Entry.markRevoked attestation) before after)
      (counted : Storage.getAttestationCount after =
        Storage.getAttestationCount before)

theorem SameRecords.of_fields {before after : World}
    (attestation : after.attestation = before.attestation)
    (sequence : after.attestationSeq = before.attestationSeq)
    (history : after.attestationHistory = before.attestationHistory)
    (count : after.attestationCount = before.attestationCount) :
    SameRecords before after where
  attestation pair := by simp only [Storage.getAttestation, attestation]
  sequence pair := by simp only [Storage.getAttestationSeq, sequence]
  history pair number := by simp only [Storage.getHistoryEntry, history]
  count := by simp only [Storage.getAttestationCount, count]

theorem Wrote.emit {pair : Pair} {attestation : Attestation} {before after : World}
    (wrote : Wrote pair attestation before after) (event : Event) :
    Wrote pair attestation before (after.emit event) :=
  ⟨wrote.stored, wrote.advanced, wrote.unmoved, wrote.logged⟩

theorem Appended.wrote {env : Env} {pair : Pair} {attestation : Attestation}
    {before after : World} (appended : Appended env pair attestation before after) :
    Wrote pair attestation before after := by
  obtain ⟨sequence, advanced, rfl⟩ := appended
  have stored : Storage.getAttestationSeq pair
      (Storage.setHistoryEntry pair sequence attestation env
        (Storage.setAttestationSeq pair sequence env
          (Storage.setAttestation pair attestation env before))) = sequence := by
    simp [Storage.getAttestationSeq, Storage.setHistoryEntry,
      Storage.setAttestationSeq]
  refine ⟨?_, ?_, ?_, ?_⟩
  · intro other
    simp [Storage.getAttestation, Storage.setHistoryEntry,
      Storage.setAttestationSeq, Storage.setAttestation, LiveMap.get_set]
  · rw [stored, checkedAdd_eq_some advanced]
    rfl
  · intro other different
    simp [Storage.getAttestationSeq, Storage.setHistoryEntry,
      Storage.setAttestationSeq, Storage.setAttestation, LiveMap.get_set, different]
  · intro other number
    rw [stored]
    simp only [Storage.getHistoryEntry, Storage.setHistoryEntry,
      Storage.setAttestationSeq, Storage.setAttestation, LiveMap.get_extendTtl,
      LiveMap.get_set, Prod.mk.injEq]
    by_cases same : other = pair ∧ number = sequence
    · simp [same]
    · simp [same]

theorem Recorded.wrote {env : Env} {attestor : Address}
    {entry : BatchAttestEntry} {before after : World}
    (recorded : Recorded env attestor entry before after) :
    Wrote (Entry.pairOf entry) (Entry.issued attestor entry env.ledger.timestamp)
      before after := by
  obtain ⟨appended, count, pushed, _, rfl⟩ := recorded.written
  have wrote := pushed.wrote
  exact ⟨wrote.stored, wrote.advanced, wrote.unmoved, wrote.logged⟩

theorem Recorded.recordStep {env : Env} {attestor : Address}
    {entry : BatchAttestEntry} {before after : World}
    (recorded : Recorded env attestor entry before after) :
    RecordStep env before after := by
  refine .issued attestor entry recorded.wrote ?_
  obtain ⟨_, _, _, counted, rfl⟩ := recorded.written
  exact checkedAdd_eq_some counted

theorem AdminWrite.sameRecords {env : Env} {admin : Address} {call : Call}
    {before after : World} (write : AdminWrite env admin call before after) :
    SameRecords before after := by
  cases write with
  | _ => exact .of_fields rfl rfl rfl rfl

theorem setAttestation_sameRecords (env : Env) {pair : Pair}
    {attestation : Attestation} {world : World}
    (stored : Storage.getAttestation pair world = some attestation) :
    SameRecords world (Storage.setAttestation pair attestation env world) := by
  refine ⟨?_, fun _ => rfl, fun _ _ => rfl, rfl⟩
  intro other
  simp only [Storage.getAttestation, Storage.setAttestation,
    LiveMap.get_extendTtl, LiveMap.get_set]
  split
  · rename_i same
    subst other
    exact stored.symm
  · rfl

theorem RecordedAll.recordSteps {env : Env} {attestor : Address}
    {entries : List BatchAttestEntry} {before after : World}
    (recorded : RecordedAll env attestor entries before after) :
    Relation.ReflTransGen (RecordStep env) before after := by
  induction recorded with
  | nil world => exact .refl
  | cons first _ ih => exact .head first.recordStep ih

theorem Committed.recordSteps {env : Env} {call : Call} {before after : World}
    (committed : Committed env call before after) :
    Relation.ReflTransGen (RecordStep env) before after := by
  cases committed with
  | query _ => exact .refl
  | initialized _ _ => exact .single (.kept (.of_fields rfl rfl rfl rfl))
  | administered _ _ write => exact .single (.kept write.sameRecords)
  | issued _ _ _ _ _ recorded => exact recorded.recordSteps
  | revoked _ _ stored _ _ unrevoked write =>
      refine .single (.revoked _ _ stored unrevoked (write.wrote.emit _) ?_)
      exact congrArg (Option.getD · 0) write.attestationCount
  | renewed _ stored _ _ =>
      have same := setAttestation_sameRecords env stored
      exact .single (.kept ⟨same.attestation, same.sequence, same.history, same.count⟩)
  | configured _ _ => exact .single (.kept (.of_fields rfl rfl rfl rfl))
  | rotated _ _ _ => exact .single (.kept (.of_fields rfl rfl rfl rfl))

theorem step_recordSteps (world : World) (step : Step) :
    Relation.ReflTransGen (RecordStep step.env) world (world.step step) := by
  rcases step_cases world step with ⟨_, same⟩ | ⟨_, committed⟩
  · rw [same]
  · exact committed.recordSteps

/-! ## What the writes to the records leave alone -/

structure SameGovernance (before after : World) : Prop where
  admin : after.admin = before.admin
  paused : after.paused = before.paused
  attestor : after.attestor = before.attestor
  maxAttestationTtl : after.maxAttestationTtl = before.maxAttestationTtl
  defaultMaxAttestationTtl :
    after.defaultMaxAttestationTtl = before.defaultMaxAttestationTtl
  multiSigConfig : after.multiSigConfig = before.multiSigConfig

theorem SameGovernance.refl (world : World) : SameGovernance world world :=
  ⟨rfl, rfl, rfl, rfl, rfl, rfl⟩

theorem SameGovernance.trans {first second third : World}
    (before : SameGovernance first second) (after : SameGovernance second third) :
    SameGovernance first third where
  admin := after.admin.trans before.admin
  paused := after.paused.trans before.paused
  attestor := after.attestor.trans before.attestor
  maxAttestationTtl := after.maxAttestationTtl.trans before.maxAttestationTtl
  defaultMaxAttestationTtl :=
    after.defaultMaxAttestationTtl.trans before.defaultMaxAttestationTtl
  multiSigConfig := after.multiSigConfig.trans before.multiSigConfig

theorem SameGovernance.transport {left right newLeft newRight : World}
    (same : SameGovernance left right) (keptLeft : SameGovernance left newLeft)
    (keptRight : SameGovernance right newRight) : SameGovernance newLeft newRight where
  admin := (keptRight.admin.trans same.admin).trans keptLeft.admin.symm
  paused := (keptRight.paused.trans same.paused).trans keptLeft.paused.symm
  attestor := (keptRight.attestor.trans same.attestor).trans keptLeft.attestor.symm
  maxAttestationTtl := (keptRight.maxAttestationTtl.trans same.maxAttestationTtl).trans
    keptLeft.maxAttestationTtl.symm
  defaultMaxAttestationTtl := (keptRight.defaultMaxAttestationTtl.trans
    same.defaultMaxAttestationTtl).trans keptLeft.defaultMaxAttestationTtl.symm
  multiSigConfig := (keptRight.multiSigConfig.trans same.multiSigConfig).trans
    keptLeft.multiSigConfig.symm

theorem Appended.sameGovernance {env : Env} {pair : Pair} {attestation : Attestation}
    {before after : World} (appended : Appended env pair attestation before after) :
    SameGovernance before after := by
  obtain ⟨_, _, rfl⟩ := appended
  exact ⟨rfl, rfl, rfl, rfl, rfl, rfl⟩

theorem Recorded.sameGovernance {env : Env} {attestor : Address}
    {entry : BatchAttestEntry} {before after : World}
    (recorded : Recorded env attestor entry before after) :
    SameGovernance before after := by
  obtain ⟨appended, _, pushed, _, rfl⟩ := recorded.written
  exact pushed.sameGovernance.trans ⟨rfl, rfl, rfl, rfl, rfl, rfl⟩

theorem RecordedAll.sameGovernance {env : Env} {attestor : Address}
    {entries : List BatchAttestEntry} {before after : World}
    (recorded : RecordedAll env attestor entries before after) :
    SameGovernance before after := by
  induction recorded with
  | nil world => exact .refl world
  | cons first _ ih => exact first.sameGovernance.trans ih

theorem SameGovernance.getMaxAttestationTtl {before after : World}
    (same : SameGovernance before after) (attestationType : Symbol) :
    Storage.getMaxAttestationTtl attestationType after =
      Storage.getMaxAttestationTtl attestationType before := by
  rw [Storage.getMaxAttestationTtl, Storage.getMaxAttestationTtl,
    same.maxAttestationTtl, same.defaultMaxAttestationTtl]

theorem RecordedAll.history_cases {env : Env} {attestor : Address}
    {entries : List BatchAttestEntry} {before after : World}
    (recorded : RecordedAll env attestor entries before after)
    {pair : Pair} {number : UInt64} {entry : HistoryEntry}
    (found : Storage.getHistoryEntry pair number after = some entry) :
    Storage.getHistoryEntry pair number before = some entry ∨
      ∃ request ∈ entries, Entry.pairOf request = pair ∧
        entry = Storage.historyEntry number
          (Entry.issued attestor request env.ledger.timestamp) ∧
        request.ttlSeconds ≠ 0 ∧
        request.attestationType.chars.length ≤ Entry.maxAttestationTypeLen ∧
        request.ttlSeconds ≤
          Storage.getMaxAttestationTtl request.attestationType before := by
  induction recorded with
  | nil world => exact Or.inl found
  | @cons first rest _ _ _ written _ ih =>
      rcases ih found with earlier | later
      · rw [written.wrote.logged] at earlier
        split at earlier
        · rename_i fresh
          have issued := Option.some.inj earlier
          exact Or.inr ⟨first, by simp, fresh.1.symm, issued.symm, written.positive,
            written.short, written.capped⟩
        · exact Or.inl earlier
      · obtain ⟨request, member, named, same, positive, short, capped⟩ := later
        rw [written.sameGovernance.getMaxAttestationTtl] at capped
        exact Or.inr ⟨request, by simp [member], named, same, positive, short, capped⟩

/-! ## Whole calls and runs -/

theorem recordSteps_preserve {env : Env} (Holds : World → Prop)
    (preserved : ∀ before after,
      RecordStep env before after → Holds before → Holds after)
    {before after : World}
    (path : Relation.ReflTransGen (RecordStep env) before after)
    (start : Holds before) : Holds after := by
  induction path with
  | refl => exact start
  | tail _ last ih => exact preserved _ _ last ih

theorem run_of_recordStep (Holds : World → Prop)
    (preserved : ∀ env before after,
      RecordStep env before after → Holds before → Holds after)
    (steps : List Step) (world : World) (start : Holds world) :
    Holds (world.run steps) := by
  refine Machine.run_invariant World.step Holds ?_ steps world start
  intro current step holds
  exact recordSteps_preserve Holds (preserved step.env)
    (step_recordSteps current step) holds

end AnchorKit.Contract
