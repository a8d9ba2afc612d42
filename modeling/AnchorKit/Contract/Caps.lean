import AnchorKit.Contract.Authority
import AnchorKit.Contract.History

/-!
# Lifetime caps over runs

The cap of a type is looked up when an attestation is issued and never again.
Every history entry is traced back to the invocation that issued it, and the cap
that invocation met bounds the entry's lifetime whatever the caps become later.
-/

set_option autoImplicit false

namespace AnchorKit.Contract

open AnchorKit.Base AnchorKit.Base.MachineInt

/-! ## The caps themselves -/

/-- No configured cap is zero. -/
structure CapsPositive (world : World) : Prop where
  override : ∀ attestationType, world.maxAttestationTtl attestationType ≠ some 0
  default : world.defaultMaxAttestationTtl ≠ some 0

theorem CapsPositive.of_fields {before after : World} (positive : CapsPositive before)
    (override : after.maxAttestationTtl = before.maxAttestationTtl)
    (default : after.defaultMaxAttestationTtl = before.defaultMaxAttestationTtl) :
    CapsPositive after where
  override attestationType := by
    rw [override]
    exact positive.override attestationType
  default := by
    rw [default]
    exact positive.default

theorem SameGovernance.capsPositive {before after : World}
    (same : SameGovernance before after) (positive : CapsPositive before) :
    CapsPositive after :=
  positive.of_fields same.maxAttestationTtl same.defaultMaxAttestationTtl

theorem AdminWrite.capsPositive {env : Env} {admin : Address} {call : Call}
    {before after : World} (write : AdminWrite env admin call before after)
    (positive : CapsPositive before) : CapsPositive after := by
  cases write with
  | setDefaultMaxAttestationTtl maxTtlSeconds _ nonzero =>
      refine ⟨positive.override, ?_⟩
      intro zero
      exact nonzero (Option.some.inj zero)
  | setMaxAttestationTtl attestationType maxTtlSeconds _ nonzero =>
      refine ⟨?_, positive.default⟩
      intro other zero
      simp only [World.emit, Storage.setMaxAttestationTtl] at zero
      split at zero
      · exact nonzero (Option.some.inj zero)
      · exact positive.override other zero
  | _ => exact positive.of_fields rfl rfl

theorem Committed.capsPositive {env : Env} {call : Call} {before after : World}
    (committed : Committed env call before after) (positive : CapsPositive before) :
    CapsPositive after := by
  cases committed with
  | query _ => exact positive
  | initialized _ _ => exact positive.of_fields rfl rfl
  | administered _ _ write => exact write.capsPositive positive
  | issued _ _ _ _ _ recorded => exact recorded.sameGovernance.capsPositive positive
  | revoked _ _ _ _ _ _ write =>
      exact (write.sameGovernance.capsPositive positive).of_fields rfl rfl
  | renewed _ _ _ _ => exact positive.of_fields rfl rfl
  | configured _ _ => exact positive.of_fields rfl rfl
  | rotated _ _ _ => exact positive.of_fields rfl rfl

theorem reached_capsPositive (steps : List Step) : CapsPositive (reached steps) := by
  refine Machine.run_invariant World.step CapsPositive ?_ steps World.deployed
    ⟨fun _ => by simp [World.deployed], by simp [World.deployed]⟩
  intro world step positive
  rcases step_cases world step with ⟨_, same⟩ | ⟨_, committed⟩
  · rwa [same]
  · exact committed.capsPositive positive

theorem CapsPositive.one_le {world : World} (positive : CapsPositive world)
    (attestationType : Symbol) :
    1 ≤ Storage.getMaxAttestationTtl attestationType world := by
  apply one_le_of_ne_zero
  unfold Storage.getMaxAttestationTtl
  cases override : world.maxAttestationTtl attestationType with
  | some cap =>
      intro zero
      have capZero : cap = 0 := zero
      rw [capZero] at override
      exact positive.override attestationType override
  | none =>
      cases default : world.defaultMaxAttestationTtl with
      | some cap =>
          intro zero
          have capZero : cap = 0 := zero
          rw [capZero] at default
          exact positive.default default
      | none => decide

/-! ## Where a history entry comes from -/

/-- The invocation at `visit` issued the record of `entry` on `request`: it
succeeded, and the request met the cap in force when it was made. -/
structure Origin (visit : World × Step) (pair : Pair) (request : BatchAttestEntry)
    (entry : HistoryEntry) : Prop where
  succeeded : visit.2.succeeds visit.1 = true
  issues : ∃ entries, visit.2.call.issues = some (entry.attestor, entries) ∧
    request ∈ entries
  named : Entry.pairOf request = pair
  payloadHash : entry.payloadHash = request.payloadHash
  issuedAt : entry.issuedAt = visit.2.env.ledger.timestamp
  short : request.attestationType.chars.length ≤ Entry.maxAttestationTypeLen
  positive : 1 ≤ request.ttlSeconds
  capped : request.ttlSeconds ≤ Storage.getMaxAttestationTtl pair.2 visit.1
  expiresAt : entry.expiresAt = saturatingAdd entry.issuedAt request.ttlSeconds

section Origin

variable {visit : World × Step} {pair : Pair} {request : BatchAttestEntry}
  {entry : HistoryEntry}

theorem Origin.expiresAt_toNat (origin : Origin visit pair request entry) :
    entry.expiresAt.toNat =
      min (entry.issuedAt.toNat + request.ttlSeconds.toNat) (2 ^ 64 - 1) := by
  rw [origin.expiresAt, saturatingAdd_toNat]
  rfl

theorem Origin.issuedAt_le (origin : Origin visit pair request entry) :
    entry.issuedAt ≤ entry.expiresAt := by
  have expiry := origin.expiresAt_toNat
  have bound := entry.issuedAt.toNat_lt
  apply UInt64.le_iff_toNat_le.mpr
  omega

end Origin

theorem Committed.history_cases {world : World} {step : Step}
    (succeeded : step.succeeds world = true)
    (committed : Committed step.env step.call world (world.step step))
    {pair : Pair} {number : UInt64} {entry : HistoryEntry}
    (found : Storage.getHistoryEntry pair number (world.step step) = some entry) :
    Storage.getHistoryEntry pair number world = some entry ∨
      (∃ request, Origin (world, step) pair request entry) ∨
      ∃ attestation, Storage.getAttestation pair world = some attestation ∧
        entry = Storage.historyEntry number (Entry.markRevoked attestation) := by
  generalize world.step step = later at committed found
  generalize called : step.call = call at committed
  cases committed with
  | query _ => exact Or.inl found
  | initialized _ _ => exact Or.inl found
  | administered _ _ write =>
      rw [write.sameRecords.history] at found
      exact Or.inl found
  | @issued _ attestor entries _ _ issues _ _ _ _ recorded =>
      rcases recorded.history_cases found with kept | added
      · exact Or.inl kept
      · obtain ⟨request, member, named, rfl, positive, short, capped⟩ := added
        refine Or.inr (Or.inl ⟨request, succeeded, ⟨entries, ?_, member⟩, named, rfl, rfl,
          short, one_le_of_ne_zero positive, ?_, rfl⟩)
        · rw [called]
          exact issues
        · rw [← named]
          exact capped
  | @revoked _ _ target attestation _ _ _ _ stored _ _ _ write =>
      rw [(write.wrote.emit _).logged] at found
      split at found
      · rename_i fresh
        obtain ⟨rfl, _⟩ := fresh
        exact Or.inr (Or.inr ⟨attestation, stored, (Option.some.inj found).symm⟩)
      · exact Or.inl found
  | renewed _ stored _ _ =>
      have same := (setAttestation_sameRecords step.env stored).history pair number
      exact Or.inl (same.symm.trans found)
  | configured _ _ => exact Or.inl found
  | rotated _ _ _ => exact Or.inl found

theorem Origin.of_withdrawn {visit : World × Step} {pair : Pair}
    {request : BatchAttestEntry} {attestation : Attestation} {number other : UInt64}
    (origin : Origin visit pair request (Storage.historyEntry number attestation)) :
    Origin visit pair request
      (Storage.historyEntry other (Entry.markRevoked attestation)) :=
  ⟨origin.succeeded, origin.issues, origin.named, origin.payloadHash, origin.issuedAt,
    origin.short, origin.positive, origin.capped, origin.expiresAt⟩

theorem reached_origin (steps : List Step) {pair : Pair} {number : UInt64}
    {entry : HistoryEntry}
    (found : Storage.getHistoryEntry pair number (reached steps) = some entry) :
    ∃ visit ∈ visits steps, ∃ request, Origin visit pair request entry := by
  induction steps using List.reverseRecOn generalizing number entry with
  | nil => cases found
  | append_singleton earlier step ih =>
      have old : ∀ {number : UInt64} {entry : HistoryEntry},
          Storage.getHistoryEntry pair number (reached earlier) = some entry →
          ∃ visit ∈ visits (earlier ++ [step]), ∃ request,
            Origin visit pair request entry := by
        intro number entry stored
        obtain ⟨visit, member, origin⟩ := ih stored
        refine ⟨visit, ?_, origin⟩
        rw [visits, Machine.visits_append]
        exact List.mem_append_left _ member
      rw [reached_append_singleton] at found
      rcases step_cases (reached earlier) step with ⟨_, same⟩ | ⟨succeeded, committed⟩
      · rw [same] at found
        exact old found
      rcases committed.history_cases succeeded found with kept | issued | withdrawn
      · exact old kept
      · obtain ⟨request, origin⟩ := issued
        refine ⟨_, ?_, request, origin⟩
        rw [visits, Machine.visits_append]
        exact List.mem_append_right _ (by simp [Machine.visits, reached, World.run])
      · -- a revocation repeats the record the counter names, so it inherits its origin
        obtain ⟨attestation, stored, rfl⟩ := withdrawn
        obtain ⟨log, audited, _⟩ := reached_audited earlier pair
        obtain ⟨visit, member, request, origin⟩ := old (audited.latest_of_stored stored)
        exact ⟨visit, member, request, origin.of_withdrawn⟩

/-! ## The current record -/

def KeyedByPair (world : World) : Prop :=
  ∀ pair attestation, Storage.getAttestation pair world = some attestation →
    (attestation.subject, attestation.attestationType) = pair

theorem reached_keyedByPair (steps : List Step) : KeyedByPair (reached steps) := by
  refine run_of_recordStep KeyedByPair ?_ steps World.deployed ?_
  · intro env before after step keyed pair attestation stored
    cases step with
    | kept same =>
        rw [same.attestation] at stored
        exact keyed pair attestation stored
    | issued attestor entry wrote _ =>
        rw [wrote.stored] at stored
        split at stored
        · rename_i named
          cases Option.some.inj stored
          exact named.symm
        · exact keyed pair attestation stored
    | revoked target withdrawn held _ wrote _ =>
        rw [wrote.stored] at stored
        split at stored
        · rename_i named
          cases Option.some.inj stored
          exact (keyed target withdrawn held).trans named.symm
        · exact keyed pair attestation stored
  · intro pair attestation stored
    cases stored

/-- The call attests the pair anew. -/
def Call.Reissues (call : Call) (pair : Pair) : Prop :=
  ∃ attestor entries, call.issues = some (attestor, entries) ∧
    pair ∈ entries.map Entry.pairOf

theorem Committed.expiresAt_kept {env : Env} {call : Call} {before after : World}
    (committed : Committed env call before after) {pair : Pair}
    (kept : ¬ call.Reissues pair) :
    (Storage.getAttestation pair after).map Attestation.expiresAt =
      (Storage.getAttestation pair before).map Attestation.expiresAt := by
  have unchanged : SamePair pair before after →
      (Storage.getAttestation pair after).map Attestation.expiresAt =
        (Storage.getAttestation pair before).map Attestation.expiresAt := by
    intro same
    rw [same.attestation]
  cases committed with
  | @revoked _ _ target attestation _ _ _ _ stored _ _ _ write =>
      rw [(write.wrote.emit _).stored]
      split
      · rename_i named
        rw [named, stored]
        rfl
      · rfl
  | @issued _ attestor entries _ _ issues _ _ _ _ recorded =>
      apply unchanged
      apply recorded.samePair
      intro named
      exact kept ⟨attestor, entries, issues, named⟩
  | administered _ _ write => exact unchanged (write.sameRecords.samePair pair)
  | renewed _ stored _ _ =>
      have same := (setAttestation_sameRecords env stored).attestation pair
      exact congrArg (Option.map Attestation.expiresAt) same
  | _ => rfl

theorem run_expiresAt_kept (world : World) (more : List Step) {pair : Pair}
    (kept : ∀ step ∈ more, ¬ step.call.Reissues pair) :
    (Storage.getAttestation pair (world.run more)).map Attestation.expiresAt =
      (Storage.getAttestation pair world).map Attestation.expiresAt := by
  induction more generalizing world with
  | nil => rfl
  | cons step rest ih =>
      have later := ih (world.step step) fun other member => kept other (by simp [member])
      refine later.trans ?_
      rcases step_cases world step with ⟨_, same⟩ | ⟨_, committed⟩
      · rw [same]
      · exact committed.expiresAt_kept (kept step (by simp))

/-- Every history entry was issued under the cap of its type at that moment and
expires when its lifetime says; the caps stay positive, types stay short, and no
later call but a new attest moves the expiry of a record. -/
theorem caps_bound_every_record (steps : List Step) :
    (∀ pair number entry,
      Storage.getHistoryEntry pair number (reached steps) = some entry →
      ∃ visit ∈ visits steps, ∃ attestor entries request,
        visit.2.succeeds visit.1 = true ∧
        visit.2.call.issues = some (attestor, entries) ∧ request ∈ entries ∧
        Entry.pairOf request = pair ∧
        entry.attestor = attestor ∧ entry.payloadHash = request.payloadHash ∧
        entry.issuedAt = visit.2.env.ledger.timestamp ∧
        1 ≤ request.ttlSeconds ∧
        request.ttlSeconds ≤ Storage.getMaxAttestationTtl pair.2 visit.1 ∧
        entry.expiresAt.toNat =
          min (entry.issuedAt.toNat + request.ttlSeconds.toNat) (2 ^ 64 - 1) ∧
        entry.issuedAt ≤ entry.expiresAt) ∧
    (∀ attestationType,
      1 ≤ Storage.getMaxAttestationTtl attestationType (reached steps)) ∧
    (∀ pair attestation,
      Storage.getAttestation pair (reached steps) = some attestation →
      attestation.attestationType = pair.2 ∧
        attestation.attestationType.chars.length ≤ 24) ∧
    (∀ pair number entry,
      Storage.getHistoryEntry pair number (reached steps) = some entry →
      pair.2.chars.length ≤ 24 ∧
        ∀ more, Storage.getHistoryEntry pair number (reached (steps ++ more)) =
          some entry) ∧
    (∀ pair more, (∀ step ∈ more, ¬ step.call.Reissues pair) →
      (Storage.getAttestation pair (reached (steps ++ more))).map Attestation.expiresAt =
        (Storage.getAttestation pair (reached steps)).map Attestation.expiresAt) := by
  have short : ∀ pair number entry,
      Storage.getHistoryEntry pair number (reached steps) = some entry →
      pair.2.chars.length ≤ 24 := by
    intro pair number entry found
    obtain ⟨_, _, request, origin⟩ := reached_origin steps found
    rw [← origin.named]
    exact origin.short
  refine ⟨?_, (reached_capsPositive steps).one_le, ?_, ?_, ?_⟩
  · intro pair number entry found
    obtain ⟨visit, member, request, origin⟩ := reached_origin steps found
    obtain ⟨entries, issues, requested⟩ := origin.issues
    exact ⟨visit, member, entry.attestor, entries, request, origin.succeeded, issues,
      requested, origin.named, rfl, origin.payloadHash, origin.issuedAt, origin.positive,
      origin.capped, origin.expiresAt_toNat, origin.issuedAt_le⟩
  · intro pair attestation stored
    have keyed := reached_keyedByPair steps pair attestation stored
    have typed : attestation.attestationType = pair.2 := congrArg Prod.snd keyed
    obtain ⟨log, audited, _⟩ := reached_audited steps pair
    refine ⟨typed, ?_⟩
    rw [typed]
    exact short pair _ _ (audited.latest_of_stored stored)
  · intro pair number entry found
    exact ⟨short pair number entry found,
      fun more => reached_history_persists steps more found⟩
  · intro pair more kept
    rw [reached_append]
    exact run_expiresAt_kept (reached steps) more kept

end AnchorKit.Contract
