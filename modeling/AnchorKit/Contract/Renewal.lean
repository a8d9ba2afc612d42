import AnchorKit.Contract.Authority
import AnchorKit.Contract.Rent

/-!
# Renewals keep entries alive

A write asks for a whole window and the host refuses it when half of the window is still
held, so half a window is what every write of a record is sure to leave, whoever wrote
before: a record is live as long as its next write comes in time.  For an attestor the
threshold is ninety days, until it is removed.
-/

set_option autoImplicit false

namespace AnchorKit.Contract

open AnchorKit.Base AnchorKit.Base.MachineInt

/-! ## Records -/

/-- Half of the window: the remaining lifetime, but no less than 30 days and no more than
the ceiling, halved. -/
def assuredLedgers (env : Env) (attestation : Attestation) : Nat :=
  max Storage.minAttestationTtlExtendTo.toNat (requiredLedgers env attestation) / 2

theorem attestationTtlWindow_threshold (env : Env) (attestation : Attestation) :
    (Storage.attestationTtlWindow (Storage.remainingSeconds attestation env)).1.toNat =
      assuredLedgers env attestation := by
  have half : (Storage.attestationExtendTo
      (Storage.remainingSeconds attestation env) / 2).toNat =
      (Storage.attestationExtendTo (Storage.remainingSeconds attestation env)).toNat / 2 :=
    UInt32.toNat_div _ _
  rw [Storage.attestationTtlWindow, half, attestationExtendTo_toNat, Storage.remainingSeconds,
    saturatingSub_toNat]
  rfl

/-- The record of the pair is there and has the assured ledgers left. -/
def Assured (env : Env) (pair : Pair) (world : World) : Prop :=
  ∃ attestation, Storage.getAttestation pair world = some attestation ∧
    env.ledger.sequenceNumber + assuredLedgers env attestation ≤
      world.attestation.liveUntil pair

theorem setAttestation_assured (env : Env) (pair : Pair) (attestation : Attestation)
    (world : World) : Assured env pair (Storage.setAttestation pair attestation env world) := by
  refine ⟨attestation, ?_, ?_⟩
  · simp [Storage.getAttestation, Storage.setAttestation]
  · rw [← attestationTtlWindow_threshold]
    exact LiveMap.threshold_le_set_extendTtl _ (attestationTtlWindow_threshold_le _) _ _ _ _

theorem Assured.of_attestation {env : Env} {pair : Pair} {before after : World}
    (assured : Assured env pair before) (same : after.attestation = before.attestation) :
    Assured env pair after := by
  obtain ⟨attestation, stored, left⟩ := assured
  refine ⟨attestation, ?_, ?_⟩
  · rw [Storage.getAttestation, same]
    exact stored
  · rw [same]
    exact left

theorem RecordedAll.assured {env : Env} {attestor : Address} {entries : List BatchAttestEntry}
    {before after : World} (recorded : RecordedAll env attestor entries before after)
    {pair : Pair} (named : pair ∈ entries.map Entry.pairOf) : Assured env pair after := by
  induction recorded with
  | nil world => simp at named
  | @cons entry rest start middle final first others ih =>
      by_cases again : pair ∈ rest.map Entry.pairOf
      · exact ih again
      · have here : pair = Entry.pairOf entry := by
          rw [List.map_cons, List.mem_cons] at named
          exact named.resolve_right again
        subst pair
        obtain ⟨attestation, stored, left⟩ :=
          (setAttestation_assured env (Entry.pairOf entry) _ start).of_attestation
            first.attestation_eq
        refine ⟨attestation, ?_, left.trans (others.outlives.expiry _)⟩
        rw [(others.samePair again).attestation]
        exact stored

theorem Committed.assured {env : Env} {call : Call} {before after : World}
    (committed : Committed env call before after) {pair : Pair}
    (touched : pair ∈ call.touched) : Assured env pair after := by
  cases committed with
  | query readOnly => cases call <;> simp [Call.isQuery, Call.touched] at readOnly touched
  | administered _ _ write => cases write <;> simp [Call.touched] at touched
  | issued issues _ _ _ _ recorded =>
      rw [Call.touched_of_issues issues] at touched
      exact recorded.assured touched
  | revoked _ _ _ _ _ _ write =>
      cases List.mem_singleton.mp touched
      exact (setAttestation_assured _ _ _ _).of_attestation write.attestation_eq
  | renewed _ _ _ _ =>
      cases List.mem_singleton.mp touched
      exact (setAttestation_assured _ _ _ _).of_attestation rfl
  | _ => simp [Call.touched] at touched

/-- What a write has assured outlasts every later call. -/
theorem Assured.isLive {env : Env} {pair : Pair} {earlier later : World}
    (assured : Assured env pair earlier) (outlived : Outlives earlier later) :
    ∃ attestation, Storage.getAttestation pair earlier = some attestation ∧
      ∀ ledger ≤ env.ledger.sequenceNumber + assuredLedgers env attestation,
        later.attestation.isLive ledger pair = true := by
  obtain ⟨attestation, stored, left⟩ := assured
  refine ⟨attestation, stored, ?_⟩
  intro ledger inTime
  rw [LiveMap.isLive, Bool.and_eq_true, decide_eq_true_eq]
  exact ⟨outlived.present pair (Option.isSome_of_eq_some stored),
    (inTime.trans left).trans (outlived.expiry pair)⟩

/-! ## Attestors -/

structure ListedUntil (ledger : Nat) (attestor : Address) (world : World) : Prop where
  listed : world.attestor.get attestor = some true
  expiry : ledger ≤ world.attestor.liveUntil attestor

theorem ListedUntil.of_attestor {ledger : Nat} {attestor : Address} {before after : World}
    (listed : ListedUntil ledger attestor before) (same : after.attestor = before.attestor) :
    ListedUntil ledger attestor after := by
  refine ⟨?_, ?_⟩
  · rw [same]
    exact listed.listed
  · rw [same]
    exact listed.expiry

theorem setAttestor_listedUntil (env : Env) (attestor : Address) (world : World) :
    ListedUntil (env.ledger.sequenceNumber + Storage.attestorTtlThreshold.toNat) attestor
      (Storage.setAttestor attestor true env world) where
  listed := by simp [Storage.setAttestor]
  expiry := LiveMap.threshold_le_set_extendTtl _ (by decide) _ _ _ _

theorem ListedUntil.setAttestor {ledger : Nat} {attestor : Address} {world : World}
    (listed : ListedUntil ledger attestor world) (env : Env) (other : Address) :
    ListedUntil ledger attestor (Storage.setAttestor other true env world) where
  listed := by
    simp only [Storage.setAttestor, if_true, LiveMap.get_extendTtl, LiveMap.get_set]
    split
    · rfl
    · exact listed.listed
  expiry := listed.expiry.trans
    (LiveMap.liveUntil_le_set_extendTtl _ (by decide) _ _ other attestor true)

theorem ListedUntil.removeOther {ledger : Nat} {attestor other : Address} {world : World}
    (listed : ListedUntil ledger attestor world) (different : attestor ≠ other) (env : Env) :
    ListedUntil ledger attestor (Storage.setAttestor other false env world) where
  listed := by
    simp only [Storage.setAttestor, Bool.false_eq_true, if_false, LiveMap.remove,
      LiveMap.get_put, different]
    exact listed.listed
  expiry := by
    simp only [Storage.setAttestor, Bool.false_eq_true, if_false, LiveMap.remove,
      LiveMap.liveUntil_put, different]
    exact listed.expiry

theorem Committed.listedUntil {env : Env} {call : Call} {before after : World}
    (committed : Committed env call before after) {ledger : Nat} {attestor : Address}
    (listed : ListedUntil ledger attestor before) (kept : call ≠ .removeAttestor attestor) :
    ListedUntil ledger attestor after := by
  cases committed with
  | query _ => exact listed
  | administered _ _ write =>
      cases write with
      | addAttestor other => exact (listed.setAttestor env other).of_attestor rfl
      | renewAttestor other => exact (listed.setAttestor env other).of_attestor rfl
      | removeAttestor other =>
          have different : attestor ≠ other := fun same => kept (by rw [same])
          exact (listed.removeOther different env).of_attestor rfl
      | _ => exact listed.of_attestor rfl
  | issued _ _ _ _ _ recorded => exact listed.of_attestor recorded.sameGovernance.attestor
  | revoked _ _ _ _ _ _ write => exact listed.of_attestor write.sameGovernance.attestor
  | _ => exact listed.of_attestor rfl

theorem run_listedUntil (world : World) (steps : List Step) {ledger : Nat}
    {attestor : Address} (listed : ListedUntil ledger attestor world)
    (kept : ∀ visit ∈ Machine.visits World.step world steps,
      visit.2.call = .removeAttestor attestor → visit.2.succeeds visit.1 = false) :
    ListedUntil ledger attestor (world.run steps) := by
  refine Machine.run_invariant_of_visits World.step (ListedUntil ledger attestor) steps world
    ?_ listed
  rintro ⟨current, step⟩ visited holds
  rcases step_cases current step with ⟨_, same⟩ | ⟨succeeded, committed⟩
  · rw [same]
    exact holds
  · refine committed.listedUntil holds ?_
    intro removes
    have failed := kept _ visited removes
    rw [succeeded] at failed
    cases failed

def Call.lists : Call → Option Address
  | .addAttestor attestor | .renewAttestor attestor => some attestor
  | _ => none

theorem Committed.lists {env : Env} {call : Call} {before after : World}
    (committed : Committed env call before after) {attestor : Address}
    (lists : call.lists = some attestor) :
    ListedUntil (env.ledger.sequenceNumber + Storage.attestorTtlThreshold.toNat) attestor
      after := by
  cases committed with
  | query readOnly => cases call <;> simp [Call.isQuery, Call.lists] at readOnly lists
  | administered _ _ write =>
      cases write with
      | addAttestor listed =>
          cases Option.some.inj lists
          exact (setAttestor_listedUntil env _ before).of_attestor rfl
      | renewAttestor listed =>
          cases Option.some.inj lists
          exact (setAttestor_listedUntil env _ before).of_attestor rfl
      | _ => cases lists
  | issued issues _ _ _ _ _ =>
      rcases Call.issues_cases issues with ⟨_, rfl, _⟩ | rfl
      · cases lists
      · cases lists
  | _ => cases lists

/-- After every successful call that writes the record of a pair, the record is live for
half of its window, at least 15 days, whatever is called later; after every successful
call that lists an attestor or renews it, it is listed for 90 days unless a removal goes
through.  So entries that are renewed at that pace are never archived. -/
theorem renewals_keep_entries_alive (before after : List Step) (step : Step)
    (succeeded : step.succeeds (reached before) = true) :
    (∀ pair ∈ step.call.touched, ∃ attestation,
      Storage.getAttestation pair (reached (before ++ [step])) = some attestation ∧
        259200 ≤ assuredLedgers step.env attestation ∧
        ∀ ledger ≤ step.env.ledger.sequenceNumber + assuredLedgers step.env attestation,
          (reached (before ++ step :: after)).attestation.isLive ledger pair = true) ∧
    ∀ attestor, step.call.lists = some attestor →
      (∀ visit ∈ Machine.visits World.step (reached (before ++ [step])) after,
        visit.2.call = .removeAttestor attestor → visit.2.succeeds visit.1 = false) →
      ∀ ledger ≤ step.env.ledger.sequenceNumber + 1555200,
        (reached (before ++ step :: after)).attestor.isLive ledger attestor = true := by
  have committed := committed_of_succeeds succeeded
  have whole : reached (before ++ step :: after) = ((reached before).step step).run after := by
    rw [List.append_cons, reached_append, reached_append_singleton]
  rw [whole, reached_append_singleton]
  refine ⟨?_, ?_⟩
  · intro pair touched
    obtain ⟨attestation, stored, live⟩ :=
      (committed.assured touched).isLive (run_outlives _ after)
    refine ⟨attestation, stored, ?_, live⟩
    have floor : Storage.minAttestationTtlExtendTo.toNat = 518400 := by decide
    unfold assuredLedgers
    omega
  · intro attestor lists kept ledger inTime
    have listed := run_listedUntil _ after (committed.lists lists) kept
    have threshold : Storage.attestorTtlThreshold.toNat = 1555200 := by decide
    have expiry := listed.expiry
    rw [LiveMap.isLive, listed.listed, Bool.and_eq_true, decide_eq_true_eq]
    exact ⟨rfl, by omega⟩

theorem sample_entries_alive :
    (reached rentRun).attestation.isLive 259200 (⟨2⟩, sampleType) = true ∧
      (reached sampleDeployment).attestor.isLive 1555200 ⟨1⟩ = true := by
  obtain ⟨attestation, _, assured, live⟩ := (renewals_keep_entries_alive sampleDeployment []
    ⟨sampleEnv, .attest ⟨1⟩ (sampleEntry 200)⟩ (by decide +kernel)).1 (⟨2⟩, sampleType)
    (by decide)
  refine ⟨live 259200 (by rw [show sampleEnv.ledger.sequenceNumber = 0 from rfl]; omega), ?_⟩
  exact (renewals_keep_entries_alive [⟨sampleEnv, .initializeContract ⟨0⟩⟩] []
    ⟨sampleEnv, .addAttestor ⟨1⟩⟩ (by decide +kernel)).2 ⟨1⟩ rfl
    (by intro visit visited; cases visited) 1555200 (by decide)

end AnchorKit.Contract
