import AnchorKit.Contract.Authority
import AnchorKit.Contract.Prediction
import AnchorKit.Contract.Validity

/-!
# Pausing the contract and taking it back

A pause holds every record as it is until an `unpause` goes through, whatever is called in
between.  And whatever calls came before, the admin can bring an initialised contract to
accept an attestation and to withdraw any record that stands: no order of pauses, removals,
caps and rotations locks it.  What remains out of reach is a counter that is used up.
-/

set_option autoImplicit false

namespace AnchorKit.Contract

open AnchorKit.Base AnchorKit.Base.MachineInt

/-! ## The pause -/

/-- Only an initialised contract can be paused, so `initialize` cannot lift the pause. -/
structure Halted (world : World) : Prop where
  paused : Storage.isPaused world = true
  governed : world.admin.isSome = true

theorem reached_halted {steps : List Step}
    (paused : Storage.isPaused (reached steps) = true) : Halted (reached steps) where
  paused := paused
  governed := by
    rw [Option.isSome_iff_ne_none]
    intro unset
    rw [(reached_blank steps unset).running] at paused
    cases paused

/-- Of all the calls that a paused contract lets through, only `unpause` ends the pause,
and none touches a record. -/
theorem Committed.halted {env : Env} {call : Call} {before after : World}
    (committed : Committed env call before after) (halted : Halted before)
    (held : call ≠ .unpause) : Halted after ∧ SameRecords before after := by
  have refused : Storage.isPaused before ≠ false := by
    rw [halted.paused]
    decide
  cases committed with
  | query _ => exact ⟨halted, .of_fields rfl rfl rfl rfl⟩
  | initialized fresh _ =>
      have governed := halted.governed
      rw [fresh] at governed
      cases governed
  | administered _ _ write =>
      refine ⟨?_, write.sameRecords⟩
      cases write with
      | unpause => exact absurd rfl held
      | setAdmin newAdmin => exact ⟨halted.paused, rfl⟩
      | pause => exact ⟨rfl, halted.governed⟩
      | _ => exact ⟨halted.paused, halted.governed⟩
  | issued _ running _ _ _ _ => exact absurd running refused
  | revoked running _ _ _ _ _ _ => exact absurd running refused
  | renewed _ stored _ _ =>
      have same := setAttestation_sameRecords env stored
      exact ⟨⟨halted.paused, halted.governed⟩,
        ⟨same.attestation, same.sequence, same.history, same.count⟩⟩
  | configured _ _ => exact ⟨⟨halted.paused, halted.governed⟩, .of_fields rfl rfl rfl rfl⟩
  | rotated _ _ _ => exact ⟨⟨halted.paused, halted.governed⟩, .of_fields rfl rfl rfl rfl⟩

theorem SameRecords.trans {first second third : World} (before : SameRecords first second)
    (after : SameRecords second third) : SameRecords first third where
  attestation pair := (after.attestation pair).trans (before.attestation pair)
  sequence pair := (after.sequence pair).trans (before.sequence pair)
  history pair number := (after.history pair number).trans (before.history pair number)
  count := after.count.trans before.count

theorem SameRecords.isValidAt {before after : World} (same : SameRecords before after)
    (now : UInt64) (pair : Pair) :
    Entry.isValidAt now pair after = Entry.isValidAt now pair before := by
  simp only [Entry.isValidAt, same.attestation]

theorem SameRecords.historyPage {before after : World} (same : SameRecords before after)
    (pair : Pair) (startSeq : UInt64) (limit : UInt32) (reverse : Bool) :
    Storage.historyPage pair startSeq limit reverse after =
      Storage.historyPage pair startSeq limit reverse before := by
  simp only [Storage.historyPage, same.sequence, same.history]

/-- While no `unpause` goes through, a paused contract stays paused, keeps every record,
history and the count, and answers `is_valid` and `list_attestation_history` as before. -/
theorem pause_freezes_records (steps more : List Step)
    (paused : Storage.isPaused (reached steps) = true)
    (held : ∀ visit ∈ Machine.visits World.step (reached steps) more,
      visit.2.call = .unpause → visit.2.succeeds visit.1 = false) :
    Storage.isPaused (reached (steps ++ more)) = true ∧
      SameRecords (reached steps) (reached (steps ++ more)) ∧
      (∀ now pair, Entry.isValidAt now pair (reached (steps ++ more)) =
        Entry.isValidAt now pair (reached steps)) ∧
      ∀ pair startSeq limit reverse,
        Storage.historyPage pair startSeq limit reverse (reached (steps ++ more)) =
          Storage.historyPage pair startSeq limit reverse (reached steps) := by
  rw [reached_append]
  obtain ⟨halted, same⟩ := Machine.run_invariant_of_visits World.step
    (fun world => Halted world ∧ SameRecords (reached steps) world) more (reached steps) (by
      rintro ⟨world, step⟩ visited ⟨halted, same⟩
      rcases step_cases world step with ⟨_, stayed⟩ | ⟨succeeded, committed⟩
      · exact ⟨by rw [stayed]; exact halted, by rw [stayed]; exact same⟩
      · have other : step.call ≠ .unpause := by
          intro unpauses
          have failed := held _ visited unpauses
          rw [succeeded] at failed
          cases failed
        obtain ⟨stillHalted, kept⟩ := committed.halted halted other
        exact ⟨stillHalted, same.trans kept⟩)
    ⟨reached_halted paused, .of_fields rfl rfl rfl rfl⟩
  exact ⟨halted.paused, same, same.isValidAt, same.historyPage⟩

theorem paused_sample_frozen :
    let paused := sampleDeployment ++ [⟨sampleEnv, .pause⟩]
    let attempt : Step := ⟨sampleEnv, .attest ⟨1⟩ (sampleEntry 200)⟩
    Storage.isPaused (reached paused) = true ∧
      SameRecords (reached paused) (reached (paused ++ [attempt])) := by
  intro paused attempt
  refine ⟨by decide +kernel, (pause_freezes_records paused [attempt] (by decide +kernel) ?_).2.1⟩
  intro visit visited unpauses
  simp only [Machine.visits, List.mem_singleton] at visited
  subst visit
  cases unpauses

/-! ## Taking the contract back -/

/-- What an admin calls before an attest that must go through. -/
def reopening (env : Env) (attestor : Address) (entry : BatchAttestEntry) : List Step :=
  [⟨env, .unpause⟩, ⟨env, .addAttestor attestor⟩,
    ⟨env, .setMaxAttestationTtl entry.attestationType entry.ttlSeconds⟩]

section Steps

variable {world : World} {env : Env} {admin : Address}

theorem unpause_step (held : world.admin = some admin) (authorised : admin ∈ env.auths) :
    world.step ⟨env, .unpause⟩ =
      (Storage.setPaused false env world).emit (.pauseToggled false) := by
  have run : invoke .unpause env world =
      (.ok .unit, (Storage.setPaused false env world).emit (.pauseToggled false)) := by
    simp [invoke, Entry.unpause, held, authorised]
  exact (step_ok_iff.mpr ⟨_, run⟩).2

theorem setMaxAttestationTtl_step (held : world.admin = some admin)
    (authorised : admin ∈ env.auths) (attestationType : Symbol) {maxTtlSeconds : UInt64}
    (positive : maxTtlSeconds ≠ 0) :
    world.step ⟨env, .setMaxAttestationTtl attestationType maxTtlSeconds⟩ =
      (Storage.setMaxAttestationTtl attestationType maxTtlSeconds env world).emit
        (.maxAttestationTtlChanged attestationType maxTtlSeconds) := by
  have run : invoke (.setMaxAttestationTtl attestationType maxTtlSeconds) env world =
      (.ok .unit, (Storage.setMaxAttestationTtl attestationType maxTtlSeconds env world).emit
        (.maxAttestationTtlChanged attestationType maxTtlSeconds)) := by
    simp [invoke, Entry.setMaxAttestationTtl, held, authorised, positive]
  exact (step_ok_iff.mpr ⟨_, run⟩).2

theorem addAttestor_step (held : world.admin = some admin) (authorised : admin ∈ env.auths)
    (attestor : Address) :
    ∃ listed : World, world.step ⟨env, .addAttestor attestor⟩ = listed ∧
      Storage.isAttestor attestor listed = true ∧ listed.admin = world.admin ∧
      listed.paused = world.paused ∧ SameRecords world listed := by
  cases already : Storage.isAttestor attestor world with
  | true =>
      refine ⟨world, ?_, already, rfl, rfl, .of_fields rfl rfl rfl rfl⟩
      rcases step_cases world ⟨env, .addAttestor attestor⟩ with ⟨_, same⟩ | ⟨succeeded, _⟩
      · exact same
      · have passed := ((gated_succeeds_iff rfl).mp succeeded).2
        rw [already] at passed
        cases passed
  | false =>
      have run : invoke (.addAttestor attestor) env world =
          (.ok .unit, (Storage.setAttestor attestor true env world).emit
            (.attestorAdded attestor)) := by
        simp [invoke, Entry.addAttestor, held, authorised, already]
      have moved : world.step ⟨env, .addAttestor attestor⟩ =
          (Storage.setAttestor attestor true env world).emit (.attestorAdded attestor) :=
        (step_ok_iff.mpr ⟨_, run⟩).2
      refine ⟨_, moved, ?_, rfl, rfl, .of_fields rfl rfl rfl rfl⟩
      exact (Storage.isAttestor_setAttestor attestor attestor true env world).trans (if_pos rfl)

end Steps

theorem SameRecords.roomFor {before after : World} (same : SameRecords before after)
    {entries : List BatchAttestEntry} (room : RoomFor before entries) :
    RoomFor after entries where
  count := by
    rw [same.count]
    exact room.count
  sequences pair := by
    rw [same.sequence]
    exact room.sequences pair

theorem attest_succeeds_reopened {world : World} {env : Env} {admin attestor : Address}
    {entry : BatchAttestEntry} (held : world.admin = some admin)
    (authorised : admin ∈ env.auths) (signed : attestor ∈ env.auths)
    (validated : Validated entry) (room : RoomFor world [entry]) :
    Step.succeeds (world.run (reopening env attestor entry)) ⟨env, .attest attestor entry⟩ =
      true := by
  have heldOpen :
      ((Storage.setPaused false env world).emit (.pauseToggled false)).admin = some admin :=
    held
  obtain ⟨listed, moved, isListed, sameAdmin, samePaused, sameRecords⟩ :=
    addAttestor_step heldOpen authorised attestor
  have opened : world.run (reopening env attestor entry) =
      (Storage.setMaxAttestationTtl entry.attestationType entry.ttlSeconds env listed).emit
        (.maxAttestationTtlChanged entry.attestationType entry.ttlSeconds) := by
    simp only [reopening, World.run, Machine.run]
    rw [unpause_step held authorised, moved,
      setMaxAttestationTtl_step (sameAdmin.trans heldOpen) authorised _ validated.1]
  rw [opened, attest_succeeds_iff_batch, attestBatch_succeeds_iff]
  refine ⟨⟨?_, signed, isListed⟩, by simp, by simpa using validated, ?_, ?_⟩
  · change listed.paused.getD false = false
    rw [samePaused]
    rfl
  · simp [WithinCap, Storage.getMaxAttestationTtl, Storage.setMaxAttestationTtl, World.emit]
  · have unpaused : SameRecords world listed := by
      refine .trans ?_ sameRecords
      exact .of_fields rfl rfl rfl rfl
    have same : SameRecords world ((Storage.setMaxAttestationTtl entry.attestationType
        entry.ttlSeconds env listed).emit
          (.maxAttestationTtlChanged entry.attestationType entry.ttlSeconds)) :=
      unpaused.trans (.of_fields rfl rfl rfl rfl)
    exact same.roomFor room

theorem isValidAt_after_attest {world : World} {env : Env} {attestor : Address}
    {entry : BatchAttestEntry}
    (succeeded : Step.succeeds world ⟨env, .attest attestor entry⟩ = true)
    (running : env.ledger.timestamp.toNat < u64Max) :
    Entry.isValidAt env.ledger.timestamp (Entry.pairOf entry)
      (world.step ⟨env, .attest attestor entry⟩) = true := by
  obtain ⟨_, recorded⟩ := attest_step_iff.mp ⟨succeeded, rfl⟩
  rw [isValidAt_iff, recorded.standing_eq]
  refine ⟨saturatingAdd env.ledger.timestamp entry.ttlSeconds, ?_, ?_⟩
  · simp [factOf, Fact.effect]
  · have positive : entry.ttlSeconds.toNat ≠ 0 := by
      intro zero
      exact recorded.positive (UInt64.toNat_inj.mp zero)
    rw [UInt64.lt_iff_toNat_lt, saturatingAdd_toNat]
    omega

theorem isValidAt_after_revoke {world : World} {env : Env} {caller : Address} {pair : Pair}
    (succeeded : Step.succeeds world ⟨env, .revoke caller pair⟩ = true) (now : UInt64) :
    Entry.isValidAt now pair (world.step ⟨env, .revoke caller pair⟩) = false := by
  obtain ⟨attestation, appended, _, write, later⟩ :=
    (committed_of_succeeds succeeded).of_revoke
  have gone : standing pair appended = none := by
    rw [write.standing_markRevoked]
    simp [Fact.effect]
  apply Bool.eq_false_iff.mpr
  intro valid
  obtain ⟨expiry, stands, _⟩ := (isValidAt_iff _ _ _).mp valid
  rw [later] at stands
  cases gone.symm.trans stands

/-- After any run the holder of the admin key can have a well-formed attestation recorded
by an attestor of its choice, and can withdraw any standing record, as long as the
counters have a number left. -/
theorem admin_can_always_recover (steps : List Step) (env : Env) (admin : Address)
    (held : (reached steps).admin = some admin) (authorised : admin ∈ env.auths) :
    (∀ attestor entry, attestor ∈ env.auths → Validated entry →
      RoomFor (reached steps) [entry] → env.ledger.timestamp.toNat < u64Max →
      let reopened := reached (steps ++ reopening env attestor entry)
      Step.succeeds reopened ⟨env, .attest attestor entry⟩ = true ∧
        Entry.isValidAt env.ledger.timestamp (Entry.pairOf entry)
          (reopened.step ⟨env, .attest attestor entry⟩) = true) ∧
    ∀ pair attestation, Storage.getAttestation pair (reached steps) = some attestation →
      attestation.status = .active →
      (Storage.getAttestationSeq pair (reached steps)).toNat < u64Max →
      let unpaused := reached (steps ++ [⟨env, .unpause⟩])
      Step.succeeds unpaused ⟨env, .revoke admin pair⟩ = true ∧
        ∀ now, Entry.isValidAt now pair (unpaused.step ⟨env, .revoke admin pair⟩) = false := by
  refine ⟨?_, ?_⟩
  · intro attestor entry signed validated room running reopened
    have succeeds : Step.succeeds reopened ⟨env, .attest attestor entry⟩ = true := by
      simp only [reopened, reached_append]
      exact attest_succeeds_reopened held authorised signed validated room
    exact ⟨succeeds, isValidAt_after_attest succeeds running⟩
  · intro pair attestation stored active room unpaused
    have opened : unpaused =
        (Storage.setPaused false env (reached steps)).emit (.pauseToggled false) := by
      simp only [unpaused, reached_append_singleton]
      exact unpause_step held authorised
    have succeeds : Step.succeeds unpaused ⟨env, .revoke admin pair⟩ = true := by
      rw [opened, revoke_succeeds_iff]
      exact ⟨rfl, authorised, attestation, admin, stored, held, Or.inl rfl,
        by rw [active]; decide, room⟩
    exact ⟨succeeds, isValidAt_after_revoke succeeds⟩

theorem closed_sample_recovers :
    let closed := sampleDeployment ++
      [⟨sampleEnv, .removeAttestor ⟨1⟩⟩, ⟨sampleEnv, .pause⟩]
    Step.succeeds (reached closed) ⟨sampleEnv, .attest ⟨1⟩ (sampleEntry 200)⟩ = false ∧
      Step.succeeds (reached (closed ++ reopening sampleEnv ⟨1⟩ (sampleEntry 200)))
        ⟨sampleEnv, .attest ⟨1⟩ (sampleEntry 200)⟩ = true := by
  intro closed
  have none : ∀ pair, Storage.getAttestationSeq pair (reached closed) = 0 := fun _ => rfl
  have room : RoomFor (reached closed) [sampleEntry 200] := by
    refine ⟨by decide +kernel, ?_⟩
    intro pair
    rw [none pair]
    have one := List.countP_le_length (p := fun entry => decide (Entry.pairOf entry = pair))
      (l := [sampleEntry 200])
    have top : u64Max = 18446744073709551615 := rfl
    simp only [List.length_singleton] at one
    have zero : (0 : UInt64).toNat = 0 := rfl
    omega
  exact ⟨by decide +kernel, ((admin_can_always_recover closed sampleEnv ⟨0⟩ (by decide +kernel)
    (by decide)).1 ⟨1⟩ (sampleEntry 200) (by decide) ⟨by decide, by decide⟩ room
      (by decide)).1⟩

end AnchorKit.Contract
