import AnchorKit.Contract.Records

/-!
# Storage rent of the attestation entries

Every write of a record asks for a window sized by the record's own remaining
lifetime, but the host grants it only when less than half of that window is
left on the key.  The window always covers the lifetime; what the key already
held need not.
-/

set_option autoImplicit false

namespace AnchorKit.Contract

open AnchorKit.Base AnchorKit.Base.MachineInt

/-! ## The window -/

theorem toU32Saturating_toNat (value : UInt64) :
    (Storage.toU32Saturating value).toNat = min value.toNat (2 ^ 32 - 1) := by
  unfold Storage.toU32Saturating
  split
  · rename_i fits
    rw [UInt64.toNat_toUInt32, Nat.mod_eq_of_lt fits, min_eq_left (by omega)]
  · rw [min_eq_right (by omega)]
    rfl

theorem clampU32_toNat {low high : UInt32} (ordered : low ≤ high) (value : UInt32) :
    (Storage.clampU32 value low high).toNat =
      max low.toNat (min value.toNat high.toNat) := by
  have bounds := UInt32.le_iff_toNat_le.mp ordered
  simp only [Storage.clampU32, UInt32.lt_iff_toNat_lt]
  split
  · omega
  · split
    · omega
    · omega

theorem attestationExtendTo_toNat (remainingSeconds : UInt64) :
    (Storage.attestationExtendTo remainingSeconds).toNat =
      max Storage.minAttestationTtlExtendTo.toNat
        (min (remainingSeconds.toNat / 5) Storage.maxEntryTtlLedgers.toNat) := by
  have ceiling : Storage.maxEntryTtlLedgers.toNat ≤ 2 ^ 32 - 1 := by decide
  have ledgers : (remainingSeconds / Storage.secondsPerLedger).toNat =
      remainingSeconds.toNat / 5 := UInt64.toNat_div _ _
  simp only [Storage.attestationExtendTo, Storage.maxAttestationTtlExtendTo]
  rw [clampU32_toNat (by decide), toU32Saturating_toNat, ledgers]
  omega

theorem attestationTtlWindow_threshold_le (remainingSeconds : UInt64) :
    (Storage.attestationTtlWindow remainingSeconds).1.toNat ≤
      (Storage.attestationTtlWindow remainingSeconds).2.toNat := by
  have half : (Storage.attestationExtendTo remainingSeconds / 2).toNat =
      (Storage.attestationExtendTo remainingSeconds).toNat / 2 := UInt32.toNat_div _ _
  simp only [Storage.attestationTtlWindow, half]
  omega

/-! ## Coverage of one write -/

/-- The ledgers a record still has to live, up to the network ceiling. -/
def requiredLedgers (env : Env) (attestation : Attestation) : Nat :=
  min ((attestation.expiresAt.toNat - env.ledger.timestamp.toNat) / 5)
    Storage.maxEntryTtlLedgers.toNat

/-- The ledgers a write of the pair's record leaves before it extends them: the
rest of a live entry, the network minimum otherwise. -/
def heldLedgers (env : Env) (pair : Pair) (world : World) : Nat :=
  if world.attestation.isLive env.ledger.sequenceNumber pair then
    world.attestation.ttl env.ledger.sequenceNumber pair
  else env.ledger.minPersistentEntryTtl

/-- The ledgers left on a pair's record. -/
def remainingLedgers (env : Env) (pair : Pair) (world : World) : Nat :=
  world.attestation.ttl env.ledger.sequenceNumber pair

/-- The held ledgers are few enough to be extended, or suffice as they are. -/
def RentSettled (env : Env) (pair : Pair) (attestation : Attestation)
    (world : World) : Prop :=
  heldLedgers env pair world <
      (Storage.attestationTtlWindow
        (Storage.remainingSeconds attestation env)).1.toNat ∨
    requiredLedgers env attestation ≤ heldLedgers env pair world

theorem heldLedgers_eq (env : Env) (pair : Pair) (world : World) :
    heldLedgers env pair world =
      world.attestation.writeExpiry env.ledger.sequenceNumber
        env.ledger.minPersistentEntryTtl pair - env.ledger.sequenceNumber := by
  unfold heldLedgers LiveMap.writeExpiry LiveMap.ttl
  split
  · rfl
  · omega

theorem remainingLedgers_setAttestation (env : Env) (pair : Pair)
    (attestation : Attestation) (world : World) :
    remainingLedgers env pair (Storage.setAttestation pair attestation env world) =
      if heldLedgers env pair world < (Storage.attestationTtlWindow
          (Storage.remainingSeconds attestation env)).1.toNat then
        (Storage.attestationTtlWindow
          (Storage.remainingSeconds attestation env)).2.toNat
      else heldLedgers env pair world := by
  rw [heldLedgers_eq]
  simp only [remainingLedgers, Storage.setAttestation, LiveMap.ttl,
    LiveMap.liveUntil_set_extendTtl]
  split
  · omega
  · rfl

theorem setAttestation_live (env : Env) (pair : Pair) (attestation : Attestation)
    (world : World) :
    env.ledger.sequenceNumber ≤
      (Storage.setAttestation pair attestation env world).attestation.liveUntil pair := by
  have written := world.attestation.current_le_writeExpiry env.ledger.sequenceNumber
    env.ledger.minPersistentEntryTtl pair
  simp only [Storage.setAttestation, LiveMap.liveUntil_set_extendTtl]
  split
  · omega
  · exact written

theorem requiredLedgers_le_window (env : Env) (attestation : Attestation) :
    requiredLedgers env attestation ≤
      (Storage.attestationTtlWindow
        (Storage.remainingSeconds attestation env)).2.toNat := by
  simp only [Storage.attestationTtlWindow, attestationExtendTo_toNat,
    Storage.remainingSeconds, saturatingSub_toNat, requiredLedgers]
  exact le_max_right _ _

/-- A write covers the record's lifetime exactly when the rent is settled. -/
theorem setAttestation_covers_iff (env : Env) (pair : Pair)
    (attestation : Attestation) (world : World) :
    requiredLedgers env attestation ≤
        remainingLedgers env pair (Storage.setAttestation pair attestation env world) ↔
      RentSettled env pair attestation world := by
  have window := requiredLedgers_le_window env attestation
  rw [remainingLedgers_setAttestation, RentSettled]
  -- the window always covers the lifetime, so only the branch that skips the
  -- extension can fall short
  split
  · rename_i low
    exact iff_of_true window (Or.inl low)
  · rename_i high
    simp [high]

/-! ## Rent never shrinks -/

/-- Every record of the earlier world is still there and expires no sooner. -/
structure Outlives (earlier later : World) : Prop where
  expiry : ∀ pair, earlier.attestation.liveUntil pair ≤ later.attestation.liveUntil pair
  present : ∀ pair, (Storage.getAttestation pair earlier).isSome = true →
    (Storage.getAttestation pair later).isSome = true

theorem Outlives.of_attestation {earlier later : World}
    (same : later.attestation = earlier.attestation) : Outlives earlier later where
  expiry pair := by rw [same]
  present pair stored := by rwa [Storage.getAttestation, same]

theorem Outlives.trans {first second third : World} (before : Outlives first second)
    (after : Outlives second third) : Outlives first third where
  expiry pair := (before.expiry pair).trans (after.expiry pair)
  present pair stored := after.present pair (before.present pair stored)

theorem setAttestation_outlives (env : Env) (pair : Pair) (attestation : Attestation)
    (world : World) :
    Outlives world (Storage.setAttestation pair attestation env world) where
  expiry other := by
    exact LiveMap.liveUntil_le_set_extendTtl _
      (attestationTtlWindow_threshold_le _) _ _ pair other attestation
  present other stored := by
    simp only [Storage.getAttestation, Storage.setAttestation,
      LiveMap.get_extendTtl, LiveMap.get_set]
    split
    · rfl
    · exact stored

theorem Appended.attestation_eq {env : Env} {pair : Pair} {attestation : Attestation}
    {before after : World} (appended : Appended env pair attestation before after) :
    after.attestation = (Storage.setAttestation pair attestation env before).attestation := by
  obtain ⟨_, _, rfl⟩ := appended
  rfl

theorem Recorded.attestation_eq {env : Env} {attestor : Address}
    {entry : BatchAttestEntry} {before after : World}
    (recorded : Recorded env attestor entry before after) :
    after.attestation = (Storage.setAttestation (Entry.pairOf entry)
      (Entry.issued attestor entry env.ledger.timestamp) env before).attestation := by
  obtain ⟨appended, _, pushed, _, rfl⟩ := recorded.written
  exact pushed.attestation_eq

theorem RecordedAll.outlives {env : Env} {attestor : Address}
    {entries : List BatchAttestEntry} {before after : World}
    (recorded : RecordedAll env attestor entries before after) :
    Outlives before after := by
  induction recorded with
  | nil world => exact .of_attestation rfl
  | cons first _ ih =>
      have written := (setAttestation_outlives _ _ _ _).trans
        (.of_attestation first.attestation_eq)
      exact written.trans ih

theorem Committed.outlives {env : Env} {call : Call} {before after : World}
    (committed : Committed env call before after) : Outlives before after := by
  cases committed with
  | query _ => exact .of_attestation rfl
  | initialized _ _ => exact .of_attestation rfl
  | administered _ _ write => cases write <;> exact .of_attestation rfl
  | issued _ _ _ _ _ recorded => exact recorded.outlives
  | revoked _ _ _ _ _ _ write =>
      exact (setAttestation_outlives _ _ _ _).trans
        (.of_attestation write.attestation_eq)
  | renewed _ _ _ _ =>
      exact (setAttestation_outlives _ _ _ _).trans (.of_attestation rfl)
  | configured _ _ => exact .of_attestation rfl
  | rotated _ _ _ => exact .of_attestation rfl

theorem run_outlives (world : World) (steps : List Step) :
    Outlives world (world.run steps) := by
  refine Machine.run_relates World.step Outlives (fun _ => .of_attestation rfl)
    (fun _ _ _ before after => before.trans after) ?_ steps world
  intro current step
  rcases step_cases current step with ⟨_, same⟩ | ⟨_, committed⟩
  · exact .of_attestation (by rw [same])
  · exact committed.outlives

/-! ## Every write of a run -/

/-- One write of a record by a successful `attest`, `attest_batch` or
`renew_attestation`: what is written, and the worlds right before and right
after it.  Inside a batch these are the worlds between two entries. -/
structure RecordWrite where
  env : Env
  pair : Pair
  attestation : Attestation
  before : World
  after : World

def issueWrites (env : Env) (attestor : Address) :
    World → List BatchAttestEntry → List RecordWrite
  | _, [] => []
  | world, entry :: rest =>
      let next := (Entry.recordAttestation attestor entry).commit env world
      ⟨env, Entry.pairOf entry, Entry.issued attestor entry env.ledger.timestamp,
        world, next⟩ :: issueWrites env attestor next rest

def recordWrites (visit : World × Step) : List RecordWrite :=
  if visit.2.succeeds visit.1 then
    match visit.2.call with
    | .attest attestor entry => issueWrites visit.2.env attestor visit.1 [entry]
    | .attestBatch attestor entries => issueWrites visit.2.env attestor visit.1 entries
    | .renewAttestation _ pair =>
        ((Storage.getAttestation pair visit.1).map fun attestation =>
          ⟨visit.2.env, pair, attestation, visit.1, visit.1.step visit.2⟩).toList
    | _ => []
  else []

def runWrites (steps : List Step) : List RecordWrite :=
  Machine.outputs World.step recordWrites World.deployed steps

def RecordWrite.Covered (write : RecordWrite) : Prop :=
  Storage.getAttestation write.pair write.after = some write.attestation ∧
    requiredLedgers write.env write.attestation ≤
      remainingLedgers write.env write.pair write.after

instance (write : RecordWrite) : Decidable write.Covered := by
  unfold RecordWrite.Covered
  infer_instance

def RecordWrite.Settled (write : RecordWrite) : Prop :=
  RentSettled write.env write.pair write.attestation write.before

instance (write : RecordWrite) : Decidable write.Settled := by
  unfold RecordWrite.Settled RentSettled
  infer_instance

/-- The record fits the ceiling, so one window can cover it. -/
def RecordWrite.Fits (write : RecordWrite) : Prop :=
  (write.attestation.expiresAt.toNat - write.env.ledger.timestamp.toNat) / 5 ≤
    Storage.maxEntryTtlLedgers.toNat

/-- In a later world the record is live at every ledger before its expiry, on a
network that closes ledgers no faster than every five seconds. -/
def RecordWrite.OutlivesExpiry (write : RecordWrite) (world : World) : Prop :=
  ∀ ledger time : Nat, time < write.attestation.expiresAt.toNat →
    5 * (ledger - write.env.ledger.sequenceNumber) ≤
      time - write.env.ledger.timestamp.toNat →
    world.attestation.isLive ledger write.pair = true

structure RecordWrite.Sound (write : RecordWrite) : Prop where
  stored : Storage.getAttestation write.pair write.after = some write.attestation
  written : write.after.attestation = (Storage.setAttestation write.pair
    write.attestation write.env write.before).attestation

theorem Recorded.sound {env : Env} {attestor : Address} {entry : BatchAttestEntry}
    {before after : World} (recorded : Recorded env attestor entry before after) :
    RecordWrite.Sound ⟨env, Entry.pairOf entry,
      Entry.issued attestor entry env.ledger.timestamp, before, after⟩ where
  stored := (recorded.wrote.stored _).trans (if_pos rfl)
  written := recorded.attestation_eq

theorem RecordedAll.issueWrites_sound {env : Env} {attestor : Address}
    {entries : List BatchAttestEntry} {before after : World}
    (recorded : RecordedAll env attestor entries before after) :
    ∀ write ∈ issueWrites env attestor before entries,
      write.Sound ∧ Outlives write.after after := by
  induction recorded with
  | nil world => simp [issueWrites]
  | @cons entry rest start middle final first others ih =>
      have run : Entry.recordAttestation attestor entry env start = (.ok (), middle) :=
        recordAttestation_ok.mpr first
      have next := Program.commit_of_ok run
      intro write member
      simp only [issueWrites, next, List.mem_cons] at member
      rcases member with rfl | later
      · exact ⟨first.sound, others.outlives⟩
      · exact ih write later

theorem renewal_sound {world : World} {step : Step} {caller : Address} {pair : Pair}
    {write : RecordWrite} (renews : step.call = .renewAttestation caller pair)
    (committed : Committed step.env step.call world (world.step step))
    (member : write ∈ ((Storage.getAttestation pair world).map fun attestation =>
      RecordWrite.mk step.env pair attestation world (world.step step)).toList) :
    write.Sound ∧ Outlives write.after (world.step step) := by
  rw [renews] at committed
  obtain ⟨attestation, stored, later⟩ := committed.of_renewAttestation
  simp only [stored, Option.map_some, Option.toList_some, List.mem_singleton] at member
  subst write
  have same := (setAttestation_sameRecords step.env stored).attestation pair
  rw [later]
  exact ⟨⟨same.trans stored, rfl⟩, .of_attestation rfl⟩

theorem recordWrites_sound {world : World} {step : Step} {write : RecordWrite}
    (member : write ∈ recordWrites (world, step)) :
    write.Sound ∧ Outlives write.after (world.step step) := by
  unfold recordWrites at member
  split at member
  · rename_i succeeds
    have committed := committed_of_succeeds succeeds
    split at member
    · rename_i attestor entry attests
      have issues : step.call.issues = some (attestor, [entry]) := by
        rw [attests]
        rfl
      exact (committed.of_issues issues).2.2.2.issueWrites_sound write member
    · rename_i attestor entries attests
      have issues : step.call.issues = some (attestor, entries) := by
        rw [attests]
        rfl
      exact (committed.of_issues issues).2.2.2.issueWrites_sound write member
    · rename_i caller pair renews
      exact renewal_sound renews committed member
    · simp at member
  · simp at member

theorem runWrites_sound {steps : List Step} {write : RecordWrite}
    (member : write ∈ runWrites steps) :
    write.Sound ∧ Outlives write.after (reached steps) := by
  obtain ⟨⟨world, step⟩, visited, inStep⟩ := List.mem_flatMap.mp member
  obtain ⟨earlier, later, rfl, rfl⟩ := (Machine.mem_visits_iff _ _ _ _ _).mp visited
  obtain ⟨sound, kept⟩ := recordWrites_sound inStep
  refine ⟨sound, ?_⟩
  change Outlives write.after (World.deployed.run (earlier ++ step :: later))
  rw [World.run, Machine.run_append]
  exact kept.trans (run_outlives _ later)

theorem RecordWrite.Sound.covered_iff {write : RecordWrite} (sound : write.Sound) :
    write.Covered ↔ write.Settled := by
  have covers := setAttestation_covers_iff write.env write.pair write.attestation
    write.before
  have remaining : remainingLedgers write.env write.pair write.after =
      remainingLedgers write.env write.pair (Storage.setAttestation write.pair
        write.attestation write.env write.before) := by
    simp only [remainingLedgers, sound.written]
  rw [RecordWrite.Covered, remaining, covers]
  exact and_iff_right sound.stored

theorem RecordWrite.Sound.outlivesExpiry {write : RecordWrite} (sound : write.Sound)
    (settled : write.Settled) (fits : write.Fits) {world : World}
    (outlived : Outlives write.after world) : write.OutlivesExpiry world := by
  intro ledger time unexpired paced
  have covered := (sound.covered_iff.mpr settled).2
  rw [requiredLedgers, min_eq_left fits, remainingLedgers, LiveMap.ttl] at covered
  have live := setAttestation_live write.env write.pair write.attestation write.before
  rw [← sound.written] at live
  have expiry := outlived.expiry write.pair
  have present := outlived.present write.pair (Option.isSome_of_eq_some sound.stored)
  have bounded : ledger ≤ world.attestation.liveUntil write.pair := by
    omega
  simp only [LiveMap.isLive, Bool.and_eq_true, decide_eq_true_eq]
  exact ⟨present, bounded⟩

/-- Along a run every write leaves its record covered exactly when the rent was
settled before each of them; a settled record that fits the ceiling is then
never archived before its expiry, whatever is called later. -/
theorem rent_covers_lifetime_iff (steps : List Step) :
    ((∀ write ∈ runWrites steps, write.Covered) ↔
      ∀ write ∈ runWrites steps, write.Settled) ∧
    ((∀ write ∈ runWrites steps, write.Settled) →
      ∀ write ∈ runWrites steps, write.Fits →
        ∀ more, write.OutlivesExpiry (reached (steps ++ more))) := by
  refine ⟨?_, ?_⟩
  · refine forall₂_congr ?_
    intro write member
    exact (runWrites_sound member).1.covered_iff
  · intro settled write member fits more
    obtain ⟨sound, kept⟩ := runWrites_sound member
    rw [reached_append]
    exact sound.outlivesExpiry (settled write member) fits
      (kept.trans (run_outlives (reached steps) more))

/-! ## A longer attestation over a shorter one -/

section Sample

def rentRun : List Step :=
  sampleDeployment ++ [⟨sampleEnv, .attest ⟨1⟩ (sampleEntry 200)⟩]

def longerRentRun : List Step :=
  rentRun ++ [⟨sampleEnv, .attest ⟨1⟩ (sampleEntry 365)⟩]

theorem longerRentRun_writes : 1 < (runWrites longerRentRun).length := by
  decide +kernel

def longerWrite : RecordWrite :=
  (runWrites longerRentRun).get ⟨1, longerRentRun_writes⟩

end Sample

example : ∀ write ∈ runWrites rentRun, write.Settled := by
  decide +kernel

/-- The longer attestation buys nothing: 3456000 of its 6307200 ledgers are
covered, and one ledger later the record is archived while valid. -/
theorem rent_uncovered_by_longer_attest :
    (¬ ∀ write ∈ runWrites longerRentRun, write.Covered) ∧
      ∃ write ∈ runWrites longerRentRun, write.Fits ∧
        requiredLedgers write.env write.attestation = 6307200 ∧
        remainingLedgers write.env write.pair write.after = 3456000 ∧
        ¬ write.OutlivesExpiry (reached longerRentRun) := by
  refine ⟨by decide +kernel, longerWrite, List.get_mem _ _, ?_, by decide +kernel,
    by decide +kernel, ?_⟩
  · unfold RecordWrite.Fits
    decide +kernel
  · intro outlives
    have live := outlives 3456001 17280005 (by decide +kernel) (by decide +kernel)
    have archived : (reached longerRentRun).attestation.isLive 3456001
        longerWrite.pair = false := by
      decide +kernel
    rw [archived] at live
    contradiction

end AnchorKit.Contract
