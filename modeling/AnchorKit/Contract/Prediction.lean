import AnchorKit.Contract.EventLog
import AnchorKit.Contract.Governance
import AnchorKit.Contract.LateRefusal
import AnchorKit.Contract.Pagination

/-!
# Predicting every call from the log

`Index.allows` says of every entry point when it goes through, in terms of the index of
the event log and of the stored signers alone: the guards of `contract.rs`, the checks of
the records and the room the counters have left.  In every reachable world it agrees with
the contract.
-/

set_option autoImplicit false

namespace AnchorKit.Contract

open AnchorKit.Base AnchorKit.Base.MachineInt

namespace Index

def administered (index : Index) (env : Env) : Bool :=
  index.admin.any fun admin => decide (admin ∈ env.auths)

def mayAttest (index : Index) (env : Env) (attestor : Address) : Bool :=
  !index.paused && decide (attestor ∈ env.auths) && index.attestors attestor

def accepts (index : Index) (entry : BatchAttestEntry) : Bool :=
  entry.ttlSeconds != 0 &&
    decide (entry.attestationType.chars.length ≤ Entry.maxAttestationTypeLen) &&
    decide (entry.ttlSeconds ≤ index.effectiveMaxTtl entry.attestationType)

def roomFor (index : Index) (entries : List BatchAttestEntry) : Bool :=
  decide (index.count + entries.length ≤ u64Max) &&
    entries.all fun entry =>
      decide ((index.trail (Entry.pairOf entry)).length +
        entries.countP (fun other => Entry.pairOf other = Entry.pairOf entry) ≤ u64Max)

def entitled (index : Index) (caller : Address) (pair : Pair) : Option Listing :=
  (index.trail pair).getLast?.filter fun last =>
    index.admin.any fun admin => caller == admin || caller == last.attestor

/-- Listing forwards computes the number after the last one it reads. -/
def pageFits (index : Index) (pair : Pair) (startSeq : UInt64) (limit : UInt32) : Bool :=
  let total := (index.trail pair).length
  decide (total < startSeq.toNat ∨ startSeq.toNat + limit.toNat ≤ u64Max ∨ total + 1 < u64Max)

def allows (index : Index) (config : Option MultiSigConfig) (env : Env) : Call → Bool
  | .initializeContract admin => index.admin.isNone && decide (admin ∈ env.auths)
  | .getAdmin | .isPaused => index.admin.isSome
  | .setAdmin _ | .pause | .unpause => index.administered env
  | .addAttestor attestor => index.administered env && !index.attestors attestor
  | .removeAttestor attestor | .renewAttestor attestor =>
      index.administered env && index.attestors attestor
  | .setDefaultMaxAttestationTtl maxTtlSeconds | .setMaxAttestationTtl _ maxTtlSeconds =>
      index.administered env && maxTtlSeconds != 0
  | .attest attestor entry =>
      index.mayAttest env attestor && index.accepts entry && index.roomFor [entry]
  | .attestBatch attestor entries =>
      index.mayAttest env attestor && !entries.isEmpty && entries.all index.accepts &&
        index.roomFor entries
  | .getAttestation pair => !(index.trail pair).isEmpty
  | .revoke caller pair =>
      !index.paused && decide (caller ∈ env.auths) &&
        (index.entitled caller pair).any (fun last => last.status != .revoked) &&
        decide ((index.trail pair).length + 1 ≤ u64Max)
  | .renewAttestation caller pair =>
      decide (caller ∈ env.auths) && (index.entitled caller pair).isSome
  | .listAttestationHistory pair startSeq limit reverse =>
      limit != 0 && (reverse || index.pageFits pair startSeq limit)
  | .isAttestor _ | .getMaxAttestationTtl _ | .isValid _ | .getAttestationCount => true
  | .initializeMultisig signers threshold =>
      (index.admin.isNone || config.isNone) &&
        decide (Multisig.SignersAccepted signers threshold)
  | .getMultisigConfig => config.isSome
  | .rotateSigners newSigners newThreshold sigInfo =>
      config.any (fun current => decide (current.threshold.toNat ≤
        sigInfo.signers.countP (· ∈ current.signers))) &&
        decide (Multisig.SignersAccepted newSigners newThreshold)

end Index

/-! ## What each call needs of the world -/

section Needs

variable {world : World} {env : Env}

def Administered (env : Env) (world : World) : Prop :=
  ∃ admin, world.admin = some admin ∧ admin ∈ env.auths

theorem initializeContract_succeeds_iff (admin : Address) :
    Step.succeeds world ⟨env, .initializeContract admin⟩ = true ↔
      world.admin = none ∧ admin ∈ env.auths := by
  rw [Step.succeeds, Program.succeeds_iff]
  simp [invoke, initializeContract_ok]

/-- The admin-gated calls: the gate, and the check some of them make behind it. -/
def Call.gated (world : World) : Call → Option Bool
  | .setAdmin _ | .pause | .unpause => some true
  | .addAttestor attestor => some (!Storage.isAttestor attestor world)
  | .removeAttestor attestor | .renewAttestor attestor =>
      some (Storage.isAttestor attestor world)
  | .setDefaultMaxAttestationTtl maxTtlSeconds | .setMaxAttestationTtl _ maxTtlSeconds =>
      some (maxTtlSeconds != 0)
  | _ => none

theorem gated_succeeds_iff {call : Call} {passed : Bool} (gated : call.gated world = some passed) :
    Step.succeeds world ⟨env, call⟩ = true ↔ Administered env world ∧ passed = true := by
  rw [Step.succeeds, Program.succeeds_iff, Administered]
  cases call with
  | setAdmin newAdmin => cases gated; simp [invoke, Entry.setAdmin]
  | pause => cases gated; simp [invoke, Entry.pause]
  | unpause => cases gated; simp [invoke, Entry.unpause]
  | addAttestor attestor =>
      cases gated
      simp [invoke, Entry.addAttestor, ← and_assoc]
  | removeAttestor attestor =>
      cases gated
      simp [invoke, Entry.removeAttestor, ← and_assoc]
  | renewAttestor attestor =>
      cases gated
      simp [invoke, Entry.renewAttestor, ← and_assoc]
  | setDefaultMaxAttestationTtl maxTtlSeconds =>
      cases gated
      simp [invoke, Entry.setDefaultMaxAttestationTtl, ← and_assoc]
  | setMaxAttestationTtl attestationType maxTtlSeconds =>
      cases gated
      simp [invoke, Entry.setMaxAttestationTtl, ← and_assoc]
  | _ => cases gated

theorem getAdmin_succeeds_iff :
    Step.succeeds world ⟨env, .getAdmin⟩ = true ↔ world.admin.isSome = true := by
  rw [Step.succeeds, Program.succeeds_iff]
  simp [invoke, Entry.getAdmin, Option.isSome_iff_exists]

theorem isPaused_succeeds_iff :
    Step.succeeds world ⟨env, .isPaused⟩ = true ↔ world.admin.isSome = true := by
  rw [Step.succeeds, Program.succeeds_iff]
  simp only [invoke, Entry.isPaused, Program.bind_ok, Program.inspect_ok, ensureNot_ok,
    Program.pure_ok, Storage.isInitialized]
  constructor
  · rintro ⟨_, _, _, _, ⟨_, _, ⟨rfl, rfl⟩, _, _, ⟨initialised, rfl⟩, _⟩, _⟩
    simpa using initialised
  · intro initialised
    exact ⟨_, _, _, _, ⟨_, _, ⟨rfl, rfl⟩, (), _, ⟨by simpa using initialised, rfl⟩, rfl, rfl⟩,
      rfl, rfl⟩

theorem getAttestation_succeeds_iff (pair : Pair) :
    Step.succeeds world ⟨env, .getAttestation pair⟩ = true ↔
      (Storage.getAttestation pair world).isSome = true := by
  rw [Step.succeeds, Program.succeeds_iff]
  simp [invoke, Entry.getAttestation, Option.isSome_iff_exists]

theorem getMultisigConfig_succeeds_iff :
    Step.succeeds world ⟨env, .getMultisigConfig⟩ = true ↔
      world.multiSigConfig.isSome = true := by
  rw [Step.succeeds, Program.succeeds_iff]
  simp [invoke, Entry.getMultisigConfig, Multisig.getMultisigConfig, Option.isSome_iff_exists]

theorem attestBatch_succeeds_iff (attestor : Address) (entries : List BatchAttestEntry) :
    Step.succeeds world ⟨env, .attestBatch attestor entries⟩ = true ↔
      MayAttest env attestor world ∧ entries ≠ [] ∧ (∀ entry ∈ entries, Validated entry) ∧
        (∀ entry ∈ entries, WithinCap world entry) ∧ RoomFor world entries := by
  constructor
  · intro succeeded
    obtain ⟨gates, nonempty, recorded⟩ := attestBatch_step_iff.mp ⟨succeeded, rfl⟩
    have validated := recorded.validated
    exact ⟨gates, nonempty, validated,
      (exists_recordedAll_iff env attestor validated).mp ⟨_, recorded⟩⟩
  · rintro ⟨gates, nonempty, validated, fits⟩
    obtain ⟨later, recorded⟩ := (exists_recordedAll_iff env attestor validated).mpr fits
    exact (attestBatch_step_iff.mpr ⟨gates, nonempty, recorded⟩).1

theorem attest_succeeds_iff_batch (attestor : Address) (entry : BatchAttestEntry) :
    Step.succeeds world ⟨env, .attest attestor entry⟩ = true ↔
      Step.succeeds world ⟨env, .attestBatch attestor [entry]⟩ = true := by
  constructor
  · intro succeeded
    obtain ⟨gates, recorded⟩ := attest_step_iff.mp ⟨succeeded, rfl⟩
    exact (attestBatch_step_iff.mpr ⟨gates, by simp, .cons recorded (.nil _)⟩).1
  · intro succeeded
    obtain ⟨gates, _, recorded⟩ := attestBatch_step_iff.mp ⟨succeeded, rfl⟩
    cases recorded with
    | cons first _ => exact (attest_step_iff.mpr ⟨gates, first⟩).1

theorem revoke_succeeds_iff (caller : Address) (pair : Pair) :
    Step.succeeds world ⟨env, .revoke caller pair⟩ = true ↔
      Storage.isPaused world = false ∧ caller ∈ env.auths ∧
        ∃ attestation admin, Storage.getAttestation pair world = some attestation ∧
          world.admin = some admin ∧ (caller = admin ∨ caller = attestation.attestor) ∧
          attestation.status ≠ .revoked ∧
          (Storage.getAttestationSeq pair world).toNat + 1 ≤ u64Max := by
  rw [Step.succeeds, Program.succeeds_iff]
  simp only [invoke, Program.bind_ok, Program.pure_ok, revoke_ok]
  constructor
  · rintro ⟨_, _, _, _, ⟨running, authorised, attestation, admin, _, stored, held, entitled,
      unrevoked, ⟨sequence, advanced, _⟩, _⟩, _⟩
    exact ⟨running, authorised, attestation, admin, stored, held, entitled, unrevoked,
      checkedAdd_isSome_iff.mp (Option.isSome_of_eq_some advanced)⟩
  · rintro ⟨running, authorised, attestation, admin, stored, held, entitled, unrevoked, room⟩
    have fits : (Storage.getAttestationSeq pair world).toNat + (1 : UInt64).toNat ≤ u64Max :=
      room
    obtain ⟨sequence, advanced⟩ :=
      Option.isSome_iff_exists.mp (checkedAdd_isSome_iff.mpr fits)
    exact ⟨_, _, (), _, ⟨running, authorised, attestation, admin, _, stored, held, entitled,
      unrevoked, ⟨sequence, advanced, rfl⟩, rfl⟩, rfl, rfl⟩

theorem renewAttestation_succeeds_iff (caller : Address) (pair : Pair) :
    Step.succeeds world ⟨env, .renewAttestation caller pair⟩ = true ↔
      caller ∈ env.auths ∧
        ∃ attestation admin, Storage.getAttestation pair world = some attestation ∧
          world.admin = some admin ∧ (caller = admin ∨ caller = attestation.attestor) := by
  rw [Step.succeeds, Program.succeeds_iff]
  simp only [invoke, Program.bind_ok, Program.pure_ok, renewAttestation_ok]
  constructor
  · rintro ⟨_, _, _, _, ⟨authorised, attestation, admin, stored, held, entitled, _⟩, _⟩
    exact ⟨authorised, attestation, admin, stored, held, entitled⟩
  · rintro ⟨authorised, attestation, admin, stored, held, entitled⟩
    exact ⟨_, _, (), _, ⟨authorised, attestation, admin, stored, held, entitled, rfl⟩, rfl, rfl⟩

/-- Listing forwards overflows if it gets to the largest number, which it does if neither
the limit nor the end of the history stops it before. -/
theorem collectForward_eq_none_iff (read : UInt64 → Option HistoryEntry) (total : UInt64)
    (limit : Nat) {current : UInt64} (inside : current.toNat ≤ total.toNat + 1) :
    Storage.collectForward read total limit current = none ↔
      u64Max < current.toNat + limit ∧ u64Max ≤ total.toNat + 1 := by
  induction limit generalizing current with
  | zero =>
      have bound := toNat_le_u64Max current
      simp only [Storage.collectForward, reduceCtorEq, false_iff, not_and]
      omega
  | succ limit ih =>
      have one : (1 : UInt64).toNat = 1 := rfl
      rw [Storage.collectForward]
      cases added : checkedAdd current 1 with
      | none =>
          have overflow := checkedAdd_isSome_iff.not.mp (by rw [added]; decide)
          simp only [true_iff]
          omega
      | some next =>
          have up := checkedAdd_eq_some added
          have fits := checkedAdd_isSome_iff.mp (Option.isSome_of_eq_some added)
          dsimp only
          by_cases past : total < current
          · have above := UInt64.lt_iff_toNat_lt.mp past
            simp only [if_pos past, reduceCtorEq, false_iff, not_and]
            omega
          · have notAbove := UInt64.le_iff_toNat_le.mp (UInt64.not_lt.mp past)
            rw [if_neg past, Option.map_eq_none_iff, ih (by omega)]
            omega

theorem listAttestationHistory_succeeds_iff (pair : Pair) (startSeq : UInt64) (limit : UInt32)
    (reverse : Bool) :
    Step.succeeds world ⟨env, .listAttestationHistory pair startSeq limit reverse⟩ = true ↔
      limit ≠ 0 ∧ (Storage.historyPage pair startSeq limit reverse world).isSome = true := by
  rw [Step.succeeds, Program.succeeds_iff]
  simp [invoke, Entry.listAttestationHistory, Storage.listAttestationHistory,
    Option.isSome_iff_exists]

theorem historyPage_isSome_iff (pair : Pair) (startSeq : UInt64) (limit : UInt32)
    (reverse : Bool) :
    (Storage.historyPage pair startSeq limit reverse world).isSome = true ↔
      reverse = true ∨ (Storage.getAttestationSeq pair world).toNat < startSeq.toNat ∨
        startSeq.toNat + limit.toNat ≤ u64Max ∨
        (Storage.getAttestationSeq pair world).toNat + 1 < u64Max := by
  unfold Storage.historyPage
  dsimp only
  by_cases outside : Storage.getAttestationSeq pair world = 0 ∨
      Storage.getAttestationSeq pair world < startSeq
  · rw [if_pos outside, Option.isSome_some, eq_self, true_iff]
    rcases outside with zero | above
    · right; right; right
      rw [zero]
      decide
    · exact Or.inr (Or.inl (UInt64.lt_iff_toNat_lt.mp above))
  · have inside : startSeq.toNat ≤ (Storage.getAttestationSeq pair world).toNat :=
      UInt64.le_iff_toNat_le.mp (UInt64.not_lt.mp fun above => outside (Or.inr above))
    rw [if_neg outside]
    cases reverse with
    | true => simp
    | false =>
        rw [if_neg Bool.false_ne_true, Option.isSome_iff_ne_none, ne_eq,
          collectForward_eq_none_iff _ _ _ (by omega)]
        simp only [Bool.false_eq_true, false_or]
        omega

theorem rotateSigners_fails (unset : world.multiSigConfig = none) (newSigners : List Address)
    (newThreshold : UInt32) (sigInfo : SignatureInfo) :
    Step.succeeds world ⟨env, .rotateSigners newSigners newThreshold sigInfo⟩ = false := by
  apply Bool.eq_false_iff.mpr
  intro succeeded
  obtain ⟨_, _, run⟩ := Program.succeeds_iff.mp succeeded
  obtain ⟨config, stored, _⟩ := rotateSigners_ok.mp (of_unit_reply run)
  rw [unset] at stored
  cases stored

end Needs

/-! ## The log decides -/

section Outcomes

variable {index : Index} {world : World} {env : Env}

theorem Mirrors.administered_iff (mirrors : Mirrors index world) :
    index.administered env = true ↔ Administered env world := by
  rw [Index.administered, mirrors.admin, Option.any_eq_true]
  simp only [decide_eq_true_eq]
  rfl

theorem Mirrors.mayAttest_iff (mirrors : Mirrors index world) (attestor : Address) :
    index.mayAttest env attestor = true ↔ MayAttest env attestor world := by
  rw [Index.mayAttest, mirrors.paused, mirrors.attestors]
  simp only [Bool.and_eq_true, Bool.not_eq_true', decide_eq_true_eq]
  exact ⟨fun gates => ⟨gates.1.1, gates.1.2, gates.2⟩,
    fun gates => ⟨⟨gates.running, gates.authorised⟩, gates.listed⟩⟩

theorem Mirrors.accepts_iff (mirrors : Mirrors index world) (entry : BatchAttestEntry) :
    index.accepts entry = true ↔ Validated entry ∧ WithinCap world entry := by
  rw [Index.accepts, mirrors.effectiveMaxTtl, Validated, WithinCap]
  simp only [Bool.and_eq_true, bne_iff_ne, decide_eq_true_eq]

theorem Mirrors.trail_length (mirrors : Mirrors index world) (pair : Pair) :
    (index.trail pair).length = (Storage.getAttestationSeq pair world).toNat := by
  obtain ⟨log, audited, listed⟩ := mirrors.trail pair
  rw [listed, List.length_map, audited.represents.counted]

theorem Mirrors.roomFor_iff (mirrors : Mirrors index world) (entries : List BatchAttestEntry) :
    index.roomFor entries = true ↔ RoomFor world entries := by
  rw [Index.roomFor, mirrors.count]
  simp only [Bool.and_eq_true, decide_eq_true_eq, List.all_eq_true, mirrors.trail_length]
  constructor
  · rintro ⟨count, sequences⟩
    refine ⟨count, ?_⟩
    intro pair
    by_cases named : ∃ entry ∈ entries, Entry.pairOf entry = pair
    · obtain ⟨entry, member, rfl⟩ := named
      exact sequences entry member
    · have none : entries.countP (fun entry => Entry.pairOf entry = pair) = 0 := by
        rw [List.countP_eq_zero]
        intro entry member same
        exact named ⟨entry, member, of_decide_eq_true same⟩
      rw [none]
      exact toNat_le_u64Max _
  · intro room
    exact ⟨room.count, fun entry _ => room.sequences (Entry.pairOf entry)⟩

theorem Mirrors.entitled_iff (mirrors : Mirrors index world) (caller : Address) (pair : Pair)
    (last : Listing) :
    index.entitled caller pair = some last ↔
      ∃ attestation admin, Storage.getAttestation pair world = some attestation ∧
        world.admin = some admin ∧ (caller = admin ∨ caller = attestation.attestor) ∧
        attestation.listing = last := by
  rw [Index.entitled, mirrors.last, mirrors.admin, Option.filter_eq_some_iff,
    Option.map_eq_some_iff]
  simp only [Option.any_eq_true, Bool.or_eq_true, beq_iff_eq]
  constructor
  · rintro ⟨⟨attestation, stored, rfl⟩, admin, held, entitled⟩
    exact ⟨attestation, admin, stored, held, entitled, rfl⟩
  · rintro ⟨attestation, admin, stored, held, entitled, rfl⟩
    exact ⟨⟨attestation, stored, rfl⟩, admin, held, entitled⟩

theorem Mirrors.attestBatch_iff (mirrors : Mirrors index world) (attestor : Address)
    (entries : List BatchAttestEntry) :
    index.allows world.multiSigConfig env (.attestBatch attestor entries) = true ↔
      Step.succeeds world ⟨env, .attestBatch attestor entries⟩ = true := by
  rw [attestBatch_succeeds_iff]
  simp only [Index.allows, Bool.and_eq_true, mirrors.mayAttest_iff, mirrors.roomFor_iff,
    List.all_eq_true, mirrors.accepts_iff, Bool.not_eq_true', List.isEmpty_eq_false_iff]
  constructor
  · rintro ⟨⟨⟨gates, nonempty⟩, accepted⟩, room⟩
    exact ⟨gates, nonempty, fun entry member => (accepted entry member).1,
      fun entry member => (accepted entry member).2, room⟩
  · rintro ⟨gates, nonempty, validated, capped, room⟩
    exact ⟨⟨⟨gates, nonempty⟩, fun entry member => ⟨validated entry member, capped entry member⟩⟩,
      room⟩

theorem Mirrors.revoke_iff (mirrors : Mirrors index world) (caller : Address) (pair : Pair) :
    index.allows world.multiSigConfig env (.revoke caller pair) = true ↔
      Step.succeeds world ⟨env, .revoke caller pair⟩ = true := by
  rw [revoke_succeeds_iff, Index.allows, mirrors.paused, mirrors.trail_length]
  simp only [Bool.and_eq_true, Bool.not_eq_true', decide_eq_true_eq, Option.any_eq_true,
    mirrors.entitled_iff, bne_iff_ne]
  constructor
  · rintro ⟨⟨⟨running, authorised⟩, _, ⟨attestation, admin, stored, held, entitled, rfl⟩,
      unrevoked⟩, room⟩
    exact ⟨running, authorised, attestation, admin, stored, held, entitled, unrevoked, room⟩
  · rintro ⟨running, authorised, attestation, admin, stored, held, entitled, unrevoked, room⟩
    exact ⟨⟨⟨running, authorised⟩, _, ⟨attestation, admin, stored, held, entitled, rfl⟩,
      unrevoked⟩, room⟩

theorem Mirrors.renewAttestation_iff (mirrors : Mirrors index world) (caller : Address)
    (pair : Pair) :
    index.allows world.multiSigConfig env (.renewAttestation caller pair) = true ↔
      Step.succeeds world ⟨env, .renewAttestation caller pair⟩ = true := by
  rw [renewAttestation_succeeds_iff, Index.allows, Bool.and_eq_true, decide_eq_true_eq,
    Option.isSome_iff_exists]
  simp only [mirrors.entitled_iff]
  constructor
  · rintro ⟨authorised, _, attestation, admin, stored, held, entitled, _⟩
    exact ⟨authorised, attestation, admin, stored, held, entitled⟩
  · rintro ⟨authorised, attestation, admin, stored, held, entitled⟩
    exact ⟨authorised, _, attestation, admin, stored, held, entitled, rfl⟩

theorem Mirrors.allows_eq (mirrors : Mirrors index world) (call : Call) :
    index.allows world.multiSigConfig env call = Step.succeeds world ⟨env, call⟩ := by
  rw [Bool.eq_iff_iff]
  cases call with
  | initializeContract admin =>
      rw [initializeContract_succeeds_iff, Index.allows, mirrors.admin]
      simp
  | getAdmin => rw [getAdmin_succeeds_iff, Index.allows, mirrors.admin]
  | isPaused => rw [isPaused_succeeds_iff, Index.allows, mirrors.admin]
  | setAdmin newAdmin =>
      rw [gated_succeeds_iff rfl, Index.allows, mirrors.administered_iff, and_iff_left rfl]
  | pause => rw [gated_succeeds_iff rfl, Index.allows, mirrors.administered_iff, and_iff_left rfl]
  | unpause =>
      rw [gated_succeeds_iff rfl, Index.allows, mirrors.administered_iff, and_iff_left rfl]
  | addAttestor attestor =>
      rw [gated_succeeds_iff rfl, Index.allows, Bool.and_eq_true, mirrors.administered_iff,
        mirrors.attestors]
  | removeAttestor attestor =>
      rw [gated_succeeds_iff rfl, Index.allows, Bool.and_eq_true, mirrors.administered_iff,
        mirrors.attestors]
  | renewAttestor attestor =>
      rw [gated_succeeds_iff rfl, Index.allows, Bool.and_eq_true, mirrors.administered_iff,
        mirrors.attestors]
  | setDefaultMaxAttestationTtl maxTtlSeconds =>
      rw [gated_succeeds_iff rfl, Index.allows, Bool.and_eq_true, mirrors.administered_iff]
  | setMaxAttestationTtl attestationType maxTtlSeconds =>
      rw [gated_succeeds_iff rfl, Index.allows, Bool.and_eq_true, mirrors.administered_iff]
  | attest attestor entry =>
      rw [attest_succeeds_iff_batch, ← mirrors.attestBatch_iff]
      simp only [Index.allows, List.isEmpty_cons, Bool.not_false, Bool.and_true, List.all_cons,
        List.all_nil]
  | attestBatch attestor entries => exact mirrors.attestBatch_iff attestor entries
  | getAttestation pair =>
      rw [getAttestation_succeeds_iff, Index.allows, ← Option.isSome_map, ← mirrors.last]
      simp
  | revoke caller pair => exact mirrors.revoke_iff caller pair
  | renewAttestation caller pair => exact mirrors.renewAttestation_iff caller pair
  | listAttestationHistory pair startSeq limit reverse =>
      rw [listAttestationHistory_succeeds_iff, historyPage_isSome_iff, Index.allows,
        Index.pageFits, mirrors.trail_length]
      simp only [Bool.and_eq_true, bne_iff_ne, Bool.or_eq_true, decide_eq_true_eq]
  | isAttestor attestor => exact iff_of_true rfl rfl
  | getMaxAttestationTtl attestationType => exact iff_of_true rfl rfl
  | isValid pair => exact iff_of_true rfl rfl
  | getAttestationCount => exact iff_of_true rfl rfl
  | initializeMultisig signers threshold =>
      rw [initializeMultisig_succeeds_iff, Index.allows, mirrors.admin]
      simp only [Bool.and_eq_true, Bool.or_eq_true, Option.isNone_iff_eq_none, decide_eq_true_eq]
  | getMultisigConfig => rw [getMultisigConfig_succeeds_iff, Index.allows]
  | rotateSigners newSigners newThreshold sigInfo =>
      rw [Index.allows]
      cases stored : world.multiSigConfig with
      | none => simp [rotateSigners_fails stored]
      | some config =>
          rw [rotateSigners_succeeds_iff stored, Option.any_some, Bool.and_eq_true,
            decide_eq_true_eq, decide_eq_true_eq]

end Outcomes

/-- The event log and the stored signers decide the outcome of every call: in every world a
run reaches, a call goes through exactly if the index replayed from the log allows it. -/
theorem event_log_predicts_calls (steps : List Step) (step : Step) :
    step.succeeds (reached steps) =
      (Index.replay (reached steps).events).allows (reached steps).multiSigConfig step.env
        step.call :=
  ((reached_followed steps).allows_eq step.call).symm

end AnchorKit.Contract
