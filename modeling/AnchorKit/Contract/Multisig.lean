import AnchorKit.Base.Ascii
import AnchorKit.Contract.Storage
import Mathlib.Data.Finset.Card

/-!
# Multi-signature governance of `multisig.rs`

The duplicate check is the source's pair of index loops.  `get_unchecked` is
modelled by the optional read at the same index; inside the loops both indices
are below the length, so no read is out of range.
-/

set_option autoImplicit false

namespace AnchorKit.Contract.Multisig

open AnchorKit.Base AnchorKit.Base.MachineInt

/-! ## Messages -/

/-- The nonce byte by byte, the lowest first, and then the operation. -/
def hashMessage (nonce : UInt64) (operation : String) : List UInt8 :=
  [nonce.toUInt8, (nonce >>> 8).toUInt8, (nonce >>> 16).toUInt8, (nonce >>> 24).toUInt8,
    (nonce >>> 32).toUInt8, (nonce >>> 40).toUInt8, (nonce >>> 48).toUInt8,
    (nonce >>> 56).toUInt8] ++ Ascii.utf8Bytes operation

theorem readLe_hashMessage (nonce : UInt64) (operation : String) :
    readLe 8 (hashMessage nonce operation) = nonce.toNat := by
  have bound := nonce.toNat_lt
  have byteAt (shift : UInt64) (small : shift.toNat < 64) :
      (nonce >>> shift).toUInt8.toNat = nonce.toNat / 2 ^ shift.toNat % 256 := by
    rw [UInt64.toNat_toUInt8, UInt64.toNat_shiftRight, Nat.mod_eq_of_lt small,
      Nat.shiftRight_eq_div_pow]
  simp only [hashMessage, List.cons_append, List.nil_append, readLe]
  rw [UInt64.toNat_toUInt8, byteAt 8 (by decide), byteAt 16 (by decide), byteAt 24 (by decide),
    byteAt 32 (by decide), byteAt 40 (by decide), byteAt 48 (by decide), byteAt 56 (by decide)]
  simp only [UInt64.reduceToNat]
  omega

/-- A nonce is read back from its bytes, and an operation from what follows them. -/
theorem governance_message_injective (nonce other : UInt64) (operation second : String) :
    hashMessage nonce operation = hashMessage other second ↔
      nonce = other ∧ operation = second := by
  constructor
  · intro same
    have nonces := congrArg (readLe 8) same
    rw [readLe_hashMessage, readLe_hashMessage] at nonces
    obtain ⟨_, operations⟩ := List.append_inj same rfl
    exact ⟨UInt64.toNat_inj.mp nonces, Ascii.utf8Bytes_injective operations⟩
  · rintro ⟨rfl, rfl⟩
    rfl

/-! ## Signers -/

/-- `for i in 0..len { for j in (i + 1)..len { if s[i] == s[j] .. } }`. -/
def hasDuplicateSigner (signers : List Address) : Bool :=
  (List.range signers.length).any fun i =>
    (List.range' (i + 1) (signers.length - (i + 1))).any fun j =>
      signers[i]? == signers[j]?

theorem hasDuplicateSigner_eq_false_iff (signers : List Address) :
    hasDuplicateSigner signers = false ↔ signers.Nodup := by
  rw [List.nodup_iff_getElem?_ne_getElem?]
  simp only [hasDuplicateSigner, List.any_eq_false, List.mem_range,
    List.mem_range'_1, Bool.not_eq_true, beq_eq_false_iff_ne]
  constructor
  · intro distinct i j ordered bound
    exact distinct i (by omega) j (by omega)
  · intro distinct i _ j bounds
    exact distinct i j (by omega) (by omega)

def checkSigners (signers : List Address) (threshold : UInt32) : HostM Unit := do
  ensureNot (signers.length == 0) .emptySignerList
  ensureNot (threshold == 0 || decide (signers.length < threshold.toNat))
    .invalidThreshold
  ensureNot (hasDuplicateSigner signers) .duplicateSigner

def SignersAccepted (signers : List Address) (threshold : UInt32) : Prop :=
  signers ≠ [] ∧ threshold ≠ 0 ∧ threshold.toNat ≤ signers.length ∧ signers.Nodup

instance (signers : List Address) (threshold : UInt32) :
    Decidable (SignersAccepted signers threshold) := by
  unfold SignersAccepted
  infer_instance

@[simp] theorem checkSigners_ok {signers : List Address} {threshold : UInt32}
    {env : Env} {world later : World} {value : Unit} :
    checkSigners signers threshold env world = (.ok value, later) ↔
      SignersAccepted signers threshold ∧ later = world := by
  simp only [checkSigners, ensureNot, Program.bind_ok, Program.rejectIf_ok,
    hasDuplicateSigner_eq_false_iff, SignersAccepted, beq_eq_false_iff_ne, ne_eq,
    List.length_eq_zero_iff, Bool.or_eq_false_iff, decide_eq_false_iff_not, not_lt]
  constructor
  · rintro ⟨_, _, ⟨nonempty, rfl⟩, _, _, ⟨⟨positive, bounded⟩, rfl⟩, distinct, rfl⟩
    exact ⟨⟨nonempty, positive, bounded, distinct⟩, rfl⟩
  · rintro ⟨⟨nonempty, positive, bounded, distinct⟩, rfl⟩
    exact ⟨(), later, ⟨nonempty, rfl⟩, (), later, ⟨⟨positive, bounded⟩, rfl⟩,
      distinct, rfl⟩

def initializeMultisig (signers : List Address) (threshold : UInt32) :
    HostM Unit := do
  checkSigners signers threshold
  Program.update (Storage.setMultisigConfig ⟨signers, threshold, 0⟩)

def getMultisigConfig : HostM (List Address × UInt32) := do
  let config ← Storage.getMultisigConfig
  return (config.signers, config.threshold)

def rotateSigners (newSigners : List Address) (newThreshold : UInt32) :
    HostM Unit := do
  checkSigners newSigners newThreshold
  let config ← Storage.getMultisigConfig
  Program.update (Storage.setMultisigConfig
    ⟨newSigners, newThreshold, saturatingAdd config.nonce 1⟩)

def incrementNonce : HostM Unit := do
  let config ← Storage.getMultisigConfig
  Program.update (Storage.setMultisigConfig
    { config with nonce := saturatingAdd config.nonce 1 })

theorem incrementNonce_retires_messages {config : MultiSigConfig} {env : Env}
    {world later : World} (stored : world.multiSigConfig = some config)
    (unspent : config.nonce.toNat < u64Max)
    (incremented : incrementNonce env world = (.ok (), later)) :
    ∃ next, later.multiSigConfig = some next ∧ ∀ operation second,
      hashMessage config.nonce operation ≠ hashMessage next.nonce second := by
  simp only [incrementNonce, Storage.getMultisigConfig, okOr, Program.bind_ok,
    Program.inspect_ok, Program.someOr_ok, Program.update_ok, stored] at incremented
  obtain ⟨_, _, ⟨_, _, ⟨rfl, rfl⟩, found, rfl⟩, rfl⟩ := incremented
  cases found
  refine ⟨_, rfl, ?_⟩
  intro operation second same
  have nonces := congrArg (readLe 8) same
  rw [readLe_hashMessage, readLe_hashMessage, saturatingAdd_toNat] at nonces
  have one : (1 : UInt64).toNat = 1 := rfl
  omega

/-! ## Verification -/

def isAuthorizedSigner (config : MultiSigConfig) (signer : Address) : Bool :=
  config.signers.any fun configured => configured == signer

/-- The loop over the signatures with its early returns, then the test after it. -/
def countSignatures (threshold : Nat) : Nat → List (List UInt8) → HostM Unit
  | validCount, [] =>
      ensureNot (decide (validCount < threshold)) .insufficientSignatures
  | validCount, signature :: rest =>
      if signature.length == 65 then
        if threshold ≤ validCount + 1 then pure ()
        else countSignatures threshold (validCount + 1) rest
      else Program.fail (.error .invalidSignature)

/-- The hash is taken and never read: no signature is checked against it. -/
def verifyMultisig (_msgHash : List UInt8) (sigInfo : SignatureInfo) : HostM Unit := do
  let config ← Storage.getMultisigConfig
  ensureNot (sigInfo.signers.length != sigInfo.signatures.length) .invalidSignature
  ensureNot (decide (sigInfo.signers.length < config.threshold.toNat))
    .insufficientSignatures
  ensureNot (hasDuplicateSigner sigInfo.signers) .duplicateSigner
  ensureNot (sigInfo.signers.any fun signer => !isAuthorizedSigner config signer)
    .signerNotFound
  countSignatures config.threshold.toNat 0 sigInfo.signatures

theorem all_authorized_iff (config : MultiSigConfig) (signers : List Address) :
    (signers.any fun signer => !isAuthorizedSigner config signer) = false ↔
      ∀ signer ∈ signers, signer ∈ config.signers := by
  simp [isAuthorizedSigner]

/-- The loop succeeds once the signatures still missing are of the right size; those
after them are not looked at. -/
theorem countSignatures_ok_iff {threshold validCount : Nat} {signatures : List (List UInt8)}
    (missing : validCount < threshold)
    (enough : threshold ≤ validCount + signatures.length) (env : Env) (world : World) :
    countSignatures threshold validCount signatures env world = (.ok (), world) ↔
      ∀ signature ∈ signatures.take (threshold - validCount), signature.length = 65 := by
  induction signatures generalizing validCount with
  | nil =>
      simp only [List.length_nil] at enough
      omega
  | cons signature rest ih =>
      simp only [List.length_cons] at enough
      have remaining : threshold - validCount = threshold - (validCount + 1) + 1 := by omega
      rw [remaining, List.take_succ_cons, List.forall_mem_cons, countSignatures]
      by_cases sized : signature.length = 65
      · simp only [sized, beq_self_eq_true, if_true, true_and]
        by_cases last : threshold ≤ validCount + 1
        · have done : threshold - (validCount + 1) = 0 := by omega
          simp [last, done]
        · rw [if_neg last]
          exact ih (by omega) (by omega)
      · simp [sized]

/-- What `verify_multisig` asks of the signers and the signatures supplied. -/
structure Approved (config : MultiSigConfig) (sigInfo : SignatureInfo) : Prop where
  paired : sigInfo.signers.length = sigInfo.signatures.length
  enough : config.threshold.toNat ≤ sigInfo.signers.length
  distinct : sigInfo.signers.Nodup
  configured : ∀ signer ∈ sigInfo.signers, signer ∈ config.signers
  sized : ∀ signature ∈ sigInfo.signatures.take config.threshold.toNat,
    signature.length = 65

theorem verifyMultisig_ok_iff {config : MultiSigConfig} {world : World}
    (stored : world.multiSigConfig = some config) (positive : config.threshold ≠ 0)
    (env : Env) (msgHash : List UInt8) (sigInfo : SignatureInfo) :
    verifyMultisig msgHash sigInfo env world = (.ok (), world) ↔
      Approved config sigInfo := by
  have threshold : 0 < config.threshold.toNat := by
    apply Nat.pos_of_ne_zero
    intro zero
    exact positive (UInt32.toNat_inj.mp zero)
  simp only [verifyMultisig, Storage.getMultisigConfig, okOr, ensureNot, Program.bind_ok,
    Program.inspect_ok, Program.someOr_ok, Program.rejectIf_ok, stored,
    hasDuplicateSigner_eq_false_iff, all_authorized_iff, bne_eq_false_iff_eq,
    decide_eq_false_iff_not, Nat.not_lt]
  constructor
  · intro run
    obtain ⟨_, _, ⟨_, _, ⟨rfl, rfl⟩, found, rfl⟩, _, _, ⟨paired, rfl⟩, _, _, ⟨enough, rfl⟩,
      _, _, ⟨distinct, rfl⟩, _, _, ⟨configured, rfl⟩, counted⟩ := run
    cases found
    refine ⟨paired, enough, distinct, configured, ?_⟩
    exact (countSignatures_ok_iff threshold (by omega) env _).mp counted
  · intro approved
    have counted := (countSignatures_ok_iff threshold
      (by have := approved.enough; have := approved.paired; omega) env world).mpr approved.sized
    exact ⟨config, world, ⟨_, _, ⟨rfl, rfl⟩, rfl, rfl⟩, (), world, ⟨approved.paired, rfl⟩,
      (), world, ⟨approved.enough, rfl⟩, (), world, ⟨approved.distinct, rfl⟩,
      (), world, ⟨approved.configured, rfl⟩, counted⟩

theorem Approved.quorum {config : MultiSigConfig} {sigInfo : SignatureInfo}
    (approved : Approved config sigInfo) :
    ∃ quorum : Finset Address, config.threshold.toNat ≤ quorum.card ∧
      ∀ signer ∈ quorum, signer ∈ config.signers ∧ signer ∈ sigInfo.signers := by
  refine ⟨sigInfo.signers.toFinset, ?_, ?_⟩
  · rw [List.toFinset_card_of_nodup approved.distinct]
    exact approved.enough
  · intro signer member
    have supplied := List.mem_toFinset.mp member
    exact ⟨approved.configured signer supplied, supplied⟩

/-- With a well-formed configuration stored, `verify_multisig` succeeds exactly on an
approval, and an approval names at least `threshold` distinct configured signers. -/
theorem verify_multisig_decides_m_of_n (config : MultiSigConfig) (world : World)
    (stored : world.multiSigConfig = some config)
    (accepted : SignersAccepted config.signers config.threshold)
    (env : Env) (msgHash : List UInt8) (sigInfo : SignatureInfo) :
    (verifyMultisig msgHash sigInfo env world = (.ok (), world) ↔
      sigInfo.signers.length = sigInfo.signatures.length ∧
        config.threshold.toNat ≤ sigInfo.signers.length ∧
        sigInfo.signers.Nodup ∧
        (∀ signer ∈ sigInfo.signers, signer ∈ config.signers) ∧
        ∀ signature ∈ sigInfo.signatures.take config.threshold.toNat,
          signature.length = 65) ∧
      (verifyMultisig msgHash sigInfo env world = (.ok (), world) →
        ∃ quorum : Finset Address, config.threshold.toNat ≤ quorum.card ∧
          ∀ signer ∈ quorum, signer ∈ config.signers ∧ signer ∈ sigInfo.signers) := by
  have decides := verifyMultisig_ok_iff stored accepted.2.1 env msgHash sigInfo
  refine ⟨?_, ?_⟩
  · rw [decides]
    constructor
    · intro approved
      exact ⟨approved.paired, approved.enough, approved.distinct, approved.configured,
        approved.sized⟩
    · intro ⟨paired, enough, distinct, configured, sized⟩
      exact ⟨paired, enough, distinct, configured, sized⟩
  · intro succeeded
    exact (decides.mp succeeded).quorum

def twoOfThree : MultiSigConfig := ⟨[⟨1⟩, ⟨2⟩, ⟨3⟩], 2, 0⟩

def quietEnv : Env := ⟨⟨0, 0, 0⟩, ∅⟩

def governedWorld : World := { World.deployed with multiSigConfig := some twoOfThree }

def twoSignatures : SignatureInfo :=
  ⟨[⟨3⟩, ⟨1⟩], [List.replicate 65 0, List.replicate 65 1]⟩

theorem twoSignatures_verified :
    governedWorld.multiSigConfig = some twoOfThree ∧
      SignersAccepted twoOfThree.signers twoOfThree.threshold ∧
      verifyMultisig [] twoSignatures quietEnv governedWorld = (.ok (), governedWorld) := by
  have accepted : SignersAccepted twoOfThree.signers twoOfThree.threshold := by decide
  refine ⟨rfl, accepted, ?_⟩
  apply (verify_multisig_decides_m_of_n twoOfThree governedWorld rfl accepted quietEnv []
    twoSignatures).1.mpr
  refine ⟨rfl, by decide, by decide, by decide, ?_⟩
  intro signature member
  have sized : ∀ supplied ∈ twoSignatures.signatures, supplied.length = 65 := by decide
  exact sized signature (List.mem_of_mem_take member)

end AnchorKit.Contract.Multisig
