import AnchorKit.Contract.Multisig

/-!
# Entry points of `contract.rs`

Each definition follows its source function line by line: the guards in the
same order, then the writes, then the event.
-/

set_option autoImplicit false

namespace AnchorKit.Contract.Entry

open AnchorKit.Base AnchorKit.Base.MachineInt

def maxAttestationTypeLen : Nat := 24

def validateAttestationType (attestationType : Symbol) : HostM Unit :=
  ensureNot (decide (maxAttestationTypeLen < attestationType.chars.length))
    .attestationTypeTooLong

/-- `initialize` of the source. -/
def initializeContract (admin : Address) : HostM Unit := do
  ensureNot (← Program.inspect Storage.isInitialized) .alreadyInitialized
  requireAuth admin
  Program.update (Storage.setAdmin admin)
  Program.update (Storage.setPaused false)
  publish (.initialized admin)

def getAdmin : HostM Address := Storage.getAdmin

def setAdmin (newAdmin : Address) : HostM Unit := do
  let current ← Storage.getAdmin
  requireAuth current
  Program.update (Storage.setAdmin newAdmin)
  publish (.adminChanged current newAdmin)

def isPaused : HostM Bool := do
  ensureNot (!(← Program.inspect Storage.isInitialized)) .notInitialized
  Program.inspect Storage.isPaused

def pause : HostM Unit := do
  let admin ← Storage.getAdmin
  requireAuth admin
  Program.update (Storage.setPaused true)
  publish (.pauseToggled true)

def unpause : HostM Unit := do
  let admin ← Storage.getAdmin
  requireAuth admin
  Program.update (Storage.setPaused false)
  publish (.pauseToggled false)

def addAttestor (attestor : Address) : HostM Unit := do
  let admin ← Storage.getAdmin
  requireAuth admin
  ensureNot (← Program.inspect (Storage.isAttestor attestor))
    .attestorAlreadyRegistered
  Program.update (Storage.setAttestor attestor true)
  publish (.attestorAdded attestor)

def removeAttestor (attestor : Address) : HostM Unit := do
  let admin ← Storage.getAdmin
  requireAuth admin
  ensureNot (!(← Program.inspect (Storage.isAttestor attestor)))
    .attestorNotRegistered
  Program.update (Storage.setAttestor attestor false)
  publish (.attestorRemoved attestor)

def isAttestor (attestor : Address) : HostM Bool :=
  Program.inspect (Storage.isAttestor attestor)

def renewAttestor (attestor : Address) : HostM Unit := do
  let admin ← Storage.getAdmin
  requireAuth admin
  ensureNot (!(← Program.inspect (Storage.isAttestor attestor)))
    .attestorNotRegistered
  Program.update (Storage.setAttestor attestor true)
  publish (.attestorRenewed attestor)

def setDefaultMaxAttestationTtl (maxTtlSeconds : UInt64) : HostM Unit := do
  let admin ← Storage.getAdmin
  requireAuth admin
  ensureNot (maxTtlSeconds == 0) .invalidExpiration
  Program.update (Storage.setDefaultMaxAttestationTtl maxTtlSeconds)
  publish (.defaultMaxAttestationTtlChanged maxTtlSeconds)

def setMaxAttestationTtl (attestationType : Symbol) (maxTtlSeconds : UInt64) :
    HostM Unit := do
  let admin ← Storage.getAdmin
  requireAuth admin
  ensureNot (maxTtlSeconds == 0) .invalidExpiration
  Program.update (Storage.setMaxAttestationTtl attestationType maxTtlSeconds)
  publish (.maxAttestationTtlChanged attestationType maxTtlSeconds)

def getMaxAttestationTtl (attestationType : Symbol) : HostM UInt64 :=
  Program.inspect (Storage.getMaxAttestationTtl attestationType)

def pairOf (entry : BatchAttestEntry) : Pair :=
  (entry.subject, entry.attestationType)

def issued (attestor : Address) (entry : BatchAttestEntry) (now : UInt64) :
    Attestation where
  attestor := attestor
  subject := entry.subject
  attestationType := entry.attestationType
  payloadHash := entry.payloadHash
  issuedAt := now
  expiresAt := saturatingAdd now entry.ttlSeconds
  status := .active

def recordAttestation (attestor : Address) (entry : BatchAttestEntry) :
    HostM Unit := do
  ensureNot (entry.ttlSeconds == 0) .invalidExpiration
  validateAttestationType entry.attestationType
  let maxTtl ← Program.inspect (Storage.getMaxAttestationTtl entry.attestationType)
  ensureNot (decide (maxTtl < entry.ttlSeconds)) .exceedsMaxTtl
  let issuedAt ← Program.ask fun env : Env => env.ledger.timestamp
  let attestation := issued attestor entry issuedAt
  Program.update (Storage.setAttestation (pairOf entry) attestation)
  Storage.pushAttestationHistory (pairOf entry) attestation
  let _ ← Storage.bumpAttestationCount
  publish (.attested entry.subject entry.attestationType attestor
    entry.payloadHash attestation.expiresAt)

def attest (attestor subject : Address) (attestationType : Symbol)
    (payloadHash : BytesN 32) (ttlSeconds : UInt64) : HostM Unit := do
  ensureNot (← Program.inspect Storage.isPaused) .contractPaused
  requireAuth attestor
  ensureNot (!(← Program.inspect (Storage.isAttestor attestor)))
    .attestorNotRegistered
  recordAttestation attestor ⟨subject, attestationType, payloadHash, ttlSeconds⟩

def validateEntry (entry : BatchAttestEntry) : HostM Unit := do
  ensureNot (entry.ttlSeconds == 0) .invalidExpiration
  validateAttestationType entry.attestationType

def attestBatch (attestor : Address) (entries : List BatchAttestEntry) :
    HostM Unit := do
  ensureNot (← Program.inspect Storage.isPaused) .contractPaused
  requireAuth attestor
  ensureNot (!(← Program.inspect (Storage.isAttestor attestor)))
    .attestorNotRegistered
  ensureNot entries.isEmpty .emptyBatch
  forM entries validateEntry
  forM entries (recordAttestation attestor)

def getAttestation (pair : Pair) : HostM Attestation := do
  okOr (← Program.inspect (Storage.getAttestation pair)) .attestationNotFound

def isValidAt (now : UInt64) (pair : Pair) (world : World) : Bool :=
  match Storage.getAttestation pair world with
  | some attestation =>
      attestation.status == .active && decide (now < attestation.expiresAt)
  | none => false

def isValid (pair : Pair) : HostM Bool := do
  let now ← Program.ask fun env : Env => env.ledger.timestamp
  Program.inspect (isValidAt now pair)

def markRevoked (attestation : Attestation) : Attestation :=
  { attestation with status := .revoked }

def revoke (caller : Address) (pair : Pair) : HostM Unit := do
  ensureNot (← Program.inspect Storage.isPaused) .contractPaused
  requireAuth caller
  let attestation ← okOr (← Program.inspect (Storage.getAttestation pair))
    .attestationNotFound
  let admin ← Storage.getAdmin
  ensureNot (caller != admin && caller != attestation.attestor) .unauthorized
  ensureNot (attestation.status == .revoked) .attestationAlreadyRevoked
  Program.update (Storage.setAttestation pair (markRevoked attestation))
  Storage.pushAttestationHistory pair (markRevoked attestation)
  publish (.revoked pair.1 pair.2 caller)

def renewAttestation (caller : Address) (pair : Pair) : HostM Unit := do
  requireAuth caller
  let attestation ← okOr (← Program.inspect (Storage.getAttestation pair))
    .attestationNotFound
  let admin ← Storage.getAdmin
  ensureNot (caller != admin && caller != attestation.attestor) .unauthorized
  Program.update (Storage.setAttestation pair attestation)
  publish (.attestationRenewed pair.1 pair.2 caller)

def getAttestationCount : HostM UInt64 :=
  Program.inspect Storage.getAttestationCount

def listAttestationHistory (pair : Pair) (startSeq : UInt64) (limit : UInt32)
    (reverse : Bool) : HostM (List HistoryEntry) :=
  Storage.listAttestationHistory pair startSeq limit reverse

def initializeMultisig (signers : List Address) (threshold : UInt32) :
    HostM Unit := do
  let configured ← Program.inspect fun world =>
    Storage.isInitialized world && Storage.hasMultisigConfig world
  ensureNot configured .alreadyInitialized
  Multisig.initializeMultisig signers threshold

def getMultisigConfig : HostM (List Address × UInt32) :=
  Multisig.getMultisigConfig

/-- The inner loop of `rotate_signers`, left at the first match. -/
def isCurrentSigner (signers : List Address) (signer : Address) : Bool :=
  signers.any (· == signer)

/-- The outer loop of `rotate_signers`: one count for every listed address that
is a current signer. -/
def countValidSigners (current listed : List Address) : Nat :=
  listed.foldl
    (fun valid signer => if isCurrentSigner current signer then valid + 1 else valid)
    0

def rotateSigners (newSigners : List Address) (newThreshold : UInt32)
    (sigInfo : SignatureInfo) : HostM Unit := do
  let config ← Storage.getMultisigConfig
  ensureNot
    (decide (countValidSigners config.signers sigInfo.signers < config.threshold.toNat))
    .insufficientSignatures
  Multisig.rotateSigners newSigners newThreshold
  publish (.signersRotated newThreshold)

end AnchorKit.Contract.Entry
