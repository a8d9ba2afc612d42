import AnchorKit.Base.MachineInt
import AnchorKit.Base.Program
import AnchorKit.Contract.Types

/-!
# Storage accessors of `storage.rs`

Readers are functions of the world, infallible writers are functions of the
invocation environment and the world, and the two counters that may overflow
are programs.  The rent constants and the window computation keep the source's
32-bit arithmetic; ledger numbers are natural numbers.
-/

set_option autoImplicit false

namespace AnchorKit.Contract

open AnchorKit.Base AnchorKit.Base.MachineInt

abbrev HostM (Value : Type) : Type := Program Env World Failure Value

def ensureNot (condition : Bool) (code : Error) : HostM Unit :=
  Program.rejectIf condition (.error code)

def okOr {Value : Type} (value : Option Value) (code : Error) : HostM Value :=
  Program.someOr value (.error code)

/-- The host aborts unless the address authorised the invocation. -/
def requireAuth (address : Address) : HostM Unit := do
  let authorised ← Program.ask fun env : Env => decide (address ∈ env.auths)
  Program.rejectIf (!authorised) .abort

/-- Unsigned addition under `overflow-checks = true`: an overflow aborts. -/
def addOrAbort (left right : UInt64) : HostM UInt64 :=
  Program.someOr (checkedAdd left right) .abort

def World.emit (event : Event) (world : World) : World :=
  { world with events := world.events ++ [event] }

def publish (event : Event) : HostM Unit :=
  Program.update fun _ world => world.emit event

namespace Storage

def secondsPerLedger : UInt64 := 5

def ledgersPerDay : UInt32 := 17280

def maxEntryTtlLedgers : UInt32 := 6312000

def attestorTtlThreshold : UInt32 := ledgersPerDay * 90

def attestorTtlExtendTo : UInt32 := maxEntryTtlLedgers

def minAttestationTtlExtendTo : UInt32 := ledgersPerDay * 30

def maxAttestationTtlExtendTo : UInt32 := maxEntryTtlLedgers

def defaultMaxAttestationTtlSeconds : UInt64 := 365 * 24 * 60 * 60

/-- `u32::try_from(value).unwrap_or(u32::MAX)`. -/
def toU32Saturating (value : UInt64) : UInt32 :=
  if value.toNat < 2 ^ 32 then value.toUInt32 else UInt32.ofNat (2 ^ 32 - 1)

def clampU32 (value low high : UInt32) : UInt32 :=
  if value < low then low else if high < value then high else value

def attestationExtendTo (remainingSeconds : UInt64) : UInt32 :=
  let ledgers := remainingSeconds / secondsPerLedger
  let ledgers := toU32Saturating ledgers
  clampU32 ledgers minAttestationTtlExtendTo maxAttestationTtlExtendTo

def attestationTtlWindow (remainingSeconds : UInt64) : UInt32 × UInt32 :=
  let extendTo := attestationExtendTo remainingSeconds
  (extendTo / 2, extendTo)

def getAdmin : HostM Address := do
  okOr (← Program.inspect World.admin) .notInitialized

def setAdmin (admin : Address) (_ : Env) (world : World) : World :=
  { world with admin := some admin }

def isInitialized (world : World) : Bool := world.admin.isSome

def isPaused (world : World) : Bool := world.paused.getD false

def setPaused (paused : Bool) (_ : Env) (world : World) : World :=
  { world with paused := some paused }

def isAttestor (attestor : Address) (world : World) : Bool :=
  (world.attestor.get attestor).getD false

def setAttestor (attestor : Address) (allowed : Bool) (env : Env)
    (world : World) : World :=
  if allowed then
    let written := world.attestor.set env.ledger.sequenceNumber
      env.ledger.minPersistentEntryTtl attestor true
    { world with
      attestor := written.extendTtl env.ledger.sequenceNumber attestor
        attestorTtlThreshold.toNat attestorTtlExtendTo.toNat }
  else { world with attestor := world.attestor.remove attestor }

def getAttestation (pair : Pair) (world : World) : Option Attestation :=
  world.attestation.get pair

def remainingSeconds (attestation : Attestation) (env : Env) : UInt64 :=
  saturatingSub attestation.expiresAt env.ledger.timestamp

def setAttestation (pair : Pair) (attestation : Attestation) (env : Env)
    (world : World) : World :=
  let written := world.attestation.set env.ledger.sequenceNumber
    env.ledger.minPersistentEntryTtl pair attestation
  let window := attestationTtlWindow (remainingSeconds attestation env)
  { world with
    attestation := written.extendTtl env.ledger.sequenceNumber pair
      window.1.toNat window.2.toNat }

def getAttestationCount (world : World) : UInt64 :=
  world.attestationCount.getD 0

def setAttestationCount (count : UInt64) (_ : Env) (world : World) : World :=
  { world with attestationCount := some count }

def bumpAttestationCount : HostM UInt64 := do
  let count ← Program.inspect getAttestationCount
  let next ← addOrAbort count 1
  Program.update (setAttestationCount next)
  return next

def getAttestationSeq (pair : Pair) (world : World) : UInt64 :=
  (world.attestationSeq.get pair).getD 0

def setAttestationSeq (pair : Pair) (sequence : UInt64) (env : Env)
    (world : World) : World :=
  { world with
    attestationSeq := world.attestationSeq.set env.ledger.sequenceNumber
      env.ledger.minPersistentEntryTtl pair sequence }

def nextAttestationSeq (pair : Pair) : HostM UInt64 := do
  let current ← Program.inspect (getAttestationSeq pair)
  let next ← addOrAbort current 1
  Program.update (setAttestationSeq pair next)
  return next

def historyEntry (sequence : UInt64) (attestation : Attestation) : HistoryEntry where
  sequence := sequence
  attestor := attestation.attestor
  payloadHash := attestation.payloadHash
  issuedAt := attestation.issuedAt
  expiresAt := attestation.expiresAt
  status := attestation.status

def getHistoryEntry (pair : Pair) (sequence : UInt64) (world : World) :
    Option HistoryEntry :=
  world.attestationHistory.get (pair, sequence)

def setHistoryEntry (pair : Pair) (sequence : UInt64) (attestation : Attestation)
    (env : Env) (world : World) : World :=
  let key := (pair, sequence)
  let written := world.attestationHistory.set env.ledger.sequenceNumber
    env.ledger.minPersistentEntryTtl key (historyEntry sequence attestation)
  let window := attestationTtlWindow (remainingSeconds attestation env)
  { world with
    attestationHistory := written.extendTtl env.ledger.sequenceNumber key
      window.1.toNat window.2.toNat }

def pushAttestationHistory (pair : Pair) (attestation : Attestation) :
    HostM Unit := do
  let sequence ← nextAttestationSeq pair
  Program.update (setHistoryEntry pair sequence attestation)

/-- The backward loop of `list_attestation_history`: at most `limit` numbers,
down from `current`, stopping at zero. -/
def collectBackward (read : UInt64 → Option HistoryEntry) :
    Nat → UInt64 → List HistoryEntry
  | 0, _ => []
  | limit + 1, current =>
      if current = 0 then []
      else (read current).toList ++
        collectBackward read limit (saturatingSub current 1)

/-- The forward loop over `(start_seq..).take(limit)`: at most `limit` numbers,
up from `current`, stopping above `total`.  The range computes the successor of
every number it yields, that of the largest one included, where it overflows. -/
def collectForward (read : UInt64 → Option HistoryEntry) (total : UInt64) :
    Nat → UInt64 → Option (List HistoryEntry)
  | 0, _ => some []
  | limit + 1, current =>
      match checkedAdd current 1 with
      | none => none
      | some next =>
          if total < current then some []
          else (collectForward read total limit next).map ((read current).toList ++ ·)

/-- The page past the `limit` check, or an overflow. -/
def historyPage (pair : Pair) (startSeq : UInt64) (limit : UInt32)
    (reverse : Bool) (world : World) : Option (List HistoryEntry) :=
  let totalSeq := getAttestationSeq pair world
  if totalSeq = 0 ∨ totalSeq < startSeq then some []
  else
    let read := fun sequence => getHistoryEntry pair sequence world
    if reverse then some (collectBackward read limit.toNat startSeq)
    else collectForward read totalSeq limit.toNat startSeq

def listAttestationHistory (pair : Pair) (startSeq : UInt64) (limit : UInt32)
    (reverse : Bool) : HostM (List HistoryEntry) := do
  ensureNot (limit == 0) .invalidPagination
  Program.someOr (← Program.inspect (historyPage pair startSeq limit reverse)) .abort

def getMaxAttestationTtl (attestationType : Symbol) (world : World) : UInt64 :=
  (world.maxAttestationTtl attestationType).getD
    (world.defaultMaxAttestationTtl.getD defaultMaxAttestationTtlSeconds)

def setDefaultMaxAttestationTtl (maxTtlSeconds : UInt64) (_ : Env)
    (world : World) : World :=
  { world with defaultMaxAttestationTtl := some maxTtlSeconds }

def setMaxAttestationTtl (attestationType : Symbol) (maxTtlSeconds : UInt64)
    (_ : Env) (world : World) : World :=
  { world with
    maxAttestationTtl := fun other =>
      if other = attestationType then some maxTtlSeconds
      else world.maxAttestationTtl other }

def getMultisigConfig : HostM MultiSigConfig := do
  okOr (← Program.inspect World.multiSigConfig) .notInitialized

def setMultisigConfig (config : MultiSigConfig) (_ : Env) (world : World) : World :=
  { world with multiSigConfig := some config }

def hasMultisigConfig (world : World) : Bool := world.multiSigConfig.isSome

end Storage
end AnchorKit.Contract
