import AnchorKit.Base.Machine
import AnchorKit.Contract.Entry

/-!
# The contract as a state machine

`Call` lists every entry point of the contract and `invoke` dispatches it.  A
step is one invocation under its own ledger header and authorisations; the host
commits a success and rolls a failure back.  A run starts from a fresh
deployment.
-/

set_option autoImplicit false

namespace AnchorKit.Contract

open AnchorKit.Base

inductive Call where
  | initializeContract (admin : Address)
  | getAdmin
  | setAdmin (newAdmin : Address)
  | isPaused
  | pause
  | unpause
  | addAttestor (attestor : Address)
  | removeAttestor (attestor : Address)
  | isAttestor (attestor : Address)
  | renewAttestor (attestor : Address)
  | setDefaultMaxAttestationTtl (maxTtlSeconds : UInt64)
  | setMaxAttestationTtl (attestationType : Symbol) (maxTtlSeconds : UInt64)
  | getMaxAttestationTtl (attestationType : Symbol)
  | attest (attestor : Address) (entry : BatchAttestEntry)
  | attestBatch (attestor : Address) (entries : List BatchAttestEntry)
  | getAttestation (pair : Pair)
  | isValid (pair : Pair)
  | revoke (caller : Address) (pair : Pair)
  | renewAttestation (caller : Address) (pair : Pair)
  | getAttestationCount
  | listAttestationHistory (pair : Pair) (startSeq : UInt64) (limit : UInt32)
      (reverse : Bool)
  | initializeMultisig (signers : List Address) (threshold : UInt32)
  | getMultisigConfig
  | rotateSigners (newSigners : List Address) (newThreshold : UInt32)
      (sigInfo : SignatureInfo)
  deriving DecidableEq

inductive Reply where
  | unit
  | address (value : Address)
  | flag (value : Bool)
  | amount (value : UInt64)
  | attestation (value : Attestation)
  | history (entries : List HistoryEntry)
  | signers (signers : List Address) (threshold : UInt32)
  deriving DecidableEq

def invoke : Call → HostM Reply
  | .initializeContract admin => do
      Entry.initializeContract admin
      return .unit
  | .getAdmin => return .address (← Entry.getAdmin)
  | .setAdmin newAdmin => do
      Entry.setAdmin newAdmin
      return .unit
  | .isPaused => return .flag (← Entry.isPaused)
  | .pause => do
      Entry.pause
      return .unit
  | .unpause => do
      Entry.unpause
      return .unit
  | .addAttestor attestor => do
      Entry.addAttestor attestor
      return .unit
  | .removeAttestor attestor => do
      Entry.removeAttestor attestor
      return .unit
  | .isAttestor attestor => return .flag (← Entry.isAttestor attestor)
  | .renewAttestor attestor => do
      Entry.renewAttestor attestor
      return .unit
  | .setDefaultMaxAttestationTtl maxTtlSeconds => do
      Entry.setDefaultMaxAttestationTtl maxTtlSeconds
      return .unit
  | .setMaxAttestationTtl attestationType maxTtlSeconds => do
      Entry.setMaxAttestationTtl attestationType maxTtlSeconds
      return .unit
  | .getMaxAttestationTtl attestationType =>
      return .amount (← Entry.getMaxAttestationTtl attestationType)
  | .attest attestor entry => do
      Entry.attest attestor entry.subject entry.attestationType entry.payloadHash
        entry.ttlSeconds
      return .unit
  | .attestBatch attestor entries => do
      Entry.attestBatch attestor entries
      return .unit
  | .getAttestation pair => return .attestation (← Entry.getAttestation pair)
  | .isValid pair => return .flag (← Entry.isValid pair)
  | .revoke caller pair => do
      Entry.revoke caller pair
      return .unit
  | .renewAttestation caller pair => do
      Entry.renewAttestation caller pair
      return .unit
  | .getAttestationCount => return .amount (← Entry.getAttestationCount)
  | .listAttestationHistory pair startSeq limit reverse =>
      return .history
        (← Entry.listAttestationHistory pair startSeq limit reverse)
  | .initializeMultisig signers threshold => do
      Entry.initializeMultisig signers threshold
      return .unit
  | .getMultisigConfig => do
      let config ← Entry.getMultisigConfig
      return .signers config.1 config.2
  | .rotateSigners newSigners newThreshold sigInfo => do
      Entry.rotateSigners newSigners newThreshold sigInfo
      return .unit

structure Step where
  env : Env
  call : Call

def Step.succeeds (world : World) (step : Step) : Bool :=
  (invoke step.call).succeeds step.env world

/-- One invocation: a success is committed, a failure leaves no trace. -/
def World.step (world : World) (step : Step) : World :=
  (invoke step.call).commit step.env world

def World.run (world : World) (steps : List Step) : World :=
  Machine.run World.step world steps

def visits (steps : List Step) : List (World × Step) :=
  Machine.visits World.step World.deployed steps

def reached (steps : List Step) : World := World.deployed.run steps

/-- Ledger time never goes back along the run. -/
def Ordered (steps : List Step) : Prop :=
  steps.Pairwise fun earlier later =>
    earlier.env.ledger.timestamp ≤ later.env.ledger.timestamp

theorem reached_append_singleton (steps : List Step) (step : Step) :
    reached (steps ++ [step]) = (reached steps).step step := by
  simp only [reached, World.run, Machine.run_append, Machine.run]

theorem reached_append (steps more : List Step) :
    reached (steps ++ more) = (reached steps).run more := by
  simp only [reached, World.run, Machine.run_append]

/-! ## A small deployment for concrete runs -/

section Sample

def sampleEnv : Env where
  ledger := ⟨0, 0, 4096⟩
  auths := {⟨0⟩, ⟨1⟩}

def sampleType : Symbol where
  chars := ['k', 'y', 'c']
  short := by decide
  legal := by
    simp only [List.forall_mem_cons]
    exact ⟨by decide, by decide, by decide, by simp⟩

def sampleEntry (days : UInt64) : BatchAttestEntry where
  subject := ⟨2⟩
  attestationType := sampleType
  payloadHash := ⟨List.replicate 32 0, rfl⟩
  ttlSeconds := days * 86400

/-- An initialised contract with one attestor on the allow-list. -/
def sampleDeployment : List Step :=
  [⟨sampleEnv, .initializeContract ⟨0⟩⟩, ⟨sampleEnv, .addAttestor ⟨1⟩⟩]

end Sample

end AnchorKit.Contract
