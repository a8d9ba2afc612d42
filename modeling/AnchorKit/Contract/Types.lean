import AnchorKit.Base.LiveMap
import Mathlib.Data.Finset.Basic

/-!
# Data of the AnchorKit contract

The types of `types.rs`, `errors.rs` and `events.rs`, and the part of the
Soroban host the contract runs on: the ledger header, the authorising
addresses of an invocation and the two storage spaces.

Every variant of `DataKey` is one field of `World`, so a key of one variant
never aliases a key of another.  Instance entries live and expire with the
contract instance and carry no lifetime of their own; persistent entries are
cells of a `LiveMap`.  `SchemaVersion` is written by no entry point and is left
out.
-/

set_option autoImplicit false

namespace AnchorKit.Contract

open AnchorKit.Base

structure Address where
  raw : Nat
  deriving DecidableEq, Repr

/-- A host symbol: at most 32 characters of `[a-zA-Z0-9_]`. -/
structure Symbol where
  chars : List Char
  short : chars.length ≤ 32
  legal : ∀ char ∈ chars, char.isAlphanum ∨ char = '_'
  deriving DecidableEq, Repr

structure BytesN (size : Nat) where
  bytes : List UInt8
  sized : bytes.length = size
  deriving DecidableEq, Repr

inductive AttestationStatus where
  | active
  | revoked
  deriving DecidableEq, Repr

structure BatchAttestEntry where
  subject : Address
  attestationType : Symbol
  payloadHash : BytesN 32
  ttlSeconds : UInt64
  deriving DecidableEq, Repr

structure Attestation where
  attestor : Address
  subject : Address
  attestationType : Symbol
  payloadHash : BytesN 32
  issuedAt : UInt64
  expiresAt : UInt64
  status : AttestationStatus
  deriving DecidableEq, Repr

structure HistoryEntry where
  sequence : UInt64
  attestor : Address
  payloadHash : BytesN 32
  issuedAt : UInt64
  expiresAt : UInt64
  status : AttestationStatus
  deriving DecidableEq, Repr

structure MultiSigConfig where
  signers : List Address
  threshold : UInt32
  nonce : UInt64
  deriving DecidableEq, Repr

structure SignatureInfo where
  signers : List Address
  signatures : List (List UInt8)
  deriving DecidableEq, Repr

inductive Error where
  | notInitialized
  | alreadyInitialized
  | unauthorized
  | contractPaused
  | attestorAlreadyRegistered
  | attestorNotRegistered
  | attestationNotFound
  | attestationExpired
  | attestationAlreadyRevoked
  | invalidExpiration
  | invalidDomain
  | emptyBatch
  | exceedsMaxTtl
  | invalidPagination
  | attestationTypeTooLong
  | invalidThreshold
  | signerNotFound
  | duplicateSigner
  | insufficientSignatures
  | invalidSignature
  | emptySignerList
  | duplicateSignature
  deriving DecidableEq, Repr

/-- How an invocation ends without a value: an `Err` of the contract, or an
abort by the host, which is what a missing authorisation and an arithmetic
overflow (`overflow-checks = true`) come to. -/
inductive Failure where
  | error (code : Error)
  | abort
  deriving DecidableEq, Repr

inductive Event where
  | initialized (admin : Address)
  | adminChanged (previous newAdmin : Address)
  | attestorAdded (attestor : Address)
  | attestorRemoved (attestor : Address)
  | attestorRenewed (attestor : Address)
  | attested (subject : Address) (attestationType : Symbol) (attestor : Address)
      (payloadHash : BytesN 32) (expiresAt : UInt64)
  | revoked (subject : Address) (attestationType : Symbol) (revokedBy : Address)
  | attestationRenewed (subject : Address) (attestationType : Symbol)
      (renewedBy : Address)
  | pauseToggled (paused : Bool)
  | defaultMaxAttestationTtlChanged (maxTtlSeconds : UInt64)
  | maxAttestationTtlChanged (attestationType : Symbol) (maxTtlSeconds : UInt64)
  | signersRotated (newThreshold : UInt32)
  deriving DecidableEq, Repr

/-- The pair every attestation, counter and history is keyed by. -/
abbrev Pair : Type := Address × Symbol

structure LedgerInfo where
  timestamp : UInt64
  sequenceNumber : Nat
  minPersistentEntryTtl : Nat

structure Env where
  ledger : LedgerInfo
  auths : Finset Address

structure World where
  admin : Option Address
  multiSigConfig : Option MultiSigConfig
  paused : Option Bool
  attestationCount : Option UInt64
  maxAttestationTtl : Symbol → Option UInt64
  defaultMaxAttestationTtl : Option UInt64
  attestor : LiveMap Address Bool
  attestation : LiveMap Pair Attestation
  attestationSeq : LiveMap Pair UInt64
  attestationHistory : LiveMap (Pair × UInt64) HistoryEntry
  events : List Event

def World.deployed : World where
  admin := none
  multiSigConfig := none
  paused := none
  attestationCount := none
  maxAttestationTtl := fun _ => none
  defaultMaxAttestationTtl := none
  attestor := .empty
  attestation := .empty
  attestationSeq := .empty
  attestationHistory := .empty
  events := []

end AnchorKit.Contract
