import AnchorKit.Base.Hex

/-!
# Signature verification, of `verification.rs`

The HMAC of a body under a secret is any function into 32 bytes: nothing is used of it
but its length.  A header is decoded from hexadecimal digits of either case and
compared with all 32 bytes.
-/

set_option autoImplicit false

namespace AnchorKit.Webhook

open AnchorKit.Base
open AnchorKit.Base.Ascii (toAsciiLowercase utf8Bytes)
open AnchorKit.Base.Hex (FromHexError HexDigit)

inductive SignatureError where
  | missingSignatureHeader
  | malformedSignatureHeader (reason : String)
  | invalidSignature
  deriving DecidableEq, Repr

/-- How `char` is debug-printed, for a character that is one byte. -/
def debugByte (c : UInt8) : String :=
  let escaped :=
    if c = 0 then "\\0"
    else if c = 9 then "\\t"
    else if c = 10 then "\\n"
    else if c = 13 then "\\r"
    else if c = 39 then "\\'"
    else if c = 92 then "\\\\"
    else if c < 32 ∨ 127 ≤ c ∧ c ≤ 160 ∨ c = 173 then
      "\\u\x7b" ++ String.ofList (Nat.toDigits 16 c.toNat) ++ "\x7d"
    else String.singleton (Char.ofNat c.toNat)
  "'" ++ escaped ++ "'"

def hexErrorText : FromHexError → String
  | .invalidHexCharacter c index =>
      "Invalid character " ++ debugByte c ++ " at position " ++ ToString.toString index
  | .oddLength => "Odd number of digits"

section Signature

variable (hmacSha256 : List UInt8 → List UInt8 → Vector UInt8 32)

def computeSignature (secret body : List UInt8) : String :=
  Hex.encode (hmacSha256 secret body).toList

/-- `verify_slice`: a tag of another length is refused before it is compared. -/
def verifySlice (mac : Vector UInt8 32) (tag : List UInt8) : Bool :=
  tag.length == 32 && tag == mac.toList

def verifySignature (secret body : List UInt8) (signatureHex : String) :
    Except SignatureError Unit :=
  match Hex.decode signatureHex with
  | .error error =>
      .error (.malformedSignatureHeader ("not valid hex: " ++ hexErrorText error))
  | .ok expectedBytes =>
      if verifySlice (hmacSha256 secret body) expectedBytes then .ok ()
      else .error .invalidSignature

structure WebhookVerifier where
  secret : List UInt8

def WebhookVerifier.verify (verifier : WebhookVerifier) (body : List UInt8)
    (signatureHex : String) : Except SignatureError Unit :=
  verifySignature hmacSha256 verifier.secret body signatureHex

def WebhookVerifier.verifyOptionalHeader (verifier : WebhookVerifier) (body : List UInt8) :
    Option String → Except SignatureError Unit
  | none => .error .missingSignatureHeader
  | some signature => verifier.verify hmacSha256 body signature

theorem verifySlice_iff (mac : Vector UInt8 32) (tag : List UInt8) :
    verifySlice mac tag = true ↔ tag = mac.toList := by
  unfold verifySlice
  rw [Bool.and_eq_true, beq_iff_eq, beq_iff_eq]
  constructor
  · intro both
    exact both.2
  · intro same
    refine ⟨?_, same⟩
    rw [same]
    exact mac.length_toList

theorem verifySignature_ok_iff (secret body : List UInt8) (signatureHex : String) :
    verifySignature hmacSha256 secret body signatureHex = .ok () ↔
      Hex.decode signatureHex = .ok (hmacSha256 secret body).toList := by
  unfold verifySignature
  cases Hex.decode signatureHex with
  | error error => simp
  | ok expectedBytes =>
      dsimp only
      rw [Except.ok.injEq, ← verifySlice_iff]
      split
      · rename_i matching
        exact ⟨fun _ => matching, fun _ => rfl⟩
      · rename_i different
        exact ⟨nofun, fun matching => absurd matching different⟩

theorem verifySignature_malformed_iff (secret body : List UInt8) (signatureHex : String) :
    (∃ reason, verifySignature hmacSha256 secret body signatureHex =
        .error (.malformedSignatureHeader reason)) ↔
      ∃ error, Hex.decode signatureHex = .error error := by
  unfold verifySignature
  cases Hex.decode signatureHex with
  | error error => simp
  | ok expectedBytes =>
      dsimp only
      split
      · simp
      · simp

theorem verifySignature_invalid_iff (secret body : List UInt8) (signatureHex : String) :
    verifySignature hmacSha256 secret body signatureHex = .error .invalidSignature ↔
      ¬ verifySignature hmacSha256 secret body signatureHex = .ok () ∧
        ¬ ∃ reason, verifySignature hmacSha256 secret body signatureHex =
          .error (.malformedSignatureHeader reason) := by
  unfold verifySignature
  cases Hex.decode signatureHex with
  | error error => simp
  | ok expectedBytes =>
      dsimp only
      split
      · simp
      · simp

/-- A header is accepted if it spells the signature in digits of either case, is
malformed if it has an odd length or a character that is no digit, and is an invalid
signature in every other case. -/
theorem verify_signature_accepts_exactly_genuine (secret body : List UInt8) (header : String) :
    (verifySignature hmacSha256 secret body header = .ok () ↔
        toAsciiLowercase header = computeSignature hmacSha256 secret body) ∧
      ((∃ reason, verifySignature hmacSha256 secret body header =
          .error (.malformedSignatureHeader reason)) ↔
        (utf8Bytes header).length % 2 = 1 ∨ ∃ c ∈ header.toList, ¬ HexDigit c) ∧
      (verifySignature hmacSha256 secret body header = .error .invalidSignature ↔
        toAsciiLowercase header ≠ computeSignature hmacSha256 secret body ∧
          (utf8Bytes header).length % 2 = 0 ∧ ∀ c ∈ header.toList, HexDigit c) := by
  have accepted := verifySignature_ok_iff hmacSha256 secret body header
  rw [Hex.decode_eq_ok_iff] at accepted
  have malformed := verifySignature_malformed_iff hmacSha256 secret body header
  rw [Hex.decode_fails_iff] at malformed
  refine ⟨accepted, malformed, ?_⟩
  have wellFormed : (utf8Bytes header).length % 2 = 0 ∧ (∀ c ∈ header.toList, HexDigit c) ↔
      ¬ ((utf8Bytes header).length % 2 = 1 ∨ ∃ c ∈ header.toList, ¬ HexDigit c) := by
    rw [not_or, Nat.mod_two_not_eq_one]
    simp only [not_exists, not_and, not_not]
  rw [wellFormed, ← malformed, computeSignature, ne_eq, ← accepted]
  exact verifySignature_invalid_iff hmacSha256 secret body header

end Signature

end AnchorKit.Webhook
