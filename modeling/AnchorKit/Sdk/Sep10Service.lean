import AnchorKit.Sdk.Values

/-!
# The SEP-10 service, of `sep10.ts`

A request to the anchor ends with a rejection of `fetch`, when the network or the timeout
ends it, or with a response whose body may not be JSON.  The two calls of the service make
a value or an exception of it.  `return response.json()` is not awaited inside the `try`
block, so that a body that is not JSON rejects past the `catch`.

What the language does with a value of another type than the one expected is a parameter.
-/

set_option autoImplicit false

namespace AnchorKit.Sdk.Sep10

/-- Conversions, which throw on some objects, and whether React can draw an array. -/
structure Runtime where
  toText : Json → Option String
  toNumber : Value → Option Number
  draws : List Json → Bool

inductive Fetched where
  | rejected
  | response (ok : Bool) (statusText : String) (body : Option Json)

inductive Thrown where
  | sep10ServiceError (code message : String)
  | other
  deriving DecidableEq, Repr

def requestChallenge : Fetched → Except Thrown Json
  | .rejected =>
      .error (.sep10ServiceError "CHALLENGE_REQUEST_ERROR" "Failed to request challenge")
  | .response false statusText _ =>
      .error (.sep10ServiceError "CHALLENGE_REQUEST_FAILED"
        ("Challenge request failed: " ++ statusText))
  | .response true _ none => .error .other
  | .response true _ (some body) => .ok body

def verificationError : Thrown :=
  .sep10ServiceError "SIGNATURE_VERIFICATION_ERROR" "Failed to verify signature"

/-- `errorData.error || …` as the message of the error.  Reading a property of `null` and
a value without a text throw inside the `try` block. -/
def verificationFailed (runtime : Runtime) (statusText : String) : Json → Thrown
  | .null => verificationError
  | errorData =>
      match errorData.get "error" with
      | some message =>
          if message.truthy then
            match runtime.toText message with
            | some text => .sep10ServiceError "SIGNATURE_VERIFICATION_FAILED" text
            | none => verificationError
          else .sep10ServiceError "SIGNATURE_VERIFICATION_FAILED"
            ("Signature verification failed: " ++ statusText)
      | none => .sep10ServiceError "SIGNATURE_VERIFICATION_FAILED"
          ("Signature verification failed: " ++ statusText)

def submitSignedChallenge (runtime : Runtime) : Fetched → Except Thrown Json
  | .rejected => .error verificationError
  | .response false statusText body =>
      .error (verificationFailed runtime statusText (body.getD (.object [])))
  | .response true _ none => .error .other
  | .response true _ (some body) => .ok body

/-! ## Masking -/

/-- The UTF-16 code units of a text, which `length` counts and `slice` cuts. -/
def codeUnits (text : String) : List UInt16 :=
  text.toList.flatMap fun char =>
    if char.toNat < 0x10000 then [UInt16.ofNat char.toNat]
    else
      [UInt16.ofNat (0xD800 + (char.toNat - 0x10000) / 0x400),
        UInt16.ofNat (0xDC00 + (char.toNat - 0x10000) % 0x400)]

/-- `value.slice(0, visible)` and `value.slice(-visible)`, for the `visible` of a length of
twenty at least. -/
def ends {α : Type} (items : List α) : List α × List α :=
  let visible := (items.length + 3) / 4
  (items.take visible, items.drop (items.length - visible))

/-- `maskToken`, which throws where a truthy value has no `slice`. -/
def maskToken (runtime : Runtime) : Json → Option (List UInt16)
  | .string token =>
      let units := codeUnits token
      if units.length < 20 then some (codeUnits "***")
      else some ((ends units).1 ++ codeUnits "..." ++ (ends units).2)
  | .array items =>
      if items.length < 20 then some (codeUnits "***")
      else do
        let first ← runtime.toText (.array (ends items).1)
        let last ← runtime.toText (.array (ends items).2)
        return codeUnits (first ++ "..." ++ last)
  | token =>
      match runtime.toNumber (token.get "length") with
      | some length => if length.atLeast 20 || length = .nan then none else some (codeUnits "***")
      | none => none

end AnchorKit.Sdk.Sep10
