import AnchorKit.Base.Machine
import AnchorKit.Sdk.Values
import Mathlib.Data.List.AList
import Mathlib.Data.Rat.Floor

/-!
# The rate limiter of `rateLimiter.ts`

Arithmetic is exact: finite numbers are rationals.  A configuration may also hold the
infinities and `NaN`, which the constructor refuses for the limits and the window but
not for the retention and the prune interval.  The settings that the constructor
accepts are kept apart from the counters that change.

`Session` is a limiter in use: the time of its last call and the requests it has
allowed.
-/

set_option autoImplicit false

namespace AnchorKit.Sdk

open AnchorKit.Base

/-! ## Configuration -/

structure RateLimitConfig where
  perAttestorLimit : Number
  globalLimit : Number
  windowMs : Number
  idleRetentionMs : Option Number
  pruneIntervalCalls : Option Number

structure RateLimiterConfigError where
  message : String
  deriving DecidableEq, Repr

structure Settings where
  perAttestorLimit : ℚ
  globalLimit : ℚ
  windowMs : ℚ
  idleRetentionMs : Number
  pruneIntervalCalls : Number
  perAttestorLimit_pos : 0 < perAttestorLimit
  windowMs_pos : 0 < windowMs
  perAttestorLimit_le : perAttestorLimit ≤ globalLimit

theorem Settings.globalLimit_pos (settings : Settings) : 0 < settings.globalLimit :=
  settings.perAttestorLimit_pos.trans_le settings.perAttestorLimit_le

/-- `!Number.isFinite(number) || number <= 0` throws. -/
def positive (message : String) :
    Number → Except RateLimiterConfigError { value : ℚ // 0 < value }
  | .finite value => if above : 0 < value then .ok ⟨value, above⟩ else .error ⟨message⟩
  | _ => .error ⟨message⟩

def defaultIdleRetentionMultiplier : ℚ := 2

def defaultPruneIntervalCalls : ℚ := 500

def RateLimitConfig.settings (config : RateLimitConfig) :
    Except RateLimiterConfigError Settings := do
  let perAttestorLimit ←
    positive "perAttestorLimit must be a positive number" config.perAttestorLimit
  let globalLimit ← positive "globalLimit must be a positive number" config.globalLimit
  let windowMs ← positive "windowMs must be a positive number" config.windowMs
  if ordered : perAttestorLimit.val ≤ globalLimit.val then
    return {
      perAttestorLimit := perAttestorLimit
      globalLimit := globalLimit
      windowMs := windowMs
      idleRetentionMs := config.idleRetentionMs.getD
        (.finite (windowMs * defaultIdleRetentionMultiplier))
      pruneIntervalCalls := config.pruneIntervalCalls.getD
        (.finite defaultPruneIntervalCalls)
      perAttestorLimit_pos := perAttestorLimit.property
      windowMs_pos := windowMs.property
      perAttestorLimit_le := ordered }
  else throw ⟨"perAttestorLimit cannot exceed globalLimit"⟩

/-! ## Counters -/

structure RateLimitState where
  currentWindowStart : ℚ
  currentCount : ℕ
  previousCount : ℕ
  lastSeenAt : ℚ
  deriving DecidableEq

def alignToWindow (now windowMs : ℚ) : ℚ := ⌊now / windowMs⌋ * windowMs

def createState (now windowMs : ℚ) : RateLimitState where
  currentWindowStart := alignToWindow now windowMs
  currentCount := 0
  previousCount := 0
  lastSeenAt := now

def mathRound (value : ℚ) : ℤ := ⌊value + 1 / 2⌋

def rollWindow (state : RateLimitState) (now windowMs : ℚ) : RateLimitState :=
  let windowStart := alignToWindow now windowMs
  let elapsedWindows := mathRound ((windowStart - state.currentWindowStart) / windowMs)
  if elapsedWindows = 1 then
    { currentWindowStart := windowStart
      currentCount := 0
      previousCount := state.currentCount
      lastSeenAt := now }
  else if elapsedWindows > 1 then
    { currentWindowStart := windowStart
      currentCount := 0
      previousCount := 0
      lastSeenAt := now }
  else { state with lastSeenAt := now }

def estimateCount (state : RateLimitState) (now windowMs : ℚ) : ℚ :=
  let elapsedInCurrent := now - state.currentWindowStart
  let overlap := min 1 (max 0 (1 - elapsedInCurrent / windowMs))
  state.previousCount * overlap + state.currentCount

/-! ## The limiter -/

structure RateLimiter where
  perAttestor : AList fun _ : String => RateLimitState
  global : RateLimitState
  callsSincePrune : ℕ

def RateLimiter.create (config : RateLimitConfig) (now : ℚ) :
    Except RateLimiterConfigError (Settings × RateLimiter) := do
  let settings ← config.settings
  return (settings, {
    perAttestor := ∅
    global := createState now settings.windowMs
    callsSincePrune := 0 })

inductive LimitedBy where
  | attestor
  | global
  deriving DecidableEq, Repr

structure RateLimitStatus where
  allowed : Bool
  remaining : ℤ
  remainingGlobal : ℤ
  retryAfterMs : ℚ
  limitedBy : Option LimitedBy

section Calls

variable (settings : Settings)

def idle (now : ℚ) (state : RateLimitState) : Bool :=
  settings.idleRetentionMs.atMost (now - state.lastSeenAt)

/-- The number of entries removed, and what is left. -/
def RateLimiter.prune (limiter : RateLimiter) (now : ℚ) : ℕ × RateLimiter :=
  (limiter.perAttestor.entries.countP fun entry => idle settings now entry.2,
    { limiter with
      perAttestor := {
        entries := limiter.perAttestor.entries.filter fun entry =>
          !idle settings now entry.2
        nodupKeys := limiter.perAttestor.nodupKeys.sublist List.filter_sublist } })

/-- The opportunistic prune at the head of `checkAndConsume`. -/
def RateLimiter.pruneIfDue (limiter : RateLimiter) (now : ℚ) : RateLimiter :=
  if settings.pruneIntervalCalls.above 0 then
    let callsSincePrune := limiter.callsSincePrune + 1
    if settings.pruneIntervalCalls.atMost callsSincePrune then
      { (limiter.prune settings now).2 with callsSincePrune := 0 }
    else { limiter with callsSincePrune := callsSincePrune }
  else limiter

def RateLimitState.consume (state : RateLimitState) (allowed : Bool) : RateLimitState :=
  if allowed then { state with currentCount := state.currentCount + 1 } else state

def RateLimiter.checkAndConsume (limiter : RateLimiter) (attestorId : String) (now : ℚ) :
    RateLimitStatus × RateLimiter :=
  let limiter := limiter.pruneIfDue settings now
  let found := (limiter.perAttestor.lookup attestorId).getD
    (createState now settings.windowMs)
  let attestorState := rollWindow found now settings.windowMs
  let global := rollWindow limiter.global now settings.windowMs
  let attestorEstimate := estimateCount attestorState now settings.windowMs
  let globalEstimate := estimateCount global now settings.windowMs
  let attestorOk := decide (attestorEstimate + 1 ≤ settings.perAttestorLimit)
  let globalOk := decide (globalEstimate + 1 ≤ settings.globalLimit)
  let allowed := attestorOk && globalOk
  let consumedAttestorEstimate := if allowed then attestorEstimate + 1 else attestorEstimate
  let consumedGlobalEstimate := if allowed then globalEstimate + 1 else globalEstimate
  let elapsedInCurrent := now - alignToWindow now settings.windowMs
  ({ allowed := allowed
     remaining := max 0 ⌊settings.perAttestorLimit - consumedAttestorEstimate⌋
     remainingGlobal := max 0 ⌊settings.globalLimit - consumedGlobalEstimate⌋
     retryAfterMs := if allowed then 0 else max 0 (settings.windowMs - elapsedInCurrent)
     limitedBy := if allowed then none
       else if attestorOk then some .global else some .attestor },
   { limiter with
     perAttestor := limiter.perAttestor.insert attestorId (attestorState.consume allowed)
     global := global.consume allowed })

end Calls

/-! ## Runs -/

inductive Request where
  | checkAndConsume (attestorId : String) (now : ℚ)
  | prune (now : ℚ)

def Request.now : Request → ℚ
  | .checkAndConsume _ now => now
  | .prune now => now

/-- A limiter in use, with the requests it has allowed, the last one first. -/
structure Session where
  limiter : RateLimiter
  allowed : List (String × ℚ)
  clock : ℚ

def Session.step (settings : Settings) (session : Session) : Request → Session
  | .checkAndConsume attestorId now =>
      let (status, limiter) := session.limiter.checkAndConsume settings attestorId now
      { limiter := limiter
        allowed := if status.allowed then (attestorId, now) :: session.allowed
          else session.allowed
        clock := now }
  | .prune now =>
      { session with
        limiter := (session.limiter.prune settings now).2
        clock := now }

def Session.reached (settings : Settings) (limiter : RateLimiter) (start : ℚ)
    (requests : List Request) : Session :=
  Machine.run (Session.step settings) ⟨limiter, [], start⟩ requests

end AnchorKit.Sdk
