import AnchorKit.Sdk.RateLimiterInvisible

/-!
# The hints in a rate-limit status

`remaining` and `remainingGlobal` are floors of the room that the estimates leave, and
an allowed request takes one unit of it, so they say exactly how many more requests at
the same time are allowed.

`retryAfterMs` leads to the start of the next window.  The requests of the window
before still have their full weight there, so the room at that time is decided by the
counts of the window in which the request was denied, not by the end of that window.
-/

set_option autoImplicit false

namespace AnchorKit.Sdk

open AnchorKit.Base
open AnchorKit.Base.SlidingWindow

/-! ## Counters brought to a time -/

/-- A roll at `now` finds nothing left to do. -/
structure Rolled (width now : ℚ) (state : RateLimitState) : Prop where
  seen : state.lastSeenAt = now
  current : mathRound ((alignToWindow now width - state.currentWindowStart) / width) ≤ 0

section Rolled

variable {width now : ℚ} {state : RateLimitState}

theorem Rolled.rollWindow_eq (rolled : Rolled width now state) :
    rollWindow state now width = state := by
  have current := rolled.current
  unfold rollWindow
  dsimp only
  rw [if_neg (by omega), if_neg (by omega), ← rolled.seen]

theorem rollWindow_rolled (state : RateLimitState) (now width : ℚ) :
    Rolled width now (rollWindow state now width) := by
  refine ⟨rollWindow_lastSeenAt state now width, ?_⟩
  have settled : mathRound ((alignToWindow now width - alignToWindow now width) / width) ≤ 0 := by
    rw [sub_self, zero_div]
    exact (mathRound_intCast 0).le
  unfold rollWindow
  dsimp only
  split
  · exact settled
  · split
    · exact settled
    · dsimp only
      omega

theorem Rolled.consume (rolled : Rolled width now state) (allowed : Bool) :
    Rolled width now (state.consume allowed) := by
  cases allowed with
  | false => exact rolled
  | true => exact ⟨rolled.seen, rolled.current⟩

theorem estimateCount_consume (state : RateLimitState) (allowed : Bool) (now width : ℚ) :
    estimateCount (state.consume allowed) now width =
      estimateCount state now width + if allowed then 1 else 0 := by
  cases allowed with
  | false => simp [RateLimitState.consume]
  | true =>
      simp only [RateLimitState.consume, estimateCount, if_true, Nat.cast_add, Nat.cast_one]
      ring

end Rolled

/-! ## Pruning a key -/

def RateLimiter.pruneDue (settings : Settings) (limiter : RateLimiter) : Bool :=
  settings.pruneIntervalCalls.above 0 &&
    settings.pruneIntervalCalls.atMost (limiter.callsSincePrune + 1 : ℕ)

theorem pruneIfDue_perAttestor (settings : Settings) (limiter : RateLimiter) (now : ℚ) :
    (limiter.pruneIfDue settings now).perAttestor =
      if limiter.pruneDue settings then (limiter.prune settings now).2.perAttestor
      else limiter.perAttestor := by
  unfold RateLimiter.pruneIfDue RateLimiter.pruneDue
  cases settings.pruneIntervalCalls.above 0 with
  | false => rfl
  | true =>
      simp only [if_true, Bool.true_and]
      cases settings.pruneIntervalCalls.atMost (limiter.callsSincePrune + 1 : ℕ) with
      | false => rfl
      | true => rfl

theorem attestorCounters_of_lookup {settings : Settings} {limiter : RateLimiter}
    {attestorId : String} {state : RateLimitState}
    (found : limiter.perAttestor.lookup attestorId = some state) (now : ℚ) :
    attestorCounters settings limiter attestorId now =
      if limiter.pruneDue settings && idle settings now state then
        createState now settings.windowMs
      else rollWindow state now settings.windowMs := by
  unfold attestorCounters
  rw [pruneIfDue_perAttestor]
  cases limiter.pruneDue settings with
  | false =>
      simp only [Bool.false_and, Bool.false_eq_true, if_false, found, Option.getD_some]
  | true =>
      rw [if_pos rfl, lookup_prune, found]
      cases old : idle settings now state with
      | false => simp [Option.filter, old]
      | true =>
          simp only [Option.filter, old, Bool.not_true, Bool.false_eq_true, if_false,
            Bool.and_self, if_true]
          exact met_none settings.windowMs_pos now

/-! ## What remains -/

/-- How many more requests the two counters leave room for, negative if overdrawn. -/
def headroom (settings : Settings) (attestor global : RateLimitState) (now : ℚ) : ℤ :=
  min ⌊settings.perAttestorLimit - estimateCount attestor now settings.windowMs⌋
    ⌊settings.globalLimit - estimateCount global now settings.windowMs⌋

section Headroom

variable (settings : Settings) (attestor global : RateLimitState) (now : ℚ)

theorem one_le_floor_sub_iff (limit estimate : ℚ) :
    1 ≤ ⌊limit - estimate⌋ ↔ estimate + 1 ≤ limit := by
  rw [Int.le_floor, Int.cast_one, le_sub_iff_add_le']

theorem statusOf_allowed_iff :
    (statusOf settings attestor global now).allowed = true ↔
      1 ≤ headroom settings attestor global now := by
  simp only [statusOf, statusFrom, headroom, Bool.and_eq_true, decide_eq_true_eq, le_min_iff,
    one_le_floor_sub_iff]

theorem headroom_consume (allowed : Bool) :
    headroom settings (attestor.consume allowed) (global.consume allowed) now =
      headroom settings attestor global now - if allowed then 1 else 0 := by
  unfold headroom
  rw [estimateCount_consume, estimateCount_consume]
  cases allowed with
  | false => simp
  | true =>
      simp only [if_true, ← sub_sub, Int.floor_sub_one]
      omega

theorem statusOf_remaining :
    min (statusOf settings attestor global now).remaining
        (statusOf settings attestor global now).remainingGlobal =
      max 0 (headroom settings
        (attestor.consume (statusOf settings attestor global now).allowed)
        (global.consume (statusOf settings attestor global now).allowed) now) := by
  unfold headroom
  rw [estimateCount_consume, estimateCount_consume, max_min_distrib_left]
  cases granted : (statusOf settings attestor global now).allowed with
  | false =>
      simp only [statusOf, statusFrom] at granted
      simp only [statusOf, statusFrom, granted, Bool.false_eq_true, if_false, add_zero]
  | true =>
      simp only [statusOf, statusFrom] at granted
      simp only [statusOf, statusFrom, granted, if_true]

end Headroom

structure UpToDate (settings : Settings) (limiter : RateLimiter) (attestorId : String)
    (now : ℚ) (attestor global : RateLimitState) : Prop where
  lookup : limiter.perAttestor.lookup attestorId = some attestor
  total : limiter.global = global
  attestorRolled : Rolled settings.windowMs now attestor
  globalRolled : Rolled settings.windowMs now global

theorem checkAndConsume_upToDate (settings : Settings) (limiter : RateLimiter)
    (attestorId : String) (now : ℚ) :
    UpToDate settings (limiter.checkAndConsume settings attestorId now).2 attestorId now
      ((attestorCounters settings limiter attestorId now).consume
        (limiter.checkAndConsume settings attestorId now).1.allowed)
      ((globalCounters settings limiter now).consume
        (limiter.checkAndConsume settings attestorId now).1.allowed) where
  lookup := checkAndConsume_lookup_self settings limiter attestorId now
  total := checkAndConsume_global settings limiter attestorId now
  attestorRolled := (rollWindow_rolled _ _ _).consume _
  globalRolled := (rollWindow_rolled _ _ _).consume _

/-- Whether each of `count` calls by one attestor at one time is allowed. -/
def followUps (settings : Settings) (attestorId : String) (now : ℚ) :
    ℕ → RateLimiter → List Bool
  | 0, _ => []
  | count + 1, limiter =>
      let (status, limiter) := limiter.checkAndConsume settings attestorId now
      status.allowed :: followUps settings attestorId now count limiter

section FollowUps

variable {settings : Settings} {limiter : RateLimiter} {attestorId : String} {now : ℚ}
  {attestor global : RateLimitState}

theorem UpToDate.attestorCounters_eq
    (current : UpToDate settings limiter attestorId now attestor global)
    (retains : settings.idleRetentionMs.atLeast (2 * settings.windowMs) = true) :
    attestorCounters settings limiter attestorId now = attestor := by
  have busy : idle settings now attestor = false := by
    by_contra old
    have apart := Number.le_of_atLeast_of_atMost retains (Bool.not_eq_false _ ▸ old)
    rw [current.attestorRolled.seen, sub_self] at apart
    have positive := settings.windowMs_pos
    linarith
  rw [attestorCounters_of_lookup current.lookup, busy, Bool.and_false,
    if_neg Bool.false_ne_true]
  exact current.attestorRolled.rollWindow_eq

theorem UpToDate.globalCounters_eq
    (current : UpToDate settings limiter attestorId now attestor global) :
    globalCounters settings limiter now = global := by
  unfold globalCounters
  rw [current.total]
  exact current.globalRolled.rollWindow_eq

theorem UpToDate.followUps
    (current : UpToDate settings limiter attestorId now attestor global)
    (retains : settings.idleRetentionMs.atLeast (2 * settings.windowMs) = true) (count : ℕ) :
    followUps settings attestorId now count limiter =
      List.replicate (min count (headroom settings attestor global now).toNat) true ++
        List.replicate (count - (headroom settings attestor global now).toNat) false := by
  induction count generalizing limiter attestor global with
  | zero => simp [Sdk.followUps]
  | succ count ih =>
      have next := checkAndConsume_upToDate settings limiter attestorId now
      have status := checkAndConsume_status settings limiter attestorId now
      rw [current.attestorCounters_eq retains, current.globalCounters_eq] at next status
      have later := ih next
      have granted := statusOf_allowed_iff settings attestor global now
      rw [headroom_consume] at later
      rw [← status] at granted
      simp only [Sdk.followUps, later]
      cases allowed : (limiter.checkAndConsume settings attestorId now).1.allowed with
      | true =>
          have room := granted.mp allowed
          obtain ⟨units, counted⟩ :
              ∃ units : ℕ, headroom settings attestor global now = units + 1 :=
            ⟨(headroom settings attestor global now - 1).toNat, by omega⟩
          have before : ((units : ℤ) + 1).toNat = units + 1 := by omega
          rw [counted, if_pos rfl, add_sub_cancel_right, Int.toNat_natCast, before,
            Nat.add_min_add_right, Nat.add_sub_add_right, List.replicate_succ,
            List.cons_append]
      | false =>
          have full : (headroom settings attestor global now).toNat = 0 := by
            rw [allowed] at granted
            have none := granted.not.mp Bool.false_ne_true
            omega
          simp only [Bool.false_eq_true, if_false, sub_zero, full, Nat.min_zero, Nat.sub_zero,
            List.replicate_zero, List.nil_append, List.replicate_succ]

end FollowUps

/-- After a call in any state of the limiter, of the calls by the same attestor at the
same time exactly as many are allowed as the status said were left. -/
theorem remaining_exact (settings : Settings) (limiter : RateLimiter)
    (retains : settings.idleRetentionMs.atLeast (2 * settings.windowMs) = true)
    (attestorId : String) (now : ℚ) (count : ℕ) :
    let answered := limiter.checkAndConsume settings attestorId now
    let left := (min answered.1.remaining answered.1.remainingGlobal).toNat
    followUps settings attestorId now count answered.2 =
      List.replicate (min count left) true ++ List.replicate (count - left) false := by
  intro answered left
  have counted : left = (headroom settings
      ((attestorCounters settings limiter attestorId now).consume answered.1.allowed)
      ((globalCounters settings limiter now).consume answered.1.allowed) now).toNat := by
    change (min answered.1.remaining answered.1.remainingGlobal).toNat = _
    rw [show answered.1 = _ from checkAndConsume_status settings limiter attestorId now,
      statusOf_remaining]
    omega
  rw [counted]
  exact (checkAndConsume_upToDate settings limiter attestorId now).followUps retains count

/-- A fifth into the window, four fifths of a request by another attestor still count. -/
def sampleAnswer : RateLimitStatus × RateLimiter :=
  (Session.reached sampleSettings sampleLimiter 0 [.checkAndConsume "b" 9]).limiter.checkAndConsume
    sampleSettings "a" 12

theorem sampleAnswer_remaining_exact :
    (sampleAnswer.1.remaining, sampleAnswer.1.remainingGlobal) = (1, 1) ∧
      followUps sampleSettings "a" 12 3 sampleAnswer.2 = [true, false, false] := by
  have left : (min sampleAnswer.1.remaining sampleAnswer.1.remainingGlobal).toNat = 1 := by
    decide +kernel
  refine ⟨by decide +kernel, ?_⟩
  refine (remaining_exact sampleSettings _ (by decide +kernel) "a" 12 3).trans ?_
  change List.replicate (min 3 (min sampleAnswer.1.remaining
      sampleAnswer.1.remainingGlobal).toNat) true ++
    List.replicate (3 - (min sampleAnswer.1.remaining
      sampleAnswer.1.remainingGlobal).toNat) false = _
  rw [left]
  rfl

/-! ## Every counter starts at a window -/

structure AllAligned (width : ℚ) (limiter : RateLimiter) : Prop where
  global : Aligned width limiter.global
  attestor : ∀ attestorId, ∀ state ∈ limiter.perAttestor.lookup attestorId,
    Aligned width state

section AllAligned

variable {settings : Settings} {limiter : RateLimiter} {width : ℚ}

theorem AllAligned.prune (aligned : AllAligned width limiter) (settings : Settings) (now : ℚ) :
    AllAligned width (limiter.prune settings now).2 := by
  refine ⟨aligned.global, ?_⟩
  intro attestorId state member
  rw [lookup_prune] at member
  exact aligned.attestor attestorId state (Option.filter_eq_some_iff.mp member).1

theorem AllAligned.pruneIfDue (aligned : AllAligned width limiter) (settings : Settings)
    (now : ℚ) : AllAligned width (limiter.pruneIfDue settings now) := by
  refine ⟨?_, ?_⟩
  · rw [pruneIfDue_global]
    exact aligned.global
  · rw [pruneIfDue_perAttestor]
    split
    · exact (aligned.prune settings now).attestor
    · exact aligned.attestor

theorem AllAligned.attestorCounters (aligned : AllAligned settings.windowMs limiter)
    (attestorId : String) (now : ℚ) :
    Aligned settings.windowMs (attestorCounters settings limiter attestorId now) := by
  refine Aligned.rollWindow ?_ settings.windowMs_pos now
  cases found : (limiter.pruneIfDue settings now).perAttestor.lookup attestorId with
  | none => exact createState_aligned now settings.windowMs
  | some state => exact (aligned.pruneIfDue settings now).attestor attestorId state found

theorem AllAligned.checkAndConsume (aligned : AllAligned settings.windowMs limiter)
    (attestorId : String) (now : ℚ) :
    AllAligned settings.windowMs (limiter.checkAndConsume settings attestorId now).2 := by
  constructor
  · rw [checkAndConsume_global]
    exact (aligned.global.rollWindow settings.windowMs_pos now).consume _
  · intro other state member
    by_cases own : other = attestorId
    · subst other
      rw [checkAndConsume_lookup_self] at member
      cases Option.some.inj member
      exact (aligned.attestorCounters attestorId now).consume _
    · rw [checkAndConsume_lookup_ne settings limiter attestorId now own] at member
      exact (aligned.pruneIfDue settings now).attestor other state member

theorem create_allAligned {config : RateLimitConfig} {start : ℚ}
    (created : RateLimiter.create config start = .ok (settings, limiter)) :
    AllAligned settings.windowMs limiter := by
  obtain ⟨_, rfl⟩ := create_ok created
  refine ⟨createState_aligned start settings.windowMs, ?_⟩
  intro attestorId state member
  cases member

/-- Requests may come with any times, earlier ones after later ones as well. -/
theorem AllAligned.reached (aligned : AllAligned settings.windowMs limiter) (start : ℚ)
    (requests : List Request) :
    AllAligned settings.windowMs (Session.reached settings limiter start requests).limiter := by
  refine Machine.run_invariant (Session.step settings)
    (fun session => AllAligned settings.windowMs session.limiter) ?_ requests _ aligned
  intro session request kept
  cases request with
  | checkAndConsume attestorId now => exact kept.checkAndConsume attestorId now
  | prune now => exact kept.prune settings now

end AllAligned

/-! ## When to retry -/

/-- What of the counters still counts in full at the start of the window after `now`.
Counters of a window that lies ahead, after the clock was set back, do not roll there. -/
def RateLimitState.carried (state : RateLimitState) (now : ℚ) : ℕ :=
  if state.currentWindowStart ≤ now then state.currentCount
  else state.previousCount + state.currentCount

def nextWindow (now windowMs : ℚ) : ℚ := alignToWindow now windowMs + windowMs

section Retry

variable {width now : ℚ} {state : RateLimitState}

theorem nextWindow_eq (now width : ℚ) :
    nextWindow now width = ((index width now + 1 : ℤ) : ℚ) * width := by
  unfold nextWindow alignToWindow index
  push_cast
  ring

theorem lt_nextWindow (positive : 0 < width) (now : ℚ) : now < nextWindow now width := by
  have inside := ((index_eq_iff positive now (index width now)).mp rfl).2
  rw [nextWindow_eq]
  push_cast
  exact inside

theorem index_nextWindow (positive : 0 < width) (now : ℚ) :
    index width (nextWindow now width) = index width now + 1 := by
  rw [index_eq_iff positive, nextWindow_eq]
  refine ⟨le_rfl, ?_⟩
  push_cast
  linarith

theorem Aligned.rolled (aligned : Aligned width state) (positive : 0 < width) (now : ℚ) :
    ∃ number : ℤ, (Sdk.rollWindow state now width).currentWindowStart = number * width ∧
      index width now ≤ number := by
  obtain ⟨number, start⟩ := aligned
  rw [rollWindow_eq positive start]
  by_cases ahead : index width now ≤ number
  · rw [if_pos ahead]
    exact ⟨number, start, ahead⟩
  · rw [if_neg ahead]
    exact ⟨index width now, rfl, le_rfl⟩

theorem estimateCount_of_le (positive : 0 < width) (early : now ≤ state.currentWindowStart) :
    estimateCount state now width = state.previousCount + state.currentCount := by
  have elapsed : (now - state.currentWindowStart) / width ≤ 0 :=
    div_nonpos_of_nonpos_of_nonneg (by linarith) positive.le
  unfold estimateCount
  dsimp only
  rw [max_eq_right (by linarith), min_eq_left (by linarith), mul_one]

theorem estimateCount_nextWindow (positive : 0 < width) {number : ℤ}
    (start : state.currentWindowStart = number * width) (rolled : index width now ≤ number) :
    estimateCount (rollWindow state (nextWindow now width) width) (nextWindow now width) width =
      state.carried now := by
  have following := index_nextWindow positive now
  have bounds := (index_eq_iff positive now (index width now)).mp rfl
  rw [rollWindow_eq positive start]
  by_cases same : index width now = number
  · -- the counters of this window become the previous ones
    have begun : state.currentWindowStart ≤ now := by
      rw [start, ← same]
      exact bounds.1
    rw [if_neg (by omega), if_pos (by omega), following, ← nextWindow_eq,
      estimateCount_of_le positive le_rfl, RateLimitState.carried, if_pos begun]
    simp
  · have ahead : nextWindow now width ≤ state.currentWindowStart := by
      rw [nextWindow_eq, start]
      exact mul_le_mul_of_nonneg_right (Int.cast_le.mpr (by omega)) positive.le
    have unbegun : ¬ state.currentWindowStart ≤ now :=
      not_le.mpr ((lt_nextWindow positive now).trans_le ahead)
    rw [if_pos (by omega), RateLimitState.carried, if_neg unbegun, Nat.cast_add]
    exact estimateCount_of_le positive ahead

end Retry

/-- The call at the hinted time prunes the attestor's counters first. -/
def forgotten (settings : Settings) (limiter : RateLimiter) (now : ℚ) : Bool :=
  (limiter.pruneIfDue settings now).pruneDue settings &&
    settings.idleRetentionMs.atMost (nextWindow now settings.windowMs - now)

/-- The counts of the window in which a request is denied leave room for one more. -/
def LeavesRoom (settings : Settings) (limiter : RateLimiter) (attestorId : String)
    (now : ℚ) : Prop :=
  (forgotten settings limiter now = true ∨
      ((attestorCounters settings limiter attestorId now).carried now : ℚ) + 1 ≤
        settings.perAttestorLimit) ∧
    ((globalCounters settings limiter now).carried now : ℚ) + 1 ≤ settings.globalLimit

section Retry

variable {settings : Settings} {limiter : RateLimiter} {attestorId : String} {now : ℚ}

theorem retryAfterMs_eq
    (denied : (limiter.checkAndConsume settings attestorId now).1.allowed = false) :
    now + (limiter.checkAndConsume settings attestorId now).1.retryAfterMs =
      nextWindow now settings.windowMs := by
  rw [checkAndConsume_status] at denied ⊢
  have later := lt_nextWindow settings.windowMs_pos now
  unfold nextWindow at later ⊢
  simp only [statusOf, statusFrom] at denied
  simp only [statusOf, statusFrom, denied, Bool.false_eq_true, if_false]
  rw [max_eq_right (by linarith)]
  ring

theorem retry_globalCounters (aligned : AllAligned settings.windowMs limiter)
    (denied : (limiter.checkAndConsume settings attestorId now).1.allowed = false) :
    estimateCount (globalCounters settings (limiter.checkAndConsume settings attestorId now).2
        (nextWindow now settings.windowMs)) (nextWindow now settings.windowMs)
        settings.windowMs =
      (globalCounters settings limiter now).carried now := by
  have positive := settings.windowMs_pos
  obtain ⟨number, start, rolled⟩ := aligned.global.rolled positive now
  have kept := checkAndConsume_global settings limiter attestorId now
  rw [denied] at kept
  unfold globalCounters at kept ⊢
  rw [kept]
  exact estimateCount_nextWindow positive start rolled

theorem retry_attestorCounters (aligned : AllAligned settings.windowMs limiter)
    (denied : (limiter.checkAndConsume settings attestorId now).1.allowed = false) :
    estimateCount (attestorCounters settings
        (limiter.checkAndConsume settings attestorId now).2 attestorId
        (nextWindow now settings.windowMs)) (nextWindow now settings.windowMs)
        settings.windowMs =
      if forgotten settings limiter now then 0
      else ((attestorCounters settings limiter attestorId now).carried now : ℚ) := by
  have positive := settings.windowMs_pos
  have kept := checkAndConsume_lookup_self settings limiter attestorId now
  rw [denied] at kept
  have seen : (attestorCounters settings limiter attestorId now).lastSeenAt = now :=
    rollWindow_lastSeenAt _ _ _
  have dropped : ((limiter.checkAndConsume settings attestorId now).2.pruneDue settings &&
      idle settings (nextWindow now settings.windowMs)
        (attestorCounters settings limiter attestorId now)) =
      forgotten settings limiter now := by
    unfold idle forgotten
    rw [seen]
    rfl
  rw [attestorCounters_of_lookup kept]
  simp only [RateLimitState.consume, Bool.false_eq_true, if_false]
  rw [dropped]
  cases forgotten settings limiter now with
  | true => simp [estimateCount, createState]
  | false =>
      rw [if_neg Bool.false_ne_true, if_neg Bool.false_ne_true]
      have settled : rollWindow (attestorCounters settings limiter attestorId now) now
          settings.windowMs = attestorCounters settings limiter attestorId now :=
        (rollWindow_rolled _ now settings.windowMs).rollWindow_eq
      obtain ⟨number, start, rolled⟩ :=
        (aligned.attestorCounters attestorId now).rolled positive now
      rw [settled] at start
      exact estimateCount_nextWindow positive start rolled

end Retry

/-- A denied request that is made again at the hinted time, with no other in between, is
allowed exactly if the counts of the window it was denied in leave room. -/
theorem retry_allowed_iff_leavesRoom (config : RateLimitConfig) (start : ℚ)
    (settings : Settings) (limiter : RateLimiter)
    (created : RateLimiter.create config start = .ok (settings, limiter))
    (atLeastOne : 1 ≤ settings.perAttestorLimit) (requests : List Request)
    (attestorId : String) (now : ℚ)
    (denied : ((Session.reached settings limiter start requests).limiter.checkAndConsume
      settings attestorId now).1.allowed = false) :
    let reached := (Session.reached settings limiter start requests).limiter
    let answered := reached.checkAndConsume settings attestorId now
    (answered.2.checkAndConsume settings attestorId
        (now + answered.1.retryAfterMs)).1.allowed = true ↔
      LeavesRoom settings reached attestorId now := by
  intro reached answered
  have aligned : AllAligned settings.windowMs reached :=
    (create_allAligned created).reached start requests
  rw [checkAndConsume_allowed_iff, show now + answered.1.retryAfterMs = _ from
    retryAfterMs_eq denied, retry_globalCounters aligned denied,
    retry_attestorCounters aligned denied]
  unfold LeavesRoom
  refine and_congr_left' ?_
  cases forgotten settings reached now with
  | true => simpa using atLeastOne
  | false => simp

/-- The two requests of the window before count nine tenths each, and nothing is counted
in the window of the denied request. -/
theorem retry_allowed_after_quiet_window :
    LeavesRoom sampleSettings (Session.reached sampleSettings sampleLimiter 0
        [.checkAndConsume "a" 9, .checkAndConsume "a" 9]).limiter "a" 11 ∧
      let answered := (Session.reached sampleSettings sampleLimiter 0
        [.checkAndConsume "a" 9, .checkAndConsume "a" 9]).limiter.checkAndConsume
          sampleSettings "a" 11
      answered.1.allowed = false ∧
        (answered.2.checkAndConsume sampleSettings "a"
          (11 + answered.1.retryAfterMs)).1.allowed = true := by
  have room : LeavesRoom sampleSettings (Session.reached sampleSettings sampleLimiter 0
      [.checkAndConsume "a" 9, .checkAndConsume "a" 9]).limiter "a" 11 :=
    ⟨.inr (by decide +kernel), by decide +kernel⟩
  refine ⟨room, by decide +kernel, ?_⟩
  exact (retry_allowed_iff_leavesRoom sampleConfig 0 sampleSettings sampleLimiter
    create_sampleConfig (by decide +kernel) _ "a" 11 (by decide +kernel)).mpr room

/-- The limit is used up at the start of a window, and the next window starts with it
still used up. -/
theorem hinted_retry_denied :
    RateLimiter.create sampleConfig 0 = .ok (sampleSettings, sampleLimiter) ∧
      1 ≤ sampleSettings.perAttestorLimit ∧
      let answered := (Session.reached sampleSettings sampleLimiter 0
        [.checkAndConsume "a" 0, .checkAndConsume "a" 0]).limiter.checkAndConsume
          sampleSettings "a" 0
      answered.1.allowed = false ∧ answered.1.retryAfterMs = 10 ∧
        (answered.2.checkAndConsume sampleSettings "a"
          (0 + answered.1.retryAfterMs)).1.allowed = false :=
  ⟨create_sampleConfig, by decide +kernel, by decide +kernel, by decide +kernel,
    by decide +kernel⟩

end AnchorKit.Sdk
