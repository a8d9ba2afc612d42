import AnchorKit.Sdk.RateLimiterBounds
import Mathlib.Data.List.Induction

/-!
# What a client cannot see of the rate limiter

A request looks at counters that have been rolled to its own time.  Two limiters look
alike from some time on if every counter, rolled to any later time, is the same in
both.  A denied request only rolls, rolling twice is rolling once, and what a prune
forgets would have rolled to zero; so none of them shows in any later status.
-/

set_option autoImplicit false

namespace AnchorKit.Sdk

open AnchorKit.Base
open AnchorKit.Base.SlidingWindow

/-! ## Rolling -/

/-- The counters start at a multiple of the window. -/
def Aligned (width : ℚ) (state : RateLimitState) : Prop :=
  ∃ number : ℤ, state.currentWindowStart = number * width

/-- The counters a request at `now` meets under a key. -/
def met (width now : ℚ) (kept : Option RateLimitState) : RateLimitState :=
  rollWindow (kept.getD (createState now width)) now width

/-- What is kept under a key was last seen by `clock`, in the window it starts at. -/
def Dated (width clock : ℚ) (kept : Option RateLimitState) : Prop :=
  ∀ state ∈ kept, state.currentWindowStart = index width state.lastSeenAt * width ∧
    state.lastSeenAt ≤ clock

section Rolling

variable {width now later clock : ℚ} {state : RateLimitState} {kept : Option RateLimitState}

theorem createState_aligned (now width : ℚ) : Aligned width (createState now width) :=
  ⟨index width now, rfl⟩

theorem Aligned.rollWindow (aligned : Aligned width state) (positive : 0 < width) (now : ℚ) :
    Aligned width (rollWindow state now width) := by
  obtain ⟨number, start⟩ := aligned
  rw [rollWindow_eq positive start]
  split
  · exact ⟨number, start⟩
  · exact ⟨index width now, rfl⟩

theorem Aligned.consume (aligned : Aligned width state) (allowed : Bool) :
    Aligned width (state.consume allowed) := by
  cases allowed with
  | false => exact aligned
  | true => exact aligned

theorem Aligned.roll_roll (aligned : Aligned width state) (positive : 0 < width)
    (ordered : now ≤ later) :
    Sdk.rollWindow (Sdk.rollWindow state now width) later width =
      Sdk.rollWindow state later width := by
  obtain ⟨number, start⟩ := aligned
  have forward := index_mono positive ordered
  rw [rollWindow_eq positive start now, rollWindow_eq positive start later]
  by_cases still : index width now ≤ number
  · rw [if_pos still]
    exact rollWindow_eq positive start later
  · rw [if_neg still, rollWindow_eq positive rfl later,
      if_neg (by omega : ¬ index width later ≤ number)]
    by_cases same : index width later ≤ index width now
    · have equal : index width later = index width now := by omega
      rw [if_pos same, equal]
    · -- nothing was counted in between
      rw [if_neg same, if_neg (by omega : index width later ≠ number + 1), ite_self]

theorem roll_createState (positive : 0 < width) (ordered : now ≤ later) :
    Sdk.rollWindow (createState now width) later width = createState later width := by
  have forward := index_mono positive ordered
  have started : ∀ time, createState time width = ⟨index width time * width, 0, 0, time⟩ :=
    fun _ => rfl
  rw [started now, started later, rollWindow_eq positive rfl later]
  by_cases same : index width later ≤ index width now
  · have equal : index width later = index width now := by omega
    rw [if_pos same, equal]
  · rw [if_neg same, ite_self]

theorem met_none (positive : 0 < width) (now : ℚ) :
    met width now none = createState now width :=
  roll_createState positive le_rfl

theorem met_of_idle (positive : 0 < width)
    (start : state.currentWindowStart = index width state.lastSeenAt * width)
    (old : state.lastSeenAt + 2 * width ≤ now) :
    met width now (some state) = createState now width := by
  have apart := index_add_le positive 2 old
  rw [met, Option.getD_some, rollWindow_eq positive start, if_neg (by omega), if_neg (by omega)]
  rfl

theorem met_met (positive : 0 < width) (aligned : ∀ state ∈ kept, Aligned width state)
    (ordered : now ≤ later) :
    met width later (some (met width now kept)) = met width later kept := by
  cases kept with
  | some state => exact (aligned state rfl).roll_roll positive ordered
  | none =>
      rw [met_none positive, met_none positive]
      exact roll_createState positive ordered

theorem Dated.mono (dated : Dated width clock kept) (ordered : clock ≤ later) :
    Dated width later kept :=
  fun state member => ⟨(dated state member).1, (dated state member).2.trans ordered⟩

theorem Dated.aligned (dated : Dated width clock kept) :
    ∀ state ∈ kept, Aligned width state :=
  fun state member => ⟨_, (dated state member).1⟩

theorem Dated.met (dated : Dated width now kept) (positive : 0 < width) (allowed : Bool) :
    Dated width now (some ((met width now kept).consume allowed)) := by
  intro state member
  cases Option.some.inj member
  have seen : (Sdk.met width now kept).lastSeenAt = now := rollWindow_lastSeenAt _ _ _
  rw [consume_lastSeenAt, seen]
  refine ⟨?_, le_rfl⟩
  have start : (Sdk.met width now kept).currentWindowStart = index width now * width := by
    cases kept with
    | none =>
        rw [met_none positive]
        rfl
    | some state =>
        obtain ⟨start, past⟩ := dated state rfl
        have forward := index_mono positive past
        rw [Sdk.met, Option.getD_some, rollWindow_eq positive start]
        by_cases same : index width now ≤ index width state.lastSeenAt
        · have equal : index width state.lastSeenAt = index width now := by omega
          rw [if_pos same]
          exact start.trans (by rw [equal])
        · rw [if_neg same]
  cases allowed with
  | false => exact start
  | true => exact start

end Rolling

/-! ## Limiters that look alike -/

/-- From `clock` on, a request meets the same counters in both. -/
structure LooksAlike (width clock : ℚ) (left right : RateLimiter) : Prop where
  global : ∀ now, clock ≤ now →
    rollWindow left.global now width = rollWindow right.global now width
  attestor : ∀ attestorId now, clock ≤ now →
    met width now (left.perAttestor.lookup attestorId) =
      met width now (right.perAttestor.lookup attestorId)

structure Regular (width clock : ℚ) (limiter : RateLimiter) : Prop where
  global : Aligned width limiter.global
  attestor : ∀ attestorId, Dated width clock (limiter.perAttestor.lookup attestorId)

section Limiters

variable {width clock now : ℚ} {left right other limiter : RateLimiter} {settings : Settings}

theorem LooksAlike.refl (width clock : ℚ) (limiter : RateLimiter) :
    LooksAlike width clock limiter limiter :=
  ⟨fun _ _ => rfl, fun _ _ _ => rfl⟩

theorem LooksAlike.symm (alike : LooksAlike width clock left right) :
    LooksAlike width clock right left :=
  ⟨fun now later => (alike.global now later).symm,
    fun attestorId now later => (alike.attestor attestorId now later).symm⟩

theorem LooksAlike.trans (first : LooksAlike width clock left right)
    (second : LooksAlike width clock right other) : LooksAlike width clock left other :=
  ⟨fun now later => (first.global now later).trans (second.global now later),
    fun attestorId now later =>
      (first.attestor attestorId now later).trans (second.attestor attestorId now later)⟩

theorem LooksAlike.mono (alike : LooksAlike width clock left right) (ordered : clock ≤ now) :
    LooksAlike width now left right :=
  ⟨fun time later => alike.global time (ordered.trans later),
    fun attestorId time later => alike.attestor attestorId time (ordered.trans later)⟩

theorem Regular.mono (regular : Regular width clock limiter) (ordered : clock ≤ now) :
    Regular width now limiter :=
  ⟨regular.global, fun attestorId => (regular.attestor attestorId).mono ordered⟩

/-! ## Prunes -/

theorem Regular.prune (regular : Regular width clock limiter) (settings : Settings) (now : ℚ) :
    Regular width clock (limiter.prune settings now).2 := by
  refine ⟨regular.global, ?_⟩
  intro attestorId state member
  rw [lookup_prune] at member
  exact regular.attestor attestorId state (Option.filter_eq_some_iff.mp member).1

/-- With two windows of retention a prune forgets nothing that would show. -/
theorem Regular.prune_looksAlike (regular : Regular settings.windowMs now limiter)
    (retains : settings.idleRetentionMs.atLeast (2 * settings.windowMs) = true) :
    LooksAlike settings.windowMs now (limiter.prune settings now).2 limiter := by
  refine ⟨fun _ _ => rfl, ?_⟩
  intro attestorId time later
  have positive := settings.windowMs_pos
  rw [lookup_prune]
  cases found : limiter.perAttestor.lookup attestorId with
  | none => rfl
  | some state =>
      cases old : idle settings now state with
      | false => simp only [Option.filter, old, Bool.not_false, if_true]
      | true =>
          simp only [Option.filter, old, Bool.not_true, Bool.false_eq_true, if_false]
          have apart := Number.le_of_atLeast_of_atMost retains old
          have start := (regular.attestor attestorId state found).1
          rw [met_none positive, met_of_idle positive start (by linarith)]

theorem Regular.pruneIfDue (regular : Regular width clock limiter) (settings : Settings)
    (now : ℚ) : Regular width clock (limiter.pruneIfDue settings now) := by
  unfold RateLimiter.pruneIfDue
  split
  · dsimp only
    split
    · have pruned := regular.prune settings now
      exact ⟨pruned.global, pruned.attestor⟩
    · exact ⟨regular.global, regular.attestor⟩
  · exact regular

theorem Regular.pruneIfDue_looksAlike (regular : Regular settings.windowMs now limiter)
    (retains : settings.idleRetentionMs.atLeast (2 * settings.windowMs) = true) :
    LooksAlike settings.windowMs now (limiter.pruneIfDue settings now) limiter := by
  unfold RateLimiter.pruneIfDue
  split
  · dsimp only
    split
    · have pruned := regular.prune_looksAlike retains
      exact ⟨pruned.global, pruned.attestor⟩
    · exact ⟨fun _ _ => rfl, fun _ _ _ => rfl⟩
  · exact LooksAlike.refl _ _ _

/-! ## Requests -/

def statusFrom (settings : Settings) (attestorEstimate globalEstimate now : ℚ) :
    RateLimitStatus :=
  let attestorOk := decide (attestorEstimate + 1 ≤ settings.perAttestorLimit)
  let globalOk := decide (globalEstimate + 1 ≤ settings.globalLimit)
  let allowed := attestorOk && globalOk
  let consumedAttestorEstimate := if allowed then attestorEstimate + 1 else attestorEstimate
  let consumedGlobalEstimate := if allowed then globalEstimate + 1 else globalEstimate
  let elapsedInCurrent := now - alignToWindow now settings.windowMs
  { allowed := allowed
    remaining := max 0 ⌊settings.perAttestorLimit - consumedAttestorEstimate⌋
    remainingGlobal := max 0 ⌊settings.globalLimit - consumedGlobalEstimate⌋
    retryAfterMs := if allowed then 0 else max 0 (settings.windowMs - elapsedInCurrent)
    limitedBy := if allowed then none
      else if attestorOk then some .global else some .attestor }

def statusOf (settings : Settings) (attestor global : RateLimitState) (now : ℚ) :
    RateLimitStatus :=
  statusFrom settings (estimateCount attestor now settings.windowMs)
    (estimateCount global now settings.windowMs) now

theorem checkAndConsume_status (settings : Settings) (limiter : RateLimiter)
    (attestorId : String) (now : ℚ) :
    (limiter.checkAndConsume settings attestorId now).1 =
      statusOf settings (attestorCounters settings limiter attestorId now)
        (globalCounters settings limiter now) now := by
  unfold globalCounters
  rw [← pruneIfDue_global settings limiter now]
  rfl

theorem Regular.attestorCounters_eq (regular : Regular settings.windowMs now limiter)
    (retains : settings.idleRetentionMs.atLeast (2 * settings.windowMs) = true)
    (attestorId : String) :
    attestorCounters settings limiter attestorId now =
      met settings.windowMs now (limiter.perAttestor.lookup attestorId) :=
  (regular.pruneIfDue_looksAlike retains).attestor attestorId now le_rfl

theorem Regular.checkAndConsume (regular : Regular settings.windowMs now limiter)
    (attestorId : String) :
    Regular settings.windowMs now (limiter.checkAndConsume settings attestorId now).2 := by
  have positive := settings.windowMs_pos
  have pruned := regular.pruneIfDue settings now
  constructor
  · rw [checkAndConsume_global]
    exact (regular.global.rollWindow positive now).consume _
  · intro other
    by_cases own : other = attestorId
    · subst other
      rw [checkAndConsume_lookup_self]
      exact (pruned.attestor attestorId).met positive _
    · rw [checkAndConsume_lookup_ne settings limiter attestorId now own]
      exact pruned.attestor other

theorem Regular.denied_looksAlike (regular : Regular settings.windowMs now limiter)
    (retains : settings.idleRetentionMs.atLeast (2 * settings.windowMs) = true)
    {attestorId : String}
    (denied : (limiter.checkAndConsume settings attestorId now).1.allowed = false) :
    LooksAlike settings.windowMs now (limiter.checkAndConsume settings attestorId now).2
      limiter := by
  have positive := settings.windowMs_pos
  have pruned := regular.pruneIfDue settings now
  have alike := regular.pruneIfDue_looksAlike retains
  constructor
  · intro time later
    rw [checkAndConsume_global, denied]
    exact regular.global.roll_roll positive later
  · intro other time later
    by_cases own : other = attestorId
    · subst other
      rw [checkAndConsume_lookup_self, denied, ← alike.attestor attestorId time later]
      exact met_met positive (pruned.attestor attestorId).aligned later
    · rw [checkAndConsume_lookup_ne settings limiter attestorId now own]
      exact alike.attestor other time later

end Limiters

def Settings.pruneEvery (settings : Settings) (interval : Number) : Settings :=
  { settings with pruneIntervalCalls := interval }

section Variation

variable {settings : Settings} {interval : Number} {now : ℚ} {left right : RateLimiter}

/-- Limiters that look alike answer alike, and look alike afterwards. -/
theorem LooksAlike.checkAndConsume (alike : LooksAlike settings.windowMs now left right)
    (retains : settings.idleRetentionMs.atLeast (2 * settings.windowMs) = true)
    (leftRegular : Regular settings.windowMs now left)
    (rightRegular : Regular (settings.pruneEvery interval).windowMs now right)
    (attestorId : String) :
    (left.checkAndConsume settings attestorId now).1 =
        (right.checkAndConsume (settings.pruneEvery interval) attestorId now).1 ∧
      LooksAlike settings.windowMs now (left.checkAndConsume settings attestorId now).2
        (right.checkAndConsume (settings.pruneEvery interval) attestorId now).2 := by
  have attestors : attestorCounters settings left attestorId now =
      attestorCounters (settings.pruneEvery interval) right attestorId now := by
    rw [leftRegular.attestorCounters_eq retains, rightRegular.attestorCounters_eq retains]
    exact alike.attestor attestorId now le_rfl
  have globals : globalCounters settings left now =
      globalCounters (settings.pruneEvery interval) right now :=
    alike.global now le_rfl
  have answers : (left.checkAndConsume settings attestorId now).1 =
      (right.checkAndConsume (settings.pruneEvery interval) attestorId now).1 := by
    rw [checkAndConsume_status, checkAndConsume_status, attestors, globals]
    rfl
  refine ⟨answers, ?_, ?_⟩
  · intro time _
    rw [checkAndConsume_global, checkAndConsume_global, globals, answers]
  · intro other time later
    by_cases own : other = attestorId
    · subst other
      rw [checkAndConsume_lookup_self, checkAndConsume_lookup_self, attestors, answers]
    · rw [checkAndConsume_lookup_ne _ left attestorId now own,
        checkAndConsume_lookup_ne _ right attestorId now own]
      have leftAlike := (leftRegular.pruneIfDue_looksAlike retains).attestor other time later
      have rightAlike := (rightRegular.pruneIfDue_looksAlike retains).attestor other time later
      exact leftAlike.trans ((alike.attestor other time later).trans rightAlike.symm)

theorem settings_pruneEvery {config : RateLimitConfig}
    (accepted : config.settings = .ok settings) (interval : Option Number) :
    RateLimitConfig.settings { config with pruneIntervalCalls := interval } =
      .ok (settings.pruneEvery (interval.getD (.finite defaultPruneIntervalCalls))) := by
  unfold RateLimitConfig.settings at accepted ⊢
  dsimp only
  cases attestor : positive "perAttestorLimit must be a positive number"
      config.perAttestorLimit with
  | error refusal =>
      rw [attestor] at accepted
      cases accepted
  | ok perAttestorLimit =>
      cases all : positive "globalLimit must be a positive number" config.globalLimit with
      | error refusal =>
          rw [attestor, all] at accepted
          cases accepted
      | ok globalLimit =>
          cases window : positive "windowMs must be a positive number" config.windowMs with
          | error refusal =>
              rw [attestor, all, window] at accepted
              cases accepted
          | ok windowMs =>
              rw [attestor, all, window] at accepted
              simp only [bind, Except.bind] at accepted ⊢
              by_cases ordered : perAttestorLimit.val ≤ globalLimit.val
              · rw [dif_pos ordered] at accepted ⊢
                cases accepted
                rfl
              · rw [dif_neg ordered] at accepted
                cases accepted

theorem create_pruneEvery {config : RateLimitConfig} {start : ℚ} {limiter : RateLimiter}
    (created : RateLimiter.create config start = .ok (settings, limiter))
    (interval : Option Number) :
    RateLimiter.create { config with pruneIntervalCalls := interval } start =
      .ok (settings.pruneEvery (interval.getD (.finite defaultPruneIntervalCalls)), limiter) := by
  obtain ⟨accepted, fresh⟩ := create_ok created
  rw [RateLimiter.create, settings_pruneEvery accepted, fresh]
  rfl

end Variation

/-! ## Edited runs -/

/-- How a run and its edited version differ at one request. -/
inductive Edit where
  | keep (request : Request)
  | remove (attestorId : String) (now : ℚ)
  | insertPrune (now : ℚ)

def Edit.now : Edit → ℚ
  | .keep request => request.now
  | .remove _ now => now
  | .insertPrune now => now

def original (edits : List Edit) : List Request :=
  edits.filterMap fun
    | .keep request => some request
    | .remove attestorId now => some (.checkAndConsume attestorId now)
    | .insertPrune _ => none

def edited (edits : List Edit) : List Request :=
  edits.filterMap fun
    | .keep request => some request
    | .remove _ _ => none
    | .insertPrune now => some (.prune now)

theorem original_append (earlier later : List Edit) :
    original (earlier ++ later) = original earlier ++ original later :=
  List.filterMap_append

theorem edited_append (earlier later : List Edit) :
    edited (earlier ++ later) = edited earlier ++ edited later :=
  List.filterMap_append

structure Related (width clock : ℚ) (left right : RateLimiter) : Prop where
  alike : LooksAlike width clock left right
  leftRegular : Regular width clock left
  rightRegular : Regular width clock right

section Runs

variable {settings : Settings} {interval : Number} {clock now : ℚ} {left right : Session}

theorem Related.mono {width : ℚ} {left right : RateLimiter}
    (related : Related width clock left right) (ordered : clock ≤ now) :
    Related width now left right :=
  ⟨related.alike.mono ordered, related.leftRegular.mono ordered,
    related.rightRegular.mono ordered⟩

theorem Related.keep (related : Related settings.windowMs now left.limiter right.limiter)
    (retains : settings.idleRetentionMs.atLeast (2 * settings.windowMs) = true)
    {request : Request} (at_now : request.now = now) :
    Related settings.windowMs now (left.step settings request).limiter
      (right.step (settings.pruneEvery interval) request).limiter := by
  have rightRegular : Regular (settings.pruneEvery interval).windowMs now right.limiter :=
    related.rightRegular
  subst at_now
  cases request with
  | checkAndConsume attestorId now =>
      exact ⟨(related.alike.checkAndConsume retains related.leftRegular rightRegular attestorId).2,
        related.leftRegular.checkAndConsume attestorId, rightRegular.checkAndConsume attestorId⟩
  | prune now =>
      have leftPruned := related.leftRegular.prune_looksAlike retains
      have rightPruned := rightRegular.prune_looksAlike retains
      exact ⟨leftPruned.trans (related.alike.trans rightPruned.symm),
        related.leftRegular.prune settings now,
        rightRegular.prune (settings.pruneEvery interval) now⟩

theorem Related.remove (related : Related settings.windowMs now left.limiter right.limiter)
    (retains : settings.idleRetentionMs.atLeast (2 * settings.windowMs) = true)
    {attestorId : String}
    (denied : (left.limiter.checkAndConsume settings attestorId now).1.allowed = false) :
    Related settings.windowMs now
      (left.step settings (.checkAndConsume attestorId now)).limiter right.limiter :=
  ⟨(related.leftRegular.denied_looksAlike retains denied).trans related.alike,
    related.leftRegular.checkAndConsume attestorId, related.rightRegular⟩

theorem Related.insertPrune (related : Related settings.windowMs now left.limiter right.limiter)
    (retains : settings.idleRetentionMs.atLeast (2 * settings.windowMs) = true) :
    Related settings.windowMs now left.limiter
      (right.step (settings.pruneEvery interval) (.prune now)).limiter := by
  have rightRegular : Regular (settings.pruneEvery interval).windowMs now right.limiter :=
    related.rightRegular
  exact ⟨related.alike.trans (rightRegular.prune_looksAlike retains).symm, related.leftRegular,
    rightRegular.prune (settings.pruneEvery interval) now⟩

theorem create_related {config : RateLimitConfig} {start : ℚ} {limiter : RateLimiter}
    (created : RateLimiter.create config start = .ok (settings, limiter)) (now : ℚ) :
    Related settings.windowMs now limiter limiter := by
  have regular : Regular settings.windowMs now limiter := by
    obtain ⟨_, fresh⟩ := create_ok created
    subst limiter
    exact ⟨createState_aligned start settings.windowMs, fun _ => nofun⟩
  exact ⟨.refl _ _ _, regular, regular⟩

theorem edited_related (interval : Number) {config : RateLimitConfig} {start : ℚ}
    {limiter : RateLimiter}
    (created : RateLimiter.create config start = .ok (settings, limiter))
    (retains : settings.idleRetentionMs.atLeast (2 * settings.windowMs) = true)
    (edits : List Edit) (ordered : (edits.map Edit.now).Pairwise (· ≤ ·))
    (denied : ∀ before attestorId now after,
      edits = before ++ .remove attestorId now :: after →
        ((Session.reached settings limiter start (original before)).limiter.checkAndConsume
          settings attestorId now).1.allowed = false)
    (past : ∀ edit ∈ edits, edit.now ≤ now) :
    Related settings.windowMs now
      (Session.reached settings limiter start (original edits)).limiter
      (Session.reached (settings.pruneEvery interval) limiter start (edited edits)).limiter := by
  induction edits using List.reverseRecOn generalizing now with
  | nil => exact create_related created now
  | append_singleton earlier edit ih =>
      rw [List.map_append, List.pairwise_append] at ordered
      have before : ∀ other ∈ earlier, other.now ≤ edit.now := by
        intro other member
        exact ordered.2.2 other.now (List.mem_map_of_mem member) edit.now (by simp)
      have related := ih ordered.1
        (fun prior attestorId time after split =>
          denied prior attestorId time (after ++ [edit]) (by simp [split])) before
      refine Related.mono ?_ (past edit (by simp))
      rw [original_append, edited_append, Session.reached, Machine.run_append, Session.reached,
        Machine.run_append]
      cases edit with
      | keep request => exact related.keep retains rfl
      | remove attestorId time =>
          exact related.remove retains (denied earlier attestorId time [] rfl)
      | insertPrune time => exact related.insertPrune retains

end Runs

/-- Removing denied requests, changing the prune interval and inserting prunes leaves
the status of every other request as it was. -/
theorem denied_requests_and_prunes_invisible (config : RateLimitConfig) (start : ℚ)
    (interval : Option Number) (settings varied : Settings) (limiter variedLimiter : RateLimiter)
    (created : RateLimiter.create config start = .ok (settings, limiter))
    (variedCreated : RateLimiter.create { config with pruneIntervalCalls := interval } start =
      .ok (varied, variedLimiter))
    (retains : settings.idleRetentionMs.atLeast (2 * settings.windowMs) = true)
    (edits : List Edit) (ordered : (edits.map Edit.now).Pairwise (· ≤ ·))
    (denied : ∀ before attestorId now after,
      edits = before ++ .remove attestorId now :: after →
        ((Session.reached settings limiter start (original before)).limiter.checkAndConsume
          settings attestorId now).1.allowed = false) :
    ∀ before attestorId now after,
      edits = before ++ .keep (.checkAndConsume attestorId now) :: after →
        ((Session.reached varied variedLimiter start (edited before)).limiter.checkAndConsume
          varied attestorId now).1 =
        ((Session.reached settings limiter start (original before)).limiter.checkAndConsume
          settings attestorId now).1 := by
  intro before attestorId now after split
  have same := variedCreated.symm.trans (create_pruneEvery created interval)
  cases same
  rw [split, List.map_append, List.pairwise_append] at ordered
  have past : ∀ edit ∈ before, edit.now ≤ now := by
    intro edit member
    exact ordered.2.2 edit.now (List.mem_map_of_mem member) now (by simp [Edit.now, Request.now])
  have related := edited_related (interval.getD (.finite defaultPruneIntervalCalls))
    created retains before ordered.1
    (fun prior id time later earlier =>
      denied prior id time (later ++ .keep (.checkAndConsume attestorId now) :: after)
        (by simp [split, earlier])) past
  have rightRegular : Regular (settings.pruneEvery
      (interval.getD (.finite defaultPruneIntervalCalls))).windowMs now _ :=
    related.rightRegular
  exact (related.alike.checkAndConsume retains related.leftRegular rightRegular
    attestorId).1.symm

def sampleEdits : List Edit :=
  [.keep (.checkAndConsume "a" 9), .keep (.checkAndConsume "a" 9), .remove "a" 9,
    .insertPrune 12, .keep (.checkAndConsume "a" 15)]

theorem sampleEdits_invisible :
    ((Session.reached (sampleSettings.pruneEvery .nan) sampleLimiter 0
        [.checkAndConsume "a" 9, .checkAndConsume "a" 9, .prune 12]).limiter.checkAndConsume
      (sampleSettings.pruneEvery .nan) "a" 15).1 =
    ((Session.reached sampleSettings sampleLimiter 0
        [.checkAndConsume "a" 9, .checkAndConsume "a" 9,
          .checkAndConsume "a" 9]).limiter.checkAndConsume sampleSettings "a" 15).1 := by
  refine denied_requests_and_prunes_invisible sampleConfig 0 (some .nan) sampleSettings
    (sampleSettings.pruneEvery .nan) sampleLimiter sampleLimiter create_sampleConfig
    (create_pruneEvery create_sampleConfig (some .nan)) (by decide +kernel) sampleEdits
    (by decide +kernel) ?_
    [.keep (.checkAndConsume "a" 9), .keep (.checkAndConsume "a" 9), .remove "a" 9,
      .insertPrune 12] "a" 15 [] rfl
  intro before attestorId now after split
  -- only the third edit removes a request
  rcases before with _ | ⟨_, _ | ⟨_, _ | ⟨_, _ | ⟨_, _ | ⟨_, more⟩⟩⟩⟩⟩
  all_goals simp only [sampleEdits, List.nil_append, List.cons_append, List.cons.injEq,
    List.nil_eq, List.append_eq_nil_iff, reduceCtorEq, false_and, and_false] at split
  obtain ⟨first, second, removed, _⟩ := split
  subst first second
  cases removed
  decide +kernel

end AnchorKit.Sdk
