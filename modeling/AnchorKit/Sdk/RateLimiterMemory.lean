import AnchorKit.Sdk.RateLimiterHints
import Mathlib.Data.List.Dedup

/-!
# What the rate limiter remembers

A process may run for long and see ever new attestors.  `checkAndConsume` prunes at every
so many calls, counted from the first one on whatever `prune` is asked for in between, so
that an attestor is tracked only if it has called since the last prune or had called within
the retention before it.
-/

set_option autoImplicit false

namespace AnchorKit.Sdk

open AnchorKit.Base

def RateLimiter.trackedAttestorCount (limiter : RateLimiter) : ℕ :=
  limiter.perAttestor.keys.length

def Request.callOf (attestorId : String) : Request → Option ℚ
  | .checkAndConsume other now => if other = attestorId then some now else none
  | .prune _ => none

def Request.isCall : Request → Bool
  | .checkAndConsume _ _ => true
  | .prune _ => false

def lastCall (attestorId : String) (requests : List Request) : Option ℚ :=
  (requests.filterMap (Request.callOf attestorId)).getLast?

def Request.caller : Request → Option String
  | .checkAndConsume attestorId _ => some attestorId
  | .prune _ => none

/-- The attestors that had called within the retention before the prune. -/
def busy (settings : Settings) (earlier : List Request) (pruned : ℚ) : List String :=
  (earlier.filterMap Request.caller).dedup.filter fun attestorId =>
    (lastCall attestorId earlier).any fun last =>
      !settings.idleRetentionMs.atMost (pruned - last)

/-- The number of calls from one prune of `checkAndConsume` to the next. -/
def pruneEvery (interval : ℚ) : ℕ := ⌈interval⌉₊

/-- The request prunes: it asks for it, or it is one of every so many calls. -/
def prunesAfter (every : ℕ) (earlier : List Request) : Request → Bool
  | .checkAndConsume _ _ => decide ((earlier.countP Request.isCall + 1) % every = 0)
  | .prune _ => true

/-- A run in two: the requests before the last one that prunes, and those from it on. -/
structure Stretch where
  earlier : List Request
  later : List Request

def Stretch.all (stretch : Stretch) : List Request := stretch.earlier ++ stretch.later

def Stretch.step (every : ℕ) (stretch : Stretch) (request : Request) : Stretch :=
  if prunesAfter every stretch.all request then
    { earlier := stretch.all, later := [request] }
  else { stretch with later := stretch.later ++ [request] }

def lastStretch (every : ℕ) (requests : List Request) : Stretch :=
  Machine.run (Stretch.step every) ⟨[], []⟩ requests

/-- The attestor is among the callers since the prune, or had called within the retention
before it. -/
def Stretch.Active (settings : Settings) (stretch : Stretch) (attestorId : String) : Prop :=
  (∃ now, Request.checkAndConsume attestorId now ∈ stretch.later) ∨
    ∃ first last, stretch.later.head? = some first ∧
      lastCall attestorId stretch.earlier = some last ∧
      settings.idleRetentionMs.atMost (first.now - last) = false

section Stretches

variable {every : ℕ} (requests : List Request)

theorem lastStretch_append (request : Request) :
    lastStretch every (requests ++ [request]) =
      (lastStretch every requests).step every request := by
  rw [lastStretch, Machine.run_append]
  rfl

theorem lastStretch_all : (lastStretch every requests).all = requests := by
  induction requests using List.reverseRecOn with
  | nil => rfl
  | append_singleton before request ih =>
      rw [lastStretch_append, Stretch.step, ih]
      split
      · rfl
      · exact (List.append_assoc _ _ _).symm.trans (congrArg (· ++ [request]) ih)

theorem lastStretch_step (request : Request) :
    lastStretch every (requests ++ [request]) =
      if prunesAfter every requests request then ⟨requests, [request]⟩
      else { lastStretch every requests with
        later := (lastStretch every requests).later ++ [request] } := by
  rw [lastStretch_append, Stretch.step, lastStretch_all]

theorem add_one_mod (positive : 0 < every) (calls : ℕ) :
    (calls + 1) % every = if every ≤ calls % every + 1 then 0 else calls % every + 1 := by
  have small := Nat.mod_lt calls positive
  rw [← Nat.mod_add_mod]
  split
  · have full : calls % every + 1 = every := by omega
    rw [full, Nat.mod_self]
  · exact Nat.mod_eq_of_lt (by omega)

theorem full_iff (positive : 0 < every) (calls : ℕ) :
    every ≤ calls % every + 1 ↔ (calls + 1) % every = 0 := by
  rw [add_one_mod positive]
  split
  · simp [*]
  · simp [*]

theorem lastStretch_calls (positive : 0 < every) :
    (lastStretch every requests).later.countP Request.isCall ≤
      requests.countP Request.isCall % every + 1 := by
  induction requests using List.reverseRecOn with
  | nil => exact Nat.zero_le _
  | append_singleton before request ih =>
      rw [lastStretch_step]
      cases request with
      | prune now => exact Nat.zero_le _
      | checkAndConsume attestorId now =>
          rw [List.countP_append]
          split
          · exact Nat.le_add_left _ _
          · rename_i between
            have grows := add_one_mod positive (before.countP Request.isCall)
            have call : [Request.checkAndConsume attestorId now].countP Request.isCall = 1 := rfl
            rw [List.countP_append, call, grows, if_neg ?_]
            · exact Nat.add_le_add_right ih 1
            · exact fun full => between (decide_eq_true ((full_iff positive _).mp full))

end Stretches

section Memory

variable {config : RateLimitConfig} {start : ℚ} {settings : Settings} {limiter : RateLimiter}
  {session : Session} {requests earlier : List Request} {attestorId : String} {interval : ℚ}

theorem pruneEvery_pos (positive : 0 < interval) : 0 < pruneEvery interval :=
  Nat.ceil_pos.mpr positive

theorem lastCall_append (attestorId : String) (requests : List Request) (request : Request) :
    lastCall attestorId (requests ++ [request]) =
      (request.callOf attestorId).or (lastCall attestorId requests) := by
  unfold lastCall
  cases called : request.callOf attestorId with
  | none => simp [List.filterMap_append, called]
  | some now => simp [List.filterMap_append, called]

theorem Stretch.Active.append {stretch : Stretch} (active : stretch.Active settings attestorId)
    (request : Request) :
    Stretch.Active settings { stretch with later := stretch.later ++ [request] }
      attestorId := by
  rcases active with ⟨now, member⟩ | ⟨first, last, head, called, kept⟩
  · exact Or.inl ⟨now, List.mem_append_left _ member⟩
  · exact Or.inr ⟨first, last, by rw [List.head?_append, head]; rfl, called, kept⟩

theorem prunesAutomatically (prunes : settings.pruneIntervalCalls = .finite interval)
    (positive : 0 < interval) : settings.pruneIntervalCalls.above 0 = true := by
  rw [prunes]
  exact decide_eq_true positive

theorem pruneDue_eq_full (prunes : settings.pruneIntervalCalls = .finite interval)
    (positive : 0 < interval) :
    limiter.pruneDue settings = decide (pruneEvery interval ≤ limiter.callsSincePrune + 1) := by
  have full : limiter.pruneDue settings =
      decide (interval ≤ ((limiter.callsSincePrune + 1 : ℕ) : ℚ)) := by
    rw [RateLimiter.pruneDue, prunesAutomatically prunes positive, Bool.true_and, prunes,
      Nat.cast_add_one]
    rfl
  rw [full, decide_eq_decide]
  exact Nat.ceil_le.symm

theorem pruneIfDue_callsSincePrune (prunes : settings.pruneIntervalCalls = .finite interval)
    (positive : 0 < interval) (limiter : RateLimiter) (now : ℚ) :
    (limiter.pruneIfDue settings now).callsSincePrune =
      if limiter.pruneDue settings then 0 else limiter.callsSincePrune + 1 := by
  unfold RateLimiter.pruneIfDue RateLimiter.pruneDue
  rw [prunesAutomatically prunes positive, if_pos rfl, Bool.true_and]
  dsimp only
  split
  · rfl
  · rfl

structure Recent (settings : Settings) (interval : ℚ) (requests : List Request)
    (limiter : RateLimiter) : Prop where
  counted : limiter.callsSincePrune = requests.countP Request.isCall % pruneEvery interval
  seen : ∀ attestorId state, limiter.perAttestor.lookup attestorId = some state →
    lastCall attestorId requests = some state.lastSeenAt
  active : ∀ attestorId state, limiter.perAttestor.lookup attestorId = some state →
    (lastStretch (pruneEvery interval) requests).Active settings attestorId

theorem lookup_prune_some {state : RateLimitState} {now : ℚ}
    (found : (limiter.prune settings now).2.perAttestor.lookup attestorId = some state) :
    limiter.perAttestor.lookup attestorId = some state ∧
      settings.idleRetentionMs.atMost (now - state.lastSeenAt) = false := by
  rw [lookup_prune] at found
  obtain ⟨before, kept⟩ := Option.filter_eq_some_iff.mp found
  exact ⟨before, Bool.not_eq_true' _ ▸ kept⟩

theorem Recent.prune (recent : Recent settings interval requests session.limiter) (now : ℚ) :
    Recent settings interval (requests ++ [.prune now])
      (session.step settings (.prune now)).limiter := by
  refine ⟨?_, ?_, ?_⟩
  · rw [List.countP_append]
    exact recent.counted
  · intro attestorId state found
    rw [lastCall_append]
    exact recent.seen attestorId state (lookup_prune_some found).1
  · intro attestorId state found
    obtain ⟨before, kept⟩ := lookup_prune_some found
    rw [lastStretch_step]
    exact Or.inr ⟨.prune now, state.lastSeenAt, rfl,
      recent.seen attestorId state before, kept⟩

/-- The limiter prunes at the calls that the count of all calls names. -/
theorem Recent.pruneDue_eq (recent : Recent settings interval requests limiter)
    (prunes : settings.pruneIntervalCalls = .finite interval) (positive : 0 < interval) :
    limiter.pruneDue settings =
      decide ((requests.countP Request.isCall + 1) % pruneEvery interval = 0) := by
  rw [pruneDue_eq_full prunes positive, recent.counted, decide_eq_decide]
  exact full_iff (pruneEvery_pos positive) _

/-- What is tracked after a call, apart from the caller, was tracked before it, and has been
seen within the retention if the call prunes. -/
theorem checkAndConsume_lookup_other (session : Session) {other : String}
    {state : RateLimitState} (different : other ≠ attestorId) {now : ℚ}
    (found : (session.step settings
      (.checkAndConsume attestorId now)).limiter.perAttestor.lookup other = some state) :
    session.limiter.perAttestor.lookup other = some state ∧
      (session.limiter.pruneDue settings = true →
        settings.idleRetentionMs.atMost (now - state.lastSeenAt) = false) := by
  have kept : (session.limiter.pruneIfDue settings now).perAttestor.lookup other = some state :=
    (checkAndConsume_lookup_ne settings session.limiter attestorId now different).symm.trans
      found
  rw [pruneIfDue_perAttestor] at kept
  split at kept
  · obtain ⟨before, recently⟩ := lookup_prune_some kept
    exact ⟨before, fun _ => recently⟩
  · rename_i notDue
    exact ⟨kept, fun due => absurd due notDue⟩

theorem Recent.checkAndConsume (recent : Recent settings interval requests session.limiter)
    (prunes : settings.pruneIntervalCalls = .finite interval) (positive : 0 < interval)
    (attestorId : String) (now : ℚ) :
    Recent settings interval (requests ++ [.checkAndConsume attestorId now])
      (session.step settings (.checkAndConsume attestorId now)).limiter := by
  have due := recent.pruneDue_eq prunes positive
  refine ⟨?_, ?_, ?_⟩
  · have calls : (session.step settings
        (.checkAndConsume attestorId now)).limiter.callsSincePrune =
          (session.limiter.pruneIfDue settings now).callsSincePrune := rfl
    have more : (requests ++ [Request.checkAndConsume attestorId now]).countP Request.isCall =
        requests.countP Request.isCall + 1 := List.countP_append
    rw [calls, pruneIfDue_callsSincePrune prunes positive, pruneDue_eq_full prunes positive,
      more, add_one_mod (pruneEvery_pos positive), ← recent.counted]
    simp only [decide_eq_true_eq]
  · intro other state found
    rw [lastCall_append]
    by_cases own : other = attestorId
    · subst other
      have self := (checkAndConsume_lookup_self settings session.limiter attestorId now).symm.trans
        found
      cases Option.some.inj self
      rw [consume_lastSeenAt, attestorCounters, rollWindow_lastSeenAt]
      simp [Request.callOf]
    · have none : (Request.checkAndConsume attestorId now).callOf other = none := by
        simp [Request.callOf, Ne.symm own]
      rw [none, Option.none_or]
      exact recent.seen other state (checkAndConsume_lookup_other session own found).1
  · intro other state found
    rw [lastStretch_step]
    by_cases own : other = attestorId
    · subst other
      split
      · exact Or.inl ⟨now, List.mem_singleton_self _⟩
      · exact Or.inl ⟨now, List.mem_append_right _ (List.mem_singleton_self _)⟩
    · obtain ⟨before, recently⟩ := checkAndConsume_lookup_other session own found
      split
      · -- The prune begins a new stretch, with this call as its first.
        rename_i pruned
        exact Or.inr ⟨.checkAndConsume attestorId now, state.lastSeenAt, rfl,
          recent.seen other state before, recently (due.trans pruned)⟩
      · exact (recent.active other state before).append _

theorem reached_recent (created : RateLimiter.create config start = .ok (settings, limiter))
    (prunes : settings.pruneIntervalCalls = .finite interval) (positive : 0 < interval)
    (requests : List Request) :
    Recent settings interval requests
      (Session.reached settings limiter start requests).limiter := by
  induction requests using List.reverseRecOn with
  | nil =>
      obtain ⟨_, rfl⟩ := create_ok created
      exact ⟨(Nat.zero_mod _).symm, nofun, nofun⟩
  | append_singleton before request ih =>
      rw [Session.reached, Machine.run_append]
      cases request with
      | checkAndConsume attestorId now => exact ih.checkAndConsume prunes positive attestorId now
      | prune now => exact ih.prune now

theorem mem_busy (settings : Settings) {last pruned : ℚ}
    (called : lastCall attestorId earlier = some last)
    (kept : settings.idleRetentionMs.atMost (pruned - last) = false) :
    attestorId ∈ busy settings earlier pruned := by
  unfold busy
  rw [List.mem_filter, List.mem_dedup, List.mem_filterMap, called]
  refine ⟨?_, by simp [kept]⟩
  obtain ⟨request, member, when⟩ :=
    List.mem_filterMap.mp (List.mem_of_getLast? called)
  refine ⟨request, member, ?_⟩
  cases request with
  | prune now => cases when
  | checkAndConsume other now =>
      by_cases same : other = attestorId
      · rw [same]
        rfl
      · simp [Request.callOf, same] at when

theorem countP_isCall (requests : List Request) :
    requests.countP Request.isCall = (requests.filterMap Request.caller).length := by
  induction requests with
  | nil => rfl
  | cons request rest ih =>
      cases request with
      | checkAndConsume attestorId now =>
          have named : (Request.checkAndConsume attestorId now).caller = some attestorId := rfl
          rw [List.countP_cons_of_pos rfl, List.filterMap_cons_some named, List.length_cons, ih]
      | prune now =>
          have unnamed : (Request.prune now).caller = none := rfl
          have silent : ¬ (Request.prune now).isCall = true := Bool.false_ne_true
          rw [List.countP_cons_of_neg silent, List.filterMap_cons_none unnamed, ih]

end Memory

/-- The attestors that are tracked have called since the last prune, which is no more calls
ago than the interval, or had called within the retention before it. -/
theorem tracked_attestors_bounded (config : RateLimitConfig) (start : ℚ) (settings : Settings)
    (limiter : RateLimiter)
    (created : RateLimiter.create config start = .ok (settings, limiter)) (interval : ℚ)
    (prunes : settings.pruneIntervalCalls = .finite interval) (positive : 0 < interval)
    (requests : List Request) :
    let reached := (Session.reached settings limiter start requests).limiter
    let stretch := lastStretch (pruneEvery interval) requests
    requests = stretch.earlier ++ stretch.later ∧
      stretch.later.countP Request.isCall ≤ pruneEvery interval ∧
      reached.trackedAttestorCount ≤ stretch.later.countP Request.isCall +
        (stretch.later.head?.elim 0 fun first =>
          (busy settings stretch.earlier first.now).length) := by
  intro reached stretch
  have recent := reached_recent created prunes positive requests
  refine ⟨(lastStretch_all requests).symm, ?_, ?_⟩
  · have every := pruneEvery_pos positive
    have below := Nat.mod_lt (requests.countP Request.isCall) every
    exact (lastStretch_calls requests every).trans below
  · have covered : reached.perAttestor.keys ⊆ stretch.later.filterMap Request.caller ++
        (stretch.later.head?.elim [] fun first => busy settings stretch.earlier first.now) := by
      intro attestorId tracked
      obtain ⟨state, found⟩ :=
        Option.isSome_iff_exists.mp (AList.lookup_isSome.mpr (AList.mem_keys.mpr tracked))
      rw [List.mem_append]
      rcases recent.active attestorId state found with
        ⟨now, member⟩ | ⟨first, last, head, called, kept⟩
      · exact Or.inl (List.mem_filterMap.mpr ⟨_, member, rfl⟩)
      · rw [head]
        exact Or.inr (mem_busy settings called kept)
    have bounded := (List.subperm_of_subset reached.perAttestor.keys_nodup covered).length_le
    rw [List.length_append, ← countP_isCall] at bounded
    refine bounded.trans_eq (congrArg _ ?_)
    cases stretch.later.head? with
    | none => rfl
    | some first => rfl

theorem sampleRequests_tracked_bounded :
    let reached := (Session.reached sampleSettings sampleLimiter 0 sampleRequests).limiter
    let stretch := lastStretch (pruneEvery 2) sampleRequests
    reached.trackedAttestorCount = 1 ∧
      stretch.later.countP Request.isCall ≤ pruneEvery 2 ∧
      reached.trackedAttestorCount ≤ stretch.later.countP Request.isCall +
        (stretch.later.head?.elim 0 fun first =>
          (busy sampleSettings stretch.earlier first.now).length) :=
  ⟨by decide +kernel, (tracked_attestors_bounded sampleConfig 0 sampleSettings sampleLimiter
    create_sampleConfig 2 rfl (by norm_num) sampleRequests).2⟩

end AnchorKit.Sdk
