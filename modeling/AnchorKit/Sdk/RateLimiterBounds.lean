import AnchorKit.Base.SlidingWindow
import AnchorKit.Sdk.RateLimiter

/-!
# Burst bounds of the rate limiter

The two counters of a key are the counts of its allowed requests in two neighbouring
windows, so that a request is allowed exactly if the sliding-window estimate over the
requests allowed before it leaves room.  A pruned key has been idle for two windows
and would estimate zero.
-/

set_option autoImplicit false

namespace AnchorKit.Sdk

open AnchorKit.Base
open AnchorKit.Base.SlidingWindow

/-! ## Counters as counts -/

/-- The counters of a key whose allowed requests are the log. -/
structure Tracks (width : ℚ) (log : List ℚ) (state : RateLimitState) : Prop where
  aligned : state.currentWindowStart = index width state.lastSeenAt * width
  current : state.currentCount = countIn width log (index width state.lastSeenAt)
  previous : state.previousCount = countIn width log (index width state.lastSeenAt - 1)
  past : ∀ time ∈ log, time ≤ state.lastSeenAt

section Counters

variable {width now : ℚ} {log : List ℚ} {state : RateLimitState}

theorem mathRound_intCast (value : ℤ) : mathRound value = value := by
  unfold mathRound
  rw [Int.floor_intCast_add]
  norm_num

theorem createState_tracks (positive : 0 < width)
    (old : ∀ time ∈ log, time + 2 * width ≤ now) :
    Tracks width log (createState now width) := by
  have before : ∀ time ∈ log, index width time + 2 ≤ index width now :=
    fun time member => index_add_le positive 2 (old time member)
  refine ⟨rfl, ?_, ?_, ?_⟩
  · exact (countIn_eq_zero_of_lt fun time member => by
      have apart := before time member
      change _ < index width now
      omega).symm
  · exact (countIn_eq_zero_of_lt fun time member => by
      have apart := before time member
      change _ < index width now - 1
      omega).symm
  · intro time member
    have ended := old time member
    change time ≤ now
    linarith

theorem rollWindow_eq (positive : 0 < width) {number : ℤ}
    (aligned : state.currentWindowStart = number * width) (now : ℚ) :
    rollWindow state now width =
      if index width now ≤ number then { state with lastSeenAt := now }
      else ⟨index width now * width, 0,
        if index width now = number + 1 then state.currentCount else 0, now⟩ := by
  have difference : (alignToWindow now width - state.currentWindowStart) / width =
      ((index width now - number : ℤ) : ℚ) := by
    rw [aligned, alignToWindow, ← sub_mul, mul_div_cancel_right₀ _ positive.ne', Int.cast_sub]
    rfl
  have elapsed : mathRound ((alignToWindow now width - state.currentWindowStart) / width) =
      index width now - number := by
    rw [difference, mathRound_intCast]
  unfold rollWindow
  dsimp only
  rw [elapsed]
  by_cases same : index width now ≤ number
  · rw [if_pos same, if_neg (by omega), if_neg (by omega)]
  · rw [if_neg same]
    by_cases one : index width now = number + 1
    · rw [if_pos (by omega), if_pos one]
      rfl
    · rw [if_neg (by omega), if_pos (by omega), if_neg one]
      rfl

theorem rollWindow_lastSeenAt (state : RateLimitState) (now width : ℚ) :
    (rollWindow state now width).lastSeenAt = now := by
  unfold rollWindow
  dsimp only
  split
  · rfl
  · split
    · rfl
    · rfl

theorem Tracks.rollWindow (tracks : Tracks width log state) (positive : 0 < width)
    (later : state.lastSeenAt ≤ now) : Tracks width log (rollWindow state now width) := by
  have past : ∀ time ∈ log, time ≤ now :=
    fun time member => (tracks.past time member).trans later
  have ordered := index_mono positive later
  have emptied : ∀ number, index width state.lastSeenAt < number →
      countIn width log number = 0 := by
    intro number beyond
    apply countIn_eq_zero_of_lt
    intro time member
    exact (index_mono positive (tracks.past time member)).trans_lt beyond
  rw [rollWindow_eq positive tracks.aligned]
  by_cases moved : index width now ≤ index width state.lastSeenAt
  · have same : index width state.lastSeenAt = index width now := by omega
    rw [if_pos moved]
    refine ⟨?_, ?_, ?_, past⟩
    · exact tracks.aligned.trans (by rw [same])
    · exact tracks.current.trans (by rw [same])
    · exact tracks.previous.trans (by rw [same])
  · rw [if_neg moved]
    refine ⟨rfl, (emptied _ (by dsimp only; omega)).symm, ?_, past⟩
    dsimp only
    by_cases one : index width now = index width state.lastSeenAt + 1
    · -- one window on: what was current is previous
      have back : index width now - 1 = index width state.lastSeenAt := by omega
      rw [if_pos one, tracks.current, back]
    · rw [if_neg one]
      exact (emptied _ (by omega)).symm

/-- At the time of the last request the code's estimate is the one over the log. -/
theorem Tracks.estimateCount_eq (tracks : Tracks width log state) (positive : 0 < width)
    (seen : state.lastSeenAt = now) :
    estimateCount state now width = estimate width log now := by
  have weight := one_sub_fract positive now
  have fractional := Int.fract_nonneg (now / width)
  have belowOne := Int.fract_lt_one (now / width)
  unfold estimateCount estimate
  dsimp only
  rw [tracks.aligned, tracks.current, tracks.previous, seen, ← weight,
    max_eq_right (by linarith), min_eq_right (by linarith)]

/-- The log of a key after a request at `now`. -/
def extend (allowed : Bool) (now : ℚ) (log : List ℚ) : List ℚ :=
  if allowed then now :: log else log

theorem consume_lastSeenAt (state : RateLimitState) (allowed : Bool) :
    (state.consume allowed).lastSeenAt = state.lastSeenAt := by
  cases allowed with
  | false => rfl
  | true => rfl

theorem Tracks.consume (tracks : Tracks width log state) (seen : state.lastSeenAt = now)
    (allowed : Bool) : Tracks width (extend allowed now log) (state.consume allowed) := by
  subst now
  cases allowed with
  | false => exact tracks
  | true =>
      refine ⟨tracks.aligned, ?_, ?_, ?_⟩
      · change state.currentCount + 1 =
          countIn width (state.lastSeenAt :: log) (index width state.lastSeenAt)
        rw [countIn_cons, tracks.current, if_pos rfl]
      · change state.previousCount =
          countIn width (state.lastSeenAt :: log) (index width state.lastSeenAt - 1)
        rw [countIn_cons, tracks.previous, if_neg (by omega), Nat.add_zero]
      · intro time member
        rcases List.mem_cons.mp member with rfl | earlier
        · exact le_rfl
        · exact tracks.past time earlier

theorem Tracks.admitted {limit : ℚ} (tracks : Tracks width log state) (positive : 0 < width)
    (seen : state.lastSeenAt = now) (admitted : Admitted width limit log) {allowed : Bool}
    (fits : allowed = true → estimateCount state now width + 1 ≤ limit) :
    Admitted width limit (extend allowed now log) := by
  cases allowed with
  | false => exact admitted
  | true =>
      have room := fits rfl
      rw [tracks.estimateCount_eq positive seen] at room
      refine .cons ?_ room admitted
      intro time member
      exact seen ▸ tracks.past time member

end Counters

/-! ## What the limiter keeps of a key -/

/-- What is kept of a key whose allowed requests are the log: counters that track it,
or nothing if the log ended two windows ago. -/
def Remembers (width : ℚ) (log : List ℚ) (clock : ℚ) : Option RateLimitState → Prop
  | some state => Tracks width log state ∧ state.lastSeenAt ≤ clock
  | none => ∀ time ∈ log, time + 2 * width ≤ clock

section Keys

variable {settings : Settings} {limiter : RateLimiter} {log : List ℚ} {clock now : ℚ}
  {attestorId : String} {kept : Option RateLimitState}

theorem Number.le_of_atLeast_of_atMost {number : Number} {least most : ℚ}
    (atLeast : number.atLeast least = true) (atMost : number.atMost most = true) :
    least ≤ most := by
  cases number with
  | finite own =>
      simp only [Number.atLeast, Number.atMost, decide_eq_true_eq] at atLeast atMost
      exact atLeast.trans atMost
  | infinity negative =>
      simp only [Number.atLeast, Number.atMost] at atLeast atMost
      simp [atMost] at atLeast
  | nan => cases atLeast

theorem Remembers.mono {width : ℚ} (remembers : Remembers width log clock kept)
    (later : clock ≤ now) : Remembers width log now kept := by
  cases kept with
  | none => exact fun time member => (remembers time member).trans later
  | some state => exact ⟨remembers.1, remembers.2.trans later⟩

theorem Tracks.remembers {width : ℚ} {state : RateLimitState}
    (tracks : Tracks width log state) (seen : state.lastSeenAt = now) (allowed : Bool) :
    Remembers width (extend allowed now log) now (some (state.consume allowed)) :=
  ⟨tracks.consume seen allowed, ((consume_lastSeenAt state allowed).trans seen).le⟩

theorem lookup_prune (settings : Settings) (limiter : RateLimiter) (now : ℚ)
    (attestorId : String) :
    (limiter.prune settings now).2.perAttestor.lookup attestorId =
      (limiter.perAttestor.lookup attestorId).filter fun state => !idle settings now state := by
  apply Option.ext
  intro state
  have pruned := List.mem_dlookup_iff (limiter.prune settings now).2.perAttestor.nodupKeys
    (a := attestorId) (b := state)
  have before := List.mem_dlookup_iff limiter.perAttestor.nodupKeys
    (a := attestorId) (b := state)
  rw [Option.filter_eq_some_iff]
  refine pruned.trans ?_
  rw [RateLimiter.prune, List.mem_filter]
  exact and_congr_left' before.symm

/-- Two windows of retention are enough to forget a key. -/
theorem Remembers.prune (remembers : Remembers settings.windowMs log clock
      (limiter.perAttestor.lookup attestorId))
    (retains : settings.idleRetentionMs.atLeast (2 * settings.windowMs) = true)
    (later : clock ≤ now) :
    Remembers settings.windowMs log now
      ((limiter.prune settings now).2.perAttestor.lookup attestorId) := by
  rw [lookup_prune]
  cases found : limiter.perAttestor.lookup attestorId with
  | none =>
      rw [found] at remembers
      exact remembers.mono later
  | some state =>
      rw [found] at remembers
      cases old : idle settings now state with
      | false =>
          simp only [Option.filter, old, Bool.not_false, if_true]
          exact remembers.mono later
      | true =>
          simp only [Option.filter, old, Bool.not_true, Bool.false_eq_true, if_false]
          intro time member
          have seen := remembers.1.past time member
          have apart := Number.le_of_atLeast_of_atMost retains old
          linarith

theorem Remembers.pruneIfDue (remembers : Remembers settings.windowMs log clock
      (limiter.perAttestor.lookup attestorId))
    (retains : settings.idleRetentionMs.atLeast (2 * settings.windowMs) = true)
    (later : clock ≤ now) :
    Remembers settings.windowMs log now
      ((limiter.pruneIfDue settings now).perAttestor.lookup attestorId) := by
  unfold RateLimiter.pruneIfDue
  split
  · dsimp only
    split
    · exact remembers.prune retains later
    · exact remembers.mono later
  · exact remembers.mono later

theorem pruneIfDue_global (settings : Settings) (limiter : RateLimiter) (now : ℚ) :
    (limiter.pruneIfDue settings now).global = limiter.global := by
  unfold RateLimiter.pruneIfDue
  split
  · dsimp only
    split
    · rfl
    · rfl
  · rfl

theorem Remembers.rolled {width : ℚ} (remembers : Remembers width log now kept)
    (positive : 0 < width) :
    Tracks width log (rollWindow (kept.getD (createState now width)) now width) := by
  cases kept with
  | none =>
      exact (createState_tracks positive remembers).rollWindow positive le_rfl
  | some state => exact remembers.1.rollWindow positive remembers.2

end Keys

/-! ## What one call does -/

section Call

variable (settings : Settings) (limiter : RateLimiter) (attestorId : String) (now : ℚ)

def attestorCounters : RateLimitState :=
  rollWindow (((limiter.pruneIfDue settings now).perAttestor.lookup attestorId).getD
    (createState now settings.windowMs)) now settings.windowMs

def globalCounters : RateLimitState :=
  rollWindow limiter.global now settings.windowMs

theorem checkAndConsume_allowed_iff :
    (limiter.checkAndConsume settings attestorId now).1.allowed = true ↔
      estimateCount (attestorCounters settings limiter attestorId now) now
          settings.windowMs + 1 ≤ settings.perAttestorLimit ∧
        estimateCount (globalCounters settings limiter now) now settings.windowMs + 1 ≤
          settings.globalLimit := by
  unfold globalCounters
  rw [← pruneIfDue_global settings limiter now]
  simp only [RateLimiter.checkAndConsume, Bool.and_eq_true, decide_eq_true_eq]
  rfl

theorem checkAndConsume_global :
    (limiter.checkAndConsume settings attestorId now).2.global =
      (globalCounters settings limiter now).consume
        (limiter.checkAndConsume settings attestorId now).1.allowed := by
  unfold globalCounters
  rw [← pruneIfDue_global settings limiter now]
  rfl

theorem checkAndConsume_lookup_self :
    (limiter.checkAndConsume settings attestorId now).2.perAttestor.lookup attestorId =
      some ((attestorCounters settings limiter attestorId now).consume
        (limiter.checkAndConsume settings attestorId now).1.allowed) :=
  AList.lookup_insert _

theorem checkAndConsume_lookup_ne {other : String} (different : other ≠ attestorId) :
    (limiter.checkAndConsume settings attestorId now).2.perAttestor.lookup other =
      (limiter.pruneIfDue settings now).perAttestor.lookup other :=
  AList.lookup_insert_ne different

end Call

/-! ## Runs -/

def timesOf (attestorId : String) (allowed : List (String × ℚ)) : List ℚ :=
  (allowed.filter fun request => decide (request.1 = attestorId)).map Prod.snd

def allTimes (allowed : List (String × ℚ)) : List ℚ := allowed.map Prod.snd

/-- The counters count the allowed requests, each of which the estimate admitted. -/
structure Sound (settings : Settings) (session : Session) : Prop where
  global : Remembers settings.windowMs (allTimes session.allowed) session.clock
    (some session.limiter.global)
  attestor : ∀ attestorId, Remembers settings.windowMs (timesOf attestorId session.allowed)
    session.clock (session.limiter.perAttestor.lookup attestorId)
  globalAdmitted : Admitted settings.windowMs settings.globalLimit (allTimes session.allowed)
  attestorAdmitted : ∀ attestorId, Admitted settings.windowMs settings.perAttestorLimit
    (timesOf attestorId session.allowed)

section Runs

variable {settings : Settings} {session : Session}

theorem Sound.prune (sound : Sound settings session)
    (retains : settings.idleRetentionMs.atLeast (2 * settings.windowMs) = true) {now : ℚ}
    (later : session.clock ≤ now) :
    Sound settings (session.step settings (.prune now)) where
  global := sound.global.mono later
  attestor := fun attestorId => (sound.attestor attestorId).prune retains later
  globalAdmitted := sound.globalAdmitted
  attestorAdmitted := sound.attestorAdmitted

theorem step_allTimes (settings : Settings) (session : Session) (attestorId : String)
    (now : ℚ) :
    allTimes (session.step settings (.checkAndConsume attestorId now)).allowed =
      extend (session.limiter.checkAndConsume settings attestorId now).1.allowed now
        (allTimes session.allowed) := by
  simp only [Session.step, extend]
  split
  · rfl
  · rfl

theorem step_timesOf_self (settings : Settings) (session : Session) (attestorId : String)
    (now : ℚ) :
    timesOf attestorId (session.step settings (.checkAndConsume attestorId now)).allowed =
      extend (session.limiter.checkAndConsume settings attestorId now).1.allowed now
        (timesOf attestorId session.allowed) := by
  simp only [Session.step, extend]
  split
  · simp [timesOf]
  · rfl

theorem step_timesOf_ne (settings : Settings) (session : Session)
    {attestorId other : String} (different : other ≠ attestorId) (now : ℚ) :
    timesOf other (session.step settings (.checkAndConsume attestorId now)).allowed =
      timesOf other session.allowed := by
  simp only [Session.step]
  split
  · simp [timesOf, different.symm]
  · rfl

theorem Sound.checkAndConsume (sound : Sound settings session)
    (retains : settings.idleRetentionMs.atLeast (2 * settings.windowMs) = true)
    (attestorId : String) {now : ℚ} (later : session.clock ≤ now) :
    Sound settings (session.step settings (.checkAndConsume attestorId now)) := by
  have positive := settings.windowMs_pos
  have kept := fun other => (sound.attestor other).pruneIfDue retains later
  have tracks : Tracks settings.windowMs (timesOf attestorId session.allowed)
      (attestorCounters settings session.limiter attestorId now) :=
    (kept attestorId).rolled positive
  have globalTracks : Tracks settings.windowMs (allTimes session.allowed)
      (globalCounters settings session.limiter now) :=
    (sound.global.mono later).rolled positive
  have seen : (attestorCounters settings session.limiter attestorId now).lastSeenAt = now :=
    rollWindow_lastSeenAt _ _ _
  have globalSeen : (globalCounters settings session.limiter now).lastSeenAt = now :=
    rollWindow_lastSeenAt _ _ _
  have room := (checkAndConsume_allowed_iff settings session.limiter attestorId now).mp
  constructor
  · rw [step_allTimes]
    have global : (session.step settings (.checkAndConsume attestorId now)).limiter.global =
        _ := checkAndConsume_global settings session.limiter attestorId now
    rw [global]
    exact globalTracks.remembers globalSeen _
  · intro other
    by_cases own : other = attestorId
    · subst other
      rw [step_timesOf_self]
      have found : (session.step settings
          (.checkAndConsume attestorId now)).limiter.perAttestor.lookup attestorId = _ :=
        checkAndConsume_lookup_self settings session.limiter attestorId now
      rw [found]
      exact tracks.remembers seen _
    · rw [step_timesOf_ne settings session own]
      have found : (session.step settings
          (.checkAndConsume attestorId now)).limiter.perAttestor.lookup other = _ :=
        checkAndConsume_lookup_ne settings session.limiter attestorId now own
      rw [found]
      exact kept other
  · rw [step_allTimes]
    exact globalTracks.admitted positive globalSeen sound.globalAdmitted
      fun allowed => (room allowed).2
  · intro other
    by_cases own : other = attestorId
    · subst other
      rw [step_timesOf_self]
      exact tracks.admitted positive seen (sound.attestorAdmitted attestorId)
        fun allowed => (room allowed).1
    · rw [step_timesOf_ne settings session own]
      exact sound.attestorAdmitted other

theorem Sound.step (sound : Sound settings session)
    (retains : settings.idleRetentionMs.atLeast (2 * settings.windowMs) = true)
    (request : Request) (later : session.clock ≤ request.now) :
    Sound settings (session.step settings request) := by
  cases request with
  | checkAndConsume attestorId now => exact sound.checkAndConsume retains attestorId later
  | prune now => exact sound.prune retains later

theorem Session.step_clock (settings : Settings) (session : Session) (request : Request) :
    (session.step settings request).clock = request.now := by
  cases request with
  | checkAndConsume attestorId now => rfl
  | prune now => rfl

theorem Sound.run (sound : Sound settings session)
    (retains : settings.idleRetentionMs.atLeast (2 * settings.windowMs) = true)
    (requests : List Request)
    (ordered : (session.clock :: requests.map Request.now).Pairwise (· ≤ ·)) :
    Sound settings (Machine.run (Session.step settings) session requests) := by
  induction requests generalizing session with
  | nil => exact sound
  | cons request rest ih =>
      obtain ⟨first, others⟩ := List.pairwise_cons.mp ordered
      have later : session.clock ≤ request.now := first _ (List.mem_cons_self ..)
      refine ih (sound.step retains request later) ?_
      rw [Session.step_clock]
      exact others

end Runs

theorem create_ok {config : RateLimitConfig} {start : ℚ} {settings : Settings}
    {limiter : RateLimiter} (created : RateLimiter.create config start = .ok (settings, limiter)) :
    config.settings = .ok settings ∧
      limiter = ⟨∅, createState start settings.windowMs, 0⟩ := by
  unfold RateLimiter.create at created
  cases accepted : config.settings with
  | error refusal =>
      rw [accepted] at created
      cases created
  | ok own =>
      rw [accepted] at created
      cases created
      exact ⟨rfl, rfl⟩

theorem create_sound {config : RateLimitConfig} {start : ℚ} {settings : Settings}
    {limiter : RateLimiter} (created : RateLimiter.create config start = .ok (settings, limiter)) :
    Sound settings ⟨limiter, [], start⟩ := by
  obtain ⟨_, fresh⟩ := create_ok created
  subst limiter
  exact
    { global := ⟨createState_tracks settings.windowMs_pos nofun, le_rfl⟩
      attestor := fun _ => nofun
      globalAdmitted := .nil
      attestorAdmitted := fun _ => .nil }

/-- How many requests a session has allowed, to one attestor and to all, in an
interval of at most one window and in an aligned window. -/
structure BurstBounded (settings : Settings) (allowed : List (String × ℚ)) : Prop where
  attestor : ∀ attestorId since length, 0 < length → length ≤ settings.windowMs →
    (countBetween (timesOf attestorId allowed) since length : ℚ) ≤
      settings.perAttestorLimit * (1 + length / settings.windowMs)
  all : ∀ since length, 0 < length → length ≤ settings.windowMs →
    (countBetween (allTimes allowed) since length : ℚ) ≤
      settings.globalLimit * (1 + length / settings.windowMs)
  attestorWindow : ∀ attestorId number,
    (countIn settings.windowMs (timesOf attestorId allowed) number : ℚ) ≤
      settings.perAttestorLimit
  allWindow : ∀ number,
    (countIn settings.windowMs (allTimes allowed) number : ℚ) ≤ settings.globalLimit

theorem Sound.burstBounded {settings : Settings} {session : Session}
    (sound : Sound settings session) : BurstBounded settings session.allowed where
  attestor := fun attestorId _ _ longer short =>
    (sound.attestorAdmitted attestorId).burst_le settings.windowMs_pos
      settings.perAttestorLimit_pos.le longer short
  all := fun _ _ longer short =>
    sound.globalAdmitted.burst_le settings.windowMs_pos settings.globalLimit_pos.le longer short
  attestorWindow := fun attestorId =>
    (sound.attestorAdmitted attestorId).countIn_le settings.perAttestorLimit_pos.le
  allWindow := sound.globalAdmitted.countIn_le settings.globalLimit_pos.le

/-- Every run of calls with non-decreasing times keeps the burst bounds, if idle
counters are retained for at least two windows. -/
theorem allowed_requests_burst_bounded (config : RateLimitConfig) (start : ℚ)
    (settings : Settings) (limiter : RateLimiter)
    (created : RateLimiter.create config start = .ok (settings, limiter))
    (retains : settings.idleRetentionMs.atLeast (2 * settings.windowMs) = true)
    (requests : List Request)
    (ordered : (start :: requests.map Request.now).Pairwise (· ≤ ·)) :
    BurstBounded settings (Session.reached settings limiter start requests).allowed :=
  ((create_sound created).run retains requests ordered).burstBounded

section Sample

def sampleConfig : RateLimitConfig where
  perAttestorLimit := .finite 2
  globalLimit := .finite 3
  windowMs := .finite 10
  idleRetentionMs := none
  pruneIntervalCalls := some (.finite 2)

def sampleSettings : Settings where
  perAttestorLimit := 2
  globalLimit := 3
  windowMs := 10
  idleRetentionMs := .finite 20
  pruneIntervalCalls := .finite 2
  perAttestorLimit_pos := by norm_num
  windowMs_pos := by norm_num
  perAttestorLimit_le := by norm_num

def sampleLimiter : RateLimiter where
  perAttestor := ∅
  global := createState 0 10
  callsSincePrune := 0

/-- Bursts at both sides of a window boundary, and a prune after a long pause. -/
def sampleRequests : List Request :=
  [.checkAndConsume "a" 9, .checkAndConsume "a" 9, .checkAndConsume "b" 9,
    .checkAndConsume "b" 10, .checkAndConsume "a" 15, .prune 40, .checkAndConsume "a" 41]

end Sample

theorem create_sampleConfig :
    RateLimiter.create sampleConfig 0 = .ok (sampleSettings, sampleLimiter) := by
  with_unfolding_all rfl

theorem sampleRequests_burst_bounded :
    (Session.reached sampleSettings sampleLimiter 0 sampleRequests).allowed =
        [("a", 41), ("a", 15), ("b", 9), ("a", 9), ("a", 9)] ∧
      BurstBounded sampleSettings
        (Session.reached sampleSettings sampleLimiter 0 sampleRequests).allowed :=
  ⟨by decide +kernel, allowed_requests_burst_bounded sampleConfig 0 sampleSettings
    sampleLimiter create_sampleConfig (by decide +kernel) sampleRequests (by decide +kernel)⟩

end AnchorKit.Sdk
