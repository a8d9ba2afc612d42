import AnchorKit.Sdk.RateLimiterInvisible

/-!
# The rate limiter against a full log

The limiter keeps two counters for each attestor, rolls them and throws idle ones away.
A limiter that kept every request it has ever allowed, and estimated the rate from that
log, would answer the same.  Where the cap over all attestors never bites, each attestor
is answered as if it were alone.
-/

set_option autoImplicit false

namespace AnchorKit.Sdk

open AnchorKit.Base
open AnchorKit.Base.SlidingWindow

section Log

variable (settings : Settings)

/-- The status of a request by the log of all requests allowed so far, the last one first. -/
def logStatus (allowed : List (String × ℚ)) (attestorId : String) (now : ℚ) :
    RateLimitStatus :=
  statusFrom settings (estimate settings.windowMs (timesOf attestorId allowed) now)
    (estimate settings.windowMs (allTimes allowed) now) now

/-- The limiter that keeps the log, and never prunes it. -/
def logStep (allowed : List (String × ℚ)) : Request → List (String × ℚ)
  | .checkAndConsume attestorId now =>
      if (logStatus settings allowed attestorId now).allowed then (attestorId, now) :: allowed
      else allowed
  | .prune _ => allowed

def answers (visit : Session × Request) : List (String × RateLimitStatus) :=
  match visit.2 with
  | .checkAndConsume attestorId now =>
      [(attestorId, (visit.1.limiter.checkAndConsume settings attestorId now).1)]
  | .prune _ => []

def logAnswers (visit : List (String × ℚ) × Request) : List (String × RateLimitStatus) :=
  match visit.2 with
  | .checkAndConsume attestorId now => [(attestorId, logStatus settings visit.1 attestorId now)]
  | .prune _ => []

end Log

section Refinement

variable {settings : Settings} {session : Session}

theorem Sound.status_eq (sound : Sound settings session)
    (retains : settings.idleRetentionMs.atLeast (2 * settings.windowMs) = true)
    (attestorId : String) {now : ℚ} (later : session.clock ≤ now) :
    (session.limiter.checkAndConsume settings attestorId now).1 =
      logStatus settings session.allowed attestorId now := by
  have positive := settings.windowMs_pos
  have tracks : Tracks settings.windowMs (timesOf attestorId session.allowed)
      (attestorCounters settings session.limiter attestorId now) :=
    ((sound.attestor attestorId).pruneIfDue retains later).rolled positive
  have globalTracks : Tracks settings.windowMs (allTimes session.allowed)
      (globalCounters settings session.limiter now) :=
    (sound.global.mono later).rolled positive
  rw [checkAndConsume_status, statusOf,
    tracks.estimateCount_eq positive (rollWindow_lastSeenAt _ _ _),
    globalTracks.estimateCount_eq positive (rollWindow_lastSeenAt _ _ _)]
  rfl

theorem visits_ordered (requests : List Request) (session : Session)
    (ordered : (session.clock :: requests.map Request.now).Pairwise (· ≤ ·)) :
    ∀ visit ∈ Machine.visits (Session.step settings) session requests,
      visit.1.clock ≤ visit.2.now := by
  induction requests generalizing session with
  | nil => simp [Machine.visits]
  | cons request rest ih =>
      obtain ⟨first, others⟩ := List.pairwise_cons.mp ordered
      intro visit member
      rcases List.mem_cons.mp member with rfl | inRest
      · exact first _ List.mem_cons_self
      · refine ih (session.step settings request) ?_ visit inRest
        rw [Session.step_clock]
        exact others

theorem Sound.answers_eq (sound : Sound settings session)
    (retains : settings.idleRetentionMs.atLeast (2 * settings.windowMs) = true)
    (requests : List Request)
    (ordered : (session.clock :: requests.map Request.now).Pairwise (· ≤ ·)) :
    Machine.outputs (Session.step settings) (answers settings) session requests =
      Machine.outputs (logStep settings) (logAnswers settings) session.allowed requests := by
  have follows := Machine.outputs_simulates (Session.step settings) (answers settings)
    (logStep settings) (logAnswers settings) (fun request => [request])
    (fun session allowed => Sound settings session ∧ session.allowed = allowed)
    requests session session.allowed ?_ ⟨sound, rfl⟩
  · rwa [List.flatMap_singleton'] at follows
  · rintro ⟨session, request⟩ visited _ ⟨sound, rfl⟩
    have later := visits_ordered requests _ ordered _ visited
    dsimp only at sound later
    refine ⟨?_, sound.step retains request later, ?_⟩
    · rw [Machine.outputs_singleton]
      cases request with
      | prune now => rfl
      | checkAndConsume attestorId now =>
          exact congrArg (fun status => [(attestorId, status)])
            (sound.status_eq retains attestorId later)
    · cases request with
      | prune now => rfl
      | checkAndConsume attestorId now =>
          have same : (session.limiter.checkAndConsume settings attestorId now).1 =
            logStatus settings session.allowed attestorId now :=
              sound.status_eq retains attestorId later
          dsimp only [Session.step, Machine.run, logStep]
          rw [same]

/-- Every answer is the one that the full log would give. -/
theorem counters_answer_like_log (config : RateLimitConfig) (start : ℚ) (settings : Settings)
    (limiter : RateLimiter)
    (created : RateLimiter.create config start = .ok (settings, limiter))
    (retains : settings.idleRetentionMs.atLeast (2 * settings.windowMs) = true)
    (requests : List Request)
    (ordered : (start :: requests.map Request.now).Pairwise (· ≤ ·)) :
    Machine.outputs (Session.step settings) (answers settings) ⟨limiter, [], start⟩ requests =
      Machine.outputs (logStep settings) (logAnswers settings) [] requests :=
  (create_sound created).answers_eq retains requests ordered

end Refinement

theorem sampleRequests_answered_like_log :
    Machine.outputs (Session.step sampleSettings) (answers sampleSettings)
        ⟨sampleLimiter, [], 0⟩ sampleRequests =
      Machine.outputs (logStep sampleSettings) (logAnswers sampleSettings) [] sampleRequests :=
  counters_answer_like_log sampleConfig 0 sampleSettings sampleLimiter create_sampleConfig
    (by decide +kernel) sampleRequests (by decide +kernel)

/-! ## Attestors on their own -/

structure OwnStatus where
  allowed : Bool
  remaining : ℤ
  retryAfterMs : ℚ
  limitedBy : Option LimitedBy

def RateLimitStatus.own (status : RateLimitStatus) : OwnStatus where
  allowed := status.allowed
  remaining := status.remaining
  retryAfterMs := status.retryAfterMs
  limitedBy := status.limitedBy

def answerTo (attestorId : String) (answer : String × RateLimitStatus) : Option OwnStatus :=
  if answer.1 = attestorId then some answer.2.own else none

def Request.isFrom (attestorId : String) : Request → Bool
  | .checkAndConsume other _ => decide (other = attestorId)
  | .prune _ => false

section Isolation

variable {settings : Settings} {attestorId : String} {allowed solo : List (String × ℚ)}

/-- The attestor's requests are the same in both logs, and there are no others in the second. -/
structure Projects (attestorId : String) (allowed solo : List (String × ℚ)) : Prop where
  same : timesOf attestorId allowed = timesOf attestorId solo
  alone : allTimes solo = timesOf attestorId solo

theorem Projects.cons (projects : Projects attestorId allowed solo) (now : ℚ) :
    Projects attestorId ((attestorId, now) :: allowed) ((attestorId, now) :: solo) := by
  have own : ∀ log, timesOf attestorId ((attestorId, now) :: log) =
      now :: timesOf attestorId log := by
    intro log
    simp [timesOf]
  constructor
  · rw [own, own, projects.same]
  · rw [own, ← projects.alone]
    rfl

theorem Projects.cons_other (projects : Projects attestorId allowed solo) {other : String}
    (different : other ≠ attestorId) (now : ℚ) :
    Projects attestorId ((other, now) :: allowed) solo := by
  refine ⟨?_, projects.alone⟩
  rw [← projects.same]
  simp [timesOf, different]

theorem statusFrom_own {attestorEstimate globalEstimate now : ℚ}
    (unlimited : (statusFrom settings attestorEstimate globalEstimate now).limitedBy ≠
      some .global) :
    (statusFrom settings attestorEstimate globalEstimate now).own =
      (statusFrom settings attestorEstimate attestorEstimate now).own := by
  unfold statusFrom at unlimited
  by_cases attestorOk : attestorEstimate + 1 ≤ settings.perAttestorLimit
  · have globalOk : globalEstimate + 1 ≤ settings.globalLimit := by
      apply Decidable.byContradiction
      intro exceeded
      simp [attestorOk, exceeded] at unlimited
    have ownOk : attestorEstimate + 1 ≤ settings.globalLimit :=
      attestorOk.trans settings.perAttestorLimit_le
    simp [statusFrom, RateLimitStatus.own, attestorOk, globalOk, ownOk]
  · simp [statusFrom, RateLimitStatus.own, attestorOk]

theorem Projects.own_eq (projects : Projects attestorId allowed solo) {now : ℚ}
    (unlimited : (logStatus settings allowed attestorId now).limitedBy ≠ some .global) :
    (logStatus settings allowed attestorId now).own =
      (logStatus settings solo attestorId now).own := by
  have first := statusFrom_own unlimited
  unfold logStatus
  rw [first, projects.alone, projects.same]

theorem Projects.step (projects : Projects attestorId allowed solo) (request : Request)
    (unlimited : ∀ answer ∈ logAnswers settings (allowed, request),
      answer.2.limitedBy ≠ some .global) :
    (logAnswers settings (allowed, request)).filterMap (answerTo attestorId) =
        Machine.outputs (logStep settings)
          (fun visit => (logAnswers settings visit).filterMap (answerTo attestorId)) solo
          ([request].filter (Request.isFrom attestorId)) ∧
      Projects attestorId (logStep settings allowed request)
        (Machine.run (logStep settings) solo ([request].filter (Request.isFrom attestorId))) := by
  cases request with
  | prune now => exact ⟨rfl, projects⟩
  | checkAndConsume other now =>
      by_cases own : other = attestorId
      · subst other
        have free := unlimited _ (List.mem_singleton_self _)
        have same := projects.own_eq free
        have alike : (logStatus settings allowed attestorId now).allowed =
            (logStatus settings solo attestorId now).allowed := congrArg OwnStatus.allowed same
        have mine : [Request.checkAndConsume attestorId now].filter
            (Request.isFrom attestorId) = [Request.checkAndConsume attestorId now] := by
          simp [Request.isFrom]
        rw [mine]
        refine ⟨?_, ?_⟩
        · rw [Machine.outputs_singleton]
          simp [logAnswers, answerTo, same]
        · dsimp only [Machine.run, logStep]
          rw [alike]
          split
          · exact projects.cons now
          · exact projects
      · have none : [Request.checkAndConsume other now].filter (Request.isFrom attestorId) =
            [] := by
          simp [Request.isFrom, own]
        rw [none]
        refine ⟨?_, ?_⟩
        · simp [logAnswers, answerTo, own, Machine.outputs, Machine.visits]
        · dsimp only [Machine.run, logStep]
          split
          · exact projects.cons_other own now
          · exact projects

end Isolation

/-- If nothing in a run is refused because of the cap over all attestors, the attestor is
answered in it as it would be with no others about. -/
theorem attestors_answered_alone (config : RateLimitConfig) (start : ℚ) (settings : Settings)
    (limiter : RateLimiter)
    (created : RateLimiter.create config start = .ok (settings, limiter))
    (retains : settings.idleRetentionMs.atLeast (2 * settings.windowMs) = true)
    (requests : List Request)
    (ordered : (start :: requests.map Request.now).Pairwise (· ≤ ·))
    (unlimited : ∀ answer ∈ Machine.outputs (Session.step settings) (answers settings)
      ⟨limiter, [], start⟩ requests, answer.2.limitedBy ≠ some .global)
    (attestorId : String) :
    (Machine.outputs (Session.step settings) (answers settings) ⟨limiter, [], start⟩
        requests).filterMap (answerTo attestorId) =
      (Machine.outputs (Session.step settings) (answers settings) ⟨limiter, [], start⟩
        (requests.filter (Request.isFrom attestorId))).filterMap (answerTo attestorId) := by
  have orderedOwn : (start :: (requests.filter (Request.isFrom attestorId)).map
      Request.now).Pairwise (· ≤ ·) :=
    ordered.sublist ((List.filter_sublist.map Request.now).cons_cons start)
  have sound := create_sound created
  rw [sound.answers_eq retains requests ordered] at unlimited ⊢
  rw [sound.answers_eq retains _ orderedOwn, Machine.outputs_filterMap,
    Machine.outputs_filterMap]
  have single : requests.filter (Request.isFrom attestorId) =
      requests.flatMap fun request => [request].filter (Request.isFrom attestorId) := by
    rw [← List.filter_flatMap, List.flatMap_singleton']
  rw [single]
  refine Machine.outputs_simulates _ _ _ _ _ (Projects attestorId) requests [] [] ?_ ⟨rfl, rfl⟩
  rintro ⟨allowed, request⟩ visited solo projects
  refine projects.step request fun answer member => unlimited answer ?_
  exact List.mem_flatMap.mpr ⟨_, visited, member⟩

def twoAttestors : List Request :=
  [.checkAndConsume "a" 0, .checkAndConsume "b" 1, .checkAndConsume "a" 2,
    .checkAndConsume "a" 3]

theorem first_attestor_answered_alone :
    let limited := Machine.outputs (Session.step sampleSettings) (answers sampleSettings)
      ⟨sampleLimiter, [], 0⟩ twoAttestors
    limited.map (fun answer => answer.2.limitedBy) = [none, none, none, some .attestor] ∧
      limited.filterMap (answerTo "a") =
        (Machine.outputs (Session.step sampleSettings) (answers sampleSettings)
          ⟨sampleLimiter, [], 0⟩ (twoAttestors.filter (Request.isFrom "a"))).filterMap
            (answerTo "a") :=
  ⟨by decide +kernel, attestors_answered_alone sampleConfig 0 sampleSettings sampleLimiter
    create_sampleConfig (by decide +kernel) twoAttestors (by decide +kernel)
    (by decide +kernel) "a"⟩

end AnchorKit.Sdk
