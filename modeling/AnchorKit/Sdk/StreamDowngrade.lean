import AnchorKit.Sdk.StreamLiveness

/-!
# The transport only gets worse

`runLoop` picks the transport from the current mode and the two flags, and only a source
that cannot be created and a long poll that is not offered change any of them.  What is
in flight, or will be set up after the handlers, is of the current mode, so the branches
that go on without asking `runLoop` do not bring an earlier mode back.
-/

set_option autoImplicit false

namespace AnchorKit.Sdk.Stream

open AnchorKit.Base

def StreamMode.rank : StreamMode → Nat
  | .sse => 0
  | .longPoll => 1
  | .polling => 2

/-! ## Refusals and uses -/

def TransactionStream.prefersSse (stream : TransactionStream) : Bool :=
  !stream.stopped && (stream.sseSupported && stream.currentMode == .sse)

/-- What creating a source comes to, if the step tries to create one. -/
def sourceTried (visit : TransactionStream × Event) : Option Bool :=
  match visit.2 with
  | .start available =>
      if !visit.1.running && visit.1.prefersSse then some available else none
  | .occurs (.timerFires timer available) =>
      if visit.1.stack.isEmpty && (visit.1.timers.find? (·.number == timer)).any
          (·.task == .runLoop) && visit.1.prefersSse then
        some available
      else none
  | _ => none

/-- No source can be created, or a long poll is answered with 404 or 405. -/
def refuses (visit : TransactionStream × Event) : StreamMode → Bool
  | .sse => sourceTried visit == some false
  | .longPoll =>
      match visit.2 with
      | .occurs (.fetchSettles request (.response status)) =>
          visit.1.stack.isEmpty && (status == 404 || status == 405) &&
            (visit.1.requests.find? fun own => own.number == request && !own.reading).any
              (·.mode == .longPoll)
      | _ => false
  | .polling => false

/-- The step makes a connection or a request of the mode. -/
def Uses (config : Config) (visit : TransactionStream × Event) (mode : StreamMode) : Prop :=
  (mode = .sse ∧ ((sourceTried visit).isSome = true ∨
      ∃ source ∈ (visit.1.step config visit.2).sources,
        ∀ old ∈ visit.1.sources, old.number ≠ source.number)) ∨
    ∃ request ∈ (visit.1.step config visit.2).requests,
      request.mode.mode = mode ∧ ∀ old ∈ visit.1.requests, old.number ≠ request.number

/-! ## The mode in force -/

structure Coherent (stream : TransactionStream) : Prop where
  sse : stream.currentMode = .sse → stream.sseSupported = true
  polling : stream.longPollSupported = false → stream.currentMode = .polling

def Continuation.TunedTo (mode : StreamMode) : Continuation → Prop
  | .processed _ _ (some origin) => origin.mode = mode
  | _ => True

structure Tuned (stream : TransactionStream) : Prop where
  requests : ∀ request ∈ stream.requests, request.mode.mode = stream.currentMode
  stack : ∀ frame ∈ stream.stack, frame.after.TunedTo stream.currentMode
  timers : ∀ timer ∈ stream.timers, timer.task = .pollOnce → stream.currentMode = .polling

/-- The mode stays, and with it what is under way.  A stream that has stopped sends
nothing, and only SSE opens sources. -/
structure Steady (stream after : TransactionStream) : Prop where
  currentMode : after.currentMode = stream.currentMode
  sseSupported : after.sseSupported = stream.sseSupported
  longPollSupported : after.longPollSupported = stream.longPollSupported
  tuned : Tuned stream → Tuned after
  silent : stream.stopped = true → after.stopped = true ∧ ∀ request ∈ after.requests,
    ∃ old ∈ stream.requests, old.number = request.number
  sources : stream.stopped = true ∨ stream.currentMode ≠ .sse →
    ∀ source ∈ after.sources, source ∈ stream.sources

section Steadiness

variable {stream middle after : TransactionStream}

theorem Steady.trans (first : Steady stream middle) (second : Steady middle after) :
    Steady stream after := by
  refine ⟨second.currentMode.trans first.currentMode,
    second.sseSupported.trans first.sseSupported,
    second.longPollSupported.trans first.longPollSupported,
    fun tuned => second.tuned (first.tuned tuned), ?_, ?_⟩
  · intro stopped
    obtain ⟨still, sent⟩ := first.silent stopped
    obtain ⟨last, resent⟩ := second.silent still
    refine ⟨last, ?_⟩
    intro request member
    obtain ⟨other, within, same⟩ := resent request member
    obtain ⟨old, earlier, equal⟩ := sent other within
    exact ⟨old, earlier, equal.trans same⟩
  · intro unsourced source member
    apply first.sources unsourced
    refine second.sources ?_ source member
    rw [first.currentMode]
    exact unsourced.imp_left fun stopped => (first.silent stopped).1

theorem Steady.of_requests (currentMode : after.currentMode = stream.currentMode)
    (sseSupported : after.sseSupported = stream.sseSupported)
    (longPollSupported : after.longPollSupported = stream.longPollSupported)
    (requests : ∀ request ∈ after.requests, ∃ old ∈ stream.requests,
      old.number = request.number ∧ old.mode = request.mode)
    (stack : ∀ frame ∈ after.stack,
      frame ∈ stream.stack ∨ frame.after.TunedTo stream.currentMode)
    (timers : ∀ timer ∈ after.timers,
      timer ∈ stream.timers ∨ (timer.task = .pollOnce → stream.currentMode = .polling))
    (stopped : stream.stopped = true → after.stopped = true)
    (sources : ∀ source ∈ after.sources, source ∈ stream.sources) : Steady stream after := by
  refine ⟨currentMode, sseSupported, longPollSupported, ?_, ?_, fun _ => sources⟩
  · intro tuned
    refine ⟨?_, ?_, ?_⟩
    · intro request member
      obtain ⟨old, earlier, _, sameMode⟩ := requests request member
      rw [currentMode, ← sameMode]
      exact tuned.requests old earlier
    · intro frame member
      rw [currentMode]
      rcases stack frame member with earlier | called
      · exact tuned.stack frame earlier
      · exact called
    · intro timer member
      rw [currentMode]
      rcases timers timer member with earlier | armed
      · exact tuned.timers timer earlier
      · exact armed
  · intro was
    refine ⟨stopped was, ?_⟩
    intro request member
    obtain ⟨old, earlier, same, _⟩ := requests request member
    exact ⟨old, earlier, same⟩

theorem Steady.of_same (currentMode : after.currentMode = stream.currentMode)
    (sseSupported : after.sseSupported = stream.sseSupported)
    (longPollSupported : after.longPollSupported = stream.longPollSupported)
    (requests : after.requests = stream.requests) (stack : after.stack = stream.stack)
    (timers : after.timers = stream.timers)
    (stopped : stream.stopped = true → after.stopped = true)
    (sources : after.sources = stream.sources) : Steady stream after := by
  refine .of_requests currentMode sseSupported longPollSupported ?_ ?_
    (fun timer member => .inl (timers ▸ member)) stopped (fun source member => sources ▸ member)
  · intro request member
    exact ⟨request, requests ▸ member, rfl, rfl⟩
  · intro frame member
    exact .inl (stack ▸ member)

theorem Steady.refl (stream : TransactionStream) : Steady stream stream :=
  .of_same rfl rfl rfl rfl rfl rfl id rfl

theorem sendRequest_steady (running : ¬ stream.stopped = true) {mode : PollMode}
    (current : mode.mode = stream.currentMode) : Steady stream (stream.sendRequest mode) := by
  refine ⟨rfl, rfl, rfl, ?_, fun stopped => absurd stopped running, fun _ _ => id⟩
  intro tuned
  refine ⟨?_, tuned.stack, tuned.timers⟩
  intro request member
  rcases List.mem_append.mp member with earlier | sent
  · exact tuned.requests request earlier
  · rw [List.mem_singleton.mp sent]
    exact current

theorem setTimer_steady {task : Task} (polls : task = .pollOnce → stream.currentMode = .polling)
    (delay : ℚ) : Steady stream (stream.setTimer task delay) := by
  refine .of_requests rfl rfl rfl (fun request member => ⟨request, member, rfl, rfl⟩)
    (fun frame => .inl) ?_ id (fun _ => id)
  intro timer member
  rcases List.mem_append.mp member with earlier | armed
  · exact .inl earlier
  · rw [List.mem_singleton.mp armed]
    exact .inr polls

theorem runLongPoll_steady (current : stream.currentMode = .longPoll) :
    Steady stream stream.runLongPoll := by
  unfold TransactionStream.runLongPoll
  split
  · exact .refl stream
  · rename_i running
    exact sendRequest_steady running current.symm

theorem pollOnce_steady (current : stream.currentMode = .polling) :
    Steady stream stream.pollOnce := by
  unfold TransactionStream.pollOnce
  split
  · exact .refl stream
  · rename_i running
    exact sendRequest_steady running current.symm

theorem runPollLoop_steady (coherent : Coherent stream) (polls : stream.currentMode ≠ .sse) :
    Steady stream stream.runPollLoop := by
  unfold TransactionStream.runPollLoop
  cases mode : stream.currentMode with
  | sse => exact absurd mode polls
  | longPoll =>
      have offered : stream.longPollSupported = true := by
        by_contra refused
        have polling := coherent.polling (Bool.not_eq_true _ ▸ refused)
        rw [mode] at polling
        cases polling
      rw [if_pos (by rw [offered]; rfl)]
      refine .trans ?_ (runLongPoll_steady rfl)
      exact .of_same mode.symm rfl rfl rfl rfl rfl id rfl
  | polling =>
      rw [if_neg (by simp)]
      refine .trans ?_ (pollOnce_steady rfl)
      exact .of_same mode.symm rfl rfl rfl rfl rfl id rfl

end Steadiness

section Calls

variable (config : Config) (stream : TransactionStream)

theorem emitClose_steady (event : CloseEvent) :
    Steady stream (stream.emitClose config event) := by
  unfold TransactionStream.emitClose
  split
  · exact .refl stream
  · refine .of_requests rfl rfl rfl (fun request member => ⟨request, member, rfl, rfl⟩) ?_
      (fun timer => .inl) id (fun _ => id)
    intro frame member
    rcases List.mem_cons.mp member with rfl | earlier
    · exact .inr trivial
    · exact .inl earlier

theorem shut_steady (event : CloseEvent) :
    Steady stream
      ({ stream with stopped := true, running := false }.cancelActive.emitClose config event) := by
  refine .trans ?_ (emitClose_steady config _ event)
  refine .of_requests rfl rfl rfl ?_ (fun frame => .inl)
    (fun timer member => .inl (List.mem_filter.mp member).1) (fun _ => rfl)
    (fun source member => (List.mem_filter.mp member).1)
  intro request member
  obtain ⟨old, earlier, rfl⟩ := List.mem_map.mp member
  refine ⟨old, earlier, ?_⟩
  split
  · exact ⟨rfl, rfl⟩
  · exact ⟨rfl, rfl⟩

theorem scheduleReconnect_steady : Steady stream (stream.scheduleReconnect config) := by
  unfold TransactionStream.scheduleReconnect
  split
  · exact .refl stream
  · split
    · refine .trans ?_ (emitClose_steady config _ _)
      exact .of_same rfl rfl rfl rfl rfl rfl (fun _ => rfl) rfl
    · refine .trans ?_ (setTimer_steady (fun polls => ?_) _)
      · exact .of_same rfl rfl rfl rfl rfl rfl id rfl
      · cases polls

variable {stream}

theorem pollAgain_steady {mode : PollMode} (current : mode.mode = stream.currentMode) :
    Steady stream (stream.pollAgain config mode) := by
  cases mode with
  | longPoll =>
      unfold TransactionStream.pollAgain
      dsimp only
      split
      · exact .refl stream
      · refine .trans ?_ (runLongPoll_steady ?_)
        · exact .of_same rfl rfl rfl rfl rfl rfl id rfl
        · exact current.symm
  | polling =>
      unfold TransactionStream.pollAgain
      dsimp only
      split
      · exact .refl stream
      · refine .trans ?_ (setTimer_steady (fun _ => ?_) _)
        · exact .of_same rfl rfl rfl rfl rfl rfl id rfl
        · exact current.symm

theorem proceed_steady {after : Continuation} (tuned : after.TunedTo stream.currentMode) :
    Steady stream (stream.proceed config after) := by
  cases after with
  | done => exact .refl stream
  | reconnect => exact scheduleReconnect_steady config stream
  | processed tx terminal origin =>
      unfold TransactionStream.proceed
      dsimp only
      split
      · exact shut_steady config stream _
      · cases origin with
        | none => exact .refl stream
        | some mode => exact pollAgain_steady config tuned

theorem emit_steady (notice : Notice) {after : Continuation}
    (tuned : after.TunedTo stream.currentMode) :
    Steady stream (stream.emit config notice after) := by
  unfold TransactionStream.emit
  split
  · exact proceed_steady config tuned
  · refine .of_requests rfl rfl rfl (fun request member => ⟨request, member, rfl, rfl⟩) ?_
      (fun timer => .inl) id (fun _ => id)
    intro frame member
    rcases List.mem_cons.mp member with rfl | earlier
    · exact .inr tuned
    · exact .inl earlier

theorem processTransaction_steady (tx : Json) {origin : Option PollMode}
    (tuned : ∀ mode ∈ origin, mode.mode = stream.currentMode) :
    Steady stream (stream.processTransaction config tx origin) := by
  unfold TransactionStream.processTransaction
  dsimp only
  split
  · exact .of_same rfl rfl rfl rfl rfl rfl id rfl
  · refine .trans ?_ (emit_steady config _ ?_)
    · exact .of_same rfl rfl rfl rfl rfl rfl id rfl
    · cases origin with
      | none => exact trivial
      | some mode => exact tuned mode rfl

theorem onRawData_steady (data : String) (parsed : Option Json) :
    Steady stream (stream.onRawData config data parsed) := by
  cases parsed with
  | none => exact emit_steady config _ trivial
  | some json => exact processTransaction_steady config _ (fun _ polls => nomatch polls)

end Calls

section Replies

variable (config : Config) {stream : TransactionStream}

theorem forget_steady (request : Nat) : Steady stream (stream.forget request) := by
  refine .of_requests rfl rfl rfl ?_ (fun frame => .inl) (fun timer => .inl) id
    (fun _ => id)
  intro other member
  exact ⟨other, (List.mem_filter.mp member).1, rfl, rfl⟩

theorem bodyRead_steady {request : Request} (current : request.mode.mode = stream.currentMode)
    (body : Except String Json) : Steady stream (stream.bodyRead config request body) := by
  have forgotten : Steady stream (stream.forget request.number) := forget_steady request.number
  unfold TransactionStream.bodyRead
  split
  · exact forgotten.trans (emit_steady config _ trivial)
  · split
    · exact forgotten
    · split
      · refine forgotten.trans (processTransaction_steady config _ ?_)
        rintro mode ⟨⟩
        exact current
      · exact forgotten.trans (pollAgain_steady config current)

theorem returned_steady (tuned : Tuned stream) : Steady stream (stream.returned config) := by
  unfold TransactionStream.returned
  split
  · exact .refl stream
  · rename_i frame rest stack
    have known : frame.after.TunedTo stream.currentMode :=
      tuned.stack frame (stack ▸ List.mem_cons_self)
    have popped : Steady stream { stream with stack := rest } := by
      refine .of_requests rfl rfl rfl (fun request member => ⟨request, member, rfl, rfl⟩) ?_
        (fun timer => .inl) id (fun _ => id)
      intro other member
      exact .inl (stack ▸ List.mem_cons_of_mem _ member)
    split
    · refine popped.trans ?_
      refine .of_requests rfl rfl rfl (fun request member => ⟨request, member, rfl, rfl⟩) ?_
        (fun timer => .inl) id (fun _ => id)
      intro other member
      rcases List.mem_cons.mp member with rfl | earlier
      · exact .inr known
      · exact .inl earlier
    · exact popped.trans (proceed_steady config known)

end Replies

/-! ## Changes of the mode -/

/-- The mode changes, with nothing of the old one left. -/
structure Lowered (stream after : TransactionStream) (old new : StreamMode) : Prop where
  running : stream.stopped = false
  was : stream.currentMode = old
  currentMode : after.currentMode = new
  coherent : Coherent after
  tuned : Tuned after
  sources : stream.currentMode ≠ .sse → ∀ source ∈ after.sources, source ∈ stream.sources

inductive Turned (stream after : TransactionStream) : Prop
  | steady (steady : Steady stream after)
  | toLongPoll (lowered : Lowered stream after .sse .longPoll)
  | toPolling (lowered : Lowered stream after .longPoll .polling)

section Changes

variable {stream middle after : TransactionStream}

theorem Coherent.steady (coherent : Coherent stream) (steady : Steady stream after) :
    Coherent after := by
  refine ⟨?_, ?_⟩
  · rw [steady.currentMode, steady.sseSupported]
    exact coherent.sse
  · rw [steady.currentMode, steady.longPollSupported]
    exact coherent.polling

theorem Lowered.after_steady {old new : StreamMode} (lowered : Lowered middle after old new)
    (steady : Steady stream middle) : Lowered stream after old new := by
  have running : stream.stopped = false := by
    by_contra stopped
    have still := (steady.silent (Bool.not_eq_false _ ▸ stopped)).1
    rw [lowered.running] at still
    cases still
  refine ⟨running, steady.currentMode.symm.trans lowered.was, lowered.currentMode,
    lowered.coherent, lowered.tuned, ?_⟩
  intro polls source member
  refine steady.sources (.inr polls) source (lowered.sources ?_ source member)
  rw [steady.currentMode]
  exact polls

theorem Turned.after_steady (turned : Turned middle after) (steady : Steady stream middle) :
    Turned stream after := by
  cases turned with
  | steady next => exact .steady (steady.trans next)
  | toLongPoll lowered => exact .toLongPoll (lowered.after_steady steady)
  | toPolling lowered => exact .toPolling (lowered.after_steady steady)

theorem Empty.tuned (empty : Empty stream) (stack : stream.stack = []) : Tuned stream := by
  refine ⟨?_, ?_, ?_⟩
  · rw [empty.requests]
    nofun
  · rw [stack]
    nofun
  · rw [empty.timers]
    nofun

theorem runSse_lowered (running : stream.stopped = false) (sse : stream.currentMode = .sse)
    (coherent : Coherent stream) (empty : Empty stream) (stack : stream.stack = []) :
    Lowered stream (stream.runSse false) .sse .longPoll := by
  have offered : stream.longPollSupported = true := by
    by_contra refused
    have polling := coherent.polling (Bool.not_eq_true _ ▸ refused)
    rw [sse] at polling
    cases polling
  have base : Coherent { stream with sseSupported := false, currentMode := .longPoll } := by
    refine ⟨nofun, fun refused => ?_⟩
    rw [offered] at refused
    cases refused
  have steady := runPollLoop_steady base nofun
  rw [TransactionStream.runSse, if_neg (by simp), if_pos offered]
  refine ⟨running, sse, steady.currentMode, base.steady steady, steady.tuned ?_,
    fun polls => absurd sse polls⟩
  exact Empty.tuned ⟨empty.sources, empty.requests, empty.timers⟩ stack

theorem runSse_steady (running : stream.stopped = false) (sse : stream.currentMode = .sse) :
    Steady stream (stream.runSse true) := by
  refine ⟨rfl, rfl, rfl, fun tuned => ⟨tuned.requests, tuned.stack, tuned.timers⟩, ?_, ?_⟩
  · intro stopped
    rw [running] at stopped
    cases stopped
  · rintro (stopped | polls)
    · rw [running] at stopped
      cases stopped
    · exact absurd sse polls

theorem runLoop_turned (coherent : Coherent stream) (empty : Empty stream)
    (stack : stream.stack = []) (available : Bool) :
    Turned stream (stream.runLoop available) := by
  unfold TransactionStream.runLoop
  split
  · exact .steady (.refl stream)
  · rename_i unstopped
    have running : stream.stopped = false := Bool.not_eq_true _ ▸ unstopped
    split
    · rename_i branch
      have sse : stream.currentMode = .sse := by simpa using (Bool.and_eq_true_iff.mp branch).2
      cases available with
      | true => exact .steady (runSse_steady running sse)
      | false => exact .toLongPoll (runSse_lowered running sse coherent empty stack)
    · rename_i branch
      refine .steady (runPollLoop_steady coherent ?_)
      intro sse
      exact branch (by rw [coherent.sse sse, sse]; rfl)

theorem refused_lowered {request : Request} (running : stream.stopped = false)
    (longPoll : stream.currentMode = .longPoll) (empty : Empty (stream.forget request.number))
    (stack : stream.stack = []) :
    Lowered stream
      ({ stream.forget request.number with
        longPollSupported := false, currentMode := .polling }.runLoop false)
      .longPoll .polling := by
  have base : Coherent { stream.forget request.number with
      longPollSupported := false, currentMode := .polling } :=
    ⟨nofun, fun _ => rfl⟩
  have steady := runPollLoop_steady base nofun
  have loops : { stream.forget request.number with
      longPollSupported := false, currentMode := .polling }.runLoop false =
        { stream.forget request.number with
          longPollSupported := false, currentMode := .polling }.runPollLoop := by
    rw [TransactionStream.runLoop, if_neg (by simp [TransactionStream.forget, running]),
      if_neg (by simp)]
  rw [loops]
  refine ⟨running, longPoll, steady.currentMode, base.steady steady, steady.tuned ?_, ?_⟩
  · exact Empty.tuned ⟨empty.sources, empty.requests, empty.timers⟩ stack
  · intro polls source member
    exact steady.sources (.inr nofun) source member

theorem fetched_turned (config : Config) {request : Request}
    (alone : stream.stopped = false → Empty (stream.forget request.number))
    (current : request.mode.mode = stream.currentMode) (stack : stream.stack = [])
    (reply : Reply) : Turned stream (stream.fetched config request reply) := by
  have forgotten : Steady stream (stream.forget request.number) := forget_steady request.number
  cases reply with
  | rejected isAbort reason =>
      unfold TransactionStream.fetched
      dsimp only
      refine .steady ?_
      split
      · exact forgotten
      · split
        · exact forgotten
        · exact forgotten.trans (emit_steady config _ trivial)
  | response status =>
      unfold TransactionStream.fetched
      dsimp only
      split
      · exact .steady forgotten
      · rename_i unstopped
        have running : stream.stopped = false := Bool.not_eq_true _ ▸ unstopped
        split
        · rename_i refused
          rw [refused.1] at current
          exact .toPolling (refused_lowered running current.symm (alone running) stack)
        · refine .steady ?_
          split
          · exact forgotten.trans (emit_steady config _ trivial)
          · refine .of_requests rfl rfl rfl ?_ (fun frame => .inl) (fun timer => .inl) id
              (fun _ => id)
            intro other member
            obtain ⟨old, earlier, rfl⟩ := List.mem_map.mp member
            refine ⟨old, earlier, ?_⟩
            split
            · exact ⟨rfl, rfl⟩
            · exact ⟨rfl, rfl⟩

end Changes

/-! ## Whole runs -/

structure Sound (stream : TransactionStream) : Prop where
  course : Idle stream ∨ Begun True stream
  coherent : Coherent stream
  tuned : Tuned stream

section Runs

variable {stream after : TransactionStream}

theorem empty_or_armed (course : Idle stream ∨ Begun True stream)
    (running : stream.stopped = false) (stack : stream.stack = []) :
    Empty stream ∨ Armed stream := by
  rcases course with idle | isOpen | stopped
  · exact .inl idle.empty
  · cases isOpen.phase with
    | dead isLost empty _ => exact .inl empty
    | armed armed _ => exact .inr armed
    | notifying frame calling _ _ =>
        rw [stack] at calling
        cases calling
  · rw [running] at stopped
    cases stopped

theorem Sound.forget_empty (sound : Sound stream) (running : stream.stopped = false)
    (stack : stream.stack = []) {request : Request} (member : request ∈ stream.requests) :
    Empty (stream.forget request.number) := by
  rcases empty_or_armed sound.course running stack with empty | armed
  · rw [empty.requests] at member
    cases member
  · cases armed with
    | source listening =>
        rw [listening.requests] at member
        cases member
    | timer timer sources requests timers current =>
        rw [requests] at member
        cases member
    | request own sources requests unasked timers =>
        rw [requests, List.mem_singleton] at member
        exact ⟨sources, by simp [TransactionStream.forget, requests, member], timers⟩

theorem Sound.fire_empty (sound : Sound stream) (running : stream.stopped = false)
    (stack : stream.stack = []) {timer : Timer} (member : timer ∈ stream.timers) :
    Empty { stream with timers := stream.timers.filter (·.number != timer.number) } := by
  rcases empty_or_armed sound.course running stack with empty | armed
  · rw [empty.timers] at member
    cases member
  · cases armed with
    | source listening =>
        rw [listening.timers] at member
        cases member
    | request own sources requests unasked timers =>
        rw [timers] at member
        cases member
    | timer own sources requests timers current =>
        rw [timers, List.mem_singleton] at member
        exact ⟨sources, requests, by simp [timers, member]⟩

theorem Turned.of_eq (same : after = stream) : Turned stream after := by
  rw [same]
  exact .steady (.refl stream)

theorem timerFires_turned (config : Config) (sound : Sound stream) (stack : stream.stack = [])
    (timer : Nat) (available : Bool) :
    Turned stream (stream.occur config (.timerFires timer available)) := by
  have fired : Steady stream
      { stream with timers := stream.timers.filter (·.number != timer) } :=
    .of_requests rfl rfl rfl (fun request member => ⟨request, member, rfl, rfl⟩)
      (fun frame => .inl) (fun timer member => .inl (List.mem_filter.mp member).1) id
      (fun _ => id)
  unfold TransactionStream.occur
  dsimp only
  split
  · exact .of_eq rfl
  · rename_i own found
    have member := List.mem_of_find?_eq_some found
    have sameNumber : own.number = timer := by simpa using List.find?_some found
    cases task : own.task with
    | pollOnce =>
        refine .steady (fired.trans (pollOnce_steady ?_))
        exact sound.tuned.timers own member task
    | runLoop =>
        by_cases stopped : stream.stopped = true
        · dsimp only
          rw [TransactionStream.runLoop, if_pos (by exact stopped)]
          exact .steady fired
        · have empty := sound.fire_empty (Bool.not_eq_true _ ▸ stopped) stack member
          rw [sameNumber] at empty
          refine (runLoop_turned ?_ empty stack available).after_steady fired
          exact sound.coherent.steady fired

theorem occur_turned (config : Config) (sound : Sound stream) (stack : stream.stack = [])
    (occurrence : Occurrence) : Turned stream (stream.occur config occurrence) := by
  cases occur_course config stream occurrence with
  | unheard closed same => exact .of_eq same
  | unnoticed closed same => exact .of_eq same
  | unasked unknown same => exact .of_eq same
  | unread unknown same => exact .of_eq same
  | heard isOpen handled =>
      rw [handled]
      refine .steady (.trans ?_ (onRawData_steady config _ _))
      exact .of_same rfl rfl rfl rfl rfl rfl id rfl
  | dropped isOpen handled =>
      rw [handled]
      refine .steady (.trans ?_ (emit_steady config _ trivial))
      exact .of_requests rfl rfl rfl (fun request member => ⟨request, member, rfl, rfl⟩)
        (fun frame => .inl) (fun timer => .inl) id
        (fun source member => (List.mem_filter.mp member).1)
  | replied own found handled =>
      have member := List.mem_of_find?_eq_some found
      rw [handled]
      exact fetched_turned config (fun running => sound.forget_empty running stack member)
        (sound.tuned.requests own member) stack _
  | read own found handled =>
      have member := List.mem_of_find?_eq_some found
      rw [handled]
      exact .steady (bodyRead_steady config (sound.tuned.requests own member) _)
  | unarmed _ => exact timerFires_turned config sound stack _ _
  | polled _ => exact timerFires_turned config sound stack _ _
  | looped _ => exact timerFires_turned config sound stack _ _

theorem step_turned (config : Config) (sound : Sound stream) (event : Event) :
    Turned stream (stream.step config event) := by
  cases event with
  | start available =>
      rw [TransactionStream.step, TransactionStream.start]
      split
      · exact .of_eq rfl
      · rename_i unstarted
        rw [Bool.or_eq_true, not_or] at unstarted
        have begun : Steady stream { stream with running := true, reconnectAttempts := 0 } :=
          .of_same rfl rfl rfl rfl rfl rfl id rfl
        rcases sound.course with idle | isOpen | stopped
        · refine (runLoop_turned ?_ ?_ ?_ available).after_steady begun
          · exact sound.coherent.steady begun
          · exact ⟨idle.empty.sources, idle.empty.requests, idle.empty.timers⟩
          · exact idle.stack
        · exact absurd isOpen.going.running unstarted.1
        · exact absurd stopped unstarted.2
  | stop =>
      rw [TransactionStream.step, TransactionStream.stop]
      split
      · exact .of_eq rfl
      · exact .steady (shut_steady config stream _)
  | handlerReturns => exact .steady (returned_steady config sound.tuned)
  | occurs occurrence =>
      rw [TransactionStream.step]
      split
      · rename_i quiet
        exact occur_turned config sound (List.isEmpty_iff.mp quiet) occurrence
      · exact .of_eq rfl

theorem sound_create (config : Config) : Sound (TransactionStream.create config) := by
  refine ⟨.inl (idle_create config), ⟨?_, ?_⟩, (idle_create config).empty.tuned rfl⟩
  · intro sse
    exact beq_iff_eq.mpr sse
  · intro unsupported
    simpa [TransactionStream.create] using unsupported

theorem Sound.step (sound : Sound stream) (config : Config) (event : Event) :
    Sound (stream.step config event) := by
  have course : Idle (stream.step config event) ∨ Begun True (stream.step config event) :=
    (idle_or_begun_step sound.course config event fun _ => trivial).imp_left And.left
  cases step_turned config sound event with
  | steady steady => exact ⟨course, sound.coherent.steady steady, steady.tuned sound.tuned⟩
  | toLongPoll lowered => exact ⟨course, lowered.coherent, lowered.tuned⟩
  | toPolling lowered => exact ⟨course, lowered.coherent, lowered.tuned⟩

/-- The mode is out of use. -/
def Abandoned (mode : StreamMode) (stream : TransactionStream) : Prop :=
  stream.stopped = true ∨ mode.rank < stream.currentMode.rank

theorem Turned.rank_le (turned : Turned stream after) :
    stream.currentMode.rank ≤ after.currentMode.rank := by
  cases turned with
  | steady steady => rw [steady.currentMode]
  | toLongPoll lowered =>
      rw [lowered.was, lowered.currentMode]
      decide
  | toPolling lowered =>
      rw [lowered.was, lowered.currentMode]
      decide

theorem Turned.steady_of_stopped (turned : Turned stream after)
    (stopped : stream.stopped = true) : Steady stream after := by
  cases turned with
  | steady steady => exact steady
  | toLongPoll lowered =>
      rw [lowered.running] at stopped
      cases stopped
  | toPolling lowered =>
      rw [lowered.running] at stopped
      cases stopped

theorem Turned.abandoned (turned : Turned stream after) {mode : StreamMode}
    (abandoned : Abandoned mode stream) : Abandoned mode after := by
  rcases abandoned with stopped | below
  · exact .inl ((turned.steady_of_stopped stopped).silent stopped).1
  · exact .inr (below.trans_le turned.rank_le)

theorem sourceTried_isSome (visit : TransactionStream × Event)
    (tried : (sourceTried visit).isSome = true) : visit.1.prefersSse = true := by
  unfold sourceTried at tried
  split at tried
  · split at tried
    · rename_i guard
      exact (Bool.and_eq_true_iff.mp guard).2
    · cases tried
  · split at tried
    · rename_i guard
      exact (Bool.and_eq_true_iff.mp guard).2
    · cases tried
  · cases tried

theorem Abandoned.unsourced (abandoned : Abandoned .sse stream) :
    stream.stopped = true ∨ stream.currentMode ≠ .sse := by
  refine abandoned.imp_right ?_
  intro below sse
  rw [sse] at below
  exact lt_irrefl _ below

theorem Abandoned.unused (config : Config) {event : Event} (sound : Sound stream)
    {mode : StreamMode} (abandoned : Abandoned mode stream) :
    ¬ Uses config (stream, event) mode := by
  have turned := step_turned config sound event
  rintro (⟨rfl, tried | ⟨source, member, fresh⟩⟩ | ⟨request, member, sent, fresh⟩)
  · have prefers := sourceTried_isSome _ tried
    rcases abandoned.unsourced with stopped | polls
    · simp [TransactionStream.prefersSse, stopped] at prefers
    · simp [TransactionStream.prefersSse, polls] at prefers
  · have known : source ∈ stream.sources := by
      cases turned with
      | steady steady => exact steady.sources abandoned.unsourced source member
      | toLongPoll lowered =>
          rw [Abandoned, lowered.running, lowered.was] at abandoned
          simp at abandoned
      | toPolling lowered =>
          refine lowered.sources ?_ source member
          rw [lowered.was]
          nofun
    exact fresh source known rfl
  · rcases abandoned with stopped | below
    · obtain ⟨old, earlier, same⟩ :=
        ((turned.steady_of_stopped stopped).silent stopped).2 request member
      exact fresh old earlier same
    · have current := (sound.step config event).tuned.requests request member
      rw [sent] at current
      rw [current] at below
      exact absurd turned.rank_le (not_le.mpr below)

theorem runLoop_refused (prefers : stream.prefersSse = true) (coherent : Coherent stream)
    (empty : Empty stream) (stack : stream.stack = []) :
    Abandoned .sse (stream.runLoop false) := by
  unfold TransactionStream.prefersSse at prefers
  rw [Bool.and_eq_true, Bool.not_eq_true'] at prefers
  have sse : stream.currentMode = .sse := by
    simpa using (Bool.and_eq_true_iff.mp prefers.2).2
  have lowered := runSse_lowered prefers.1 sse coherent empty stack
  rw [TransactionStream.runLoop, if_neg (by simp [prefers.1]), if_pos prefers.2, Abandoned,
    lowered.currentMode]
  exact .inr (by decide)

theorem Sound.idle_of_unstarted (sound : Sound stream) (unstarted : stream.running = false)
    (running : stream.stopped = false) : Idle stream := by
  rcases sound.course with idle | isOpen | stopped
  · exact idle
  · have started := isOpen.going.running
    rw [unstarted] at started
    cases started
  · rw [running] at stopped
    cases stopped

theorem refuses_sse_abandoned (config : Config) (sound : Sound stream) {event : Event}
    (refused : refuses (stream, event) .sse = true) :
    Abandoned .sse (stream.step config event) := by
  have tried : sourceTried (stream, event) = some false := by simpa [refuses] using refused
  have prefers := sourceTried_isSome (stream, event) (by rw [tried]; rfl)
  have running : stream.stopped = false := by
    simpa [TransactionStream.prefersSse] using (Bool.and_eq_true_iff.mp prefers).1
  cases event with
  | stop => cases tried
  | handlerReturns => cases tried
  | start available =>
      obtain ⟨guard, isFalse⟩ := Option.ite_none_right_eq_some.mp tried
      cases isFalse
      have unstarted : stream.running = false := by
        simpa using (Bool.and_eq_true_iff.mp guard).1
      have idle := sound.idle_of_unstarted unstarted running
      rw [TransactionStream.step, TransactionStream.start,
        if_neg (by simp [unstarted, running])]
      refine runLoop_refused prefers ?_ ?_ idle.stack
      · exact ⟨sound.coherent.sse, sound.coherent.polling⟩
      · exact ⟨idle.empty.sources, idle.empty.requests, idle.empty.timers⟩
  | occurs occurrence =>
      cases occurrence with
      | message source lastEventId data parsed => cases tried
      | sourceFails source => cases tried
      | fetchSettles request reply => cases tried
      | bodySettles request body => cases tried
      | timerFires timer available =>
          obtain ⟨guard, isFalse⟩ := Option.ite_none_right_eq_some.mp tried
          cases isFalse
          obtain ⟨quiet, armed⟩ := Bool.and_eq_true_iff.mp (Bool.and_eq_true_iff.mp guard).1
          obtain ⟨own, found, task⟩ := (Option.any_eq_true _ _).mp armed
          have member := List.mem_of_find?_eq_some found
          have sameNumber : own.number = timer := by simpa using List.find?_some found
          have stack := List.isEmpty_iff.mp quiet
          have empty := sound.fire_empty running stack member
          rw [sameNumber] at empty
          have fires : stream.step config (.occurs (.timerFires timer false)) =
              TransactionStream.runLoop
                { stream with timers := stream.timers.filter (·.number != timer) } false := by
            rw [TransactionStream.step, if_pos quiet, TransactionStream.occur, found]
            simp only [beq_iff_eq.mp task]
          rw [fires]
          exact runLoop_refused prefers ⟨sound.coherent.sse, sound.coherent.polling⟩ empty stack

theorem refuses_longPoll_abandoned (config : Config) (sound : Sound stream) {event : Event}
    (refused : refuses (stream, event) .longPoll = true) :
    Abandoned .longPoll (stream.step config event) := by
  unfold refuses at refused
  dsimp only at refused
  split at refused
  · rename_i request status
    obtain ⟨guard, awaited⟩ := Bool.and_eq_true_iff.mp refused
    obtain ⟨quiet, notOffered⟩ := Bool.and_eq_true_iff.mp guard
    obtain ⟨own, found, longPoll⟩ := (Option.any_eq_true _ _).mp awaited
    have member := List.mem_of_find?_eq_some found
    have stack := List.isEmpty_iff.mp quiet
    have isLongPoll : own.mode = .longPoll := beq_iff_eq.mp longPoll
    rw [TransactionStream.step, if_pos quiet, TransactionStream.occur, found]
    dsimp only [TransactionStream.fetched]
    split
    · exact .inl (by assumption)
    · rename_i unstopped
      have running : stream.stopped = false := Bool.not_eq_true _ ▸ unstopped
      have current := sound.tuned.requests own member
      rw [isLongPoll] at current
      have lowered := refused_lowered running current.symm
        (sound.forget_empty running stack member) stack
      rw [if_pos ⟨isLongPoll, by simpa using notOffered⟩, Abandoned, lowered.currentMode]
      exact .inr (by decide)
  · cases refused

theorem refuses_abandoned (config : Config) (sound : Sound stream) {event : Event}
    {mode : StreamMode} (refused : refuses (stream, event) mode = true) :
    Abandoned mode (stream.step config event) := by
  cases mode with
  | sse => exact refuses_sse_abandoned config sound refused
  | longPoll => exact refuses_longPoll_abandoned config sound refused
  | polling => cases refused

end Runs

theorem sound_reached (config : Config) (events : List Event) :
    Sound (TransactionStream.reached config events) :=
  Machine.run_invariant (TransactionStream.step config) Sound
    (fun _ event sound => sound.step config event) events _ (sound_create config)

/-- A mode that was refused, or never an option, is out of use. -/
theorem abandoned_reached (config : Config) (events : List Event) (mode : StreamMode)
    (out : (∃ visit ∈ visits config events, refuses visit mode = true) ∨
      mode.rank < config.preferredMode.rank) :
    Abandoned mode (TransactionStream.reached config events) := by
  refine (Machine.history_invariant (TransactionStream.step config)
    (fun past stream => Sound stream ∧
      ((∃ visit ∈ past, refuses visit mode = true) ∨ mode.rank < config.preferredMode.rank →
        Abandoned mode stream)) events _ ?_ ?_).2 out
  · rintro past ⟨stream, event⟩ _ ⟨sound, abandoned⟩
    refine ⟨sound.step config event, ?_⟩
    have turned := step_turned config sound event
    rintro (⟨visit, member, refused⟩ | above)
    · rcases List.mem_append.mp member with earlier | now
      · exact turned.abandoned (abandoned (.inl ⟨visit, earlier, refused⟩))
      · rw [List.mem_singleton.mp now] at refused
        exact refuses_abandoned config sound refused
    · exact turned.abandoned (abandoned (.inr above))
  · refine ⟨sound_create config, ?_⟩
    rintro (⟨visit, member, _⟩ | above)
    · cases member
    · exact .inr above

/-- Every step keeps the mode or takes the next one down, and a mode that was refused or
lies above the preferred one is not used from then on. -/
theorem stream_only_downgrades (config : Config) (before after : List Event) :
    (∀ visit ∈ visits config (before ++ after),
      (visit.1.step config visit.2).currentMode = visit.1.currentMode ∨
        visit.1.currentMode = .sse ∧
          (visit.1.step config visit.2).currentMode = .longPoll ∨
        visit.1.currentMode = .longPoll ∧
          (visit.1.step config visit.2).currentMode = .polling) ∧
      ∀ mode,
        ((∃ visit ∈ visits config before, refuses visit mode = true) ∨
          mode.rank < config.preferredMode.rank) →
        ∀ visit ∈ Machine.visits (TransactionStream.step config)
          (TransactionStream.reached config before) after, ¬ Uses config visit mode := by
  refine ⟨?_, ?_⟩
  · intro visit member
    have sound : Sound visit.1 :=
      Machine.visits_invariant (TransactionStream.step config) Sound (before ++ after) _
        (fun visit _ sound => sound.step config visit.2) (sound_create config) visit member
    cases step_turned config sound visit.2 with
    | steady steady => exact .inl steady.currentMode
    | toLongPoll lowered => exact .inr (.inl ⟨lowered.was, lowered.currentMode⟩)
    | toPolling lowered => exact .inr (.inr ⟨lowered.was, lowered.currentMode⟩)
  · intro mode out visit member
    have kept : Sound visit.1 ∧ Abandoned mode visit.1 :=
      Machine.visits_invariant (TransactionStream.step config)
        (fun stream => Sound stream ∧ Abandoned mode stream) after _
        (fun visit _ both =>
          ⟨both.1.step config visit.2, (step_turned config both.1 visit.2).abandoned both.2⟩)
        ⟨sound_reached config before, abandoned_reached config before mode out⟩ visit member
    exact kept.2.unused config kept.1

def sseFirst : Config := { longPollConfig with preferredMode := .sse }

def refusedRun : List Event :=
  [.start false, .occurs (.fetchSettles 0 (.response 404))]

def retriedRun : List Event :=
  [.occurs (.fetchSettles 1 (.rejected false "network down")), .handlerReturns,
    .occurs (.timerFires 2 true)]

theorem refusedRun_polls :
    (∀ visit ∈ Machine.visits (TransactionStream.step sseFirst)
        (TransactionStream.reached sseFirst refusedRun) retriedRun,
      ¬ Uses sseFirst visit .sse ∧ ¬ Uses sseFirst visit .longPoll) ∧
      Uses sseFirst
        (TransactionStream.reached sseFirst (refusedRun ++ retriedRun.dropLast),
          .occurs (.timerFires 2 true)) .polling := by
  have downgrades := (stream_only_downgrades sseFirst refusedRun retriedRun).2
  refine ⟨?_, ?_⟩
  · intro visit member
    exact ⟨downgrades .sse (.inl (by decide)) visit member,
      downgrades .longPoll (.inl (by decide)) visit member⟩
  · have sent : (TransactionStream.step sseFirst
        (TransactionStream.reached sseFirst (refusedRun ++ retriedRun.dropLast))
        (.occurs (.timerFires 2 true))).requests = [⟨3, .polling, false, false⟩] := rfl
    exact .inr ⟨_, by rw [sent]; exact List.mem_cons_self, rfl, by decide⟩

end AnchorKit.Sdk.Stream
