import AnchorKit.Base.Machine
import AnchorKit.Sdk.Sep10Service
import Mathlib.Data.List.Chain

/-!
# The SEP-10 flow, of `Sep10Flow.tsx`

The component is a machine over clicks and the ends of its requests, for as long as the
parent keeps it and its configuration.  A handler is cut at its `await`, and what is drawn
after a step is part of it: an exception there takes the component off the page.

`onAuthenticated` is called inside the `try` block, so that what it throws is taken for a
failure of the anchor.  The other callbacks are taken to return.
-/

set_option autoImplicit false

namespace AnchorKit.Sdk.Sep10

open AnchorKit.Base

inductive Sep10Stage where
  | idle
  | requesting
  | awaitingSignature
  | verifying
  | done
  | error
  deriving DecidableEq, Repr

structure Sep10State where
  stage : Sep10Stage
  challenge : Value
  error : Option String
  isAuthenticated : Bool
  sessionToken : Value
  expiresAt : Option Number

inductive Request where
  | challenge
  | signature
  deriving DecidableEq, Repr

/-- The buttons; `retry` stands behind "Cancel", "Try Again" and "Start New Session". -/
inductive Action where
  | requestChallenge
  | submit
  | retry
  deriving DecidableEq, Repr

/-- The component, with the calls of `onStageChange`, `onError` and `onAuthenticated` and
the transactions it has posted so far. -/
structure Flow where
  state : Sep10State
  inFlight : List Request
  mounted : Bool
  stageChanges : List Sep10Stage
  errors : List String
  authenticated : List Value
  submitted : List String

def Flow.start : Flow where
  state :=
    { stage := .idle
      challenge := some .null
      error := none
      isAuthenticated := false
      sessionToken := some .null
      expiresAt := none }
  inFlight := []
  mounted := true
  stageChanges := []
  errors := []
  authenticated := []
  submitted := []

inductive Event where
  | click (action : Action)
  | settle (number : Nat) (fetched : Fetched) (now : ℚ) (callback : Option Thrown)

/-- `updateState`, every use of which sets the stage. -/
def Flow.updateState (flow : Flow) (updates : Sep10State → Sep10State) : Flow :=
  { flow with
    state := updates flow.state
    stageChanges :=
      if (updates flow.state).stage = flow.state.stage then flow.stageChanges
      else flow.stageChanges ++ [(updates flow.state).stage] }

def errorMessage (otherwise : String) : Thrown → String
  | .sep10ServiceError code message => code ++ ": " ++ message
  | .other => otherwise

/-- The `catch` block of both handlers. -/
def Flow.catch (flow : Flow) (otherwise : String) (thrown : Thrown) : Flow :=
  let failed := flow.updateState fun state =>
    { state with stage := .error, error := some (errorMessage otherwise thrown) }
  { failed with errors := failed.errors ++ [errorMessage otherwise thrown] }

/-- Taking a value apart throws if it is `null`. -/
def destructure : Json → Except Thrown Json
  | .null => .error .other
  | body => .ok body

/-- `const { transaction } = await service.requestChallenge()`. -/
def receivedTransaction (fetched : Fetched) : Except Thrown Value := do
  let body ← requestChallenge fetched
  let body ← destructure body
  return body.get "transaction"

def expiry (now : ℚ) : Number → Number
  | .finite seconds => .finite (now + seconds * 1000)
  | number => number

section

variable (runtime : Runtime)

def receivedToken (now : ℚ) (fetched : Fetched) : Except Thrown (Value × Number) := do
  let body ← submitSignedChallenge runtime fetched
  let body ← destructure body
  match runtime.toNumber (body.get "expiresIn") with
  | some expiresIn => return (body.get "token", expiry now expiresIn)
  | none => .error .other

/-- `challenge + '_signed_by_wallet'`, for a challenge that is truthy. -/
def signed : Json → Option String
  | .string challenge => some (challenge ++ "_signed_by_wallet")
  | challenge => (runtime.toText challenge).map (· ++ "_signed_by_wallet")

def Flow.submit (flow : Flow) : Flow :=
  match flow.state.challenge.filter Json.truthy with
  | none =>
      flow.updateState fun state =>
        { state with stage := .error, error := some "No challenge available" }
  | some challenge =>
      match signed runtime challenge with
      | none => flow
      | some transaction =>
          let verifying := flow.updateState fun state =>
            { state with stage := .verifying, error := none }
          { verifying with
            inFlight := verifying.inFlight ++ [.signature]
            submitted := verifying.submitted ++ [transaction] }

def Flow.retry (flow : Flow) : Flow :=
  flow.updateState fun state =>
    { state with
      stage := .idle
      challenge := some .null
      error := none
      sessionToken := some .null
      expiresAt := none }

def Flow.perform (flow : Flow) : Action → Flow
  | .requestChallenge =>
      let requesting := flow.updateState fun state =>
        { state with stage := .requesting, error := none }
      { requesting with inFlight := requesting.inFlight ++ [.challenge] }
  | .submit => flow.submit runtime
  | .retry => flow.retry

def Flow.challengeSettled (flow : Flow) (fetched : Fetched) : Flow :=
  match receivedTransaction fetched with
  | .ok transaction =>
      flow.updateState fun state =>
        { state with stage := .awaitingSignature, challenge := transaction }
  | .error thrown => flow.catch "Failed to request challenge" thrown

def Flow.authenticate (flow : Flow) (token : Value) (expiresAt : Number) : Flow :=
  let done := flow.updateState fun state =>
    { state with
      stage := .done
      sessionToken := token
      expiresAt := some expiresAt
      isAuthenticated := true }
  { done with authenticated := done.authenticated ++ [token] }

def Flow.signatureSettled (flow : Flow) (fetched : Fetched) (now : ℚ)
    (callback : Option Thrown) : Flow :=
  match receivedToken runtime now fetched with
  | .ok (token, expiresAt) =>
      match callback with
      | some thrown =>
          (flow.authenticate token expiresAt).catch "Failed to verify signature" thrown
      | none => flow.authenticate token expiresAt
  | .error thrown => flow.catch "Failed to verify signature" thrown

/-! ## What is drawn -/

def Sep10Stage.actions : Sep10Stage → List Action
  | .idle => [.requestChallenge]
  | .awaitingSignature => [.submit, .retry]
  | .done => [.retry]
  | .error => [.retry]
  | .requesting => []
  | .verifying => []

/-- `challenge.slice(0, 40)` among the children of an element. -/
def drawsChallenge : Json → Bool
  | .string _ => true
  | .array items => runtime.draws (items.take 40)
  | _ => false

def Sep10State.draws (state : Sep10State) : Bool :=
  match state.stage with
  | .awaitingSignature =>
      (state.challenge.filter Json.truthy).all (drawsChallenge runtime)
  | .done =>
      (state.sessionToken.filter Json.truthy).all fun token => (maskToken runtime token).isSome
  | _ => true

def Flow.drawn (flow : Flow) : Flow :=
  { flow with mounted := flow.mounted && flow.state.draws runtime }

def Flow.act (flow : Flow) : Event → Flow
  | .click action =>
      if flow.mounted && flow.state.stage.actions.contains action then
        flow.perform runtime action
      else flow
  | .settle number fetched now callback =>
      let ended := { flow with inFlight := flow.inFlight.eraseIdx number }
      match flow.inFlight[number]? with
      | some .challenge => ended.challengeSettled fetched
      | some .signature => ended.signatureSettled runtime fetched now callback
      | none => flow

def Flow.step (flow : Flow) (event : Event) : Flow :=
  (flow.act runtime event).drawn runtime

def Flow.reached (events : List Event) : Flow :=
  Machine.run (Flow.step runtime) Flow.start events

end

/-! ## What every run keeps -/

/-- The stages that may follow each other. -/
def Sep10Stage.next : Sep10Stage → List Sep10Stage
  | .idle => [.requesting]
  | .requesting => [.awaitingSignature, .error]
  | .awaitingSignature => [.verifying, .error, .idle]
  | .verifying => [.done, .error]
  | .done => [.error, .idle]
  | .error => [.idle]

def Sep10Stage.awaited : Sep10Stage → List Request
  | .requesting => [.challenge]
  | .verifying => [.signature]
  | _ => []

def Flow.stages (flow : Flow) : List Sep10Stage :=
  .idle :: flow.stageChanges

def Sep10Stage.settled (stage : Sep10Stage) : Prop :=
  stage = .done ∨ stage = .error

structure Consistent (flow : Flow) : Prop where
  path : flow.stages.IsChain fun earlier later => later ∈ earlier.next
  current : flow.stages.getLast? = some flow.state.stage
  waiting : flow.inFlight = flow.state.stage.awaited
  failed : flow.state.error.isSome = (flow.state.stage == .error)
  ever : flow.state.isAuthenticated = flow.stageChanges.contains .done
  posted : flow.submitted.length = flow.stageChanges.count .verifying
  handed : flow.authenticated.length = flow.stageChanges.count .done
  token : flow.state.sessionToken = some .null ∨
    flow.authenticated.getLast? = some flow.state.sessionToken ∧ flow.state.stage.settled

theorem start_consistent : Consistent Flow.start where
  path := .singleton _
  current := rfl
  waiting := rfl
  failed := rfl
  ever := rfl
  posted := rfl
  handed := rfl
  token := .inl rfl

/-- What becomes of the session token in a move: it is cleared, it is kept, or it is the one
that the parent has just been handed. -/
def TokenMoves (before after : Flow) : Prop :=
  after.state.sessionToken = some .null ∨
    after.state.sessionToken = before.state.sessionToken ∧
      after.authenticated = before.authenticated ∧
      (before.state.stage.settled → after.state.stage.settled) ∨
    after.authenticated = before.authenticated ++ [after.state.sessionToken] ∧
      after.state.stage.settled

/-- What a move to another stage has to look like. -/
structure Moves (before after : Flow) : Prop where
  follows : after.state.stage ∈ before.state.stage.next
  reported : after.stageChanges = before.stageChanges ++ [after.state.stage]
  waiting : after.inFlight = after.state.stage.awaited
  failed : after.state.error.isSome = (after.state.stage == .error)
  ever : after.state.isAuthenticated =
    (before.state.isAuthenticated || after.state.stage == .done)
  posted : after.submitted.length =
    before.submitted.length + (after.state.stage == .verifying).toNat
  handed : after.authenticated.length =
    before.authenticated.length + (after.state.stage == .done).toNat
  token : TokenMoves before after

theorem Moves.consistent {before after : Flow} (moves : Moves before after)
    (consistent : Consistent before) : Consistent after where
  path := by
    rw [Flow.stages, moves.reported, ← List.cons_append]
    refine consistent.path.append (.singleton _) ?_
    intro last isLast first isFirst
    rw [consistent.current] at isLast
    cases isLast
    cases isFirst
    exact moves.follows
  current := by
    rw [Flow.stages, moves.reported, ← List.cons_append, List.getLast?_append]
    rfl
  waiting := moves.waiting
  failed := moves.failed
  ever := by
    rw [moves.ever, consistent.ever, moves.reported, List.contains_append]
    cases after.state.stage <;> rfl
  posted := by
    rw [moves.posted, consistent.posted, moves.reported, List.count_append]
    cases after.state.stage <;> rfl
  handed := by
    rw [moves.handed, consistent.handed, moves.reported, List.count_append]
    cases after.state.stage <;> rfl
  token := by
    rcases moves.token with cleared | ⟨kept, same, settled⟩ | ⟨given, settled⟩
    · exact .inl cleared
    · rw [kept, same]
      exact consistent.token.imp_right (And.imp_right settled)
    · right
      rw [given, List.getLast?_append]
      exact ⟨rfl, settled⟩

section Moves

variable {flow : Flow}

theorem Sep10Stage.notMem_next (stage : Sep10Stage) : stage ∉ stage.next := by
  cases stage <;> decide

theorem Sep10Stage.reported_of_follows {stage next : Sep10Stage}
    (changes : List Sep10Stage) (follows : next ∈ stage.next) :
    (if next = stage then changes else changes ++ [next]) = changes ++ [next] := by
  refine if_neg fun same => ?_
  rw [same] at follows
  exact stage.notMem_next follows

theorem moves_catch (follows : .error ∈ flow.state.stage.next) (ended : flow.inFlight = [])
    (otherwise : String) (thrown : Thrown) : Moves flow (flow.catch otherwise thrown) where
  follows := follows
  reported := Sep10Stage.reported_of_follows _ follows
  waiting := ended
  failed := rfl
  ever := (Bool.or_false _).symm
  posted := rfl
  handed := rfl
  token := .inr (.inl ⟨rfl, rfl, fun _ => .inr rfl⟩)

theorem moves_requestChallenge (runtime : Runtime)
    (follows : .requesting ∈ flow.state.stage.next) (running : ¬ flow.state.stage.settled)
    (ended : flow.inFlight = []) :
    Moves flow (flow.perform runtime .requestChallenge) where
  follows := follows
  reported := Sep10Stage.reported_of_follows _ follows
  waiting := congrArg (· ++ [Request.challenge]) ended
  failed := rfl
  ever := (Bool.or_false _).symm
  posted := rfl
  handed := rfl
  token := .inr (.inl ⟨rfl, rfl, fun settled => absurd settled running⟩)

theorem moves_retry (follows : .idle ∈ flow.state.stage.next) (ended : flow.inFlight = []) :
    Moves flow flow.retry where
  follows := follows
  reported := Sep10Stage.reported_of_follows _ follows
  waiting := ended
  failed := rfl
  ever := (Bool.or_false _).symm
  posted := rfl
  handed := rfl
  token := .inl rfl

theorem moves_submit (runtime : Runtime)
    (awaiting : flow.state.stage = .awaitingSignature) (ended : flow.inFlight = []) :
    flow.submit runtime = flow ∨ Moves flow (flow.submit runtime) := by
  have fails : .error ∈ flow.state.stage.next := by rw [awaiting]; decide
  have verifies : .verifying ∈ flow.state.stage.next := by rw [awaiting]; decide
  have running : ¬ flow.state.stage.settled := by rw [awaiting]; exact (nomatch ·)
  unfold Flow.submit
  split
  · right
    exact
      { follows := fails
        reported := Sep10Stage.reported_of_follows _ fails
        waiting := ended
        failed := rfl
        ever := (Bool.or_false _).symm
        posted := rfl
        handed := rfl
        token := .inr (.inl ⟨rfl, rfl, fun _ => .inr rfl⟩) }
  · split
    · left
      rfl
    · right
      exact
        { follows := verifies
          reported := Sep10Stage.reported_of_follows _ verifies
          waiting := congrArg (· ++ [Request.signature]) ended
          failed := rfl
          ever := (Bool.or_false _).symm
          posted := List.length_append
          handed := rfl
          token := .inr (.inl ⟨rfl, rfl, fun settled => absurd settled running⟩) }

theorem moves_challengeSettled (flow : Flow) (requesting : flow.state.stage = .requesting)
    (ended : flow.inFlight = []) (clear : flow.state.error = none) (fetched : Fetched) :
    Moves flow (flow.challengeSettled fetched) := by
  unfold Flow.challengeSettled
  split
  · have follows : .awaitingSignature ∈ flow.state.stage.next := by rw [requesting]; decide
    have running : ¬ flow.state.stage.settled := by rw [requesting]; exact (nomatch ·)
    exact
      { follows := follows
        reported := Sep10Stage.reported_of_follows _ follows
        waiting := ended
        failed := congrArg Option.isSome clear
        ever := (Bool.or_false _).symm
        posted := rfl
        handed := rfl
        token := .inr (.inl ⟨rfl, rfl, fun settled => absurd settled running⟩) }
  · exact moves_catch (by rw [requesting]; decide) ended _ _

theorem moves_authenticate (follows : .done ∈ flow.state.stage.next)
    (ended : flow.inFlight = []) (clear : flow.state.error = none) (token : Value)
    (expiresAt : Number) : Moves flow (flow.authenticate token expiresAt) where
  follows := follows
  reported := Sep10Stage.reported_of_follows _ follows
  waiting := ended
  failed := congrArg Option.isSome clear
  ever := (Bool.or_true _).symm
  posted := rfl
  handed := List.length_append
  token := .inr (.inr ⟨rfl, .inl rfl⟩)

/-- With a callback that throws there are two moves. -/
theorem moves_signatureSettled (runtime : Runtime) (flow : Flow)
    (verifying : flow.state.stage = .verifying)
    (ended : flow.inFlight = []) (clear : flow.state.error = none) (fetched : Fetched)
    (now : ℚ) (callback : Option Thrown) :
    ∃ middle, Moves flow middle ∧
      (flow.signatureSettled runtime fetched now callback = middle ∨
        Moves middle (flow.signatureSettled runtime fetched now callback)) := by
  have follows : .done ∈ flow.state.stage.next := by rw [verifying]; decide
  unfold Flow.signatureSettled
  split
  · rename_i token expiresAt received
    refine ⟨_, moves_authenticate follows ended clear token expiresAt, ?_⟩
    cases callback with
    | none => exact .inl rfl
    | some thrown =>
        right
        have fails : .error ∈ (flow.authenticate token expiresAt).state.stage.next := by
          change .error ∈ Sep10Stage.done.next
          decide
        exact moves_catch fails ended _ _
  · exact ⟨_, moves_catch (by rw [verifying]; decide) ended _ _, .inl rfl⟩

theorem Consistent.error_eq_none (consistent : Consistent flow)
    (other : flow.state.stage ≠ .error) : flow.state.error = none := by
  have failed := consistent.failed
  rw [beq_false_of_ne other, Option.isSome_eq_false_iff, Option.isNone_iff_eq_none] at failed
  exact failed

theorem Consistent.inFlight_eq (consistent : Consistent flow) {number : Nat}
    {request : Request} (found : flow.inFlight[number]? = some request) :
    flow.inFlight.eraseIdx number = [] ∧
      (request = .challenge ∧ flow.state.stage = .requesting ∨
        request = .signature ∧ flow.state.stage = .verifying) := by
  rw [consistent.waiting] at found ⊢
  cases stage : flow.state.stage with
  | requesting =>
      rw [stage] at found
      cases number with
      | zero => exact ⟨rfl, .inl ⟨(Option.some.inj found).symm, rfl⟩⟩
      | succ number => cases found
  | verifying =>
      rw [stage] at found
      cases number with
      | zero => exact ⟨rfl, .inr ⟨(Option.some.inj found).symm, rfl⟩⟩
      | succ number => cases found
  | _ =>
      rw [stage] at found
      cases found

theorem Consistent.perform_moves (runtime : Runtime) (consistent : Consistent flow)
    {action : Action}
    (offered : action ∈ flow.state.stage.actions) :
    flow.perform runtime action = flow ∨ Moves flow (flow.perform runtime action) := by
  have waiting := consistent.waiting
  cases action with
  | requestChallenge =>
      right
      cases stage : flow.state.stage with
      | idle =>
          rw [stage] at waiting
          have running : ¬ flow.state.stage.settled := by rw [stage]; exact (nomatch ·)
          exact moves_requestChallenge runtime (by rw [stage]; decide) running waiting
      | _ =>
          rw [stage] at offered
          exact absurd offered (by decide)
  | submit =>
      cases stage : flow.state.stage with
      | awaitingSignature =>
          rw [stage] at waiting
          exact moves_submit runtime stage waiting
      | _ =>
          rw [stage] at offered
          exact absurd offered (by decide)
  | retry =>
      right
      cases stage : flow.state.stage with
      | awaitingSignature | done | error =>
          rw [stage] at waiting
          exact moves_retry (by rw [stage]; decide) waiting
      | _ =>
          rw [stage] at offered
          exact absurd offered (by decide)

theorem Consistent.perform (runtime : Runtime) (consistent : Consistent flow)
    {action : Action}
    (offered : action ∈ flow.state.stage.actions) :
    Consistent (flow.perform runtime action) := by
  rcases consistent.perform_moves runtime offered with same | moves
  · rw [same]
    exact consistent
  · exact moves.consistent consistent

theorem Moves.of_ended {rest : List Request} {after : Flow}
    (moves : Moves { flow with inFlight := rest } after) : Moves flow after where
  follows := moves.follows
  reported := moves.reported
  waiting := moves.waiting
  failed := moves.failed
  ever := moves.ever
  posted := moves.posted
  handed := moves.handed
  token := moves.token

theorem Consistent.settle (runtime : Runtime) (consistent : Consistent flow) (number : Nat)
    (fetched : Fetched) (now : ℚ) (callback : Option Thrown) :
    Consistent (flow.act runtime (.settle number fetched now callback)) := by
  dsimp only [Flow.act]
  split
  · rename_i found
    obtain ⟨ended, ⟨_, requesting⟩ | ⟨other, _⟩⟩ := consistent.inFlight_eq found
    · have clear := consistent.error_eq_none (by rw [requesting]; decide)
      have moves := moves_challengeSettled
        { flow with inFlight := flow.inFlight.eraseIdx number } requesting ended clear fetched
      exact moves.of_ended.consistent consistent
    · cases other
  · rename_i found
    obtain ⟨ended, ⟨other, _⟩ | ⟨_, verifying⟩⟩ := consistent.inFlight_eq found
    · cases other
    · have clear := consistent.error_eq_none (by rw [verifying]; decide)
      obtain ⟨middle, first, same | second⟩ :=
        moves_signatureSettled runtime
          { flow with inFlight := flow.inFlight.eraseIdx number } verifying ended clear
          fetched now callback
      · rw [same]
        exact first.of_ended.consistent consistent
      · exact second.consistent (first.of_ended.consistent consistent)
  · exact consistent

theorem Consistent.drawn (runtime : Runtime) (consistent : Consistent flow) :
    Consistent (flow.drawn runtime) where
  path := consistent.path
  current := consistent.current
  waiting := consistent.waiting
  failed := consistent.failed
  ever := consistent.ever
  posted := consistent.posted
  handed := consistent.handed
  token := consistent.token

theorem Consistent.step (runtime : Runtime) (consistent : Consistent flow) (event : Event) :
    Consistent (flow.step runtime event) := by
  refine Consistent.drawn runtime ?_
  cases event with
  | click action =>
      dsimp only [Flow.act]
      split
      · rename_i offered
        rw [Bool.and_eq_true, List.contains_iff_mem] at offered
        exact consistent.perform runtime offered.2
      · exact consistent
  | settle number fetched now callback =>
      exact consistent.settle runtime number fetched now callback

theorem reached_consistent (runtime : Runtime) (events : List Event) :
    Consistent (Flow.reached runtime events) :=
  Machine.run_invariant (Flow.step runtime) Consistent
    (fun _ event consistent => consistent.step runtime event) events Flow.start start_consistent

end Moves

/-- Along every run the stages that the parent is told are the ones gone through, each after
one that it may follow.  At most one request is on its way, an error is shown in the stage
of errors only, every verification posts one transaction and every success hands over one
token.  `isAuthenticated` says that there has ever been a success; a token is kept only
until the next attempt, and is then the last one handed over. -/
theorem flow_follows_protocol (runtime : Runtime) (events : List Event) :
    let flow := Flow.reached runtime events
    flow.stages.IsChain (fun earlier later => later ∈ earlier.next) ∧
    flow.stages.getLast? = some flow.state.stage ∧
    flow.inFlight.length ≤ 1 ∧
    (flow.state.error.isSome = true ↔ flow.state.stage = .error) ∧
    flow.submitted.length = flow.stageChanges.count .verifying ∧
    flow.authenticated.length = flow.stageChanges.count .done ∧
    (flow.state.isAuthenticated = true ↔ flow.authenticated ≠ []) ∧
    (flow.state.sessionToken = some .null ∨
      flow.authenticated.getLast? = some flow.state.sessionToken ∧
        (flow.state.stage = .done ∨ flow.state.stage = .error)) := by
  intro flow
  have consistent : Consistent flow := reached_consistent runtime events
  refine ⟨consistent.path, consistent.current, ?_, ?_, consistent.posted, consistent.handed,
    ?_, consistent.token⟩
  · rw [consistent.waiting]
    cases flow.state.stage <;> decide
  · rw [consistent.failed, beq_iff_eq]
  · rw [consistent.ever, List.contains_iff_mem, ← List.count_pos_iff, ← consistent.handed,
      List.length_pos_iff]

/-! ## Challenges are not used twice -/

section Fresh

def Flow.visits (runtime : Runtime) (events : List Event) : List (Flow × Event) :=
  Machine.visits (Flow.step runtime) Flow.start events

def received (visit : Flow × Event) : List Json :=
  match visit.2 with
  | .settle number fetched _ _ =>
      match visit.1.inFlight[number]?, receivedTransaction fetched with
      | some .challenge, .ok transaction => transaction.toList
      | _, _ => []
  | .click _ => []

def Flow.ready (flow : Flow) : List Json :=
  if flow.state.stage = .awaitingSignature then flow.state.challenge.toList else []

/-- What has been posted comes of the challenges before the one that is ready. -/
def Fresh (runtime : Runtime) (past : List (Flow × Event)) (flow : Flow) : Prop :=
  ∃ earlier, past.flatMap received = earlier ++ flow.ready ∧
    flow.submitted.Sublist (earlier.filterMap (signed runtime))

variable {runtime : Runtime} {past : List (Flow × Event)} {flow after : Flow}

theorem Fresh.sublist (fresh : Fresh runtime past flow) :
    flow.submitted.Sublist ((past.flatMap received).filterMap (signed runtime)) := by
  obtain ⟨earlier, split, posted⟩ := fresh
  rw [split, List.filterMap_append]
  exact posted.trans (List.sublist_append_left _ _)

theorem Fresh.leave (fresh : Fresh runtime past flow) (event : Event)
    (posted : after.submitted = flow.submitted)
    (ready : after.ready = received (flow, event)) :
    Fresh runtime (past ++ [(flow, event)]) after := by
  refine ⟨past.flatMap received, ?_, ?_⟩
  · rw [List.flatMap_append, List.flatMap_singleton, ready]
  · rw [posted]
    exact fresh.sublist

theorem Fresh.stay (fresh : Fresh runtime past flow) {event : Event}
    (silent : received (flow, event) = []) : Fresh runtime (past ++ [(flow, event)]) flow := by
  obtain ⟨earlier, split, posted⟩ := fresh
  refine ⟨earlier, ?_, posted⟩
  rw [List.flatMap_append, List.flatMap_singleton, silent, List.append_nil, split]

theorem Fresh.submit (fresh : Fresh runtime past flow)
    (awaiting : flow.state.stage = .awaitingSignature) :
    Fresh runtime (past ++ [(flow, .click .submit)]) (flow.submit runtime) := by
  unfold Flow.submit
  split
  · exact fresh.leave _ rfl rfl
  · rename_i challenge truthy
    split
    · exact fresh.stay rfl
    · rename_i transaction isSigned
      obtain ⟨earlier, split, posted⟩ := fresh
      have held : flow.state.challenge = some challenge := (Option.filter_eq_some_iff.mp truthy).1
      have ready : flow.ready = [challenge] := by
        rw [Flow.ready, if_pos awaiting, held]
        rfl
      refine ⟨earlier ++ [challenge], ?_, ?_⟩
      · rw [List.flatMap_append, List.flatMap_singleton, split, ready]
        rfl
      · rw [List.filterMap_append]
        refine posted.append ?_
        rw [List.filterMap_cons_some isSigned]
        exact List.Sublist.refl _

theorem Fresh.perform (fresh : Fresh runtime past flow) {action : Action}
    (offered : action ∈ flow.state.stage.actions) :
    Fresh runtime (past ++ [(flow, .click action)]) (flow.perform runtime action) := by
  cases action with
  | requestChallenge => exact fresh.leave _ rfl rfl
  | retry => exact fresh.leave _ rfl rfl
  | submit =>
      cases stage : flow.state.stage with
      | awaitingSignature => exact fresh.submit stage
      | _ =>
          rw [stage] at offered
          exact absurd offered (by decide)

theorem Fresh.settle (fresh : Fresh runtime past flow) (number : Nat) (fetched : Fetched)
    (now : ℚ) (callback : Option Thrown) :
    Fresh runtime (past ++ [(flow, .settle number fetched now callback)])
      (flow.act runtime (.settle number fetched now callback)) := by
  dsimp only [Flow.act]
  cases found : flow.inFlight[number]? with
  | none =>
      refine fresh.stay ?_
      dsimp only [received]
      rw [found]
  | some request =>
      cases request with
      | challenge =>
          dsimp only
          unfold Flow.challengeSettled
          cases answered : receivedTransaction fetched with
          | ok transaction =>
              refine fresh.leave _ rfl ?_
              dsimp only [received]
              rw [found, answered]
              rfl
          | error thrown =>
              refine fresh.leave _ rfl ?_
              dsimp only [received]
              rw [found, answered]
              rfl
      | signature =>
          have silent : received (flow, .settle number fetched now callback) = [] := by
            dsimp only [received]
            rw [found]
          dsimp only
          unfold Flow.signatureSettled
          cases receivedToken runtime now fetched with
          | error thrown => exact fresh.leave _ rfl silent.symm
          | ok answer =>
              cases callback with
              | none => exact fresh.leave _ rfl silent.symm
              | some thrown => exact fresh.leave _ rfl silent.symm

theorem Fresh.step (fresh : Fresh runtime past flow) (event : Event) :
    Fresh runtime (past ++ [(flow, event)]) (flow.step runtime event) := by
  have acted : Fresh runtime (past ++ [(flow, event)]) (flow.act runtime event) := by
    cases event with
    | click action =>
        dsimp only [Flow.act]
        split
        · rename_i offered
          rw [Bool.and_eq_true, List.contains_iff_mem] at offered
          exact fresh.perform offered.2
        · exact fresh.stay rfl
    | settle number fetched now callback => exact fresh.settle number fetched now callback
  exact acted

end Fresh

/-- The transactions that are posted come of the challenges that the anchor has issued, in
their order, and of each challenge once at most. -/
theorem challenges_submitted_once (runtime : Runtime) (events : List Event) :
    (Flow.reached runtime events).submitted.Sublist
      (((Flow.visits runtime events).flatMap received).filterMap (signed runtime)) := by
  have fresh : Fresh runtime (Flow.visits runtime events) (Flow.reached runtime events) := by
    refine Machine.history_invariant (Flow.step runtime) (Fresh runtime) events Flow.start ?_ ?_
    · rintro past ⟨flow, event⟩ _ fresh
      exact fresh.step event
    · exact ⟨[], rfl, .slnil⟩
  exact fresh.sublist

/-! ## There is always a way in -/

section Login

variable {runtime : Runtime} {flow : Flow} {body : Json}

structure Stands (current : Sep10Stage) (tokens : List Value) (flow : Flow) : Prop where
  mounted : flow.mounted = true
  stage : flow.state.stage = current
  waiting : flow.inFlight = current.awaited
  tokens : flow.authenticated = tokens

variable {tokens : List Value}

theorem Stands.retry {stage : Sep10Stage} (stands : Stands stage tokens flow)
    (offered : .retry ∈ stage.actions) (ended : flow.inFlight = []) :
    Stands .idle tokens (flow.step runtime (.click .retry)) := by
  have clicked : flow.act runtime (.click .retry) = flow.retry := by
    simp [Flow.act, stands.mounted, stands.stage, offered, Flow.perform]
  rw [Flow.step, clicked]
  exact ⟨by simp [Flow.drawn, Flow.retry, Flow.updateState, Sep10State.draws, stands.mounted],
    rfl, ended, stands.tokens⟩

theorem Stands.requestChallenge (stands : Stands .idle tokens flow) :
    Stands .requesting tokens (flow.step runtime (.click .requestChallenge)) := by
  have clicked : flow.act runtime (.click .requestChallenge) =
      flow.perform runtime .requestChallenge := by
    simp [Flow.act, stands.mounted, stands.stage, Sep10Stage.actions]
  rw [Flow.step, clicked]
  refine ⟨?_, rfl, congrArg (· ++ [Request.challenge]) stands.waiting, stands.tokens⟩
  simp [Flow.drawn, Flow.perform, Flow.updateState, Sep10State.draws, stands.mounted]

theorem destructure_of_get {name : String} {value : Json} (found : body.get name = some value) :
    destructure body = .ok body := by
  cases body with
  | null => cases found
  | _ => rfl

theorem Stands.challenge (stands : Stands .requesting tokens flow) {challenge : String}
    (issued : body.get "transaction" = some (.string challenge)) (statusText : String)
    (now : ℚ) (callback : Option Thrown) :
    let after := flow.step runtime (.settle 0 (.response true statusText (some body)) now callback)
    Stands .awaitingSignature tokens after ∧
      after.state.challenge = some (.string challenge) := by
  have answered : receivedTransaction (.response true statusText (some body)) =
      .ok (some (.string challenge)) := by
    simp [receivedTransaction, Sep10.requestChallenge, destructure_of_get issued, issued, pure,
      Except.pure, bind, Except.bind]
  have settled : flow.act runtime
      (.settle 0 (.response true statusText (some body)) now callback) =
        { flow with inFlight := [] }.updateState fun state =>
          { state with
            stage := .awaitingSignature
            challenge := some (.string challenge) } := by
    simp [Flow.act, stands.waiting, Sep10Stage.awaited, Flow.challengeSettled, answered]
  dsimp only
  rw [Flow.step, settled]
  refine ⟨⟨?_, rfl, rfl, stands.tokens⟩, rfl⟩
  cases truthy : (Json.string challenge).truthy with
  | true =>
      simp [Flow.drawn, Flow.updateState, Sep10State.draws, Option.filter, truthy,
        drawsChallenge, stands.mounted]
  | false =>
      simp [Flow.drawn, Flow.updateState, Sep10State.draws, Option.filter, truthy,
        stands.mounted]

theorem Stands.submit (stands : Stands .awaitingSignature tokens flow) {challenge : String}
    (held : flow.state.challenge = some (.string challenge)) (nonempty : challenge ≠ "") :
    Stands .verifying tokens (flow.step runtime (.click .submit)) := by
  have truthy : flow.state.challenge.filter Json.truthy = some (.string challenge) := by
    rw [held]
    simp [Option.filter, Json.truthy, nonempty]
  have clicked : flow.act runtime (.click .submit) = flow.submit runtime := by
    simp [Flow.act, stands.mounted, stands.stage, Sep10Stage.actions, Flow.perform]
  rw [Flow.step, clicked, Flow.submit, truthy]
  refine ⟨?_, rfl, congrArg (· ++ [Request.signature]) stands.waiting, stands.tokens⟩
  simp [Flow.drawn, signed, Flow.updateState, Sep10State.draws, stands.mounted]

theorem Stands.signature (stands : Stands .verifying tokens flow) {token : String}
    {seconds : ℚ} (granted : body.get "token" = some (.string token))
    (lasting : runtime.toNumber (body.get "expiresIn") = some (.finite seconds))
    (statusText : String) (now : ℚ) :
    let after := flow.step runtime (.settle 0 (.response true statusText (some body)) now none)
    Stands .done (tokens ++ [some (.string token)]) after ∧
      after.state.sessionToken = some (.string token) ∧
      after.state.expiresAt = some (.finite (now + seconds * 1000)) := by
  have answered : receivedToken runtime now (.response true statusText (some body)) =
      .ok (some (.string token), .finite (now + seconds * 1000)) := by
    simp [receivedToken, submitSignedChallenge, destructure_of_get granted, granted, lasting,
      expiry, pure, Except.pure, bind, Except.bind]
  have settled : flow.act runtime
      (.settle 0 (.response true statusText (some body)) now none) =
        { flow with inFlight := [] }.authenticate (some (.string token))
          (.finite (now + seconds * 1000)) := by
    simp [Flow.act, stands.waiting, Sep10Stage.awaited, Flow.signatureSettled, answered]
  have masked : (maskToken runtime (.string token)).isSome = true := by
    simp only [maskToken]
    split
    · rfl
    · rfl
  dsimp only
  rw [Flow.step, settled]
  refine ⟨⟨?_, rfl, rfl, congrArg (· ++ [some (Json.string token)]) stands.tokens⟩, rfl, rfl⟩
  by_cases empty : token = ""
  · simp [Flow.drawn, Flow.authenticate, Flow.updateState, Sep10State.draws, Option.filter,
      Json.truthy, empty, stands.mounted]
  · simp [Flow.drawn, Flow.authenticate, Flow.updateState, Sep10State.draws, Option.filter,
      Json.truthy, empty, masked, stands.mounted]

/-- The clicks that lead back to the start from a stage that waits for no answer. -/
def Sep10Stage.back (stage : Sep10Stage) : List Event :=
  if stage = .idle then [] else [.click .retry]

theorem Stands.back {stage : Sep10Stage} (stands : Stands stage tokens flow)
    (ended : flow.inFlight = []) :
    Stands .idle tokens (Machine.run (Flow.step runtime) flow stage.back) := by
  have waiting := stands.waiting
  rw [ended] at waiting
  cases stage with
  | idle => exact stands
  | awaitingSignature | done | error => exact stands.retry (by decide) ended
  | requesting | verifying => cases waiting

/-- An anchor's two answers: a challenge, and a token for it. -/
def answers (challenge token : Json) (statusText : String) (now : ℚ) : List Event :=
  [.click .requestChallenge, .settle 0 (.response true statusText (some challenge)) now none,
    .click .submit, .settle 0 (.response true statusText (some token)) now none]

theorem Stands.login (stands : Stands .idle tokens flow) {body : Json} {challenge : String}
    (issued : body.get "transaction" = some (.string challenge)) (nonempty : challenge ≠ "")
    {reply : Json} {token : String} {seconds : ℚ}
    (granted : reply.get "token" = some (.string token))
    (lasting : runtime.toNumber (reply.get "expiresIn") = some (.finite seconds))
    (statusText : String) (now : ℚ) :
    let after := Machine.run (Flow.step runtime) flow (answers body reply statusText now)
    Stands .done (tokens ++ [some (.string token)]) after ∧
      after.state.sessionToken = some (.string token) ∧
      after.state.expiresAt = some (.finite (now + seconds * 1000)) := by
  have requesting : Stands .requesting tokens
      (flow.step runtime (.click .requestChallenge)) := stands.requestChallenge
  obtain ⟨awaiting, held⟩ := requesting.challenge issued statusText now none
  exact (awaiting.submit held nonempty).signature granted lasting statusText now

end Login

/-- Whatever has happened, while the component is on the page and waits for no answer the
user can get in: one click at most leads back to the start, and an anchor that answers with
a challenge and then with a token is all it takes. -/
theorem login_always_possible (runtime : Runtime) (events : List Event)
    (mounted : (Flow.reached runtime events).mounted = true)
    (ended : (Flow.reached runtime events).inFlight = []) (body reply : Json)
    (challenge token : String) (seconds : ℚ)
    (issued : body.get "transaction" = some (.string challenge)) (nonempty : challenge ≠ "")
    (granted : reply.get "token" = some (.string token))
    (lasting : runtime.toNumber (reply.get "expiresIn") = some (.finite seconds))
    (statusText : String) (now : ℚ) :
    let flow := Flow.reached runtime events
    let after := Machine.run (Flow.step runtime) flow
      (flow.state.stage.back ++ answers body reply statusText now)
    after.mounted = true ∧ after.state.stage = .done ∧
      after.state.sessionToken = some (.string token) ∧
      after.state.expiresAt = some (.finite (now + seconds * 1000)) ∧
      after.authenticated = flow.authenticated ++ [some (.string token)] := by
  intro flow after
  have stands : Stands flow.state.stage flow.authenticated flow :=
    ⟨mounted, rfl, (reached_consistent runtime events).waiting, rfl⟩
  have idle : Stands .idle flow.authenticated
      (Machine.run (Flow.step runtime) flow flow.state.stage.back) := stands.back ended
  have result := idle.login issued nonempty granted lasting statusText now
  rw [← Machine.run_append] at result
  obtain ⟨done, shown, expires⟩ := result
  exact ⟨done.mounted, done.stage, shown, expires, done.tokens⟩

section Sample

def plainRuntime : Runtime where
  toText := fun _ => none
  toNumber := fun value =>
    match value with
    | some (.number value) => some (.finite value)
    | _ => none
  draws := fun _ => true

def failedAttempt : List Event :=
  [.click .requestChallenge, .settle 0 .rejected 0 none]

end Sample

theorem login_after_failedAttempt :
    let flow := Flow.reached plainRuntime failedAttempt
    let after := Machine.run (Flow.step plainRuntime) flow (flow.state.stage.back ++
      answers (.object [("transaction", .string "challenge")])
        (.object [("token", .string "token"), ("expiresIn", .number 60)]) "OK" 5)
    flow.state.stage = .error ∧ after.state.stage = .done ∧
      after.authenticated = [some (.string "token")] := by
  obtain ⟨-, done, -, -, handed⟩ := login_always_possible plainRuntime failedAttempt rfl rfl
    (.object [("transaction", .string "challenge")])
    (.object [("token", .string "token"), ("expiresIn", .number 60)]) "challenge" "token" 60
    rfl (by decide) rfl rfl "OK" 5
  exact ⟨rfl, done, handed⟩

end AnchorKit.Sdk.Sep10
