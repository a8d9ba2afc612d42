import AnchorKit.Webhook.Processor
import AnchorKit.Webhook.Retries

/-!
# What a duplicate is answered

Calls of `process` one after the other, each with a whole run of `deliver`.  A failure is
recorded as well as a delivery, and a recorded response is returned as `Ok` whatever it
was recorded for: the answer to a duplicate says that its key is recorded, not that its
payload has been delivered.
-/

set_option autoImplicit false

namespace AnchorKit.Webhook

open AnchorKit.Base

structure Submission (Value : Type) where
  url : String
  payload : Value
  turns : Nat → Turn
  recordedAt : Nat

/-- What became of a call; it has no result if it panicked or was abandoned. -/
structure Answer (Value : Type) where
  payload : Value
  result : Option (Except WebhookError (ProcessingResult Value))
  log : List Pass

variable {Value : Type}

def Answer.succeeded (answer : Answer Value) : Bool :=
  match answer.result with
  | some (.ok _) => true
  | _ => false

def Answer.delivers (answer : Answer Value) : Bool :=
  answer.log.any Pass.succeeds

structure Processor (libraries : Libraries Value) where
  store : IdempotencyStore libraries
  registry : CircuitBreakerRegistry

section Process

variable (libraries : Libraries Value) (deliverer : WebhookDeliverer)

def process (submission : Submission Value) (processor : Processor libraries) :
    Answer Value × Processor libraries :=
  let delivery := WebhookDelivery.new submission.url submission.payload
  let key := deriveIdempotencyKey libraries delivery.payload
  match processor.store.get libraries key with
  | some cached => (⟨submission.payload, some (.ok ⟨key, true, cached⟩), []⟩, processor)
  | none =>
      let run := deliver libraries.circuitKey deliverer submission.turns delivery
        processor.registry
      match run.ending with
      | .returned (.ok result) =>
          (⟨submission.payload,
              some (.ok ⟨key, false, libraries.object (deliveredResponse result)⟩), run.log⟩,
            { store := processor.store.record libraries submission.recordedAt key
                result.payload (deliveredResponse result)
              registry := run.registry })
      | .returned (.error error) =>
          (⟨submission.payload, some (.error error), run.log⟩,
            { store := processor.store.record libraries submission.recordedAt key
                (libraries.object []) (failedResponse error)
              registry := run.registry })
      | _ =>
          (⟨submission.payload, none, run.log⟩,
            { processor with registry := run.registry })

structure History where
  processor : Processor libraries
  answers : List (Answer Value)

variable {libraries}

def History.step (history : History libraries) (submission : Submission Value) :
    History libraries :=
  let (answer, processor) := process libraries deliverer submission history.processor
  ⟨processor, history.answers ++ [answer]⟩

variable (libraries)

def IdempotencyStore.empty : IdempotencyStore libraries where
  rows := fun _ => none
  readable := nofun

/-- The calls made one after the other, from an empty store. -/
def History.reached (registry : CircuitBreakerRegistry)
    (submissions : List (Submission Value)) : History libraries :=
  Machine.run (History.step deliverer) ⟨⟨IdempotencyStore.empty libraries, registry⟩, []⟩
    submissions

/-- The call returned, so its response is recorded under the key. -/
def recordedUnder (key : String) (answer : Answer Value) : Bool :=
  decide (deriveIdempotencyKey libraries answer.payload = key) && answer.result.isSome

end Process

/-! ## One call -/

section Calls

variable {libraries : Libraries Value} {deliverer : WebhookDeliverer}

theorem IdempotencyStore.has_record_iff (store : IdempotencyStore libraries) (now : Nat)
    (key other : String) (payload : Value) (response : List (String × Scalar)) :
    (store.record libraries now key payload response).Has other ↔
      other = key ∨ store.Has other := by
  constructor
  · intro has
    by_cases same : other = key
    · exact .inl same
    · right
      have kept : (store.record libraries now key payload response).rows other =
          store.rows other := Function.update_of_ne same _ _
      unfold IdempotencyStore.Has at has
      rwa [kept] at has
  · rintro (rfl | has)
    · exact store.has_record now other payload response
    · exact has.record now key payload response

inductive Processes (submission : Submission Value) (processor : Processor libraries) :
    Answer Value × Processor libraries → Prop
  | replayed (answer : Answer Value)
      (has : processor.store.Has (deriveIdempotencyKey libraries submission.payload))
      (carried : answer.payload = submission.payload) (good : answer.succeeded = true)
      (quiet : answer.delivers = false) :
      Processes submission processor (answer, processor)
  | recorded (answer : Answer Value) (after : Processor libraries)
      (absent : ¬ processor.store.Has (deriveIdempotencyKey libraries submission.payload))
      (carried : answer.payload = submission.payload)
      (returned : answer.result.isSome = true) (genuine : answer.succeeded = answer.delivers)
      (stored : ∀ key, after.store.Has key ↔
        key = deriveIdempotencyKey libraries submission.payload ∨ processor.store.Has key) :
      Processes submission processor (answer, after)
  | lost (answer : Answer Value) (after : Processor libraries)
      (absent : ¬ processor.store.Has (deriveIdempotencyKey libraries submission.payload))
      (carried : answer.payload = submission.payload) (unreturned : answer.result = none)
      (quiet : answer.delivers = false) (kept : after.store = processor.store) :
      Processes submission processor (answer, after)

theorem Caused.no_success {breaker : Option (CircuitBreakerConfig × String)}
    {ending : Ending Value} {log : List Pass} (caused : Caused breaker ending log)
    (other : ∀ final, ending ≠ .returned (.ok final)) :
    log.any Pass.succeeds = false := by
  by_contra success
  obtain ⟨final, delivered⟩ := caused.ok_iff.mpr (Bool.not_eq_false _ ▸ success)
  exact other final delivered

variable (deliverer)

theorem deliver_new_caused (circuitKey : String → Option String) (turns : Nat → Turn)
    (url : String) (payload : Value) (registry : CircuitBreakerRegistry) :
    let run := deliver circuitKey deliverer turns (.new url payload) registry
    Caused (deliverer.breaker circuitKey url) run.ending run.log := by
  have room : (WebhookDelivery.new url payload).attempt.toNat + 1 < 2 ^ 32 :=
    show (0 : UInt32).toNat + 1 < 2 ^ 32 by decide
  exact (deliver_runs circuitKey deliverer turns _ registry room).explains.caused

theorem process_processes (submission : Submission Value) (processor : Processor libraries) :
    Processes submission processor (process libraries deliverer submission processor) := by
  have caused := deliver_new_caused deliverer libraries.circuitKey submission.turns
    submission.url submission.payload processor.registry
  have agrees := processor.store.get_isSome
    (deriveIdempotencyKey libraries submission.payload)
  unfold process
  dsimp only [WebhookDelivery.new] at caused ⊢
  split
  · rename_i cached hit
    rw [hit] at agrees
    exact .replayed _ agrees.symm rfl rfl rfl
  · rename_i missed
    rw [missed] at agrees
    have absent : ¬ processor.store.Has (deriveIdempotencyKey libraries submission.payload) := by
      intro has
      rw [has] at agrees
      cases agrees
    split
    · rename_i result ended
      refine .recorded _ _ absent rfl rfl (caused.ok_iff.mp ⟨result, ended⟩).symm ?_
      exact fun key => processor.store.has_record_iff _ _ key _ _
    · rename_i error ended
      refine .recorded _ _ absent rfl rfl (caused.no_success ?_).symm ?_
      · rw [ended]
        exact nofun
      · exact fun key => processor.store.has_record_iff _ _ key _ _
    · rename_i notOk notError
      exact .lost _ _ absent rfl rfl (caused.no_success notOk) rfl

variable {deliverer}

/-! ## Whole runs -/

/-- The store has a key exactly if a call returned under it.  Only the first such call can
have delivered, and it has if it succeeded. -/
structure Consistent (history : History libraries) : Prop where
  stored : ∀ key, history.processor.store.Has key ↔
    (history.answers.find? (recordedUnder libraries key)).isSome = true
  delivered : ∀ sent ∈ history.answers, sent.delivers = true →
    history.answers.find? (recordedUnder libraries
      (deriveIdempotencyKey libraries sent.payload)) = some sent ∧ sent.succeeded = true
  genuine : ∀ key, ∀ first ∈ history.answers.find? (recordedUnder libraries key),
    first.succeeded = true → first.delivers = true

section Consistent

variable {history : History libraries} {answer : Answer Value} {after : Processor libraries}

theorem Consistent.quiet (consistent : Consistent history) (silent : answer.delivers = false)
    (covered : ∀ key, recordedUnder libraries key answer = true →
      history.processor.store.Has key)
    (kept : after.store = history.processor.store) :
    Consistent ⟨after, history.answers ++ [answer]⟩ := by
  have same : ∀ key, (history.answers ++ [answer]).find? (recordedUnder libraries key) =
      history.answers.find? (recordedUnder libraries key) := by
    intro key
    rw [List.find?_append]
    cases under : recordedUnder libraries key answer with
    | false => simp [List.find?, under]
    | true =>
        obtain ⟨first, found⟩ := Option.isSome_iff_exists.mp
          ((consistent.stored key).mp (covered key under))
        rw [found]
        rfl
  refine ⟨?_, ?_, ?_⟩
  · intro key
    rw [same, kept]
    exact consistent.stored key
  · intro sent member delivers
    rw [same]
    rcases List.mem_append.mp member with earlier | here
    · exact consistent.delivered sent earlier delivers
    · rw [List.mem_singleton.mp here, silent] at delivers
      cases delivers
  · intro key
    rw [same]
    exact consistent.genuine key

theorem Consistent.recorded (consistent : Consistent history)
    (absent : ¬ history.processor.store.Has (deriveIdempotencyKey libraries answer.payload))
    (returned : answer.result.isSome = true) (genuine : answer.succeeded = answer.delivers)
    (stored : ∀ key, after.store.Has key ↔
      key = deriveIdempotencyKey libraries answer.payload ∨ history.processor.store.Has key) :
    Consistent ⟨after, history.answers ++ [answer]⟩ := by
  have under : ∀ key, recordedUnder libraries key answer =
      decide (deriveIdempotencyKey libraries answer.payload = key) := by
    intro key
    rw [recordedUnder, returned, Bool.and_true]
  have first : history.answers.find? (recordedUnder libraries
      (deriveIdempotencyKey libraries answer.payload)) = none := by
    rw [← Option.not_isSome_iff_eq_none, ← consistent.stored]
    exact absent
  refine ⟨?_, ?_, ?_⟩
  · intro key
    rw [stored, List.find?_append, Option.isSome_or, Bool.or_eq_true, ← consistent.stored, or_comm]
    refine or_congr Iff.rfl ?_
    rw [List.find?_singleton, under]
    by_cases same : deriveIdempotencyKey libraries answer.payload = key
    · simp [same]
    · simp [same, Ne.symm same]
  · intro sent member delivers
    rw [List.find?_append]
    rcases List.mem_append.mp member with earlier | here
    · obtain ⟨found, succeeded⟩ := consistent.delivered sent earlier delivers
      rw [found]
      exact ⟨rfl, succeeded⟩
    · cases List.mem_singleton.mp here
      rw [first]
      refine ⟨?_, genuine.trans delivers⟩
      simp [List.find?, under]
  · intro key recorder found succeeded
    rw [List.find?_append] at found
    cases before : history.answers.find? (recordedUnder libraries key) with
    | some earlier =>
        rw [before] at found
        cases Option.some.inj found
        exact consistent.genuine key _ before succeeded
    | none =>
        rw [before, Option.none_or] at found
        cases List.mem_singleton.mp (List.mem_of_find?_eq_some found)
        exact genuine.symm.trans succeeded

theorem Consistent.step (consistent : Consistent history) (submission : Submission Value) :
    Consistent (history.step deliverer submission) := by
  have processes := process_processes deliverer submission history.processor
  unfold History.step
  generalize process libraries deliverer submission history.processor = outcome at processes
  cases processes with
  | replayed answer has carried good quiet =>
      refine consistent.quiet quiet ?_ rfl
      intro key under
      rw [recordedUnder, Bool.and_eq_true, decide_eq_true_eq, carried] at under
      rw [← under.1]
      exact has
  | recorded answer after absent carried returned genuine stored =>
      rw [← carried] at absent
      refine consistent.recorded absent returned genuine ?_
      rw [carried]
      exact stored
  | lost answer after absent carried unreturned quiet kept =>
      refine consistent.quiet quiet ?_ kept
      intro key under
      rw [recordedUnder, unreturned] at under
      simp at under

end Consistent

theorem reached_consistent (deliverer : WebhookDeliverer) (registry : CircuitBreakerRegistry)
    (submissions : List (Submission Value)) :
    Consistent (History.reached libraries deliverer registry submissions) := by
  refine Machine.run_invariant (History.step deliverer) Consistent
    (fun _ submission consistent => consistent.step submission) submissions _ ?_
  refine ⟨?_, nofun, nofun⟩
  intro key
  constructor
  · exact nofun
  · exact nofun

end Calls

/-- In every run of calls one after the other, a call that returns `Ok` has had its payload
delivered, by itself or an earlier call, exactly if the first call that returned under its
key, if there was one, succeeded and carried the same payload. -/
theorem ok_only_if_delivered_iff (libraries : Libraries Value) (deliverer : WebhookDeliverer)
    (registry : CircuitBreakerRegistry) (submissions : List (Submission Value))
    (submission : Submission Value) :
    let history := History.reached libraries deliverer registry submissions
    let answer := (process libraries deliverer submission history.processor).1
    (answer.succeeded = true → ∃ sent ∈ history.answers ++ [answer],
        sent.payload = submission.payload ∧ sent.delivers = true) ↔
      ∀ first ∈ history.answers.find? (recordedUnder libraries
          (deriveIdempotencyKey libraries submission.payload)),
        first.succeeded = true ∧ first.payload = submission.payload := by
  intro history answer
  have consistent : Consistent history := reached_consistent deliverer registry submissions
  have processes := process_processes deliverer submission history.processor
  generalize outcome : process libraries deliverer submission history.processor = called
    at processes
  have answered : answer = called.1 := congrArg Prod.fst outcome
  rw [answered]
  cases processes with
  | replayed answer has carried good quiet =>
      constructor
      · intro delivered first found
        obtain ⟨sent, member, same, delivers⟩ := delivered good
        rcases List.mem_append.mp member with earlier | here
        · obtain ⟨recorder, succeeded⟩ := consistent.delivered sent earlier delivers
          rw [same, found] at recorder
          cases Option.some.inj recorder
          exact ⟨succeeded, same⟩
        · rw [List.mem_singleton.mp here, quiet] at delivers
          cases delivers
      · intro condition _
        obtain ⟨first, found⟩ := Option.isSome_iff_exists.mp ((consistent.stored _).mp has)
        obtain ⟨succeeded, same⟩ := condition first found
        exact ⟨first, List.mem_append_left _ (List.mem_of_find?_eq_some found), same,
          consistent.genuine _ first found succeeded⟩
  | recorded answer after absent carried returned genuine stored =>
      constructor
      · intro _ first found
        exact absurd ((consistent.stored _).mpr (by rw [found]; rfl)) absent
      · intro _ succeeded
        exact ⟨answer, List.mem_append_right _ (List.mem_singleton_self _), carried,
          genuine.symm.trans succeeded⟩
  | lost answer after absent carried unreturned quiet kept =>
      constructor
      · intro _ first found
        exact absurd ((consistent.stored _).mpr (by rw [found]; rfl)) absent
      · intro _ succeeded
        simp [Answer.succeeded, unreturned] at succeeded

section Sample

def oneAttempt : WebhookDeliverer where
  retryConfig := ⟨1⟩
  circuitBreakers := none

def answeredWith (status : UInt16) : Submission String where
  url := "a.example"
  payload := "event"
  turns := fun _ => quietTurn (some (.response status none))
  recordedAt := 2

end Sample

/-- The first call fails, and the second one returns the cached failure as `Ok`. -/
theorem cached_failure_returned_as_ok :
    let history := History.reached plainLibraries oneAttempt (fun _ => none) [answeredWith 500]
    let answer := (process plainLibraries oneAttempt (answeredWith 500) history.processor).1
    history.answers.map Answer.succeeded = [false] ∧ answer.succeeded = true ∧
      (history.answers ++ [answer]).any Answer.delivers = false := by
  decide +kernel

end AnchorKit.Webhook
