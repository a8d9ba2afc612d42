import AnchorKit.Base.MachineInt
import AnchorKit.Cli.Error
import AnchorKit.Cli.TransactionUrl

/-!
# The loop of `watch.rs`

`turn` is one pass of the loop: a request, what it comes to, and what is printed and
waited for.  The loop may go on forever, so that a run is read off an endless sequence
of exchanges: `after` says where the loop stands when so many requests were made.  What
the client makes of a request is the exchange: no response, or a response whose body is
read as one of the two response types.

The loop is assumed to be reached: `long_poll_secs + 5`, the client's timeout, fits into a
`u64` (a larger sum panics where overflow is checked), and the client could be built.
-/

set_option autoImplicit false

namespace AnchorKit.Cli.Watch

open AnchorKit.Base.MachineInt

structure Transaction where
  status : String
  message : Option String
  moreInfoUrl : Option String
  updatedAt : Option String
  deriving DecidableEq, Repr

def terminalStatuses : List String :=
  ["completed", "error", "refunded", "expired", "no_market", "too_small", "too_large"]

def isTerminal (status : String) : Bool :=
  terminalStatuses.contains status

def maxReconnectAttempts : Nat := 10
def initialBackoffMs : Nat := 1000
def maxBackoffMs : Nat := 30000
def defaultLongPollTimeoutSecs : UInt64 := 30
def defaultPollIntervalMs : UInt64 := 5000

/-- In `u64`, where products and powers saturate. -/
def backoffMs (attempt : Nat) : Nat :=
  min (min (initialBackoffMs * min (2 ^ attempt) u64Max) u64Max) maxBackoffMs

inductive Transport where
  | longPoll
  | polling
  deriving DecidableEq, Repr

structure Settings where
  baseUrl : String
  transactionId : String
  authToken : Option String
  longPollSecs : UInt64
  pollMs : UInt64

/-- The arguments of `run` with their defaults; the client's timeout is assumed to fit. -/
def Settings.ofArguments (transferServerUrl transactionId : String) (authToken : Option String)
    (longPollTimeoutSecs pollIntervalMs : Option UInt64) : Settings where
  baseUrl := trimEndSlashes transferServerUrl
  transactionId := transactionId
  authToken := authToken
  longPollSecs := longPollTimeoutSecs.getD defaultLongPollTimeoutSecs
  pollMs := pollIntervalMs.getD defaultPollIntervalMs

structure Request where
  url : String
  bearer : Option String
  deriving DecidableEq, Repr

def Settings.request (settings : Settings) : Transport → Request
  | .longPoll =>
      ⟨longPollUrl settings.baseUrl settings.transactionId settings.longPollSecs,
        settings.authToken⟩
  | .polling => ⟨pollUrl settings.baseUrl settings.transactionId, settings.authToken⟩

/-- What a request comes to.  `printed` is the status as it is displayed. -/
inductive Exchange where
  | failed (reason : String)
  | response (status : UInt16) (printed : String)
      (transactions : Except String (List Transaction)) (transaction : Except String Transaction)

def longPollOnce : Exchange → Except CliError (Option Transaction)
  | .failed reason => .error (.rpc reason)
  | .response status _ transactions _ =>
      if status = 404 ∨ status = 405 then .error .longPollUnsupported
      else if ¬ isSuccess status then
        .error (.rpc ("long-poll returned HTTP " ++ toString status))
      else
        match transactions with
        | .error reason => .error (.rpc ("failed to parse long-poll response: " ++ reason))
        | .ok transactions => .ok transactions.head?

def pollOnce : Exchange → Except CliError (Option Transaction)
  | .failed reason => .error (.rpc reason)
  | .response status printed _ transaction =>
      if ¬ isSuccess status then .error (.rpc ("poll returned HTTP " ++ printed))
      else
        match transaction with
        | .error reason => .error (.rpc ("failed to parse poll response: " ++ reason))
        | .ok transaction => .ok (some transaction)

def once : Transport → Exchange → Except CliError (Option Transaction)
  | .longPoll => longPollOnce
  | .polling => pollOnce

/-! ## The loop -/

inductive Action where
  | get (request : Request)
  | print (line : String)
  | eprint (line : String)
  | sleep (ms : Nat)
  deriving DecidableEq, Repr

def printStatusUpdate (tx : Transaction) : List Action :=
  .print ("[" ++ tx.updatedAt.getD "—" ++ "] status: " ++ tx.status ++
      tx.message.elim "" ("  — " ++ ·)) ::
    (tx.moreInfoUrl.map fun url => Action.print ("         more info: " ++ url)).toList

structure Watcher where
  transport : Transport
  consecutiveErrors : Nat
  deriving DecidableEq, Repr

inductive Verdict where
  | goesOn (next : Watcher)
  | returns (result : Except CliError Unit)

def gaveUp : CliError :=
  .rpc ("gave up after " ++ toString maxReconnectAttempts ++ " consecutive errors")

/-- What follows the result of a request: the actions, and whether the loop goes on. -/
def respond (settings : Settings) (watcher : Watcher) :
    Except CliError (Option Transaction) → List Action × Verdict
  | .error .longPollUnsupported =>
      ([.print "[watch] anchor does not support long-poll — switching to polling"],
        .goesOn ⟨.polling, 0⟩)
  | .error error =>
      let errors := watcher.consecutiveErrors + 1
      let announced := Action.eprint ("[watch] error (attempt " ++ toString errors ++ "/" ++
        toString maxReconnectAttempts ++ "): " ++ error.display)
      if maxReconnectAttempts ≤ errors then ([announced], .returns (.error gaveUp))
      else
        let delay := backoffMs (errors - 1)
        ([announced, .eprint ("[watch] retrying in " ++ toString delay ++ "ms…"), .sleep delay],
          .goesOn { watcher with consecutiveErrors := errors })
  | .ok (some tx) =>
      if isTerminal tx.status then
        (printStatusUpdate tx ++
          [.print ("\n✓ Transaction reached terminal status: " ++ tx.status)],
          .returns (.ok ()))
      else
        (printStatusUpdate tx ++
          (if watcher.transport = .polling then [.sleep settings.pollMs.toNat] else []),
          .goesOn { watcher with consecutiveErrors := 0 })
  | .ok none => ([], .goesOn { watcher with consecutiveErrors := 0 })

def turn (settings : Settings) (watcher : Watcher) (exchange : Exchange) :
    List Action × Verdict :=
  let reply := respond settings watcher (once watcher.transport exchange)
  (.get (settings.request watcher.transport) :: reply.1, reply.2)

inductive Progress where
  | running (watcher : Watcher)
  | returned (result : Except CliError Unit)

/-- Where the loop stands after so many requests, each answered by its exchange. -/
def after (settings : Settings) (exchanges : Nat → Exchange) : Nat → Progress
  | 0 => .running ⟨.longPoll, 0⟩
  | n + 1 =>
      match after settings exchanges n with
      | .returned result => .returned result
      | .running watcher =>
          match (turn settings watcher (exchanges n)).2 with
          | .goesOn next => .running next
          | .returns result => .returned result

/-! ## Outcomes -/

def refuses : Exchange → Bool
  | .failed _ => false
  | .response status _ _ _ => status == 404 || status == 405

/-- Long polls up to the first one that is refused, plain polls afterwards. -/
def transportAt (exchanges : Nat → Exchange) (n : Nat) : Transport :=
  if (List.range n).any (refuses ∘ exchanges) then .polling else .longPoll

def outcomeAt (exchanges : Nat → Exchange) (n : Nat) : Except CliError (Option Transaction) :=
  once (transportAt exchanges n) (exchanges n)

def isFailure : Except CliError (Option Transaction) → Bool
  | .error .longPollUnsupported => false
  | .error _ => true
  | .ok _ => false

def isFinal : Except CliError (Option Transaction) → Bool
  | .ok (some tx) => isTerminal tx.status
  | _ => false

/-- The errors in a row among the first so many outcomes, up to the last of them. -/
def errorsInRow (exchanges : Nat → Exchange) : Nat → Nat
  | 0 => 0
  | n + 1 => if isFailure (outcomeAt exchanges n) then errorsInRow exchanges n + 1 else 0

/-- The outcome is an update with a terminal status or the tenth error in a row. -/
def Stops (exchanges : Nat → Exchange) (n : Nat) : Prop :=
  isFinal (outcomeAt exchanges n) = true ∨ errorsInRow exchanges (n + 1) = 10

instance (exchanges : Nat → Exchange) (n : Nat) : Decidable (Stops exchanges n) :=
  inferInstanceAs (Decidable (_ ∨ _))

def conclusion (outcome : Except CliError (Option Transaction)) : Except CliError Unit :=
  if isFinal outcome then .ok () else .error gaveUp

def requests : List Action → List Request :=
  List.filterMap fun
    | .get request => some request
    | _ => none

def waits : List Action → List Nat :=
  List.filterMap fun
    | .sleep ms => some ms
    | _ => none

theorem backoffMs_eq (attempt : Nat) : backoffMs attempt = min (1000 * 2 ^ attempt) 30000 := by
  have large : 30000 ≤ u64Max := by decide
  unfold backoffMs initialBackoffMs maxBackoffMs
  omega

theorem once_unsupported_iff (transport : Transport) (exchange : Exchange) :
    once transport exchange = .error .longPollUnsupported ↔
      transport = .longPoll ∧ refuses exchange = true := by
  cases exchange with
  | failed reason => cases transport <;> simp [once, longPollOnce, pollOnce, refuses]
  | response status printed transactions transaction =>
      cases transport with
      | longPoll =>
          simp only [once, longPollOnce, refuses, true_and, Bool.or_eq_true, beq_iff_eq]
          split
          · simp_all
          · split
            · simp_all
            · cases transactions <;> simp_all
      | polling =>
          simp only [once, pollOnce, reduceCtorEq, false_and, iff_false]
          split
          · simp
          · cases transaction <;> simp

section Loop

variable (settings : Settings) (exchanges : Nat → Exchange)

theorem transportAt_eq_longPoll_iff (n : Nat) :
    transportAt exchanges n = .longPoll ↔ ∀ m < n, refuses (exchanges m) = false := by
  simp [transportAt]

theorem transportAt_succ (n : Nat) :
    transportAt exchanges (n + 1) =
      if outcomeAt exchanges n = .error .longPollUnsupported then .polling
      else transportAt exchanges n := by
  unfold outcomeAt
  simp only [once_unsupported_iff, transportAt, List.range_succ, List.any_append,
    List.any_cons, List.any_nil, Bool.or_false, Function.comp_apply]
  cases (List.range n).any (refuses ∘ exchanges) <;> cases refuses (exchanges n) <;> simp

theorem outcomeAt_unsupported_iff (n : Nat) :
    outcomeAt exchanges n = .error .longPollUnsupported ↔
      refuses (exchanges n) = true ∧ ∀ m < n, refuses (exchanges m) = false := by
  unfold outcomeAt
  rw [once_unsupported_iff, transportAt_eq_longPoll_iff, and_comm]

theorem outcomeAt_unsupported_unique (m n : Nat)
    (first : outcomeAt exchanges m = .error .longPollUnsupported)
    (second : outcomeAt exchanges n = .error .longPollUnsupported) : m = n := by
  obtain ⟨refusedFirst, beforeFirst⟩ := (outcomeAt_unsupported_iff exchanges m).1 first
  obtain ⟨refusedSecond, beforeSecond⟩ := (outcomeAt_unsupported_iff exchanges n).1 second
  rcases Nat.lt_trichotomy m n with less | same | greater
  · simp [beforeSecond m less] at refusedFirst
  · exact same
  · simp [beforeFirst n greater] at refusedSecond

theorem transportAt_eq_polling_iff (n : Nat) :
    transportAt exchanges n = .polling ↔
      ∃ m < n, outcomeAt exchanges m = .error .longPollUnsupported := by
  induction n with
  | zero => simp [transportAt]
  | succ n earlier =>
      rw [transportAt_succ, Nat.exists_lt_succ_right, ← earlier]
      split <;> simp_all

theorem errorsInRow_succ (n : Nat) :
    errorsInRow exchanges (n + 1) =
      if isFailure (outcomeAt exchanges n) then errorsInRow exchanges n + 1 else 0 :=
  rfl

theorem errorsInRow_succ_le (n : Nat) :
    errorsInRow exchanges (n + 1) ≤ errorsInRow exchanges n + 1 := by
  rw [errorsInRow_succ]
  split <;> omega

theorem errorsInRow_lt (n : Nat) (going : ∀ m < n, ¬ Stops exchanges m) :
    errorsInRow exchanges n < 10 := by
  induction n with
  | zero => simp [errorsInRow]
  | succ n earlier =>
      have few := earlier fun m less => going m (by omega)
      have more := errorsInRow_succ_le exchanges n
      have notTen : errorsInRow exchanges (n + 1) ≠ 10 :=
        fun ten => going n (by omega) (.inr ten)
      omega

/-- The loop's counter and transport are those of the outcomes so far: then so are its
next ones, unless it stops. -/
theorem turn_verdict (n : Nat) (few : errorsInRow exchanges n < 10) :
    (turn settings ⟨transportAt exchanges n, errorsInRow exchanges n⟩ (exchanges n)).2 =
      if Stops exchanges n then .returns (conclusion (outcomeAt exchanges n))
      else .goesOn ⟨transportAt exchanges (n + 1), errorsInRow exchanges (n + 1)⟩ := by
  change (respond settings _ (outcomeAt exchanges n)).2 = _
  simp only [Stops, errorsInRow_succ, transportAt_succ]
  cases outcomeAt exchanges n with
  | error error =>
      cases error with
      | longPollUnsupported => simp [respond, isFinal, isFailure]
      | _ =>
          simp only [respond, isFinal, isFailure, conclusion, maxReconnectAttempts]
          by_cases last : errorsInRow exchanges n + 1 = 10
          · simp [last]
          · have more : ¬ 10 ≤ errorsInRow exchanges n + 1 := by omega
            simp [last, more]
  | ok update =>
      cases update with
      | none => simp [respond, isFinal, isFailure]
      | some tx =>
          simp only [respond, isFinal, isFailure, conclusion]
          by_cases terminal : isTerminal tx.status = true <;> simp [terminal]

theorem after_of_going (n : Nat) (going : ∀ m < n, ¬ Stops exchanges m) :
    after settings exchanges n =
      .running ⟨transportAt exchanges n, errorsInRow exchanges n⟩ := by
  induction n with
  | zero => rfl
  | succ n earlier =>
      have before : ∀ m < n, ¬ Stops exchanges m := fun m less => going m (by omega)
      have few := errorsInRow_lt exchanges n before
      simp only [after, earlier before, turn_verdict settings exchanges n few,
        if_neg (going n (by omega))]

theorem after_of_stop (n : Nat) (stops : Stops exchanges n)
    (going : ∀ m < n, ¬ Stops exchanges m) (later : Nat) (past : n < later) :
    after settings exchanges later = .returned (conclusion (outcomeAt exchanges n)) := by
  induction later, past using Nat.le_induction with
  | base =>
      have few := errorsInRow_lt exchanges n going
      simp only [after, after_of_going settings exchanges n going,
        turn_verdict settings exchanges n few, if_pos stops]
  | succ later past earlier => simp only [after, earlier]

theorem running_iff (n : Nat) :
    (∃ watcher, after settings exchanges n = .running watcher) ↔
      ∀ m < n, ¬ Stops exchanges m := by
  constructor
  · rintro ⟨watcher, running⟩ m less stops
    -- the loop has returned at the first stop, which is no later than this one
    have some : ∃ m, Stops exchanges m := ⟨m, stops⟩
    have returned := after_of_stop settings exchanges (Nat.find some) (Nat.find_spec some)
      (fun _ => Nat.find_min some) n (lt_of_le_of_lt (Nat.find_min' some stops) less)
    simp [running] at returned
  · intro going
    exact ⟨_, after_of_going settings exchanges n going⟩

theorem running_eq (n : Nat) (watcher : Watcher)
    (running : after settings exchanges n = .running watcher) :
    watcher = ⟨transportAt exchanges n, errorsInRow exchanges n⟩ := by
  have going := (running_iff settings exchanges n).1 ⟨watcher, running⟩
  rw [after_of_going settings exchanges n going] at running
  cases running
  rfl

theorem requests_printStatusUpdate (tx : Transaction) : requests (printStatusUpdate tx) = [] := by
  unfold printStatusUpdate
  cases tx.moreInfoUrl <;> rfl

theorem requests_respond (watcher : Watcher) (outcome : Except CliError (Option Transaction)) :
    requests (respond settings watcher outcome).1 = [] := by
  cases outcome with
  | error error =>
      cases error with
      | longPollUnsupported => rfl
      | _ =>
          simp only [respond]
          split <;> rfl
  | ok update =>
      cases update with
      | none => rfl
      | some tx =>
          have shown := requests_printStatusUpdate tx
          unfold requests at shown ⊢
          simp only [respond]
          split
          · simp [shown]
          · split <;> simp [shown]

theorem requests_turn (watcher : Watcher) (exchange : Exchange) :
    requests (turn settings watcher exchange).1 = [settings.request watcher.transport] := by
  have silent := requests_respond settings watcher (once watcher.transport exchange)
  unfold requests at silent ⊢
  simp only [turn, List.filterMap_cons, silent]

theorem waits_turn_of_failure (watcher : Watcher) (exchange : Exchange)
    (failure : isFailure (once watcher.transport exchange) = true)
    (few : watcher.consecutiveErrors + 1 < 10) :
    waits (turn settings watcher exchange).1 =
      [min (1000 * 2 ^ watcher.consecutiveErrors) 30000] := by
  have more : ¬ maxReconnectAttempts ≤ watcher.consecutiveErrors + 1 := by
    unfold maxReconnectAttempts
    omega
  unfold turn
  generalize once watcher.transport exchange = outcome at failure ⊢
  cases outcome with
  | ok update => simp [isFailure] at failure
  | error error =>
      cases error with
      | longPollUnsupported => simp [isFailure] at failure
      | _ => simp [respond, waits, more, backoffMs_eq]

/-- The loop goes on exactly as long as no outcome is an update with a terminal status or
the tenth error in a row, and returns at the first that is.  The requests are long polls
until one of them is answered as unsupported, which happens at most once, and plain polls
afterwards; the wait after an error doubles with each error in a row. -/
theorem watch_stops_at_first_stop :
    (∀ n, (∃ watcher, after settings exchanges n = .running watcher) ↔
      ∀ m < n, ¬ Stops exchanges m) ∧
    (∀ n, Stops exchanges n → (∀ m < n, ¬ Stops exchanges m) → ∀ later > n,
      after settings exchanges later = .returned (conclusion (outcomeAt exchanges n))) ∧
    (∀ n watcher, after settings exchanges n = .running watcher →
      once watcher.transport (exchanges n) = outcomeAt exchanges n ∧
      requests (turn settings watcher (exchanges n)).1 =
        [settings.request
          (if ∃ m < n, outcomeAt exchanges m = .error .longPollUnsupported then .polling
            else .longPoll)] ∧
      ∀ k, errorsInRow exchanges (n + 1) = k → 0 < k → k < 10 →
        waits (turn settings watcher (exchanges n)).1 = [min (1000 * 2 ^ (k - 1)) 30000]) ∧
    ∀ m n, outcomeAt exchanges m = .error .longPollUnsupported →
      outcomeAt exchanges n = .error .longPollUnsupported → m = n := by
  refine ⟨running_iff settings exchanges, after_of_stop settings exchanges, ?_,
    outcomeAt_unsupported_unique exchanges⟩
  intro n watcher running
  obtain rfl := running_eq settings exchanges n watcher running
  refine ⟨rfl, ?_, ?_⟩
  · rw [requests_turn]
    simp only [← transportAt_eq_polling_iff]
    cases transportAt exchanges n <;> rfl
  · rintro k row positive few
    rw [errorsInRow_succ] at row
    split at row
    next failure =>
      subst row
      exact waits_turn_of_failure settings _ _ failure few
    next => omega

end Loop

def sampleExchanges : Nat → Exchange
  | 0 => .response 404 "404 Not Found" (.error "EOF") (.error "EOF")
  | 1 => .failed "connection reset"
  | 2 => .response 200 "200 OK" (.error "missing field") (.error "missing field")
  | _ => .response 200 "200 OK" (.error "missing field") (.ok ⟨"completed", none, none, none⟩)

theorem sampleRun_completes :
    (∀ m < 3, ¬ Stops sampleExchanges m) ∧ Stops sampleExchanges 3 ∧
    after (.ofArguments "https://a.example//" "t 1" none none none) sampleExchanges 4 =
      .returned (.ok ()) ∧
    waits (turn (.ofArguments "https://a.example//" "t 1" none none none) ⟨.polling, 1⟩
      (sampleExchanges 2)).1 = [2000] := by
  have going : ∀ m < 3, ¬ Stops sampleExchanges m := by decide
  have stops : Stops sampleExchanges 3 := by decide
  obtain ⟨-, stopped, turned, -⟩ := watch_stops_at_first_stop
    (.ofArguments "https://a.example//" "t 1" none none none) sampleExchanges
  refine ⟨going, stops, stopped 3 stops going 4 (by decide), ?_⟩
  obtain ⟨-, -, waited⟩ := turned 2 ⟨.polling, 1⟩ rfl
  exact waited 2 (by decide) (by decide) (by decide)

end AnchorKit.Cli.Watch
