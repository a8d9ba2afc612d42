import AnchorKit.Base.Machine
import AnchorKit.DevPanel.SecretRedaction

/-!
# The request panel, of `AnchorRequestPanel.tsx` and `requestBuilder.ts`

The panel is a machine over edits of its forms, clicks and the ends of its requests.  A
handler is cut at its `await`.  It belongs to the drawing in which its button was clicked,
and so do the `logs` it puts the new entry before when the request has succeeded.

A request ends with a response whose body is JSON or with an exception, of `fetch`, of the
URL or of the body.  Identifiers and timestamps are inputs.
-/

set_option autoImplicit false

namespace AnchorKit.DevPanel.Requests

open AnchorKit.Base

/-! ## The request builder -/

inductive RequestType where
  | sep10Challenge
  | sep6Deposit
  | sep6Withdraw
  deriving DecidableEq, Repr

inductive Method where
  | get
  | post
  deriving DecidableEq, Repr

structure AnchorConfig where
  homeUrl : String
  sep10Endpoint : Option String
  sep6Endpoint : Option String

structure RequestLog (Body : Type) where
  id : String
  timestamp : String
  method : Method
  endpoint : String
  requestType : RequestType
  requestBody : List (String × String)
  responseStatus : Option Nat
  responseBody : Option Body
  error : Option String

/-- What a handler catches; what is no `Error` has a text all the same. -/
structure Thrown where
  isError : Bool
  text : String

inductive Reply (Body : Type) where
  | thrown (thrown : Thrown)
  | response (status : Nat) (data : Body)

/-- `response.ok`. -/
def isOk (status : Nat) : Bool :=
  decide (200 ≤ status ∧ status < 300)

def sep10Endpoint (config : AnchorConfig) : String :=
  config.sep10Endpoint.getD (config.homeUrl ++ "/auth")

/-- An empty `sep6Endpoint` counts as none. -/
def sep6Endpoint (config : AnchorConfig) (path : String) : String :=
  match config.sep6Endpoint with
  | some endpoint => if endpoint = "" then config.homeUrl ++ path else endpoint ++ path
  | none => config.homeUrl ++ path

def RequestType.method : RequestType → Method
  | .sep10Challenge => .get
  | .sep6Deposit => .post
  | .sep6Withdraw => .post

def RequestType.endpoint (config : AnchorConfig) : RequestType → String
  | .sep10Challenge => sep10Endpoint config
  | .sep6Deposit => sep6Endpoint config "/deposit"
  | .sep6Withdraw => sep6Endpoint config "/withdraw"

def RequestType.failure (status : Nat) : RequestType → String
  | .sep10Challenge => "SEP-10 challenge failed: " ++ toString status
  | .sep6Deposit => "SEP-6 deposit failed: " ++ toString status
  | .sep6Withdraw => "SEP-6 withdraw failed: " ++ toString status

variable {Body : Type}

def RequestLog.begin (config : AnchorConfig) (id timestamp : String)
    (requestType : RequestType) (requestBody : List (String × String)) : RequestLog Body where
  id := id
  timestamp := timestamp
  method := requestType.method
  endpoint := requestType.endpoint config
  requestType := requestType
  requestBody := requestBody
  responseStatus := none
  responseBody := none
  error := none

/-- From the reply to the end of the call.  The text `HTTP …` that a refusal puts into the
log is replaced in the `catch` block by that of the exception it throws. -/
def RequestLog.settle (log : RequestLog Body) :
    Reply Body → RequestLog Body × Except Thrown Unit
  | .thrown thrown => ({ log with error := some thrown.text }, .error thrown)
  | .response status data =>
      let answered := { log with responseStatus := some status, responseBody := some data }
      if isOk status then (answered, .ok ())
      else
        ({ answered with error := some (log.requestType.failure status) },
          .error ⟨true, log.requestType.failure status⟩)

/-! ## The panel -/

inductive MemoType where
  | text
  | id
  | hash
  deriving DecidableEq, Repr

def MemoType.value : MemoType → String
  | .text => "text"
  | .id => "id"
  | .hash => "hash"

structure Sep10Form where
  account : String
  memo : String
  homeDomain : String

structure DepositForm where
  asset : String
  account : String
  memoType : MemoType
  memo : String

structure WithdrawForm where
  asset : String
  dest : String
  account : String
  memoType : MemoType
  memo : String

structure Forms where
  sep10 : Sep10Form
  deposit : DepositForm
  withdraw : WithdrawForm

/-- `...(value && { name: value })`. -/
def optionalField (name value : String) : List (String × String) :=
  if value = "" then [] else [(name, value)]

def memoFields (memoType : MemoType) (memo : String) : List (String × String) :=
  if memo = "" then [] else [("memo_type", memoType.value), ("memo", memo)]

def Forms.request (forms : Forms) : RequestType → List (String × String)
  | .sep10Challenge =>
      ("account", forms.sep10.account) :: (optionalField "memo" forms.sep10.memo ++
        optionalField "home_domain" forms.sep10.homeDomain)
  | .sep6Deposit =>
      ("asset_code", forms.deposit.asset) ::
        (optionalField "account" forms.deposit.account ++
          memoFields forms.deposit.memoType forms.deposit.memo)
  | .sep6Withdraw =>
      ("asset_code", forms.withdraw.asset) :: ("dest", forms.withdraw.dest) ::
        (optionalField "account" forms.withdraw.account ++
          memoFields forms.withdraw.memoType forms.withdraw.memo)

/-- `!value.trim()`. -/
def isBlank (value : String) : Bool :=
  value.toList.all isSpace

/-- The fields that each button and each handler asks for. -/
def Forms.required (forms : Forms) : RequestType → List String
  | .sep10Challenge => [forms.sep10.account]
  | .sep6Deposit => [forms.deposit.asset]
  | .sep6Withdraw => [forms.withdraw.asset, forms.withdraw.dest]

def RequestType.requiredText : RequestType → String
  | .sep10Challenge => "Account address is required"
  | .sep6Deposit => "Asset code is required"
  | .sep6Withdraw => "Asset code and destination are required"

def RequestType.fallback : RequestType → String
  | .sep10Challenge => "Failed to fetch SEP-10 challenge"
  | .sep6Deposit => "Failed to issue SEP-6 deposit"
  | .sep6Withdraw => "Failed to issue SEP-6 withdraw"

/-- A request on its way, with the entries that were shown when it was made. -/
structure Pending (Body : Type) where
  log : RequestLog Body
  shown : List (RequestLog Body)

/-- `builderLogs` are those of the builder, `logs` those that are shown. -/
structure Panel (Body : Type) where
  activeTab : RequestType
  forms : Forms
  logs : List (RequestLog Body)
  loading : Bool
  error : Option String
  builderLogs : List (RequestLog Body)
  inFlight : List (Pending Body)

def Panel.start : Panel Body where
  activeTab := .sep10Challenge
  forms := ⟨⟨"", "", ""⟩, ⟨"", "", .text, ""⟩, ⟨"", "", "", .text, ""⟩⟩
  logs := []
  loading := false
  error := none
  builderLogs := []
  inFlight := []

inductive Event (Body : Type) where
  | edit (forms : Forms)
  | setActiveTab (tab : RequestType)
  | submit (id timestamp : String)
  | settle (number : Nat) (reply : Reply Body)
  | clear

def Panel.disabled (panel : Panel Body) : Bool :=
  panel.loading || (panel.forms.required panel.activeTab).contains ""

def Panel.made (config : AnchorConfig) (id timestamp : String) (panel : Panel Body) :
    Option (RequestLog Body) :=
  if panel.disabled || (panel.forms.required panel.activeTab).any isBlank then none
  else some (.begin config id timestamp panel.activeTab (panel.forms.request panel.activeTab))

def Panel.submit (config : AnchorConfig) (id timestamp : String) (panel : Panel Body) :
    Panel Body :=
  match panel.made config id timestamp with
  | some log =>
      { panel with
        loading := true
        error := none
        inFlight := panel.inFlight ++ [⟨log, panel.logs⟩] }
  | none =>
      if panel.disabled then panel
      else { panel with error := some panel.activeTab.requiredText }

def Panel.settle (number : Nat) (reply : Reply Body) (panel : Panel Body) : Panel Body :=
  match panel.inFlight[number]? with
  | none => panel
  | some pending =>
      let log := (pending.log.settle reply).1
      let ended :=
        { panel with
          inFlight := panel.inFlight.eraseIdx number
          builderLogs := panel.builderLogs ++ [log]
          loading := false }
      match (pending.log.settle reply).2 with
      | .ok _ => { ended with logs := log :: pending.shown }
      | .error thrown =>
          { ended with
            error := some (if thrown.isError then thrown.text
              else pending.log.requestType.fallback) }

def Panel.step (config : AnchorConfig) (panel : Panel Body) : Event Body → Panel Body
  | .edit forms => { panel with forms := forms }
  | .setActiveTab tab => { panel with activeTab := tab }
  | .submit id timestamp => panel.submit config id timestamp
  | .settle number reply => panel.settle number reply
  | .clear => if panel.logs.isEmpty then panel else { panel with logs := [] }

def Panel.reached (config : AnchorConfig) (events : List (Event Body)) : Panel Body :=
  Machine.run (Panel.step config) Panel.start events

def Panel.visits (config : AnchorConfig) (events : List (Event Body)) :
    List (Panel Body × Event Body) :=
  Machine.visits (Panel.step config) Panel.start events

def requests (config : AnchorConfig) (visit : Panel Body × Event Body) :
    List (RequestLog Body) :=
  match visit.2 with
  | .submit id timestamp => (visit.1.made config id timestamp).toList
  | _ => []

/-! ## What is logged and what is shown -/

section Accounts

variable {config : AnchorConfig} {panel : Panel Body}

def RequestLog.request (log : RequestLog Body) : RequestLog Body :=
  { log with responseStatus := none, responseBody := none, error := none }

def RequestLog.succeeded (log : RequestLog Body) : Bool :=
  log.error.isNone

def Panel.successes (panel : Panel Body) : List (RequestLog Body) :=
  panel.builderLogs.filter RequestLog.succeeded

def Panel.latest (panel : Panel Body) (hidden : Nat) : List (RequestLog Body) :=
  (panel.successes.drop hidden).reverse

/-- How many successes there have been, how many of them are hidden, and how many were when
the last request was made. -/
structure Hidden where
  successes : Nat
  current : Nat
  asked : Nat

/-- "Clear" hides all successes so far.  A request remembers what was hidden when it was made,
and its success hides just that again. -/
def Hidden.step (config : AnchorConfig) (hidden : Hidden) (visit : Panel Body × Event Body) :
    Hidden :=
  match visit.2 with
  | .clear => { hidden with current := hidden.successes }
  | .submit id timestamp =>
      match visit.1.made config id timestamp with
      | some _ => { hidden with asked := hidden.current }
      | none => hidden
  | .settle number reply =>
      match visit.1.inFlight[number]? with
      | some pending =>
          if (pending.log.settle reply).2.toBool then
            { hidden with successes := hidden.successes + 1, current := hidden.asked }
          else hidden
      | none => hidden
  | .edit _ => hidden
  | .setActiveTab _ => hidden

def hiddenAfter (config : AnchorConfig) (past : List (Panel Body × Event Body)) : Hidden :=
  Machine.run (Hidden.step config) ⟨0, 0, 0⟩ past

structure Hidden.Within (hidden : Hidden) : Prop where
  current : hidden.current ≤ hidden.successes
  asked : hidden.asked ≤ hidden.successes

/-- What is shown, and what would be after a success, for what is hidden. -/
structure Panel.Shows (panel : Panel Body) (hidden : Hidden) : Prop where
  successes : panel.successes.length = hidden.successes
  logs : panel.logs = panel.latest hidden.current
  captured : ∀ pending ∈ panel.inFlight, pending.shown = panel.latest hidden.asked

structure Accounted (past : List (Panel Body × Event Body)) (config : AnchorConfig)
    (panel : Panel Body) : Prop where
  requests : past.flatMap (requests config) =
    panel.builderLogs.map RequestLog.request ++ panel.inFlight.map Pending.log
  untouched : ∀ pending ∈ panel.inFlight, pending.log.request = pending.log
  loading : panel.inFlight.length = panel.loading.toNat
  within : (hiddenAfter config past).Within
  shows : panel.Shows (hiddenAfter config past)

variable {past : List (Panel Body × Event Body)}

theorem hiddenAfter_append (past : List (Panel Body × Event Body))
    (visit : Panel Body × Event Body) :
    hiddenAfter config (past ++ [visit]) = (hiddenAfter config past).step config visit := by
  rw [hiddenAfter, Machine.run_append]
  rfl

theorem Hidden.Within.step {hidden : Hidden} (within : hidden.Within)
    (visit : Panel Body × Event Body) : (hidden.step config visit).Within := by
  obtain ⟨panel, event⟩ := visit
  unfold Hidden.step
  cases event with
  | clear => exact ⟨Nat.le_refl _, within.asked⟩
  | submit id timestamp =>
      dsimp only
      split
      · exact ⟨within.current, within.current⟩
      · exact within
  | settle number reply =>
      dsimp only
      split
      · split
        · exact ⟨Nat.le_succ_of_le within.asked, Nat.le_succ_of_le within.asked⟩
        · exact within
      · exact within
  | edit forms => exact within
  | setActiveTab tab => exact within

theorem start_accounted : Accounted [] config (Panel.start : Panel Body) where
  requests := rfl
  untouched := nofun
  loading := rfl
  within := ⟨Nat.le_refl _, Nat.le_refl _⟩
  shows := ⟨rfl, rfl, nofun⟩

theorem Accounted.quiet (accounted : Accounted past config panel) {event : Event Body}
    (silent : Requests.requests config (panel, event) = [])
    (still : (hiddenAfter config past).step config (panel, event) = hiddenAfter config past)
    {after : Panel Body} (builderLogs : after.builderLogs = panel.builderLogs)
    (inFlight : after.inFlight = panel.inFlight) (loading : after.loading = panel.loading)
    (logs : after.logs = panel.logs) :
    Accounted (past ++ [(panel, event)]) config after where
  requests := by
    rw [List.flatMap_append, List.flatMap_singleton, silent, List.append_nil, builderLogs,
      inFlight, accounted.requests]
  untouched := by rw [inFlight]; exact accounted.untouched
  loading := by rw [inFlight, loading, accounted.loading]
  within := by rw [hiddenAfter_append, still]; exact accounted.within
  shows := by
    obtain ⟨successes, shown, captured⟩ := accounted.shows
    rw [hiddenAfter_append, still]
    refine ⟨?_, ?_, ?_⟩
    · rw [Panel.successes, builderLogs]
      exact successes
    · rw [logs, Panel.latest, Panel.successes, builderLogs]
      exact shown
    · rw [inFlight, Panel.latest, Panel.successes, builderLogs]
      exact captured

theorem Accounted.clear (accounted : Accounted past config panel) :
    Accounted (past ++ [(panel, .clear)]) config (panel.step config .clear) := by
  have cleared : panel.latest (hiddenAfter config past).successes = [] := by
    rw [Panel.latest, ← accounted.shows.successes, List.drop_length]
    rfl
  have same : ∀ after : Panel Body, after.logs = [] → after.builderLogs = panel.builderLogs →
      after.inFlight = panel.inFlight → after.loading = panel.loading →
      Accounted (past ++ [(panel, .clear)]) config after := by
    intro after logs builderLogs inFlight loading
    refine ⟨?_, ?_, ?_, ?_, ?_⟩
    · rw [List.flatMap_append, accounted.requests, builderLogs, inFlight]
      exact List.append_nil _
    · rw [inFlight]
      exact accounted.untouched
    · rw [inFlight, loading, accounted.loading]
    · rw [hiddenAfter_append]
      exact accounted.within.step _
    · rw [hiddenAfter_append]
      refine ⟨?_, ?_, ?_⟩
      · rw [Panel.successes, builderLogs]
        exact accounted.shows.successes
      · rw [logs, Panel.latest, Panel.successes, builderLogs]
        exact cleared.symm
      · rw [inFlight, Panel.latest, Panel.successes, builderLogs]
        exact accounted.shows.captured
  dsimp only [Panel.step]
  split
  · rename_i empty
    exact same panel (List.isEmpty_iff.mp empty) rfl rfl rfl
  · exact same _ rfl rfl rfl rfl

theorem Panel.made_eq_some_iff {id timestamp : String} {log : RequestLog Body} :
    panel.made config id timestamp = some log ↔
      panel.loading = false ∧ (∀ field ∈ panel.forms.required panel.activeTab,
        isBlank field = false) ∧
      log = .begin config id timestamp panel.activeTab
        (panel.forms.request panel.activeTab) := by
  unfold Panel.made
  constructor
  · intro made
    split at made
    · cases made
    · rename_i enabled
      rw [Bool.or_eq_true, not_or, Panel.disabled, Bool.or_eq_true, not_or] at enabled
      obtain ⟨⟨resting, -⟩, filled⟩ := enabled
      refine ⟨Bool.not_eq_true _ ▸ resting, ?_, (Option.some.inj made).symm⟩
      intro field member
      by_contra blank
      exact filled (List.any_eq_true.mpr ⟨field, member, Bool.not_eq_false _ ▸ blank⟩)
  · rintro ⟨resting, filled, rfl⟩
    refine if_neg ?_
    rw [Bool.or_eq_true, not_or, Panel.disabled, Bool.or_eq_true, not_or, resting]
    refine ⟨⟨Bool.false_ne_true, ?_⟩, ?_⟩
    · intro empty
      have blank := filled "" (List.contains_iff_mem.mp empty)
      exact absurd blank (by decide)
    · intro blank
      obtain ⟨field, member, isBlank⟩ := List.any_eq_true.mp blank
      rw [filled field member] at isBlank
      cases isBlank

theorem Accounted.submit (accounted : Accounted past config panel) (id timestamp : String) :
    Accounted (past ++ [(panel, .submit id timestamp)]) config
      (panel.submit config id timestamp) := by
  unfold Panel.submit
  cases made : panel.made config id timestamp with
  | none =>
      have silent : Requests.requests config (panel, .submit id timestamp) = [] :=
        congrArg Option.toList made
      have still : (hiddenAfter config past).step config (panel, .submit id timestamp) =
          hiddenAfter config past := by
        rw [Hidden.step]
        dsimp only
        rw [made]
      dsimp only
      split
      · exact accounted.quiet silent still rfl rfl rfl rfl
      · exact accounted.quiet silent still rfl rfl rfl rfl
  | some log =>
      obtain ⟨resting, -, begun⟩ := Panel.made_eq_some_iff.mp made
      have none : panel.inFlight = [] := by
        have loading := accounted.loading
        rw [resting] at loading
        exact List.length_eq_zero_iff.mp loading
      have issued : Requests.requests config (panel, .submit id timestamp) = [log] :=
        congrArg Option.toList made
      exact
        { requests := by
            rw [List.flatMap_append, List.flatMap_singleton, issued, accounted.requests]
            simp
          untouched := by
            rw [none]
            intro pending member
            cases List.mem_singleton.mp member
            rw [begun]
            rfl
          loading := by simp [none]
          within := by rw [hiddenAfter_append]; exact accounted.within.step _
          shows := by
            rw [hiddenAfter_append, Hidden.step]
            dsimp only
            rw [made, none]
            refine ⟨accounted.shows.successes, accounted.shows.logs, ?_⟩
            intro pending member
            cases List.mem_singleton.mp member
            exact accounted.shows.logs }

theorem RequestLog.settle_request (log : RequestLog Body) (reply : Reply Body) :
    (log.settle reply).1.request = log.request := by
  cases reply with
  | thrown thrown => rfl
  | response status data =>
      dsimp only [RequestLog.settle]
      split
      · rfl
      · rfl

theorem RequestLog.settle_succeeded {log : RequestLog Body} (clear : log.error = none)
    (reply : Reply Body) :
    (log.settle reply).1.succeeded = (log.settle reply).2.toBool := by
  cases reply with
  | thrown thrown => rfl
  | response status data =>
      dsimp only [RequestLog.settle]
      split
      · exact congrArg Option.isNone clear
      · rfl

theorem Panel.successes_append {after : Panel Body} {log : RequestLog Body}
    (added : after.builderLogs = panel.builderLogs ++ [log]) :
    after.successes =
      if log.succeeded then panel.successes ++ [log] else panel.successes := by
  rw [Panel.successes, added, List.filter_append]
  cases succeeded : log.succeeded with
  | true => simp [succeeded, Panel.successes]
  | false => simp [succeeded, Panel.successes]

theorem Accounted.inFlight_eq (accounted : Accounted past config panel) {number : Nat}
    {pending : Pending Body} (found : panel.inFlight[number]? = some pending) :
    panel.inFlight = [pending] ∧ number = 0 := by
  have bound : panel.inFlight.length ≤ 1 := by
    rw [accounted.loading]
    exact Bool.toNat_le _
  cases flight : panel.inFlight with
  | nil =>
      rw [flight] at found
      cases found
  | cons first rest =>
      rw [flight, List.length_cons] at bound
      have alone : rest = [] := List.length_eq_zero_iff.mp (by omega)
      rw [flight, alone] at found
      rw [alone]
      cases number with
      | zero => exact ⟨by rw [Option.some.inj found], rfl⟩
      | succ number => cases found

/-- A success puts its log before what was shown when the request was made. -/
theorem Accounted.succeed (accounted : Accounted past config panel) {pending : Pending Body}
    (mine : pending ∈ panel.inFlight) {after : Panel Body} {log : RequestLog Body}
    (added : after.builderLogs = panel.builderLogs ++ [log])
    (succeeded : log.succeeded = true) (logs : after.logs = log :: pending.shown)
    (inFlight : after.inFlight = []) :
    after.Shows { hiddenAfter config past with
      successes := (hiddenAfter config past).successes + 1
      current := (hiddenAfter config past).asked } := by
  have successes := Panel.successes_append added
  rw [if_pos succeeded] at successes
  have room : (hiddenAfter config past).asked ≤ panel.successes.length := by
    rw [accounted.shows.successes]
    exact accounted.within.asked
  refine ⟨?_, ?_, ?_⟩
  · rw [successes, List.length_append, accounted.shows.successes]
    rfl
  · rw [logs, accounted.shows.captured pending mine, Panel.latest, Panel.latest, successes,
      List.drop_append_of_le_length room, List.reverse_append]
    rfl
  · rw [inFlight]
    nofun

theorem Accounted.fail (accounted : Accounted past config panel) {after : Panel Body}
    {log : RequestLog Body} (added : after.builderLogs = panel.builderLogs ++ [log])
    (failed : log.succeeded = false) (logs : after.logs = panel.logs)
    (inFlight : after.inFlight = []) : after.Shows (hiddenAfter config past) := by
  have successes := Panel.successes_append added
  rw [if_neg (Bool.not_eq_true _ ▸ failed)] at successes
  refine ⟨?_, ?_, ?_⟩
  · rw [successes]
    exact accounted.shows.successes
  · rw [logs, Panel.latest, successes]
    exact accounted.shows.logs
  · rw [inFlight]
    nofun

theorem Accounted.settle (accounted : Accounted past config panel) (number : Nat)
    (reply : Reply Body) :
    Accounted (past ++ [(panel, .settle number reply)]) config (panel.settle number reply) := by
  unfold Panel.settle
  cases found : panel.inFlight[number]? with
  | none =>
      refine accounted.quiet rfl ?_ rfl rfl rfl rfl
      rw [Hidden.step]
      dsimp only
      rw [found]
  | some pending =>
      obtain ⟨alone, rfl⟩ := accounted.inFlight_eq found
      have mine : pending ∈ panel.inFlight := List.mem_of_getElem? found
      have untouched := accounted.untouched pending mine
      have clear : pending.log.error = none := by rw [← untouched]; rfl
      have outcome := RequestLog.settle_succeeded clear reply
      have logged : (past ++ [(panel, Event.settle 0 reply)]).flatMap (Requests.requests config) =
          (panel.builderLogs ++ [(pending.log.settle reply).1]).map RequestLog.request := by
        rw [List.flatMap_append, List.flatMap_singleton, accounted.requests, alone,
          List.map_append, List.map_singleton, List.map_singleton,
          RequestLog.settle_request, untouched]
        exact List.append_nil _
      have hides : (hiddenAfter config past).step config (panel, .settle 0 reply) =
          if (pending.log.settle reply).2.toBool then
            { hiddenAfter config past with
              successes := (hiddenAfter config past).successes + 1
              current := (hiddenAfter config past).asked }
          else hiddenAfter config past := by
        rw [Hidden.step]
        dsimp only
        rw [found]
      have ended : panel.inFlight.eraseIdx 0 = [] := by rw [alone]; rfl
      dsimp only
      rw [ended]
      cases result : (pending.log.settle reply).2 with
      | ok done =>
          rw [result] at outcome hides
          exact
            { requests := by rw [logged]; exact (List.append_nil _).symm
              untouched := nofun
              loading := rfl
              within := by rw [hiddenAfter_append]; exact accounted.within.step _
              shows := by
                rw [hiddenAfter_append, hides]
                exact accounted.succeed mine rfl outcome rfl rfl }
      | error thrown =>
          rw [result] at outcome hides
          exact
            { requests := by rw [logged]; exact (List.append_nil _).symm
              untouched := nofun
              loading := rfl
              within := by rw [hiddenAfter_append]; exact accounted.within.step _
              shows := by
                rw [hiddenAfter_append, hides]
                exact accounted.fail rfl outcome rfl rfl }

theorem Accounted.step (accounted : Accounted past config panel) (event : Event Body) :
    Accounted (past ++ [(panel, event)]) config (panel.step config event) := by
  cases event with
  | edit forms => exact accounted.quiet rfl rfl rfl rfl rfl rfl
  | setActiveTab tab => exact accounted.quiet rfl rfl rfl rfl rfl rfl
  | submit id timestamp => exact accounted.submit id timestamp
  | settle number reply => exact accounted.settle number reply
  | clear => exact accounted.clear

theorem reached_accounted (config : AnchorConfig) (events : List (Event Body)) :
    Accounted (Panel.visits config events) config (Panel.reached config events) := by
  refine Machine.history_invariant (Panel.step config)
    (fun past panel => Accounted past config panel) events Panel.start ?_ start_accounted
  rintro past ⟨panel, event⟩ _ accounted
  exact accounted.step event

def Event.clears : Event Body → Bool
  | .clear => true
  | _ => false

/-- Without a "Clear" more is hidden only by a success, which is not hidden itself. -/
theorem Hidden.Within.step_newer {hidden : Hidden} (within : hidden.Within)
    (config : AnchorConfig) {visit : Panel Body × Event Body}
    (uncleared : visit.2.clears = false) :
    ((hidden.step config visit).successes = hidden.successes ∧
        (hidden.step config visit).current = hidden.current) ∨
      (hidden.step config visit).current < (hidden.step config visit).successes := by
  obtain ⟨panel, event⟩ := visit
  unfold Hidden.step
  cases event with
  | clear => cases uncleared
  | submit id timestamp =>
      dsimp only
      split
      · exact Or.inl ⟨rfl, rfl⟩
      · exact Or.inl ⟨rfl, rfl⟩
  | settle number reply =>
      dsimp only
      split
      · split
        · exact Or.inr (Nat.lt_succ_of_le within.asked)
        · exact Or.inl ⟨rfl, rfl⟩
      · exact Or.inl ⟨rfl, rfl⟩
  | edit forms => exact Or.inl ⟨rfl, rfl⟩
  | setActiveTab tab => exact Or.inl ⟨rfl, rfl⟩

theorem Hidden.Within.run_newer {hidden : Hidden} (within : hidden.Within)
    (visits : List (Panel Body × Event Body))
    (uncleared : ∀ visit ∈ visits, visit.2.clears = false)
    (newer : hidden.successes < (Machine.run (Hidden.step config) hidden visits).successes ∨
      hidden.current < hidden.successes) :
    (Machine.run (Hidden.step config) hidden visits).current <
      (Machine.run (Hidden.step config) hidden visits).successes := by
  induction visits generalizing hidden with
  | nil => exact newer.resolve_left (Nat.lt_irrefl _)
  | cons visit rest ih =>
      refine ih (within.step visit) ?_ ?_
      · exact fun later member => uncleared later (List.mem_cons_of_mem _ member)
      · rcases within.step_newer config (uncleared visit (List.mem_cons_self ..)) with
          ⟨successes, current⟩ | visible
        · rw [successes, current]
          exact newer
        · exact Or.inr visible

theorem Accounted.head_eq (accounted : Accounted past config panel)
    (visible : (hiddenAfter config past).current < (hiddenAfter config past).successes) :
    panel.logs.head? = panel.successes.getLast? := by
  rw [← accounted.shows.successes] at visible
  rw [accounted.shows.logs, Panel.latest, List.head?_reverse, List.getLast?_drop,
    if_neg (Nat.not_le.mpr visible)]

end Accounts

/-! ## What is asked for -/

def RequestType.requiredNames : RequestType → List String
  | .sep10Challenge => ["account"]
  | .sep6Deposit => ["asset_code"]
  | .sep6Withdraw => ["asset_code", "dest"]

/-- The required fields are there and not blank, no field is empty, and a memo of SEP-6 has
its type. -/
structure Complete (log : RequestLog Body) : Prop where
  required : ∀ name ∈ log.requestType.requiredNames,
    ∃ value, log.requestBody.lookup name = some value ∧ isBlank value = false
  nonempty : ∀ field ∈ log.requestBody, field.2 ≠ ""
  typed : log.requestType ≠ .sep10Challenge →
    (log.requestBody.lookup "memo_type").isSome = (log.requestBody.lookup "memo").isSome

section Complete

variable {config : AnchorConfig} {panel : Panel Body}

theorem ne_empty_of_mem_optionalField {name value : String} {field : String × String}
    (member : field ∈ optionalField name value) : field.2 ≠ "" := by
  unfold optionalField at member
  split at member
  · cases member
  · rename_i given
    cases List.mem_singleton.mp member
    exact given

theorem ne_empty_of_mem_memoFields {memoType : MemoType} {memo : String}
    {field : String × String} (member : field ∈ memoFields memoType memo) :
    field.2 ≠ "" := by
  unfold memoFields at member
  split at member
  · cases member
  · rename_i given
    rcases List.mem_cons.mp member with rfl | last
    · cases memoType <;> decide
    · cases List.mem_singleton.mp last
      exact given

theorem ne_empty_of_not_blank {value : String} (filled : isBlank value = false) :
    value ≠ "" := by
  rintro rfl
  cases filled

theorem lookup_memo (account : String) (memoType : MemoType) (memo : String) :
    ((optionalField "account" account ++ memoFields memoType memo).lookup "memo_type").isSome =
      ((optionalField "account" account ++ memoFields memoType memo).lookup "memo").isSome := by
  unfold optionalField memoFields
  split
  · split
    · rfl
    · rfl
  · split
    · rfl
    · rfl

theorem Panel.made_complete {id timestamp : String} {log : RequestLog Body}
    (made : panel.made config id timestamp = some log) : Complete log := by
  obtain ⟨-, filled, rfl⟩ := Panel.made_eq_some_iff.mp made
  dsimp only [RequestLog.begin]
  cases tab : panel.activeTab with
  | sep10Challenge =>
      rw [tab] at filled
      have account := filled panel.forms.sep10.account (List.mem_singleton_self _)
      exact
        { required := by
            intro name member
            cases List.mem_singleton.mp member
            exact ⟨_, rfl, account⟩
          nonempty := by
            intro field member
            rcases List.mem_cons.mp member with rfl | more
            · exact ne_empty_of_not_blank account
            · rcases List.mem_append.mp more with memo | domain
              · exact ne_empty_of_mem_optionalField memo
              · exact ne_empty_of_mem_optionalField domain
          typed := fun other => absurd rfl other }
  | sep6Deposit =>
      rw [tab] at filled
      have asset := filled panel.forms.deposit.asset (List.mem_singleton_self _)
      exact
        { required := by
            intro name member
            cases List.mem_singleton.mp member
            exact ⟨_, rfl, asset⟩
          nonempty := by
            intro field member
            rcases List.mem_cons.mp member with rfl | more
            · exact ne_empty_of_not_blank asset
            · rcases List.mem_append.mp more with account | memo
              · exact ne_empty_of_mem_optionalField account
              · exact ne_empty_of_mem_memoFields memo
          typed := fun _ => lookup_memo _ _ _ }
  | sep6Withdraw =>
      rw [tab] at filled
      have asset := filled panel.forms.withdraw.asset (List.mem_cons_self ..)
      have dest := filled panel.forms.withdraw.dest (by simp [Forms.required])
      exact
        { required := by
            intro name member
            rcases List.mem_cons.mp member with rfl | last
            · exact ⟨_, rfl, asset⟩
            · cases List.mem_singleton.mp last
              exact ⟨_, rfl, dest⟩
          nonempty := by
            intro field member
            rcases List.mem_cons.mp member with rfl | next
            · exact ne_empty_of_not_blank asset
            · rcases List.mem_cons.mp next with rfl | more
              · exact ne_empty_of_not_blank dest
              · rcases List.mem_append.mp more with account | memo
                · exact ne_empty_of_mem_optionalField account
                · exact ne_empty_of_mem_memoFields memo
          typed := fun _ => lookup_memo _ _ _ }

theorem complete_of_mem_requests {visit : Panel Body × Event Body} {log : RequestLog Body}
    (member : log ∈ requests config visit) : Complete log := by
  obtain ⟨panel, event⟩ := visit
  cases event with
  | submit id timestamp => exact Panel.made_complete (Option.mem_toList.mp member)
  | _ => cases member

end Complete

/-- Along every run the builder has logged the requests made, each once and in their order,
with at most one still on its way, which is when the buttons are off.  Each is complete.
The panel shows all successes but those that are hidden, the latest first, and the last one
at the head if it came after the last "Clear". -/
theorem panel_accounts_for_requests (config : AnchorConfig) (events : List (Event Body)) :
    let panel := Panel.reached config events
    (Panel.visits config events).flatMap (requests config) =
      panel.builderLogs.map RequestLog.request ++ panel.inFlight.map Pending.log ∧
    panel.inFlight.length = panel.loading.toNat ∧
    (∀ log ∈ panel.builderLogs, Complete log.request) ∧
    panel.logs =
      (panel.successes.drop (hiddenAfter config (Panel.visits config events)).current).reverse ∧
    ∀ earlier later, events = earlier ++ later →
      (∀ event ∈ later, event.clears = false) →
      (Panel.reached config earlier).successes.length < panel.successes.length →
      panel.logs.head? = panel.successes.getLast? := by
  intro panel
  have accounted := reached_accounted config events
  refine ⟨accounted.requests, accounted.loading, ?_, accounted.shows.logs, ?_⟩
  · intro log logged
    have issued : log.request ∈ (Panel.visits config events).flatMap (requests config) := by
      rw [accounted.requests]
      exact List.mem_append_left _ (List.mem_map_of_mem logged)
    obtain ⟨visit, -, member⟩ := List.mem_flatMap.mp issued
    exact complete_of_mem_requests member
  · intro earlier later split uncleared more
    have before := reached_accounted config earlier
    have visited : Panel.visits config events = Panel.visits config earlier ++
        Machine.visits (Panel.step config) (Panel.reached config earlier) later := by
      rw [split]
      exact Machine.visits_append _ _ _ _
    have hidden : hiddenAfter config (Panel.visits config events) =
        Machine.run (Hidden.step config) (hiddenAfter config (Panel.visits config earlier))
          (Machine.visits (Panel.step config) (Panel.reached config earlier) later) := by
      rw [visited]
      exact Machine.run_append _ _ _ _
    rw [before.shows.successes, accounted.shows.successes, hidden] at more
    refine accounted.head_eq ?_
    rw [hidden]
    refine before.within.run_newer _ ?_ (Or.inl more)
    rintro ⟨state, event⟩ member
    obtain ⟨_, _, inputs, -⟩ := (Machine.mem_visits_iff _ _ _ _ _).mp member
    exact uncleared event (by simp [inputs])

/-! ## Clearing while a request is on its way -/

section Clearing

variable {config : AnchorConfig} {panel : Panel Body}

def Event.settles : Event Body → Bool
  | .settle _ _ => true
  | _ => false

structure Waits (pending : Pending Body) (panel : Panel Body) : Prop where
  loading : panel.loading = true
  inFlight : panel.inFlight = [pending]

variable {pending : Pending Body}

theorem Waits.step (waits : Waits pending panel) {event : Event Body}
    (running : event.settles = false) : Waits pending (panel.step config event) := by
  cases event with
  | edit forms => exact ⟨waits.loading, waits.inFlight⟩
  | setActiveTab tab => exact ⟨waits.loading, waits.inFlight⟩
  | settle number reply => cases running
  | submit id timestamp =>
      have disabled : panel.disabled = true := by rw [Panel.disabled, waits.loading]; rfl
      have none : panel.made config id timestamp = none := by
        rw [Panel.made, disabled]
        rfl
      rw [Panel.step, Panel.submit, none]
      dsimp only
      rw [if_pos disabled]
      exact waits
  | clear =>
      dsimp only [Panel.step]
      split
      · exact waits
      · exact ⟨waits.loading, waits.inFlight⟩

theorem Waits.run (events : List (Event Body)) (waits : Waits pending panel)
    (running : ∀ event ∈ events, event.settles = false) :
    Waits pending (Machine.run (Panel.step config) panel events) := by
  induction events generalizing panel with
  | nil => exact waits
  | cons event rest ih =>
      refine ih (waits.step (running event (List.mem_cons_self ..))) ?_
      exact fun later member => running later (List.mem_cons_of_mem _ member)

theorem Waits.succeeds (waits : Waits pending panel) {status : Nat} (ok : isOk status = true)
    (data : Body) :
    (panel.settle 0 (.response status data)).logs =
      { pending.log with responseStatus := some status, responseBody := some data } ::
        pending.shown := by
  have settled : pending.log.settle (.response status data) =
      ({ pending.log with responseStatus := some status, responseBody := some data },
        .ok ()) := if_pos ok
  rw [Panel.settle, waits.inFlight]
  dsimp only [List.getElem?_cons_zero]
  rw [settled]

end Clearing

/-- Whatever is clicked and typed while a request is on its way, when it succeeds all that
was shown when it was made is shown again below it: a "Clear" in between is undone. -/
theorem success_shows_cleared_again (config : AnchorConfig) (events between : List (Event Body))
    (id timestamp : String) (log : RequestLog Body)
    (made : (Panel.reached config events).made config id timestamp = some log)
    (running : ∀ event ∈ between, event.settles = false) (status : Nat)
    (ok : isOk status = true) (data : Body) :
    (Panel.reached config (events ++ .submit id timestamp ::
      (between ++ [.settle 0 (.response status data)]))).logs =
        { log with responseStatus := some status, responseBody := some data } ::
          (Panel.reached config events).logs := by
  have resting : (Panel.reached config events).inFlight = [] := by
    have loading := (reached_accounted config events).loading
    rw [(Panel.made_eq_some_iff.mp made).1] at loading
    exact List.length_eq_zero_iff.mp loading
  have waits : Waits ⟨log, (Panel.reached config events).logs⟩
      ((Panel.reached config events).step config (.submit id timestamp)) := by
    rw [Panel.step, Panel.submit, made]
    dsimp only
    rw [resting]
    exact ⟨rfl, rfl⟩
  rw [Panel.reached, Machine.run_append, Machine.run, Machine.run_append]
  exact (waits.run between running).succeeds ok data

section Sample

def sampleConfig : AnchorConfig where
  homeUrl := "https://anchor.example"
  sep10Endpoint := none
  sep6Endpoint := none

def oneSuccess : List (Event Unit) :=
  [.edit ⟨⟨"G", "", ""⟩, ⟨"", "", .text, ""⟩, ⟨"", "", "", .text, ""⟩⟩,
    .submit "req_1" "T1", .settle 0 (.response 200 ())]

end Sample

theorem cleared_entry_returns :
    ((Panel.reached sampleConfig (oneSuccess ++ [.submit "req_2" "T2", .clear])).logs.map
        RequestLog.id = []) ∧
    ((Panel.reached sampleConfig (oneSuccess ++ .submit "req_2" "T2" ::
        ([.clear] ++ [.settle 0 (.response 200 ())]))).logs.map RequestLog.id =
          ["req_2", "req_1"]) := by
  refine ⟨rfl, ?_⟩
  rw [success_shows_cleared_again sampleConfig oneSuccess [.clear] "req_2" "T2" _ rfl
    (by decide) 200 rfl ()]
  rfl

end AnchorKit.DevPanel.Requests
