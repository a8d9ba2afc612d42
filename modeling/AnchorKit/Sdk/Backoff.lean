import AnchorKit.Sdk.Subscriptions
import Mathlib.Algebra.Order.Group.Multiset
import Mathlib.Data.Multiset.Count
import Mathlib.Tactic.Abel
import Mathlib.Tactic.Linarith

/-!
# The back-off of the SSE watchers

A watcher has one chain of connections: a start that is pending, an open connection, a
planned reconnect or an error callback that will plan one.  Each hands its back-off on to
the next, and only an error changes it.  Frames do not, so that the delays count the
errors since the start of the watcher, and those since the last frame only if no
reconnected stream has delivered one.
-/

set_option autoImplicit false

namespace AnchorKit.Sdk.Streaming

open AnchorKit.Base

/-! ## Errors in a row -/

def openWatcher (service : Service) (index : Nat) : Option Nat :=
  (service.connections[index]?).bind fun connection =>
    if connection.isOpen then some connection.watcher else none

def hears (visit : Service × Event) : Option Nat :=
  match visit.1.calling, visit.2 with
  | none, .occurs (.message index _) => openWatcher visit.1 index
  | _, _ => none

def fails (visit : Service × Event) : Option Nat :=
  match visit.1.calling, visit.2 with
  | none, .occurs (.sseError index) => openWatcher visit.1 index
  | _, _ => none

def errorsAfter (number errors : Nat) (visit : Service × Event) : Nat :=
  if hears visit = some number then 0
  else if fails visit = some number then errors + 1
  else errors

/-- The errors of a watcher since a frame arrived on any of its connections. -/
def consecutiveErrors (number : Nat) (past : List (Service × Event)) : Nat :=
  past.foldl (errorsAfter number) 0

/-- A frame arrives on a connection of the watcher that was opened after an error, while the
delays have room to grow. -/
def recovers (config : Config) (number : Nat) (visit : Service × Event) : Bool :=
  match visit.1.calling, visit.2 with
  | none, .occurs (.message index _) =>
      decide (config.reconnectDelay < config.maxReconnectDelay) &&
        (visit.1.connections[index]?).any fun connection =>
          connection.isOpen && connection.watcher == number &&
            visit.1.registry.isActive number && decide (0 < connection.backoff)
  | _, _ => false

/-! ## The delays -/

section Delays

variable (config : Config)

/-- The delay that follows so many errors in a row. -/
def Config.delay (errors : Nat) : ℚ :=
  min (config.reconnectDelay * 2 ^ (errors - 1)) config.maxReconnectDelay

/-- The next error on a connection with this back-off is answered as it should after so
many errors.  If one of the bounds is not positive nothing is ever scheduled. -/
inductive Paced (errors : Nat) (backoff : ℚ) : Prop
  | growing (base : 0 < config.reconnectDelay) (cap : 0 < config.maxReconnectDelay)
      (nonneg : 0 ≤ backoff) (next : config.nextBackoff backoff = config.delay (errors + 1))
  | immediate (degenerate : config.reconnectDelay ≤ 0 ∨ config.maxReconnectDelay ≤ 0)
      (backoff : backoff ≤ 0)

theorem paced_zero : Paced config 0 0 := by
  by_cases base : 0 < config.reconnectDelay
  · by_cases cap : 0 < config.maxReconnectDelay
    · refine .growing base cap le_rfl ?_
      simp [Config.nextBackoff, Config.delay]
    · exact .immediate (.inr (not_lt.mp cap)) le_rfl
  · exact .immediate (.inl (not_lt.mp base)) le_rfl

variable {config}

theorem nextBackoff_nonpos {backoff : ℚ}
    (degenerate : config.reconnectDelay ≤ 0 ∨ config.maxReconnectDelay ≤ 0)
    (start : backoff ≤ 0) : config.nextBackoff backoff ≤ 0 := by
  unfold Config.nextBackoff
  rcases degenerate with base | cap
  · refine (min_le_left _ _).trans ?_
    split
    · exact base
    · linarith
  · exact (min_le_right _ _).trans cap

theorem delay_pos (base : 0 < config.reconnectDelay) (cap : 0 < config.maxReconnectDelay)
    (errors : Nat) : 0 < config.delay errors :=
  lt_min (by positivity) cap

theorem nextBackoff_delay (base : 0 < config.reconnectDelay)
    (cap : 0 < config.maxReconnectDelay) (errors : Nat) :
    config.nextBackoff (config.delay (errors + 1)) = config.delay (errors + 2) := by
  have doubled : config.delay (errors + 1) * 2 =
      min (config.reconnectDelay * 2 ^ (errors + 1)) (config.maxReconnectDelay * 2) := by
    rw [Config.delay, min_mul_of_nonneg _ _ (by norm_num : (0 : ℚ) ≤ 2), Nat.add_sub_cancel,
      pow_succ, mul_assoc]
  rw [Config.nextBackoff, if_neg (delay_pos base cap _).ne', doubled, min_assoc,
    min_eq_right (by linarith : config.maxReconnectDelay ≤ config.maxReconnectDelay * 2)]
  rfl

variable {errors : Nat} {backoff : ℚ}

theorem Paced.error (paced : Paced config errors backoff) :
    Paced config (errors + 1) (config.nextBackoff backoff) := by
  cases paced with
  | growing base cap _ next =>
      rw [next]
      exact .growing base cap (delay_pos base cap _).le (nextBackoff_delay base cap errors)
  | immediate degenerate start =>
      exact .immediate degenerate (nextBackoff_nonpos degenerate start)

theorem Paced.scheduled (paced : Paced config errors backoff)
    (positive : 0 < config.nextBackoff backoff) :
    config.nextBackoff backoff = config.delay (errors + 1) := by
  cases paced with
  | growing base cap _ next => exact next
  | immediate degenerate start =>
      exact absurd (nextBackoff_nonpos degenerate start) (not_le.mpr positive)

theorem delay_of_capped (base : 0 < config.reconnectDelay)
    (capped : config.maxReconnectDelay ≤ config.reconnectDelay) (errors : Nat) :
    config.delay errors = config.maxReconnectDelay := by
  have grown : config.reconnectDelay * 1 ≤ config.reconnectDelay * 2 ^ (errors - 1) :=
    mul_le_mul_of_nonneg_left (one_le_pow₀ (by norm_num)) base.le
  exact min_eq_right (by linarith)

theorem Paced.frame (paced : Paced config errors backoff)
    (fresh : config.reconnectDelay < config.maxReconnectDelay → backoff ≤ 0) :
    Paced config 0 backoff := by
  cases paced with
  | immediate degenerate start => exact .immediate degenerate start
  | growing base cap nonneg next =>
      by_cases room : config.reconnectDelay < config.maxReconnectDelay
      · rw [le_antisymm (fresh room) nonneg]
        exact paced_zero config
      · refine .growing base cap nonneg ?_
        rw [next, delay_of_capped base (not_lt.mp room), delay_of_capped base (not_lt.mp room)]

end Delays

/-! ## The chain of a watcher -/

def Frame.token : Frame → Option (Nat × ℚ)
  | .afterSseError number backoff => some (number, backoff)
  | _ => none

def Connection.token (connection : Connection) : Nat × ℚ :=
  (connection.watcher, connection.backoff)

def openTokens (connections : List Connection) : List (Nat × ℚ) :=
  (connections.filter (·.isOpen)).map Connection.token

/-- Whatever may lead to a connection, with its watcher and the back-off it hands on. -/
def Service.tokens (service : Service) : Multiset (Nat × ℚ) :=
  ↑(service.starting.map fun number => (number, (0 : ℚ))) +
    ↑(openTokens service.connections) + ↑service.reconnects +
    ↑(service.calling.bind Frame.token).toList

structure Fewer (service after : Service) : Prop where
  tokens : after.tokens ≤ service.tokens
  calling : ∀ number backoff, after.calling = some (.afterSseError number backoff) →
    service.calling = some (.afterSseError number backoff)

theorem Fewer.refl (service : Service) : Fewer service service := ⟨le_rfl, fun _ _ => id⟩

theorem Fewer.trans {first second third : Service} (one : Fewer first second)
    (two : Fewer second third) : Fewer first third :=
  ⟨two.tokens.trans one.tokens,
    fun number backoff called => one.calling number backoff (two.calling number backoff called)⟩

theorem openTokens_append (first second : List Connection) :
    openTokens (first ++ second) = openTokens first ++ openTokens second := by
  rw [openTokens, List.filter_append, List.map_append]
  rfl

theorem openTokens_close {connections : List Connection} {index : Nat}
    {connection : Connection} (found : connections[index]? = some connection)
    (isOpen : connection.isOpen = true) :
    (↑(openTokens connections) : Multiset (Nat × ℚ)) = connection.token ::ₘ
      ↑(openTokens (connections.set index { connection with isOpen := false })) := by
  induction connections generalizing index with
  | nil => cases found
  | cons first rest ih =>
      cases index with
      | zero =>
          cases Option.some.inj found
          simp [openTokens, isOpen]
      | succ index =>
          have later := ih (by simpa using found)
          cases firstOpen : first.isOpen with
          | false => simpa [openTokens, firstOpen] using later
          | true =>
              simp only [openTokens, List.set_cons_succ, List.filter_cons, firstOpen, if_true,
                List.map_cons, ← Multiset.cons_coe] at later ⊢
              rw [later, Multiset.cons_swap]

section Tokens

variable (config : Config) (service : Service) (number : Nat)

theorem openSse_tokens (backoff : ℚ) :
    (service.openSse config number backoff).tokens ≤ (number, backoff) ::ₘ service.tokens := by
  have grows := Multiset.le_cons_self service.tokens (number, backoff)
  unfold Service.openSse
  split
  · exact grows
  · dsimp only
    split
    · refine le_of_eq ?_
      simp only [Service.tokens, openTokens_append, ← Multiset.coe_add]
      have opened : ∀ cursor, (↑(openTokens [⟨number, backoff, cursor, true⟩]) :
          Multiset (Nat × ℚ)) = {(number, backoff)} := fun _ => rfl
      rw [opened, ← Multiset.singleton_add]
      abel
    · exact grows

theorem startSse_tokens (backoff : ℚ) :
    (service.startSse config number backoff).tokens ≤ (number, backoff) ::ₘ service.tokens := by
  unfold Service.startSse
  split
  · split
    · refine le_of_eq ?_
      simp only [Service.tokens, ← Multiset.coe_add, Multiset.coe_singleton]
      rw [← Multiset.singleton_add]
      abel
    · exact openSse_tokens config service number backoff
  · exact Multiset.le_cons_self service.tokens (number, backoff)

theorem startSse_calling (backoff : ℚ) :
    (service.startSse config number backoff).calling = service.calling := by
  obtain ⟨opened, planned, same⟩ := startSse_eq config service number backoff
  rw [same]

theorem Fewer.of_calling {after : Service} (starting : after.starting = service.starting)
    (connections : after.connections = service.connections)
    (reconnects : after.reconnects = service.reconnects)
    (calling : after.calling = service.calling ∨ after.calling.bind Frame.token = none) :
    Fewer service after := by
  refine ⟨?_, ?_⟩
  · rw [Service.tokens, Service.tokens, starting, connections, reconnects]
    rcases calling with same | other
    · rw [same]
    · rw [other]
      exact Multiset.le_add_right _ _ |>.trans_eq' (by simp)
  · intro own backoff called
    rcases calling with same | other
    · exact same ▸ called
    · rw [called] at other
      cases other

theorem dispatchUpdate_fewer (tx : Json) (transport : Transport) :
    Fewer service (service.dispatchUpdate number tx transport) := by
  unfold Service.dispatchUpdate
  split
  · exact .refl service
  · split
    · dsimp only
      split
      · exact .of_calling service rfl rfl rfl (.inl rfl)
      · exact .of_calling service rfl rfl rfl (.inr rfl)
    · exact .refl service

theorem reportPollError_fewer (reason : String) :
    Fewer service (service.reportPollError number reason) := by
  unfold Service.reportPollError
  split
  · exact .refl service
  · split
    · exact .of_calling service rfl rfl rfl (.inr rfl)
    · exact .refl service

theorem handleSseMessage_fewer (data : Option Json) :
    Fewer service (service.handleSseMessage number data) := by
  unfold Service.handleSseMessage
  split
  · split
    · exact .refl service
    · exact dispatchUpdate_fewer service number _ .sse
  · exact .refl service

theorem resumeStart_fewer (waiting : number ∈ service.starting) (supportsSse : Bool) :
    Fewer service (service.resumeStart config number supportsSse) := by
  have taken : service.tokens = (number, 0) ::ₘ
      Service.tokens { service with
        starting := service.starting.erase number
        started := number :: service.started } := by
    have front : (↑(service.starting.map fun number => (number, (0 : ℚ))) :
        Multiset (Nat × ℚ)) = (number, 0) ::ₘ
          ↑((service.starting.erase number).map fun number => (number, (0 : ℚ))) := by
      rw [Multiset.cons_coe, Multiset.coe_eq_coe]
      exact (List.perm_cons_erase waiting).map _
    simp only [Service.tokens, front, Multiset.cons_add]
  unfold Service.resumeStart
  dsimp only
  split
  · split
    · refine ⟨?_, ?_⟩
      · rw [taken]
        exact startSse_tokens config _ number 0
      · intro own backoff called
        rw [startSse_calling] at called
        exact called
    · refine ⟨?_, fun _ _ => id⟩
      rw [taken]
      exact Multiset.le_cons_self _ _
  · refine ⟨?_, fun _ _ => id⟩
    rw [taken]
    exact Multiset.le_cons_self _ _

theorem reconnectFires_fewer {index : Nat} {backoff : ℚ}
    (planned : service.reconnects[index]? = some (number, backoff)) :
    Fewer service (Service.openSse config
      { service with reconnects := service.reconnects.eraseIdx index } number backoff) := by
  have taken : service.tokens = (number, backoff) ::ₘ
      Service.tokens { service with reconnects := service.reconnects.eraseIdx index } := by
    obtain ⟨bound, here⟩ := List.getElem?_eq_some_iff.mp planned
    have front : (↑service.reconnects : Multiset (Nat × ℚ)) =
        (number, backoff) ::ₘ ↑(service.reconnects.eraseIdx index) := by
      rw [Multiset.cons_coe, Multiset.coe_eq_coe, ← here]
      exact (List.getElem_cons_eraseIdx_perm bound).symm
    simp only [Service.tokens, front, Multiset.cons_add, Multiset.add_cons]
  refine ⟨?_, ?_⟩
  · rw [taken]
    exact openSse_tokens config _ number backoff
  · intro own delay called
    obtain ⟨opened, same⟩ := openSse_eq config
      { service with reconnects := service.reconnects.eraseIdx index } number backoff
    rw [same] at called
    exact called

theorem resume_fewer (thrown : Option String) {frame : Frame}
    (calling : service.calling = some frame) :
    Fewer service ({ service with calling := none }.resume config thrown frame) := by
  have returned : Fewer service { service with calling := none } :=
    .of_calling service rfl rfl rfl (.inr rfl)
  cases frame with
  | afterPollError own => exact returned
  | afterEvent own isTerminal transport =>
      unfold Service.resume
      dsimp only
      split
      · split
        · split
          · exact returned
          · exact .of_calling service rfl rfl rfl (.inr rfl)
        · exact returned
      · exact returned.trans (reportPollError_fewer _ own _)
      · exact returned
  | afterSseError own backoff =>
      cases thrown with
      | some reason => exact returned
      | none =>
          refine ⟨?_, ?_⟩
          · refine (startSse_tokens config _ own backoff).trans_eq ?_
            have running : (↑(service.calling.bind Frame.token).toList : Multiset (Nat × ℚ)) =
                {(own, backoff)} := by
              rw [calling]
              rfl
            rw [Service.tokens, Service.tokens, running, ← Multiset.singleton_add]
            simp only [Option.bind_none, Option.toList_none, Multiset.coe_nil]
            abel
          · intro other delay called
            rw [Service.resume, startSse_calling] at called
            cases called

theorem handleSseError_tokens {index : Nat} {connection : Connection}
    (found : service.connections[index]? = some connection) (isOpen : connection.isOpen = true)
    (idle : service.calling = none) :
    ∃ rest, service.tokens = connection.token ::ₘ rest ∧
      (service.handleSseError config index connection).tokens ≤
        (connection.watcher, config.nextBackoff connection.backoff) ::ₘ rest ∧
      ∀ own backoff, (service.handleSseError config index connection).calling =
          some (.afterSseError own backoff) →
        own = connection.watcher ∧ backoff = config.nextBackoff connection.backoff := by
  refine ⟨Service.tokens { service with
    connections := service.connections.set index { connection with isOpen := false } }, ?_, ?_⟩
  · simp only [Service.tokens, openTokens_close found isOpen, Multiset.cons_add,
      Multiset.add_cons]
  · unfold Service.handleSseError
    dsimp only
    split
    · refine ⟨Multiset.le_cons_self _ _, ?_⟩
      intro own backoff called
      rw [idle] at called
      cases called
    · split
      · refine ⟨Multiset.le_cons_self _ _, ?_⟩
        intro own backoff called
        rw [idle] at called
        cases called
      · split
        · refine ⟨le_of_eq ?_, ?_⟩
          · simp only [Service.tokens, idle, Option.bind_none, Option.toList_none,
              Multiset.coe_nil, Option.bind_some, Frame.token, Option.toList_some,
              Multiset.coe_singleton]
            rw [← Multiset.singleton_add, Config.nextBackoff]
            abel
          · rintro own backoff ⟨⟩
            exact ⟨rfl, rfl⟩
        · refine ⟨startSse_tokens config _ _ _, ?_⟩
          intro own backoff called
          rw [startSse_calling, idle] at called
          cases called

end Tokens

/-! ## One step -/

/-- What a step does to the chains: a new watcher has one, an error moves one on, and
nothing else but their end happens to them. -/
inductive Passage (config : Config) (service after : Service) (event : Event) : Prop
  | fewer (fewer : Fewer service after) (unfailing : fails (service, event) = none)
  | watched (number : Nat) (new : service.registry.tag number = none)
      (known : after.registry.tag number ≠ none)
      (tokens : after.tokens = (number, 0) ::ₘ service.tokens)
      (calling : after.calling = service.calling) (deaf : hears (service, event) = none)
      (unfailing : fails (service, event) = none)
  | failed (number : Nat) (backoff : ℚ) (rest : Multiset (Nat × ℚ))
      (tokens : service.tokens = (number, backoff) ::ₘ rest)
      (next : after.tokens ≤ (number, config.nextBackoff backoff) ::ₘ rest)
      (calling : ∀ own delay, after.calling = some (.afterSseError own delay) →
        own = number ∧ delay = config.nextBackoff backoff)
      (deaf : hears (service, event) = none) (fails : fails (service, event) = some number)

section Steps

variable (config : Config) (service : Service)

theorem hears_fails_of_not_occurs (event : Event)
    (other : ∀ occurrence, event ≠ .occurs occurrence) :
    hears (service, event) = none ∧ fails (service, event) = none := by
  unfold hears fails
  cases event with
  | occurs occurrence => exact absurd rfl (other occurrence)
  | call api => cases service.calling <;> exact ⟨rfl, rfl⟩
  | returns thrown => cases service.calling <;> exact ⟨rfl, rfl⟩

theorem hears_of_fails {visit : Service × Event} {number : Nat}
    (failed : fails visit = some number) : hears visit = none := by
  unfold fails at failed
  split at failed
  · rename_i idle isError
    rw [hears, idle, isError]
  · cases failed

theorem invoke_passage (api : Api) :
    Passage config service (service.invoke config api) (.call api) := by
  obtain ⟨deaf, unfailing⟩ := hears_fails_of_not_occurs service (.call api) nofun
  cases api with
  | watch transactionId hasOnError =>
      unfold Service.invoke
      dsimp only
      split
      · exact .fewer (.refl service) unfailing
      · refine .watched service.registry.states.length (Registry.tag_length _) ?_ ?_ rfl deaf
          unfailing
        · rw [Registry.tag_add, if_pos rfl]
          nofun
        · simp only [Service.tokens, List.map_append, List.map_cons, List.map_nil,
            ← Multiset.coe_add, Multiset.coe_singleton]
          rw [← Multiset.singleton_add]
          abel
  | unsubscribe handle =>
      unfold Service.invoke
      dsimp only
      split
      · exact .fewer (.refl service) unfailing
      · exact .fewer (.of_calling service rfl rfl rfl (.inl rfl)) unfailing
  | destroy => exact .fewer (.of_calling service rfl rfl rfl (.inl rfl)) unfailing
  | abort =>
      unfold Service.invoke
      dsimp only
      split
      · refine .fewer ⟨?_, fun _ _ => id⟩ unfailing
        have closed : openTokens (service.connections.map fun connection =>
            { connection with isOpen := false }) = [] := by
          simp [openTokens, List.filter_map, Function.comp_def]
        rw [Service.tokens, Service.tokens, closed]
        exact add_le_add_left (add_le_add_left (add_le_add_right (Multiset.zero_le _) _) _) _
      · exact .fewer (.refl service) unfailing

theorem openWatcher_eq {index : Nat} {connection : Connection}
    (found : service.connections[index]? = some connection) (isOpen : connection.isOpen = true) :
    openWatcher service index = some connection.watcher := by
  rw [openWatcher, found, Option.bind_some, if_pos isOpen]

theorem sseError_passage (index : Nat) (idle : service.calling = none) :
    Passage config service (service.occur config (.sseError index))
      (.occurs (.sseError index)) := by
  have failing : fails (service, .occurs (.sseError index)) = openWatcher service index := by
    rw [fails, idle]
  have deaf : hears (service, .occurs (.sseError index)) = none := by
    rw [hears, idle]
  unfold Service.occur
  dsimp only
  split
  · rename_i missing
    exact .fewer (.refl service) (by rw [failing, openWatcher, missing]; rfl)
  · rename_i connection found
    split
    · rename_i isOpen
      obtain ⟨rest, tokens, next, calling⟩ :=
        handleSseError_tokens config service found isOpen idle
      exact .failed connection.watcher connection.backoff rest tokens next calling deaf
        (failing.trans (openWatcher_eq service found isOpen))
    · rename_i isClosed
      exact .fewer (.refl service)
        (by rw [failing, openWatcher, found, Option.bind_some, if_neg isClosed])

theorem occur_passage (occurrence : Occurrence) (idle : service.calling = none) :
    Passage config service (service.occur config occurrence) (.occurs occurrence) := by
  cases occurrence with
  | sseError index => exact sseError_passage config service index idle
  | detected supportsSse =>
      refine .fewer ?_ (by rw [fails, idle])
      unfold Service.occur
      dsimp only
      split
      · exact .of_calling service rfl rfl rfl (.inl rfl)
      · exact .refl service
  | startResumes number =>
      refine .fewer ?_ (by rw [fails, idle])
      unfold Service.occur
      dsimp only
      split
      · split
        · rename_i waiting
          exact resumeStart_fewer config service number waiting _
        · exact .refl service
      · exact .refl service
  | message index data =>
      refine .fewer ?_ (by rw [fails, idle])
      unfold Service.occur
      dsimp only
      split
      · exact .refl service
      · split
        · exact handleSseMessage_fewer service _ data
        · exact .refl service
  | reconnectFires index =>
      refine .fewer ?_ (by rw [fails, idle])
      unfold Service.occur
      dsimp only
      split
      · exact .refl service
      · rename_i number backoff planned
        exact reconnectFires_fewer config service number planned
  | pollTimerFires timer =>
      refine .fewer ?_ (by rw [fails, idle])
      unfold Service.occur
      dsimp only
      split
      · exact .of_calling service rfl rfl rfl (.inl rfl)
      · exact .refl service
  | pollSettles cycle number reply =>
      refine .fewer ?_ (by rw [fails, idle])
      have settled : Fewer service
          { service with loop := service.loop.settle cycle number } :=
        .of_calling service rfl rfl rfl (.inl rfl)
      unfold Service.occur
      dsimp only
      split
      · split
        · exact settled
        · exact settled.trans (dispatchUpdate_fewer _ number _ .poll)
        · exact settled.trans (reportPollError_fewer _ number _)
      · exact .refl service
  | cycleCompletes cycle =>
      refine .fewer ?_ (by rw [fails, idle])
      unfold Service.occur
      dsimp only
      split
      · exact .of_calling service rfl rfl rfl (.inl rfl)
      · exact .refl service

theorem step_passage (event : Event) :
    Passage config service (service.step config event) event := by
  cases event with
  | call api => exact invoke_passage config service api
  | returns thrown =>
      have unfailing := (hears_fails_of_not_occurs service (.returns thrown) nofun).2
      unfold Service.step
      dsimp only
      split
      · exact .fewer (.refl service) unfailing
      · rename_i frame calling
        exact .fewer (resume_fewer config service thrown calling) unfailing
  | occurs occurrence =>
      unfold Service.step
      dsimp only
      split
      · rename_i idle
        exact occur_passage config service occurrence idle
      · rename_i frame calling
        exact .fewer (.refl service) (by rw [fails, calling])

end Steps

section Registered

variable (config : Config) (service : Service) (event : Event) {number : Nat}

theorem step_tag_eq_none
    (unknown : (service.step config event).registry.tag number = none) :
    service.registry.tag number = none := by
  cases known : service.registry.tag number with
  | none => rfl
  | some own =>
      rcases (step_registry config service event).tag_of_tag known with same | same
      · rw [unknown] at same
        cases same
      · rw [unknown] at same
        cases same

theorem step_isActive (active : (service.step config event).registry.isActive number = true) :
    service.registry.isActive number = true ∨ service.registry.tag number = none := by
  cases known : service.registry.tag number with
  | none => exact .inr rfl
  | some own =>
      refine .inl (Registry.isActive_iff.mpr ?_)
      obtain ⟨transactionId, isActive⟩ := own
      cases isActive with
      | true => exact ⟨transactionId, known⟩
      | false =>
          have off := isActive_of_tag_inactive (step_tag_inactive config service event known)
          rw [off] at active
          cases active

end Registered

/-! ## Whole runs -/

/-- A watcher has at most one chain, and its back-off fits the errors in a row. -/
structure Chained (config : Config) (watcher errors : Nat) (service : Service) : Prop where
  known : service.registry.tag watcher = none →
    errors = 0 ∧ ∀ token ∈ service.tokens, token.1 ≠ watcher
  single : service.tokens.countP (·.1 = watcher) ≤ 1
  paced : ∀ backoff, (watcher, backoff) ∈ service.tokens →
    service.registry.isActive watcher = true → Paced config errors backoff
  calling : ∀ backoff, service.calling = some (.afterSseError watcher backoff) →
    service.registry.isActive watcher = true → 0 < backoff →
    0 < errors ∧ backoff = config.delay errors

section Invariant

variable {config : Config} {watcher errors : Nat} {service : Service}

theorem Chained.rest_ne (chained : Chained config watcher errors service) {backoff : ℚ}
    {token : Nat × ℚ} {rest : Multiset (Nat × ℚ)}
    (split : service.tokens = (watcher, backoff) ::ₘ rest) (member : token ∈ rest) :
    token.1 ≠ watcher := by
  intro same
  have single := chained.single
  rw [split, Multiset.countP_cons, if_pos rfl] at single
  have another : 0 < rest.countP (·.1 = watcher) :=
    Multiset.countP_pos.mpr ⟨token, member, same⟩
  omega

theorem Chained.unique (chained : Chained config watcher errors service) {first second : ℚ}
    (one : (watcher, first) ∈ service.tokens) (two : (watcher, second) ∈ service.tokens) :
    first = second := by
  obtain ⟨rest, split⟩ := Multiset.exists_cons_of_mem one
  rw [split, Multiset.mem_cons] at two
  rcases two with equal | later
  · exact (congrArg Prod.snd equal).symm
  · exact absurd rfl (chained.rest_ne split later)

theorem Chained.tag_ne_none (chained : Chained config watcher errors service) {backoff : ℚ}
    (member : (watcher, backoff) ∈ service.tokens) : service.registry.tag watcher ≠ none := by
  intro unknown
  exact (chained.known unknown).2 _ member rfl

theorem Chained.active_before (chained : Chained config watcher errors service) {event : Event}
    {backoff : ℚ} (member : (watcher, backoff) ∈ service.tokens)
    (active : (service.step config event).registry.isActive watcher = true) :
    service.registry.isActive watcher = true :=
  (step_isActive config service event active).resolve_right (chained.tag_ne_none member)

theorem calling_mem_tokens {number : Nat} {backoff : ℚ}
    (called : service.calling = some (.afterSseError number backoff)) :
    (number, backoff) ∈ service.tokens := by
  simp [Service.tokens, called, Frame.token]

theorem openWatcher_mem {index number : Nat} (heard : openWatcher service index = some number) :
    ∃ connection, service.connections[index]? = some connection ∧ connection.isOpen = true ∧
      connection.watcher = number ∧ connection.token ∈ service.tokens := by
  obtain ⟨connection, found, watches⟩ := Option.bind_eq_some_iff.mp heard
  obtain ⟨isOpen, same⟩ := Option.ite_none_right_eq_some.mp watches
  refine ⟨connection, found, isOpen, Option.some.inj same, ?_⟩
  have listed : connection.token ∈ openTokens service.connections :=
    List.mem_map_of_mem (List.mem_filter.mpr ⟨List.mem_of_getElem? found, isOpen⟩)
  simp [Service.tokens, listed]

theorem Chained.heard (chained : Chained config watcher errors service) {event : Event}
    (untroubled : recovers config watcher (service, event) = false) {backoff : ℚ}
    (member : (watcher, backoff) ∈ service.tokens)
    (active : service.registry.isActive watcher = true)
    (heard : hears (service, event) = some watcher) : Paced config 0 backoff := by
  refine (chained.paced backoff member active).frame ?_
  intro room
  unfold hears at heard
  split at heard
  · rename_i index data idle isMessage
    obtain ⟨connection, found, isOpen, rfl, listed⟩ := openWatcher_mem heard
    have same : connection.backoff = backoff := chained.unique listed member
    simp only at idle isMessage
    subst isMessage
    by_contra positive
    have opened : 0 < connection.backoff := by
      rw [same]
      exact not_le.mp positive
    simp [recovers, idle, found, room, isOpen, active, opened] at untroubled
  · cases heard

variable {event : Event}

theorem Chained.fewer (chained : Chained config watcher errors service)
    (untroubled : recovers config watcher (service, event) = false)
    (fewer : Fewer service (service.step config event))
    (unfailing : fails (service, event) = none) :
    Chained config watcher (errorsAfter watcher errors (service, event))
      (service.step config event) := by
  have counted : errorsAfter watcher errors (service, event) =
      if hears (service, event) = some watcher then 0 else errors := by
    rw [errorsAfter, unfailing, if_neg (nofun : ¬ none = some watcher)]
  rw [counted]
  refine ⟨?_, ?_, ?_, ?_⟩
  · intro unknown
    obtain ⟨noErrors, unused⟩ := chained.known (step_tag_eq_none config service event unknown)
    refine ⟨?_, fun token member => unused token (Multiset.mem_of_le fewer.tokens member)⟩
    rw [noErrors, ite_self]
  · exact (Multiset.countP_le_of_le _ fewer.tokens).trans chained.single
  · intro backoff member active
    have listed := Multiset.mem_of_le fewer.tokens member
    have wasActive := chained.active_before listed active
    split
    · rename_i heard
      exact chained.heard untroubled listed wasActive heard
    · exact chained.paced backoff listed wasActive
  · intro backoff called active positive
    have earlier := fewer.calling watcher backoff called
    have wasActive := chained.active_before (calling_mem_tokens earlier) active
    have deaf : hears (service, event) = none := by
      rw [hears, earlier]
    rw [deaf, if_neg nofun]
    exact chained.calling backoff earlier wasActive positive

theorem Chained.watched (chained : Chained config watcher errors service) {number : Nat}
    (new : service.registry.tag number = none)
    (known : (service.step config event).registry.tag number ≠ none)
    (tokens : (service.step config event).tokens = (number, 0) ::ₘ service.tokens)
    (calling : (service.step config event).calling = service.calling)
    (deaf : hears (service, event) = none) (unfailing : fails (service, event) = none) :
    Chained config watcher (errorsAfter watcher errors (service, event))
      (service.step config event) := by
  rw [errorsAfter, deaf, unfailing, if_neg nofun, if_neg nofun]
  refine ⟨?_, ?_, ?_, ?_⟩
  · intro unknown
    obtain ⟨none, others⟩ := chained.known (step_tag_eq_none config service event unknown)
    refine ⟨none, ?_⟩
    intro token member
    rw [tokens, Multiset.mem_cons] at member
    rcases member with rfl | listed
    · rintro rfl
      exact known unknown
    · exact others token listed
  · rw [tokens, Multiset.countP_cons]
    split
    · rename_i same
      have none : service.tokens.countP (·.1 = watcher) = 0 := by
        rw [Multiset.countP_eq_zero]
        exact (chained.known (same ▸ new)).2
      omega
    · exact chained.single
  · intro backoff member active
    rw [tokens, Multiset.mem_cons] at member
    rcases member with same | listed
    · cases same
      rw [(chained.known new).1]
      exact paced_zero config
    · exact chained.paced backoff listed (chained.active_before listed active)
  · intro backoff called active positive
    rw [calling] at called
    exact chained.calling backoff called
      (chained.active_before (calling_mem_tokens called) active) positive

theorem Chained.failed (chained : Chained config watcher errors service) {number : Nat}
    {backoff : ℚ} {rest : Multiset (Nat × ℚ)}
    (tokens : service.tokens = (number, backoff) ::ₘ rest)
    (next : (service.step config event).tokens ≤
      (number, config.nextBackoff backoff) ::ₘ rest)
    (calling : ∀ own delay, (service.step config event).calling =
        some (.afterSseError own delay) →
      own = number ∧ delay = config.nextBackoff backoff)
    (deaf : hears (service, event) = none) (fails : fails (service, event) = some number) :
    Chained config watcher (errorsAfter watcher errors (service, event))
      (service.step config event) := by
  have counted : errorsAfter watcher errors (service, event) =
      if number = watcher then errors + 1 else errors := by
    rw [errorsAfter, deaf, fails, if_neg nofun]
    simp only [Option.some.injEq]
  have own : (number, backoff) ∈ service.tokens := tokens ▸ Multiset.mem_cons_self _ _
  have kept : ∀ token ∈ rest, token ∈ service.tokens := by
    intro token member
    exact tokens ▸ Multiset.mem_cons_of_mem member
  rw [counted]
  refine ⟨?_, ?_, ?_, ?_⟩
  · intro unknown
    have before := step_tag_eq_none config service event unknown
    have different : number ≠ watcher := by
      rintro rfl
      exact chained.tag_ne_none own before
    obtain ⟨noErrors, unused⟩ := chained.known before
    refine ⟨by rw [if_neg different, noErrors], ?_⟩
    intro token member
    rcases Multiset.mem_cons.mp (Multiset.mem_of_le next member) with rfl | listed
    · exact different
    · exact unused token (kept token listed)
  · refine (Multiset.countP_le_of_le _ next).trans ?_
    have single := chained.single
    rw [tokens, Multiset.countP_cons] at single
    rw [Multiset.countP_cons]
    exact single
  · intro delay member active
    rcases Multiset.mem_cons.mp (Multiset.mem_of_le next member) with same | listed
    · cases same
      rw [if_pos rfl]
      exact (chained.paced _ own (chained.active_before own active)).error
    · have different : number ≠ watcher := by
        rintro rfl
        exact chained.rest_ne tokens listed rfl
      rw [if_neg different]
      have earlier := kept _ listed
      exact chained.paced delay earlier (chained.active_before earlier active)
  · intro delay called active positive
    obtain ⟨rfl, rfl⟩ := calling watcher delay called
    rw [if_pos rfl]
    have paced := chained.paced _ own (chained.active_before own active)
    exact ⟨Nat.succ_pos _, paced.scheduled positive⟩

theorem Chained.step (chained : Chained config watcher errors service)
    (untroubled : recovers config watcher (service, event) = false) :
    Chained config watcher (errorsAfter watcher errors (service, event))
      (service.step config event) := by
  cases step_passage config service event with
  | fewer fewer unfailing => exact chained.fewer untroubled fewer unfailing
  | watched number new known tokens calling deaf unfailing =>
      exact chained.watched new known tokens calling deaf unfailing
  | failed number backoff rest tokens next calling deaf fails =>
      exact chained.failed tokens next calling deaf fails

end Invariant

theorem consecutiveErrors_concat (number : Nat) (past : List (Service × Event))
    (visit : Service × Event) :
    consecutiveErrors number (past ++ [visit]) =
      errorsAfter number (consecutiveErrors number past) visit := by
  rw [consecutiveErrors, List.foldl_append]
  rfl

theorem chained_create (config : Config) (watcher : Nat) :
    Chained config watcher 0 Service.create :=
  ⟨fun _ => ⟨rfl, nofun⟩, Nat.zero_le _, nofun, nofun⟩

theorem chained_reached (config : Config) (watcher : Nat) (events : List Event)
    (untroubled : ∀ visit ∈ visits config events, recovers config watcher visit = false) :
    Chained config watcher (consecutiveErrors watcher (visits config events))
      (Service.reached config events) := by
  refine Machine.history_invariant (Service.step config)
    (fun past service => Chained config watcher (consecutiveErrors watcher past) service)
    events _ ?_ (chained_create config watcher)
  rintro past ⟨service, event⟩ member chained
  rw [consecutiveErrors_concat]
  exact chained.step (untroubled _ member)

/-! ## The timers -/

section Timers

variable {config : Config} {service : Service} {number : Nat} {delay : ℚ}

theorem openSse_reconnects (config : Config) (service : Service) (number : Nat) (backoff : ℚ) :
    (service.openSse config number backoff).reconnects = service.reconnects := by
  obtain ⟨opened, same⟩ := openSse_eq config service number backoff
  rw [same]

theorem startSse_schedules (base : Service) {other : Nat} {backoff : ℚ}
    (scheduled : (base.startSse config other backoff).reconnects =
      base.reconnects ++ [(number, delay)]) :
    other = number ∧ backoff = delay ∧ base.registry.isActive number = true ∧ 0 < delay := by
  unfold Service.startSse at scheduled
  split at scheduled
  · rename_i active
    split at scheduled
    · rename_i positive
      cases List.append_cancel_left scheduled
      exact ⟨rfl, rfl, active, positive⟩
    · rw [openSse_reconnects] at scheduled
      simp at scheduled
  · simp at scheduled

theorem dispatchUpdate_reconnects (service : Service) (number : Nat) (tx : Json)
    (transport : Transport) :
    (service.dispatchUpdate number tx transport).reconnects = service.reconnects := by
  unfold Service.dispatchUpdate
  split
  · rfl
  · split
    · dsimp only
      split
      · rfl
      · rfl
    · rfl

theorem reportPollError_reconnects (service : Service) (number : Nat) (reason : String) :
    (service.reportPollError number reason).reconnects = service.reconnects := by
  unfold Service.reportPollError
  split
  · rfl
  · split
    · rfl
    · rfl

theorem handleSseMessage_reconnects (service : Service) (number : Nat) (data : Option Json) :
    (service.handleSseMessage number data).reconnects = service.reconnects := by
  unfold Service.handleSseMessage
  split
  · split
    · rfl
    · exact dispatchUpdate_reconnects service number _ .sse
  · rfl

theorem invoke_reconnects (config : Config) (service : Service) (api : Api) :
    (service.invoke config api).reconnects = service.reconnects := by
  unfold Service.invoke
  split
  · split
    · rfl
    · rfl
  · split
    · rfl
    · rfl
  · rfl
  · split
    · rfl
    · rfl

theorem startSse_zero_reconnects (config : Config) (service : Service) (number : Nat) :
    (service.startSse config number 0).reconnects = service.reconnects := by
  unfold Service.startSse
  rw [if_neg (lt_irrefl (0 : ℚ))]
  split
  · exact openSse_reconnects config service number 0
  · rfl

theorem resumeStart_reconnects (config : Config) (service : Service) (number : Nat)
    (supportsSse : Bool) :
    (service.resumeStart config number supportsSse).reconnects = service.reconnects := by
  unfold Service.resumeStart
  dsimp only
  split
  · split
    · exact startSse_zero_reconnects config _ number
    · rfl
  · rfl

theorem resume_schedules {thrown : Option String} {frame : Frame}
    (scheduled : ({ service with calling := none }.resume config thrown frame).reconnects =
      service.reconnects ++ [(number, delay)]) :
    frame = .afterSseError number delay ∧ service.registry.isActive number = true ∧
      0 < delay := by
  cases frame with
  | afterPollError own => simp [Service.resume] at scheduled
  | afterEvent own isTerminal transport =>
      have same : ({ service with calling := none }.resume config thrown
          (.afterEvent own isTerminal transport)).reconnects = service.reconnects := by
        unfold Service.resume
        dsimp only
        split
        · split
          · split
            · rfl
            · rfl
          · rfl
        · exact reportPollError_reconnects _ own _
        · rfl
      rw [same] at scheduled
      simp at scheduled
  | afterSseError own backoff =>
      cases thrown with
      | some reason => simp [Service.resume] at scheduled
      | none =>
          obtain ⟨rfl, rfl, active, positive⟩ :=
            startSse_schedules { service with calling := none } scheduled
          exact ⟨rfl, active, positive⟩

theorem handleSseError_schedules {index : Nat} {connection : Connection}
    (scheduled : (service.handleSseError config index connection).reconnects =
      service.reconnects ++ [(number, delay)]) :
    connection.watcher = number ∧ config.nextBackoff connection.backoff = delay ∧
      service.registry.isActive number = true ∧ 0 < delay := by
  unfold Service.handleSseError at scheduled
  dsimp only at scheduled
  split at scheduled
  · simp at scheduled
  · split at scheduled
    · simp at scheduled
    · split at scheduled
      · simp at scheduled
      · exact startSse_schedules { service with
          connections := service.connections.set index { connection with isOpen := false } }
          scheduled

theorem occur_reconnects (config : Config) (service : Service) {occurrence : Occurrence}
    (noError : ∀ index, occurrence ≠ .sseError index) :
    (service.occur config occurrence).reconnects = service.reconnects ∨
      ∃ index, (service.occur config occurrence).reconnects =
        service.reconnects.eraseIdx index := by
  unfold Service.occur
  cases occurrence with
  | sseError index => exact absurd rfl (noError index)
  | detected supportsSse =>
      dsimp only
      split
      · exact .inl rfl
      · exact .inl rfl
  | startResumes own =>
      dsimp only
      split
      · split
        · exact .inl (resumeStart_reconnects config service own _)
        · exact .inl rfl
      · exact .inl rfl
  | message index data =>
      dsimp only
      split
      · exact .inl rfl
      · split
        · exact .inl (handleSseMessage_reconnects service _ data)
        · exact .inl rfl
  | reconnectFires index =>
      dsimp only
      split
      · exact .inl rfl
      · exact .inr ⟨index, openSse_reconnects config _ _ _⟩
  | pollTimerFires timer =>
      dsimp only
      split
      · exact .inl rfl
      · exact .inl rfl
  | pollSettles cycle own reply =>
      dsimp only
      split
      · split
        · exact .inl rfl
        · exact .inl (dispatchUpdate_reconnects _ own _ .poll)
        · exact .inl (reportPollError_reconnects _ own _)
      · exact .inl rfl
  | cycleCompletes cycle =>
      dsimp only
      split
      · exact .inl rfl
      · exact .inl rfl

theorem sseError_schedules (config : Config) {index : Nat} (idle : service.calling = none)
    (scheduled : (service.occur config (.sseError index)).reconnects =
      service.reconnects ++ [(number, delay)]) :
    service.registry.isActive number = true ∧ 0 < delay ∧
      ∃ backoff, fails (service, .occurs (.sseError index)) = some number ∧
        (number, backoff) ∈ service.tokens ∧ delay = config.nextBackoff backoff := by
  unfold Service.occur at scheduled
  dsimp only at scheduled
  split at scheduled
  · simp at scheduled
  · rename_i connection found
    split at scheduled
    · rename_i isOpen
      obtain ⟨rfl, rfl, active, positive⟩ := handleSseError_schedules scheduled
      have failing := openWatcher_eq service found isOpen
      obtain ⟨_, again, _, _, listed⟩ := openWatcher_mem failing
      rw [found] at again
      cases again
      exact ⟨active, positive, connection.backoff, by rw [fails, idle]; exact failing, listed,
        rfl⟩
    · simp at scheduled

/-- A timer is set when a connection fails, or after the callback for that. -/
theorem step_schedules (config : Config) (event : Event)
    (scheduled : (service.step config event).reconnects =
      service.reconnects ++ [(number, delay)]) :
    service.registry.isActive number = true ∧ 0 < delay ∧
      ((∃ backoff, fails (service, event) = some number ∧
          (number, backoff) ∈ service.tokens ∧ delay = config.nextBackoff backoff) ∨
        (∃ thrown, event = .returns thrown) ∧
          service.calling = some (.afterSseError number delay)) := by
  cases event with
  | call api =>
      rw [Service.step, invoke_reconnects] at scheduled
      simp at scheduled
  | returns thrown =>
      unfold Service.step at scheduled
      dsimp only at scheduled
      split at scheduled
      · simp at scheduled
      · rename_i frame calling
        obtain ⟨rfl, active, positive⟩ := resume_schedules scheduled
        exact ⟨active, positive, .inr ⟨⟨thrown, rfl⟩, calling⟩⟩
  | occurs occurrence =>
      unfold Service.step at scheduled
      dsimp only at scheduled
      split at scheduled
      · rename_i idle
        by_cases isError : ∃ index, occurrence = .sseError index
        · obtain ⟨index, rfl⟩ := isError
          obtain ⟨active, positive, failed⟩ := sseError_schedules config idle scheduled
          exact ⟨active, positive, .inl failed⟩
        · have lengths := congrArg List.length scheduled
          rw [List.length_append] at lengths
          rcases occur_reconnects config service
            (fun index same => isError ⟨index, same⟩) with same | ⟨index, same⟩
          · rw [same] at lengths
            simp at lengths
          · rw [same] at lengths
            have shorter := List.length_eraseIdx_le service.reconnects index
            simp at lengths
            omega
      · simp at scheduled

end Timers

/-- The delay doubles with every error since the last frame, up to its cap, in a run in
which no frame arrives on a reconnected stream of the watcher. -/
theorem backoff_counts_errors_since_frame (config : Config) (events : List Event)
    (event : Event) (number : Nat) (delay : ℚ)
    (untroubled : ∀ visit ∈ visits config events, recovers config number visit = false)
    (scheduled : ((Service.reached config events).step config event).reconnects =
      (Service.reached config events).reconnects ++ [(number, delay)]) :
    0 < consecutiveErrors number (visits config (events ++ [event])) ∧
      delay = min
        (config.reconnectDelay *
          2 ^ (consecutiveErrors number (visits config (events ++ [event])) - 1))
        config.maxReconnectDelay := by
  have chained := chained_reached config number events untroubled
  have counted : consecutiveErrors number (visits config (events ++ [event])) =
      errorsAfter number (consecutiveErrors number (visits config events))
        (Service.reached config events, event) := by
    rw [← consecutiveErrors_concat, visits, Machine.visits_append]
    rfl
  have silent : none ≠ some number := (Option.some_ne_none number).symm
  rw [counted]
  obtain ⟨active, positive, ⟨backoff, failed, listed, rfl⟩ | ⟨⟨thrown, rfl⟩, calling⟩⟩ :=
    step_schedules config event scheduled
  · have paced := chained.paced _ listed active
    rw [errorsAfter, hears_of_fails failed, if_neg silent, if_pos failed]
    exact ⟨Nat.succ_pos _, paced.scheduled positive⟩
  · obtain ⟨deaf, unfailing⟩ := hears_fails_of_not_occurs (Service.reached config events)
      (.returns thrown) (by simp)
    rw [errorsAfter, deaf, unfailing, if_neg silent, if_neg silent]
    exact chained.calling delay calling active positive

def unsteadyRun : List Event :=
  [.call (.watch "deposit" false), .occurs (.startResumes 0), statusMessage 0 "pending_anchor",
    .returns none, .occurs (.sseError 0), .occurs (.reconnectFires 0)]

theorem unsteadyRun_doubles :
    ((Service.reached sseConfig unsteadyRun).step sseConfig (.occurs (.sseError 1))).reconnects =
        [(0, 2000)] ∧
      0 < consecutiveErrors 0
        (visits sseConfig (unsteadyRun ++ [.occurs (.sseError 1)])) ∧
      (2000 : ℚ) = min (1000 * 2 ^ (consecutiveErrors 0
        (visits sseConfig (unsteadyRun ++ [.occurs (.sseError 1)])) - 1)) 30000 := by
  have scheduled : ((Service.reached sseConfig unsteadyRun).step sseConfig
      (.occurs (.sseError 1))).reconnects =
        (Service.reached sseConfig unsteadyRun).reconnects ++ [(0, 2000)] := by
    decide +kernel
  exact ⟨by decide +kernel, backoff_counts_errors_since_frame sseConfig unsteadyRun _ 0 2000
    (by decide +kernel) scheduled⟩

/-- The stream recovers after an error, delivers a frame and is lost once more. -/
def recoveredRun : List Event := unsteadyRun ++ [statusMessage 1 "pending_stellar", .returns none]

theorem recoveredRun_keeps_backoff :
    ((Service.reached sseConfig recoveredRun).step sseConfig (.occurs (.sseError 1))).reconnects =
        (Service.reached sseConfig recoveredRun).reconnects ++ [(0, 2000)] ∧
      consecutiveErrors 0 (visits sseConfig (recoveredRun ++ [.occurs (.sseError 1)])) = 1 ∧
      min (sseConfig.reconnectDelay * 2 ^ (1 - 1)) sseConfig.maxReconnectDelay = 1000 := by
  decide +kernel

end AnchorKit.Sdk.Streaming
