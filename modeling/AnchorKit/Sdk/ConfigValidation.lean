import AnchorKit.Sdk.Backoff
import AnchorKit.Sdk.ConfigManager
import Mathlib.Data.Rat.Floor

/-!
# The validator of `config/index.ts`, and what a manager with it hands out

A candidate comes from outside and its fields may be of any type; it is plain data, so that
reading a field twice gives the same value.  `new URL`, `trim` and the text of a number belong
to the language and are parameters.

With `validateAnchorConfig` among its validators a manager hands out well-formed configs
only, to its callers and to its listeners, however its calls are nested.  A streaming
service that is created from such a config asks for a positive delay before every
reconnection, and the timer keeps it if the delays are whole numbers that fit into 32 bits.
-/

set_option autoImplicit false

namespace AnchorKit.Sdk.Config

open AnchorKit.Base

/-- The value of a field; what is neither a number nor a string has a text all the same. -/
inductive Setting where
  | undefined
  | number (value : Number)
  | string (text : String)
  | other (text : String)
  deriving DecidableEq

/-- The fields that the validator reads. -/
structure AnchorConfig where
  anchorUrl : Setting
  timeout : Setting
  maxWatched : Setting
  reconnectDelay : Setting
  maxReconnectDelay : Setting
  pollIntervalMs : Setting

/-- `protocol` is `none` where `new URL` throws. -/
structure Language where
  isBlank : String → Bool
  protocol : String → Option String
  numberText : Number → String

variable (language : Language)

def Setting.text : Setting → String
  | .undefined => "undefined"
  | .number value => language.numberText value
  | .string text => text
  | .other text => text

/-- `typeof value === 'number' && Number.isFinite(value) && value > 0`. -/
def Setting.isPositive : Setting → Bool
  | .number (.finite value) => decide (0 < value)
  | _ => false

def positiveIntFields : List (String × (AnchorConfig → Setting)) :=
  [("timeout", AnchorConfig.timeout), ("maxWatched", AnchorConfig.maxWatched),
    ("reconnectDelay", AnchorConfig.reconnectDelay),
    ("maxReconnectDelay", AnchorConfig.maxReconnectDelay),
    ("pollIntervalMs", AnchorConfig.pollIntervalMs)]

def validateField (field : String × (AnchorConfig → Setting)) (candidate : AnchorConfig) :
    ValidationResult :=
  if field.2 candidate = .undefined then .valid
  else if (field.2 candidate).isPositive then .valid
  else .invalid "INVALID_FIELD_VALUE"
    ("`" ++ field.1 ++ "` must be a positive finite number when provided (got " ++
      (field.2 candidate).text language ++ ").") (some field.1)

def composeValidators {Config : Type} :
    List (Config → ValidationResult) → Config → ValidationResult
  | [], _ => .valid
  | validate :: rest, candidate =>
      match validate candidate with
      | .valid => composeValidators rest candidate
      | failure => failure

def validateAnchorConfig (candidate : AnchorConfig) : ValidationResult :=
  let missing := .invalid "MISSING_ANCHOR_URL"
    "`anchorUrl` is required and must be a non-empty string." (some "anchorUrl")
  match candidate.anchorUrl with
  | .string url =>
      if language.isBlank url then missing
      else
        match language.protocol url with
        | none =>
            .invalid "INVALID_ANCHOR_URL" "`anchorUrl` must be a valid absolute URL."
              (some "anchorUrl")
        | some protocol =>
            if protocol = "http:" ∨ protocol = "https:" then
              composeValidators (positiveIntFields.map (validateField language)) candidate
            else
              .invalid "INVALID_ANCHOR_URL_SCHEME"
                "`anchorUrl` must use the http or https scheme." (some "anchorUrl")
  | _ => missing

/-! ## What is accepted -/

theorem composeValidators_eq_valid_iff {Config : Type}
    (validators : List (Config → ValidationResult)) (candidate : Config) :
    composeValidators validators candidate = .valid ↔
      ∀ validate ∈ validators, validate candidate = .valid := by
  induction validators with
  | nil => simp [composeValidators]
  | cons validate rest ih =>
      rw [composeValidators, List.forall_mem_cons, ← ih]
      cases outcome : validate candidate with
      | valid => simp
      | invalid code message field => simp

/-- Absent, or a positive finite number. -/
def Setting.Positive : Setting → Prop
  | .undefined => True
  | .number (.finite value) => 0 < value
  | _ => False

structure WellFormed (candidate : AnchorConfig) : Prop where
  anchorUrl : ∃ url protocol, candidate.anchorUrl = .string url ∧
    language.isBlank url = false ∧ language.protocol url = some protocol ∧
    (protocol = "http:" ∨ protocol = "https:")
  timeout : candidate.timeout.Positive
  maxWatched : candidate.maxWatched.Positive
  reconnectDelay : candidate.reconnectDelay.Positive
  maxReconnectDelay : candidate.maxReconnectDelay.Positive
  pollIntervalMs : candidate.pollIntervalMs.Positive

theorem validateField_eq_valid_iff (field : String × (AnchorConfig → Setting))
    (candidate : AnchorConfig) :
    validateField language field candidate = .valid ↔ (field.2 candidate).Positive := by
  unfold validateField
  cases field.2 candidate with
  | undefined => simp [Setting.Positive]
  | string text => simp [Setting.Positive, Setting.isPositive]
  | other text => simp [Setting.Positive, Setting.isPositive]
  | number value =>
      cases value with
      | finite value => simp [Setting.Positive, Setting.isPositive]
      | infinity negative => simp [Setting.Positive, Setting.isPositive]
      | nan => simp [Setting.Positive, Setting.isPositive]

theorem fields_valid_iff (candidate : AnchorConfig) :
    composeValidators (positiveIntFields.map (validateField language)) candidate = .valid ↔
      ∀ field ∈ positiveIntFields, (field.2 candidate).Positive := by
  rw [composeValidators_eq_valid_iff, List.forall_mem_map]
  exact forall₂_congr fun field _ => validateField_eq_valid_iff language field candidate

theorem validateAnchorConfig_eq_valid_iff (candidate : AnchorConfig) :
    validateAnchorConfig language candidate = .valid ↔ WellFormed language candidate := by
  have fields := fields_valid_iff language candidate
  simp only [positiveIntFields, List.forall_mem_cons, List.not_mem_nil, false_implies,
    implies_true, and_true] at fields
  constructor
  · intro accepted
    unfold validateAnchorConfig at accepted
    dsimp only at accepted
    split at accepted
    · rename_i url isString
      split at accepted
      · cases accepted
      · rename_i filled
        split at accepted
        · cases accepted
        · rename_i protocol parsed
          split at accepted
          · rename_i scheme
            obtain ⟨timeout, maxWatched, reconnectDelay, maxReconnectDelay, pollIntervalMs⟩ :=
              fields.mp accepted
            exact ⟨⟨url, protocol, isString, Bool.not_eq_true _ ▸ filled, parsed, scheme⟩,
              timeout, maxWatched, reconnectDelay, maxReconnectDelay, pollIntervalMs⟩
          · cases accepted
    · cases accepted
  · intro wellFormed
    obtain ⟨url, protocol, isString, filled, parsed, scheme⟩ := wellFormed.anchorUrl
    unfold validateAnchorConfig
    dsimp only
    rw [isString]
    dsimp only
    rw [filled, parsed]
    dsimp only
    rw [if_pos scheme]
    exact fields.mpr ⟨wellFormed.timeout, wellFormed.maxWatched, wellFormed.reconnectDelay,
      wellFormed.maxReconnectDelay, wellFormed.pollIntervalMs⟩

/-! ## What a manager hands out -/

section Manager

variable {Config Listener : Type} {validator : Config → ValidationResult}

structure HandsOutValid (manager : ConfigManager validator Listener) : Prop where
  stack : ∀ notifying ∈ manager.stack, validator notifying.previous = .valid
  log : ∀ invocation ∈ manager.log,
    validator invocation.next = .valid ∧ validator invocation.previous = .valid

variable {manager : ConfigManager validator Listener}

theorem HandsOutValid.notify (handsOut : HandsOutValid manager) {notifying : Notifying Config}
    (previous : validator notifying.previous = .valid) :
    HandsOutValid (manager.notify notifying) := by
  unfold ConfigManager.notify
  split
  · exact handsOut
  · refine ⟨List.forall_mem_cons.mpr ⟨previous, handsOut.stack⟩, ?_⟩
    intro invocation member
    rcases List.mem_append.mp member with earlier | new
    · exact handsOut.log invocation earlier
    · cases List.mem_singleton.mp new
      exact ⟨manager.valid, previous⟩

variable [DecidableEq Listener]

theorem HandsOutValid.step (handsOut : HandsOutValid manager) (event : Event Config Listener) :
    HandsOutValid (manager.step event) := by
  cases event with
  | onChange listener => exact ⟨handsOut.stack, handsOut.log⟩
  | unsubscribe registration =>
      dsimp only [ConfigManager.step]
      unfold ConfigManager.unsubscribe
      split
      · exact handsOut
      · exact ⟨handsOut.stack, handsOut.log⟩
  | reload candidate =>
      by_cases accepted : validator candidate = .valid
      · rw [reload_of_valid manager accepted]
        have swapped : HandsOutValid
            { manager with
              current := candidate
              valid := accepted
              reloads := manager.reloads + 1 } := ⟨handsOut.stack, handsOut.log⟩
        exact swapped.notify manager.valid
      · rw [reload_of_not_valid manager accepted]
        exact handsOut
  | returns throws =>
      dsimp only [ConfigManager.step]
      unfold ConfigManager.returned
      split
      · exact handsOut
      · rename_i notifying rest waiting
        have stack := handsOut.stack
        rw [waiting] at stack
        obtain ⟨previous, others⟩ := List.forall_mem_cons.mp stack
        have resumed : HandsOutValid { manager with stack := rest } := ⟨others, handsOut.log⟩
        exact resumed.notify previous

theorem reached_handsOutValid (initial : Config) (valid : validator initial = .valid)
    (events : List (Event Config Listener)) :
    HandsOutValid (ConfigManager.reached initial valid events) :=
  Machine.run_invariant ConfigManager.step HandsOutValid
    (fun _ event handsOut => handsOut.step event) events (ConfigManager.start initial valid)
    ⟨nofun, nofun⟩

end Manager

/-- In every state of a manager with `validateAnchorConfig` among its validators, whatever
reloads are nested in its listeners, the current config and all that the listeners have been
given are well formed, and have passed the other validators as well. -/
theorem managed_configs_well_formed {Listener : Type} [DecidableEq Listener]
    (validators : List (AnchorConfig → ValidationResult))
    (included : validateAnchorConfig language ∈ validators) (initial : AnchorConfig)
    (valid : composeValidators validators initial = .valid)
    (events : List (Event AnchorConfig Listener)) :
    let manager := ConfigManager.reached initial valid events
    ∀ config, (config = manager.current ∨ ∃ invocation ∈ manager.log,
        config = invocation.next ∨ config = invocation.previous) →
      WellFormed language config ∧ ∀ validate ∈ validators, validate config = .valid := by
  intro manager config handed
  have handsOut := reached_handsOutValid initial valid events
  have passed : composeValidators validators config = .valid := by
    rcases handed with rfl | ⟨invocation, member, rfl | rfl⟩
    · exact manager.valid
    · exact (handsOut.log invocation member).1
    · exact (handsOut.log invocation member).2
  rw [composeValidators_eq_valid_iff] at passed
  exact ⟨(validateAnchorConfig_eq_valid_iff language config).mp (passed _ included), passed⟩

section Sample

def sampleLanguage : Language where
  isBlank := fun text => text == ""
  protocol := fun text => if text = "https://anchor.example" then some "https:" else none
  numberText := fun _ => "0"

def anchorConfig (reconnectDelay : Setting) : AnchorConfig where
  anchorUrl := .string "https://anchor.example"
  timeout := .undefined
  maxWatched := .undefined
  reconnectDelay := reconnectDelay
  maxReconnectDelay := .undefined
  pollIntervalMs := .undefined

def sampleReloads : List (Event AnchorConfig Unit) :=
  [.onChange (), .reload (anchorConfig (.number (.finite 500))), .returns false,
    .reload (anchorConfig (.number (.finite 0)))]

theorem anchorConfig_valid :
    composeValidators [validateAnchorConfig sampleLanguage] (anchorConfig .undefined) =
      .valid := by
  decide +kernel

end Sample

theorem sampleReloads_well_formed :
    let manager := ConfigManager.reached (anchorConfig .undefined) anchorConfig_valid
      sampleReloads
    manager.log.length = 1 ∧ WellFormed sampleLanguage manager.current :=
  ⟨by decide +kernel, (managed_configs_well_formed sampleLanguage _ List.mem_cons_self
    (anchorConfig .undefined) anchorConfig_valid sampleReloads _ (.inl rfl)).1⟩

/-! ## A service created from a config -/

/-- `setting ?? default`, for a setting that is absent or a number. -/
def Setting.orDefault (default : ℚ) : Setting → Number
  | .undefined => .finite default
  | .number value => value
  | _ => .nan

/-- The constructor of the streaming service. -/
structure CreatedFrom (snapshot : AnchorConfig) (config : Streaming.Config) : Prop where
  maxWatched : config.maxWatched = snapshot.maxWatched.orDefault 50
  reconnectDelay : .finite config.reconnectDelay = snapshot.reconnectDelay.orDefault 1000
  maxReconnectDelay :
    .finite config.maxReconnectDelay = snapshot.maxReconnectDelay.orDefault 30000

theorem Setting.Positive.orDefault_pos {setting : Setting} (positive : setting.Positive)
    {default value : ℚ} (fallback : 0 < default)
    (same : .finite value = setting.orDefault default) : 0 < value := by
  cases setting with
  | undefined =>
      cases same
      exact fallback
  | number number =>
      cases same
      exact positive
  | string text => cases positive
  | other text => cases positive

end AnchorKit.Sdk.Config

namespace AnchorKit.Sdk.Streaming

open AnchorKit.Base

/-- The events that may open a connection: the start of a watcher and the end of a wait. -/
def Event.opens : Event → Bool
  | .occurs (.startResumes _) => true
  | .occurs (.reconnectFires _) => true
  | _ => false

/-- `setTimeout` converts its delay to a signed integer of 32 bits and takes a negative one
for zero. -/
def timeoutMs (delay : ℚ) : Nat :=
  (Int.bmod (delay.num.tdiv delay.den) (2 ^ 32)).toNat

/-- Both delays are whole numbers, and the timers can keep the longest one. -/
def Config.Whole (config : Config) : Prop :=
  (∃ base : Nat, config.reconnectDelay = base) ∧
    ∃ cap : Nat, cap < 2 ^ 31 ∧ config.maxReconnectDelay = cap

structure Config.Spans (config : Config) (delay : ℚ) : Prop where
  least : min config.reconnectDelay config.maxReconnectDelay ≤ delay
  most : delay ≤ config.maxReconnectDelay

/-- The back-offs lie in the range of the delays; that of a first connection is zero. -/
structure Backed (config : Config) (service : Service) : Prop where
  connections : ∀ connection ∈ service.connections,
    connection.backoff = 0 ∨ config.Spans connection.backoff
  reconnects : ∀ reconnect ∈ service.reconnects, config.Spans reconnect.2
  calling : ∀ number backoff, service.calling = some (.afterSseError number backoff) →
    config.Spans backoff

section Waiting

variable {config : Config} {service : Service}

theorem Backed.of_same {after : Service} (backed : Backed config service)
    (connections : after.connections = service.connections)
    (reconnects : after.reconnects = service.reconnects)
    (calling : ∀ number backoff, after.calling = some (.afterSseError number backoff) →
      service.calling = some (.afterSseError number backoff)) : Backed config after where
  connections := by rw [connections]; exact backed.connections
  reconnects := by rw [reconnects]; exact backed.reconnects
  calling := fun number backoff running =>
    backed.calling number backoff (calling number backoff running)

theorem Config.Spans.pos {delay : ℚ} (spans : config.Spans delay)
    (base : 0 < config.reconnectDelay) (cap : 0 < config.maxReconnectDelay) : 0 < delay :=
  (lt_min base cap).trans_le spans.least

theorem Backed.startSse_spans (backed : Backed config service) (number : Nat) {backoff : ℚ}
    (spans : config.Spans backoff) (positive : 0 < backoff) :
    Backed config (service.startSse config number backoff) ∧
      (service.startSse config number backoff).connections = service.connections := by
  unfold Service.startSse
  rw [if_pos positive]
  split
  · refine ⟨⟨backed.connections, ?_, backed.calling⟩, rfl⟩
    intro reconnect member
    rcases List.mem_append.mp member with earlier | new
    · exact backed.reconnects reconnect earlier
    · cases List.mem_singleton.mp new
      exact spans
  · exact ⟨backed, rfl⟩

theorem Backed.openSse (backed : Backed config service) (number : Nat) {backoff : ℚ}
    (fits : backoff = 0 ∨ config.Spans backoff) :
    Backed config (service.openSse config number backoff) := by
  unfold Service.openSse
  split
  · exact backed
  · dsimp only
    split
    · refine ⟨?_, backed.reconnects, backed.calling⟩
      intro connection member
      rcases List.mem_append.mp member with earlier | new
      · exact backed.connections connection earlier
      · cases List.mem_singleton.mp new
        exact fits
    · exact backed

theorem Backed.startSse_zero (backed : Backed config service) (number : Nat) :
    Backed config (service.startSse config number 0) := by
  unfold Service.startSse
  rw [if_neg (lt_irrefl 0)]
  split
  · exact backed.openSse number (.inl rfl)
  · exact backed

theorem Backed.resumeStart (backed : Backed config service) (number : Nat)
    (supportsSse : Bool) : Backed config (service.resumeStart config number supportsSse) := by
  have started : Backed config { service with
      starting := service.starting.erase number
      started := number :: service.started } :=
    backed.of_same rfl rfl fun _ _ => id
  unfold Service.resumeStart
  dsimp only
  split
  · split
    · exact started.startSse_zero number
    · exact started.of_same rfl rfl fun _ _ => id
  · exact started

theorem Backed.dispatchUpdate (backed : Backed config service) (number : Nat) (tx : Json)
    (transport : Transport) :
    Backed config (service.dispatchUpdate number tx transport) ∧
      (service.dispatchUpdate number tx transport).connections = service.connections := by
  unfold Service.dispatchUpdate
  split
  · exact ⟨backed, rfl⟩
  · dsimp only
    split
    · split
      · exact ⟨backed.of_same rfl rfl fun _ _ => id, rfl⟩
      · exact ⟨backed.of_same rfl rfl nofun, rfl⟩
    · exact ⟨backed, rfl⟩

theorem Backed.handleSseMessage (backed : Backed config service) (number : Nat)
    (data : Option Json) :
    Backed config (service.handleSseMessage number data) ∧
      (service.handleSseMessage number data).connections = service.connections := by
  unfold Service.handleSseMessage
  split
  · split
    · exact ⟨backed, rfl⟩
    · exact backed.dispatchUpdate number _ .sse
  · exact ⟨backed, rfl⟩

theorem Backed.reportPollError (backed : Backed config service) (number : Nat)
    (reason : String) :
    Backed config (service.reportPollError number reason) ∧
      (service.reportPollError number reason).connections = service.connections := by
  unfold Service.reportPollError
  split
  · exact ⟨backed, rfl⟩
  · split
    · exact ⟨backed.of_same rfl rfl nofun, rfl⟩
    · exact ⟨backed, rfl⟩

theorem nextBackoff_spans (base : 0 < config.reconnectDelay)
    (cap : 0 < config.maxReconnectDelay) {backoff : ℚ}
    (fits : backoff = 0 ∨ config.Spans backoff) : config.Spans (config.nextBackoff backoff) := by
  refine ⟨le_min ?_ (min_le_right _ _), min_le_right _ _⟩
  split
  · exact min_le_left _ _
  · rename_i nonzero
    have spans := fits.resolve_left nonzero
    have positive := spans.pos base cap
    exact spans.least.trans (by linarith)

theorem Backed.handleSseError (backed : Backed config service)
    (base : 0 < config.reconnectDelay) (cap : 0 < config.maxReconnectDelay) {index : Nat}
    {connection : Connection} (found : service.connections[index]? = some connection) :
    Backed config (service.handleSseError config index connection) ∧
      (service.handleSseError config index connection).connections.length =
        service.connections.length := by
  have fits := backed.connections connection (List.mem_of_getElem? found)
  have closed : Backed config { service with
      connections := service.connections.set index { connection with isOpen := false } } := by
    refine ⟨?_, backed.reconnects, backed.calling⟩
    intro other member
    rcases List.mem_or_eq_of_mem_set member with earlier | rfl
    · exact backed.connections other earlier
    · exact fits
  have spans := nextBackoff_spans base cap fits
  unfold Service.handleSseError
  dsimp only
  split
  · exact ⟨closed, List.length_set ..⟩
  · split
    · exact ⟨closed, List.length_set ..⟩
    · split
      · refine ⟨⟨closed.connections, closed.reconnects, ?_⟩, List.length_set ..⟩
        intro number backoff running
        cases running
        exact spans
      · obtain ⟨planned, same⟩ :=
          closed.startSse_spans connection.watcher spans (spans.pos base cap)
        exact ⟨planned, (congrArg List.length same).trans (List.length_set ..)⟩

def Holds (config : Config) (event : Event) (before after : Service) : Prop :=
  Backed config after ∧ (event.opens = true ∨ after.connections.length = before.connections.length)

theorem Backed.invoke (backed : Backed config service) (api : Api) :
    Holds config (.call api) service (service.invoke config api) := by
  cases api with
  | watch transactionId hasOnError =>
      dsimp only [Service.invoke]
      split
      · exact ⟨backed, .inr rfl⟩
      · exact ⟨backed.of_same rfl rfl fun _ _ => id, .inr rfl⟩
  | unsubscribe handle =>
      dsimp only [Service.invoke]
      split
      · exact ⟨backed, .inr rfl⟩
      · exact ⟨backed.of_same rfl rfl fun _ _ => id, .inr rfl⟩
  | destroy => exact ⟨backed.of_same rfl rfl fun _ _ => id, .inr rfl⟩
  | abort =>
      dsimp only [Service.invoke]
      split
      · refine ⟨⟨?_, backed.reconnects, backed.calling⟩, .inr (List.length_map _)⟩
        intro connection member
        obtain ⟨open_, earlier, rfl⟩ := List.mem_map.mp member
        exact backed.connections open_ earlier
      · exact ⟨backed, .inr rfl⟩

theorem Backed.resume (backed : Backed config service) (base : 0 < config.reconnectDelay)
    (cap : 0 < config.maxReconnectDelay) (thrown : Option String) {frame : Frame}
    (calling : service.calling = some frame) :
    Holds config (.returns thrown) service
      ({ service with calling := none }.resume config thrown frame) := by
  have returned : Backed config { service with calling := none } := backed.of_same rfl rfl nofun
  cases frame with
  | afterEvent number isTerminal transport =>
      cases thrown with
      | none =>
          dsimp only [Service.resume]
          split
          · split
            · exact ⟨returned, .inr rfl⟩
            · exact ⟨returned.of_same rfl rfl fun _ _ => id, .inr rfl⟩
          · exact ⟨returned, .inr rfl⟩
      | some reason =>
          cases transport with
          | sse => exact ⟨returned, .inr rfl⟩
          | poll =>
              obtain ⟨reported, same⟩ := returned.reportPollError number reason
              exact ⟨reported, .inr (congrArg List.length same)⟩
  | afterPollError number => exact ⟨returned, .inr rfl⟩
  | afterSseError number backoff =>
      cases thrown with
      | none =>
          have spans := backed.calling number backoff calling
          obtain ⟨planned, same⟩ := returned.startSse_spans number spans (spans.pos base cap)
          exact ⟨planned, .inr (congrArg List.length same)⟩
      | some reason => exact ⟨returned, .inr rfl⟩

theorem Backed.occur (backed : Backed config service) (base : 0 < config.reconnectDelay)
    (cap : 0 < config.maxReconnectDelay) (occurrence : Occurrence) :
    Holds config (.occurs occurrence) service (service.occur config occurrence) := by
  have idle : ∀ event, Holds config event service service := fun _ => ⟨backed, .inr rfl⟩
  cases occurrence with
  | detected supportsSse =>
      dsimp only [Service.occur]
      split
      · exact ⟨backed.of_same rfl rfl fun _ _ => id, .inr rfl⟩
      · exact idle _
  | startResumes number =>
      refine ⟨?_, .inl rfl⟩
      dsimp only [Service.occur]
      split
      · split
        · exact backed.resumeStart number _
        · exact backed
      · exact backed
  | message index data =>
      dsimp only [Service.occur]
      split
      · exact idle _
      · rename_i connection found
        split
        · obtain ⟨told, same⟩ := backed.handleSseMessage connection.watcher data
          exact ⟨told, .inr (congrArg List.length same)⟩
        · exact idle _
  | sseError index =>
      dsimp only [Service.occur]
      split
      · exact idle _
      · rename_i connection found
        split
        · obtain ⟨handled, same⟩ := backed.handleSseError base cap found
          exact ⟨handled, .inr same⟩
        · exact idle _
  | reconnectFires index =>
      refine ⟨?_, .inl rfl⟩
      dsimp only [Service.occur]
      split
      · exact backed
      · rename_i number backoff found
        have spans := backed.reconnects _ (List.mem_of_getElem? found)
        have fired : Backed config { service with
            reconnects := service.reconnects.eraseIdx index } :=
          ⟨backed.connections, fun reconnect member =>
            backed.reconnects reconnect (List.mem_of_mem_eraseIdx member), backed.calling⟩
        exact fired.openSse number (.inr spans)
  | pollTimerFires timer =>
      dsimp only [Service.occur]
      split
      · exact ⟨backed.of_same rfl rfl fun _ _ => id, .inr rfl⟩
      · exact idle _
  | pollSettles cycle number reply =>
      dsimp only [Service.occur]
      split
      · have settled : Backed config { service with loop := service.loop.settle cycle number } :=
          backed.of_same rfl rfl fun _ _ => id
        split
        · exact ⟨settled, .inr rfl⟩
        · obtain ⟨told, same⟩ := settled.dispatchUpdate number _ .poll
          exact ⟨told, .inr (congrArg List.length same)⟩
        · obtain ⟨reported, same⟩ := settled.reportPollError number _
          exact ⟨reported, .inr (congrArg List.length same)⟩
      · exact idle _
  | cycleCompletes cycle =>
      dsimp only [Service.occur]
      split
      · exact ⟨backed.of_same rfl rfl fun _ _ => id, .inr rfl⟩
      · exact idle _

theorem Backed.step (backed : Backed config service) (base : 0 < config.reconnectDelay)
    (cap : 0 < config.maxReconnectDelay) (event : Event) :
    Holds config event service (service.step config event) := by
  cases event with
  | call api => exact backed.invoke api
  | returns thrown =>
      dsimp only [Service.step]
      split
      · exact ⟨backed, .inr rfl⟩
      · rename_i frame calling
        exact backed.resume base cap thrown calling
  | occurs occurrence =>
      dsimp only [Service.step]
      split
      · exact backed.occur base cap occurrence
      · exact ⟨backed, .inr rfl⟩

theorem visits_backed (base : 0 < config.reconnectDelay) (cap : 0 < config.maxReconnectDelay)
    (events : List Event) : ∀ visit ∈ visits config events, Backed config visit.1 := by
  refine Machine.visits_invariant (Service.step config) (Backed config) events Service.create ?_
    ⟨nofun, nofun, nofun⟩
  intro visit _ backed
  exact (backed.step base cap visit.2).1

/-- Between one and `2 ^ 31` milliseconds a timer waits for the whole part of its delay. -/
theorem timeoutMs_pos {delay : ℚ} (least : 1 ≤ delay) (most : delay < 2 ^ 31) :
    0 < timeoutMs delay := by
  have nonneg : 0 ≤ delay.num := Rat.num_nonneg.mpr (by linarith)
  have whole : delay.num.tdiv delay.den = ⌊delay⌋ := by
    rw [Int.tdiv_eq_ediv_of_nonneg nonneg, Rat.floor_def']
  have one : 1 ≤ ⌊delay⌋ := Int.le_floor.mpr (by exact_mod_cast least)
  have fits : ⌊delay⌋ < 2 ^ 31 := Int.floor_lt.mpr (by exact_mod_cast most)
  unfold timeoutMs
  rw [whole, Int.bmod_eq_of_le (by omega) (by omega)]
  omega

theorem Config.Spans.timeoutMs_pos {delay : ℚ} (spans : config.Spans delay)
    (base : 0 < config.reconnectDelay) (cap : 0 < config.maxReconnectDelay)
    (whole : config.Whole) : 0 < timeoutMs delay := by
  obtain ⟨⟨first, isFirst⟩, longest, fits, isLongest⟩ := whole
  refine Streaming.timeoutMs_pos (le_trans (le_min ?_ ?_) spans.least)
    (spans.most.trans_lt ?_)
  · rw [isFirst] at base ⊢
    exact_mod_cast base
  · rw [isLongest] at cap ⊢
    exact_mod_cast cap
  · rw [isLongest]
    exact_mod_cast fits

end Waiting

end AnchorKit.Sdk.Streaming

namespace AnchorKit.Sdk.Config

/-- A streaming service that is created from what a manager hands out opens a connection only
when a watcher starts and when the wait after an error is over.  It asks for a positive delay,
and if the delays are whole and fit into the timers, a timer waits. -/
theorem managed_service_waits {Listener : Type} [DecidableEq Listener] (language : Language)
    (validators : List (AnchorConfig → ValidationResult))
    (included : validateAnchorConfig language ∈ validators) (initial : AnchorConfig)
    (valid : composeValidators validators initial = .valid)
    (reloads : List (Event AnchorConfig Listener)) (config : Streaming.Config)
    (created : CreatedFrom (ConfigManager.reached initial valid reloads).current config)
    (events : List Streaming.Event) :
    ∀ visit ∈ Streaming.visits config events,
      (visit.2.opens = true ∨ (visit.1.step config visit.2).connections.length =
        visit.1.connections.length) ∧
      ∀ reconnect ∈ (visit.1.step config visit.2).reconnects,
        0 < reconnect.2 ∧ config.Spans reconnect.2 ∧
          (config.Whole → 0 < Streaming.timeoutMs reconnect.2) := by
  have passed := (ConfigManager.reached initial valid reloads).valid
  rw [composeValidators_eq_valid_iff] at passed
  have wellFormed := (validateAnchorConfig_eq_valid_iff language _).mp (passed _ included)
  have base := wellFormed.reconnectDelay.orDefault_pos (by norm_num) created.reconnectDelay
  have cap := wellFormed.maxReconnectDelay.orDefault_pos (by norm_num) created.maxReconnectDelay
  intro visit visited
  have backed := Streaming.visits_backed base cap events visit visited
  obtain ⟨after, opened⟩ := backed.step base cap visit.2
  refine ⟨opened, ?_⟩
  intro reconnect member
  have spans := after.reconnects reconnect member
  exact ⟨spans.pos base cap, spans, spans.timeoutMs_pos base cap⟩

section Sample

def patientConfig : Streaming.Config where
  maxWatched := .finite 50
  reconnectDelay := 500
  maxReconnectDelay := 30000
  preferSse := some true
  eventSourceAvailable := true
  addressable := fun _ => true
  hasSignal := false

def brokenConnection : List Streaming.Event :=
  [.call (.watch "deposit" false), .occurs (.startResumes 0), .occurs (.sseError 0)]

end Sample

theorem brokenConnection_waits :
    (Streaming.Service.reached patientConfig brokenConnection).reconnects = [(0, 500)] ∧
      ∀ visit ∈ Streaming.visits patientConfig brokenConnection,
        ∀ reconnect ∈ (visit.1.step patientConfig visit.2).reconnects,
          0 < Streaming.timeoutMs reconnect.2 := by
  have waits := managed_service_waits sampleLanguage _ List.mem_cons_self
    (anchorConfig .undefined) anchorConfig_valid sampleReloads patientConfig
    ⟨by decide +kernel, by decide +kernel, by decide +kernel⟩ brokenConnection
  refine ⟨by decide +kernel, ?_⟩
  intro visit visited reconnect planned
  exact ((waits visit visited).2 reconnect planned).2.2
    ⟨⟨500, by decide +kernel⟩, 30000, by decide, by decide +kernel⟩

end AnchorKit.Sdk.Config
