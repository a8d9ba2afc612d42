import AnchorKit.Contract.Records
import Mathlib.Data.Finset.Card

/-!
# Multi-signature governance over runs

Two guards of the multi-signature entry points are weaker than their purpose.
`rotate_signers` counts list entries instead of distinct signers, and
`initialize_multisig` is locked only once an admin is set as well.  For both the
exact condition under which the purpose is met is stated and proved.
-/

set_option autoImplicit false

namespace AnchorKit.Contract

open AnchorKit.Base AnchorKit.Base.MachineInt

/-! ## Rotation -/

theorem foldl_count_eq (accepts : Address → Bool) (listed : List Address)
    (counted : Nat) :
    listed.foldl (fun valid signer => if accepts signer then valid + 1 else valid)
      counted = counted + listed.countP accepts := by
  induction listed generalizing counted with
  | nil => rfl
  | cons signer rest ih =>
      rw [List.foldl_cons, ih, List.countP_cons]
      split
      · omega
      · rfl

theorem isCurrentSigner_iff {signers : List Address} {signer : Address} :
    Entry.isCurrentSigner signers signer = true ↔ signer ∈ signers := by
  simp [Entry.isCurrentSigner]

theorem countValidSigners_eq (current listed : List Address) :
    Entry.countValidSigners current listed = listed.countP (· ∈ current) := by
  rw [Entry.countValidSigners, foldl_count_eq, Nat.zero_add]
  apply List.countP_congr
  intro signer _
  rw [isCurrentSigner_iff, decide_eq_true_iff]

/-- The distinct current signers a rotation request lists. -/
def authorisingSigners (config : MultiSigConfig) (sigInfo : SignatureInfo) :
    Finset Address :=
  sigInfo.signers.toFinset.filter (· ∈ config.signers)

theorem rotateSigners_succeeds_iff {env : Env} {world : World}
    {config : MultiSigConfig} (stored : world.multiSigConfig = some config)
    (newSigners : List Address) (newThreshold : UInt32) (sigInfo : SignatureInfo) :
    Step.succeeds world ⟨env, .rotateSigners newSigners newThreshold sigInfo⟩ = true ↔
      config.threshold.toNat ≤ sigInfo.signers.countP (· ∈ config.signers) ∧
        Multisig.SignersAccepted newSigners newThreshold := by
  rw [Step.succeeds, Program.succeeds_iff]
  simp only [invoke, Program.bind_ok, Program.pure_ok, rotateSigners_ok, stored,
    Option.some.injEq, countValidSigners_eq]
  constructor
  · rintro ⟨_, _, _, _, ⟨_, rfl, enough, accepted, _⟩, _⟩
    exact ⟨enough, accepted⟩
  · rintro ⟨enough, accepted⟩
    exact ⟨_, _, (), _, ⟨config, rfl, enough, accepted, rfl⟩, rfl, rfl⟩

theorem card_authorisingSigners {config : MultiSigConfig} {sigInfo : SignatureInfo}
    (distinct : (sigInfo.signers.filter (· ∈ config.signers)).Nodup) :
    (authorisingSigners config sigInfo).card =
      sigInfo.signers.countP (· ∈ config.signers) := by
  have same : authorisingSigners config sigInfo =
      (sigInfo.signers.filter (· ∈ config.signers)).toFinset := by
    ext signer
    simp [authorisingSigners]
  rw [same, List.toFinset_card_of_nodup distinct, List.countP_eq_length_filter]

/-- Every successful rotation of a run was backed by threshold many distinct
signers of the configuration it met. -/
def RotationsBacked (steps : List Step) : Prop :=
  ∀ visit ∈ visits steps, ∀ newSigners newThreshold sigInfo config,
    visit.2.call = .rotateSigners newSigners newThreshold sigInfo →
    visit.1.multiSigConfig = some config →
    visit.2.succeeds visit.1 = true →
    config.threshold.toNat ≤ (authorisingSigners config sigInfo).card

/-- A request for an acceptable new set reaches the threshold only because it
names some current signer more than once. -/
def PaddedRotation (config : MultiSigConfig) (newSigners : List Address)
    (newThreshold : UInt32) (sigInfo : SignatureInfo) : Prop :=
  Multisig.SignersAccepted newSigners newThreshold ∧
    (authorisingSigners config sigInfo).card < config.threshold.toNat ∧
    config.threshold.toNat ≤ sigInfo.signers.countP (· ∈ config.signers)

def NoPaddedRotation (steps : List Step) : Prop :=
  ∀ visit ∈ visits steps, ∀ newSigners newThreshold sigInfo config,
    visit.2.call = .rotateSigners newSigners newThreshold sigInfo →
    visit.1.multiSigConfig = some config →
    ¬ PaddedRotation config newSigners newThreshold sigInfo

def NoRepeatedSigner (steps : List Step) : Prop :=
  ∀ visit ∈ visits steps, ∀ newSigners newThreshold sigInfo config,
    visit.2.call = .rotateSigners newSigners newThreshold sigInfo →
    visit.1.multiSigConfig = some config →
    (sigInfo.signers.filter (· ∈ config.signers)).Nodup

theorem rotation_backed_iff {env : Env} {world : World} {config : MultiSigConfig}
    (stored : world.multiSigConfig = some config)
    (newSigners : List Address) (newThreshold : UInt32) (sigInfo : SignatureInfo) :
    (Step.succeeds world ⟨env, .rotateSigners newSigners newThreshold sigInfo⟩ = true →
        config.threshold.toNat ≤ (authorisingSigners config sigInfo).card) ↔
      ¬ PaddedRotation config newSigners newThreshold sigInfo := by
  rw [rotateSigners_succeeds_iff stored]
  constructor
  · intro backed padded
    obtain ⟨accepted, few, enough⟩ := padded
    have reaches := backed ⟨enough, accepted⟩
    omega
  · intro unpadded succeeded
    by_contra few
    exact unpadded ⟨succeeded.2, not_le.mp few, succeeded.1⟩

theorem not_paddedRotation_of_nodup {config : MultiSigConfig}
    {newSigners : List Address} {newThreshold : UInt32} {sigInfo : SignatureInfo}
    (distinct : (sigInfo.signers.filter (· ∈ config.signers)).Nodup) :
    ¬ PaddedRotation config newSigners newThreshold sigInfo := by
  intro padded
  obtain ⟨_, few, enough⟩ := padded
  rw [card_authorisingSigners distinct] at few
  omega

/-- The rotations of a run are backed by enough distinct signers exactly when no
request is padded, so in particular when none lists a current signer twice. -/
theorem rotations_need_distinct_signers_iff (steps : List Step) :
    (RotationsBacked steps ↔ NoPaddedRotation steps) ∧
      (NoRepeatedSigner steps → RotationsBacked steps) := by
  have exact : RotationsBacked steps ↔ NoPaddedRotation steps := by
    constructor
    · intro backed visit member newSigners newThreshold sigInfo config rotates stored
      obtain ⟨world, env, call⟩ := visit
      cases rotates
      exact (rotation_backed_iff stored newSigners newThreshold sigInfo).mp
        (backed _ member newSigners newThreshold sigInfo config rfl stored)
    · intro unpadded visit member newSigners newThreshold sigInfo config rotates stored
      obtain ⟨world, env, call⟩ := visit
      cases rotates
      exact (rotation_backed_iff stored newSigners newThreshold sigInfo).mpr
        (unpadded _ member newSigners newThreshold sigInfo config rfl stored)
  refine ⟨exact, ?_⟩
  intro distinct
  apply exact.mpr
  intro visit member newSigners newThreshold sigInfo config rotates stored
  exact not_paddedRotation_of_nodup
    (distinct visit member newSigners newThreshold sigInfo config rotates stored)

section Sample

def anyoneEnv : Env where
  ledger := ⟨0, 0, 4096⟩
  auths := ∅

def twoOfThree : List Step :=
  [⟨anyoneEnv, .initializeMultisig [⟨1⟩, ⟨2⟩, ⟨3⟩] 2⟩]

/-- One of them, listed twice, installs itself as the only signer. -/
def paddedRun : List Step :=
  twoOfThree ++ [⟨anyoneEnv, .rotateSigners [⟨1⟩] 1 ⟨[⟨1⟩, ⟨1⟩], []⟩⟩]

end Sample

theorem rotation_by_repeated_signer :
    (reached twoOfThree).multiSigConfig = some ⟨[⟨1⟩, ⟨2⟩, ⟨3⟩], 2, 0⟩ ∧
      (reached paddedRun).multiSigConfig = some ⟨[⟨1⟩], 1, 1⟩ ∧
      ¬ RotationsBacked paddedRun := by
  have stored : (reached twoOfThree).multiSigConfig =
      some ⟨[⟨1⟩, ⟨2⟩, ⟨3⟩], 2, 0⟩ := by
    decide +kernel
  refine ⟨stored, by decide +kernel, ?_⟩
  intro backed
  have visited : (reached twoOfThree,
      Step.mk anyoneEnv (.rotateSigners [⟨1⟩] 1 ⟨[⟨1⟩, ⟨1⟩], []⟩)) ∈ visits paddedRun :=
    (Machine.mem_visits_iff _ _ _ _ _).mpr ⟨twoOfThree, [], rfl, rfl⟩
  have enough := backed _ visited _ _ _ _ rfl stored (by decide +kernel)
  revert enough
  decide +kernel

/-! ## Set-up -/

def Call.setsUpMultisig : Call → Bool
  | .initializeMultisig _ _ => true
  | _ => false

def Call.rotates : Call → Bool
  | .rotateSigners _ _ _ => true
  | _ => false

/-- A successful `initialize_multisig`. -/
def setsUp (visit : World × Step) : Bool :=
  visit.2.call.setsUpMultisig && visit.2.succeeds visit.1

/-- One-time set-up: `initialize_multisig` succeeds at most once, and a stored
configuration stays, changes its signers and threshold only by a successful
rotation and never lowers its nonce. -/
structure SetUpOnce (steps : List Step) : Prop where
  once : (visits steps).countP setsUp ≤ 1
  kept : ∀ visit ∈ visits steps, ∀ config, visit.1.multiSigConfig = some config →
    ∃ next, (visit.1.step visit.2).multiSigConfig = some next ∧
      (next.signers ≠ config.signers ∨ next.threshold ≠ config.threshold →
        visit.2.call.rotates = true ∧ visit.2.succeeds visit.1 = true) ∧
      config.nonce ≤ next.nonce

/-- No acceptable `initialize_multisig` is called while a configuration is stored
and no admin is set. -/
def NoSetUpBeforeAdmin (steps : List Step) : Prop :=
  ∀ visit ∈ visits steps, ∀ signers threshold,
    visit.2.call = .initializeMultisig signers threshold →
    Multisig.SignersAccepted signers threshold →
    visit.1.multiSigConfig ≠ none → visit.1.admin ≠ none

inductive ConfigChange (call : Call) (before after : World) : Prop
  | kept (same : after.multiSigConfig = before.multiSigConfig)
      (other : call.setsUpMultisig = false)
  | setUp (signers : List Address) (threshold : UInt32)
      (sets : call = .initializeMultisig signers threshold)
      (unlocked : before.admin = none ∨ before.multiSigConfig = none)
      (accepted : Multisig.SignersAccepted signers threshold)
      (written : after.multiSigConfig = some ⟨signers, threshold, 0⟩)
  | rotated (config next : MultiSigConfig) (rotates : call.rotates = true)
      (stored : before.multiSigConfig = some config)
      (written : after.multiSigConfig = some next)
      (advanced : next.nonce = saturatingAdd config.nonce 1)

theorem Committed.configChange {env : Env} {call : Call} {before after : World}
    (committed : Committed env call before after) :
    ConfigChange call before after := by
  cases committed with
  | query readOnly =>
      refine .kept rfl ?_
      cases call <;> first | rfl | contradiction
  | initialized _ _ => exact .kept rfl rfl
  | administered _ _ write => cases write <;> exact .kept rfl rfl
  | issued issues _ _ _ _ recorded =>
      refine .kept recorded.sameGovernance.multiSigConfig ?_
      cases call <;> first | rfl | contradiction
  | revoked _ _ _ _ _ _ write =>
      exact .kept write.sameGovernance.multiSigConfig rfl
  | renewed _ _ _ _ => exact .kept rfl rfl
  | configured unlocked accepted => exact .setUp _ _ rfl unlocked accepted rfl
  | rotated stored _ _ => exact .rotated _ _ rfl stored rfl rfl

theorem initializeMultisig_succeeds_iff {world : World} {env : Env}
    (signers : List Address) (threshold : UInt32) :
    Step.succeeds world ⟨env, .initializeMultisig signers threshold⟩ = true ↔
      (world.admin = none ∨ world.multiSigConfig = none) ∧
        Multisig.SignersAccepted signers threshold := by
  rw [Step.succeeds, Program.succeeds_iff]
  simp only [invoke, Program.bind_ok, Program.pure_ok, initializeMultisig_ok]
  constructor
  · rintro ⟨_, _, _, _, ⟨unlocked, accepted, _⟩, _⟩
    exact ⟨unlocked, accepted⟩
  · rintro ⟨unlocked, accepted⟩
    exact ⟨_, _, (), _, ⟨unlocked, accepted, rfl⟩, rfl, rfl⟩

theorem step_config_isSome (world : World) (step : Step)
    (stored : world.multiSigConfig.isSome = true) :
    (world.step step).multiSigConfig.isSome = true := by
  rcases step_cases world step with ⟨_, same⟩ | ⟨_, committed⟩
  · rwa [same]
  · cases committed.configChange with
    | kept same _ => rwa [same]
    | setUp _ _ _ _ _ written => rw [written]; rfl
    | rotated _ _ _ _ written _ => rw [written]; rfl

theorem setsUp_stores (world : World) (step : Step)
    (fired : setsUp (world, step) = true) :
    (world.step step).multiSigConfig.isSome = true := by
  simp only [setsUp, Bool.and_eq_true] at fired
  cases (committed_of_succeeds fired.2).configChange with
  | kept _ other => rw [fired.1] at other; contradiction
  | setUp _ _ _ _ _ written => rw [written]; rfl
  | rotated _ _ _ _ written _ => rw [written]; rfl

theorem config_none_of_never_setsUp (steps : List Step)
    (never : (visits steps).countP setsUp = 0) :
    (reached steps).multiSigConfig = none := by
  refine Machine.run_invariant_of_visits World.step (fun world => world.multiSigConfig = none)
    steps World.deployed ?_ rfl
  rintro ⟨world, step⟩ member blank
  have silent := List.countP_eq_zero.mp never (world, step) member
  rcases step_cases world step with ⟨_, same⟩ | ⟨succeeded, committed⟩
  · rw [same]
    exact blank
  · cases committed.configChange with
    | kept same _ => rw [same, blank]
    | setUp _ _ sets _ _ _ =>
        refine absurd ?_ silent
        simp [setsUp, sets, Call.setsUpMultisig, succeeded]
    | rotated _ _ _ stored _ _ =>
        rw [blank] at stored
        contradiction

theorem setsUp_once {steps : List Step} (condition : NoSetUpBeforeAdmin steps) :
    (visits steps).countP setsUp ≤ 1 := by
  refine Machine.countP_visits_le_one World.step setsUp
    (fun world => world.multiSigConfig.isSome = true) steps World.deployed ?_
    step_config_isSome setsUp_stores
  rintro ⟨world, step⟩ member stored
  by_contra fired
  simp only [setsUp, Bool.not_eq_false, Bool.and_eq_true] at fired
  cases (committed_of_succeeds fired.2).configChange with
  | kept _ other => rw [fired.1] at other; contradiction
  | setUp signers threshold sets unlocked accepted _ =>
      have present : world.multiSigConfig ≠ none := by
        intro absent
        simp [absent] at stored
      have locked := condition (world, step) member signers threshold sets accepted present
      rcases unlocked with unset | absent
      · exact locked unset
      · exact present absent
  | rotated _ _ rotates _ _ _ =>
      cases call : step.call <;> simp_all [Call.setsUpMultisig, Call.rotates]

theorem saturatingAdd_one_ge (value : UInt64) : value ≤ saturatingAdd value 1 := by
  have bound := toNat_le_u64Max value
  rw [UInt64.le_iff_toNat_le, saturatingAdd_toNat]
  omega

theorem config_kept {steps : List Step} (condition : NoSetUpBeforeAdmin steps)
    {world : World} {step : Step} (member : (world, step) ∈ visits steps)
    {config : MultiSigConfig} (stored : world.multiSigConfig = some config) :
    ∃ next, (world.step step).multiSigConfig = some next ∧
      (next.signers ≠ config.signers ∨ next.threshold ≠ config.threshold →
        step.call.rotates = true ∧ step.succeeds world = true) ∧
      config.nonce ≤ next.nonce := by
  rcases step_cases world step with ⟨_, same⟩ | ⟨succeeded, committed⟩
  · exact ⟨config, by rw [same, stored], by simp, UInt64.le_refl _⟩
  · cases committed.configChange with
    | kept same _ => exact ⟨config, by rw [same, stored], by simp, UInt64.le_refl _⟩
    | setUp signers threshold sets unlocked accepted _ =>
        have present : world.multiSigConfig ≠ none := by simp [stored]
        have locked := condition (world, step) member signers threshold sets accepted present
        rcases unlocked with unset | absent
        · exact absurd unset locked
        · exact absurd absent present
    | rotated before next rotates storedBefore written advanced =>
        obtain rfl := Option.some.inj (storedBefore.symm.trans stored)
        refine ⟨next, written, fun _ => ⟨rotates, succeeded⟩, ?_⟩
        rw [advanced]
        exact saturatingAdd_one_ge before.nonce

theorem setsUp_again {before after : List Step} {step : Step}
    (fired : setsUp (reached before, step) = true)
    (present : (reached before).multiSigConfig ≠ none) :
    2 ≤ (visits (before ++ step :: after)).countP setsUp := by
  have earlier : (visits before).countP setsUp ≠ 0 := by
    intro never
    exact present (config_none_of_never_setsUp before never)
  have total := Machine.countP_visits_split World.step setsUp World.deployed
    before after step
  simp only [reached, World.run] at fired
  rw [if_pos fired] at total
  simp only [visits] at earlier ⊢
  omega

/-- Set-up happens once, and the configuration evolves only by rotation, in
exactly the runs that do not call `initialize_multisig` again before an admin
is set. -/
theorem multisig_set_up_once_iff (steps : List Step) :
    SetUpOnce steps ↔ NoSetUpBeforeAdmin steps := by
  constructor
  · intro law visit member signers threshold sets accepted present unset
    obtain ⟨world, env, call⟩ := visit
    cases sets
    obtain ⟨before, after, rfl, rfl⟩ := (Machine.mem_visits_iff _ _ _ _ _).mp member
    have fired : setsUp (reached before, ⟨env, .initializeMultisig signers threshold⟩) =
        true :=
      (initializeMultisig_succeeds_iff signers threshold).mpr ⟨Or.inl unset, accepted⟩
    have twice : 2 ≤ (visits (before ++ _ :: after)).countP setsUp :=
      setsUp_again fired present
    have once := law.once
    omega
  · intro condition
    exact ⟨setsUp_once condition, fun _ member _ stored =>
      config_kept condition member stored⟩

section Sample

def setUpAgain : List Step :=
  [⟨anyoneEnv, .initializeMultisig [⟨1⟩] 1⟩,
    ⟨anyoneEnv, .rotateSigners [⟨2⟩] 1 ⟨[⟨1⟩], []⟩⟩,
    ⟨anyoneEnv, .initializeMultisig [⟨3⟩] 1⟩]

end Sample

/-- Without an admin anybody replaces the signers and resets the nonce. -/
theorem multisig_set_up_twice :
    (visits setUpAgain).countP setsUp = 2 ∧
      (reached (setUpAgain.take 2)).multiSigConfig = some ⟨[⟨2⟩], 1, 1⟩ ∧
      (reached setUpAgain).multiSigConfig = some ⟨[⟨3⟩], 1, 0⟩ ∧
      ¬ SetUpOnce setUpAgain := by
  have twice : (visits setUpAgain).countP setsUp = 2 := by decide +kernel
  refine ⟨twice, by decide +kernel, by decide +kernel, ?_⟩
  intro law
  have once := law.once
  omega

/-! ## Well-formed configurations -/

/-- Any stored configuration passed the validation. -/
def ConfigAccepted (world : World) : Prop :=
  ∀ config, world.multiSigConfig = some config →
    Multisig.SignersAccepted config.signers config.threshold

theorem ConfigAccepted.of_written {world : World} {config : MultiSigConfig}
    (written : world.multiSigConfig = some config)
    (accepted : Multisig.SignersAccepted config.signers config.threshold) :
    ConfigAccepted world := by
  intro other stored
  cases Option.some.inj (written.symm.trans stored)
  exact accepted

theorem ConfigAccepted.of_same {before after : World} (accepted : ConfigAccepted before)
    (same : after.multiSigConfig = before.multiSigConfig) : ConfigAccepted after := by
  intro config stored
  rw [same] at stored
  exact accepted config stored

theorem Committed.configAccepted {env : Env} {call : Call} {before after : World}
    (committed : Committed env call before after) (accepted : ConfigAccepted before) :
    ConfigAccepted after := by
  cases committed with
  | query _ => exact accepted
  | initialized _ _ => exact accepted.of_same rfl
  | administered _ _ write => cases write <;> exact accepted.of_same rfl
  | issued _ _ _ _ _ recorded =>
      exact accepted.of_same recorded.sameGovernance.multiSigConfig
  | revoked _ _ _ _ _ _ write =>
      exact accepted.of_same write.sameGovernance.multiSigConfig
  | renewed _ _ _ _ => exact accepted.of_same rfl
  | configured _ valid => exact .of_written rfl valid
  | rotated _ _ valid => exact .of_written rfl valid

theorem reached_configAccepted (steps : List Step) : ConfigAccepted (reached steps) := by
  refine Machine.run_invariant World.step ConfigAccepted ?_ steps World.deployed ?_
  · intro world step accepted
    rcases step_cases world step with ⟨_, same⟩ | ⟨_, committed⟩
    · rwa [same]
    · exact committed.configAccepted accepted
  · intro config stored
    cases stored

theorem checkSigners_readOnly (signers : List Address) (threshold : UInt32) :
    (Multisig.checkSigners signers threshold).ReadOnly :=
  .bind (ensureNot_readOnly _ _) fun _ =>
    .bind (ensureNot_readOnly _ _) fun _ => ensureNot_readOnly _ _

theorem getMultisigConfig_readOnly : Storage.getMultisigConfig.ReadOnly :=
  .bind (.inspect _) fun config => .someOr config _

theorem initializeMultisig_failsClean (signers : List Address) (threshold : UInt32) :
    (invoke (.initializeMultisig signers threshold)).FailsClean := by
  apply Program.FailsClean.beforeTotal
  · apply Program.FailsClean.afterReadOnly (.inspect _)
    intro configured
    apply Program.FailsClean.afterReadOnly (ensureNot_readOnly _ _)
    intro _
    apply Program.FailsClean.afterReadOnly (checkSigners_readOnly signers threshold)
    intro _
    exact (Program.NeverFails.update _).failsClean
  · intro _
    exact .pure _

theorem rotateSigners_failsClean (newSigners : List Address) (newThreshold : UInt32)
    (sigInfo : SignatureInfo) :
    (invoke (.rotateSigners newSigners newThreshold sigInfo)).FailsClean := by
  apply Program.FailsClean.beforeTotal
  · apply Program.FailsClean.afterReadOnly getMultisigConfig_readOnly
    intro config
    apply Program.FailsClean.afterReadOnly (ensureNot_readOnly _ _)
    intro _
    apply Program.FailsClean.beforeTotal
    · apply Program.FailsClean.afterReadOnly
        (checkSigners_readOnly newSigners newThreshold)
      intro _
      apply Program.FailsClean.afterReadOnly getMultisigConfig_readOnly
      intro stored
      exact (Program.NeverFails.update _).failsClean
    · intro _
      exact Program.NeverFails.update _
  · intro _
    exact .pure _

/-- A stored configuration has distinct signers and a threshold they can reach,
and a rejected set-up or rotation has written nothing by the time it fails. -/
theorem multisig_config_well_formed (steps : List Step) :
    (∀ config, (reached steps).multiSigConfig = some config →
      config.signers ≠ [] ∧ config.signers.Nodup ∧ 1 ≤ config.threshold.toNat ∧
        config.threshold.toNat ≤ config.signers.length) ∧
    (∀ env signers threshold failure later,
      invoke (.initializeMultisig signers threshold) env (reached steps) =
        (.error failure, later) →
      later = reached steps ∧
        (reached steps).step ⟨env, .initializeMultisig signers threshold⟩ =
          reached steps) ∧
    (∀ env newSigners newThreshold sigInfo failure later,
      invoke (.rotateSigners newSigners newThreshold sigInfo) env (reached steps) =
        (.error failure, later) →
      later = reached steps ∧
        (reached steps).step ⟨env, .rotateSigners newSigners newThreshold sigInfo⟩ =
          reached steps) := by
  refine ⟨?_, ?_, ?_⟩
  · intro config stored
    obtain ⟨nonempty, nonzero, bounded, distinct⟩ :=
      reached_configAccepted steps config stored
    have positive : config.threshold.toNat ≠ 0 := by
      intro zero
      exact nonzero (UInt32.toNat_inj.mp zero)
    exact ⟨nonempty, distinct, by omega, bounded⟩
  · intro env signers threshold failure later run
    exact ⟨initializeMultisig_failsClean signers threshold env _ failure later run,
      Program.commit_of_error run⟩
  · intro env newSigners newThreshold sigInfo failure later run
    exact ⟨rotateSigners_failsClean newSigners newThreshold sigInfo env _ failure later run,
      Program.commit_of_error run⟩

end AnchorKit.Contract
