import AnchorKit.Contract.System

/-!
# What a successful invocation does

`Committed` says once, for every entry point, which guards a success has passed
and which world it leaves.  `invoke_committed` derives it from the programs, and
every invariant of the contract is proved by cases on it.  The calls are grouped
by what they may write: nothing, the governance settings, the records of the
named pairs, or the multi-signature configuration.
-/

set_option autoImplicit false

namespace AnchorKit.Contract

open AnchorKit.Base AnchorKit.Base.MachineInt

/-! ## Primitive programs -/

section Primitive

variable {env : Env} {world later : World}

@[simp] theorem ensureNot_ok {condition : Bool} {code : Error} {value : Unit} :
    ensureNot condition code env world = (.ok value, later) ↔
      condition = false ∧ later = world :=
  Program.rejectIf_ok

@[simp] theorem okOr_ok {Value : Type} {found : Option Value} {code : Error}
    {value : Value} :
    okOr found code env world = (.ok value, later) ↔
      found = some value ∧ later = world :=
  Program.someOr_ok

@[simp] theorem requireAuth_ok {address : Address} {value : Unit} :
    requireAuth address env world = (.ok value, later) ↔
      address ∈ env.auths ∧ later = world := by
  simp [requireAuth]

@[simp] theorem addOrAbort_ok {left right sum : UInt64} :
    addOrAbort left right env world = (.ok sum, later) ↔
      checkedAdd left right = some sum ∧ later = world :=
  Program.someOr_ok

@[simp] theorem publish_ok {event : Event} {value : Unit} :
    publish event env world = (.ok value, later) ↔
      later = world.emit event :=
  Program.update_ok

@[simp] theorem getAdmin_ok {admin : Address} :
    Storage.getAdmin env world = (.ok admin, later) ↔
      world.admin = some admin ∧ later = world := by
  simp [Storage.getAdmin]

@[simp] theorem getMultisigConfig_ok {config : MultiSigConfig} :
    Storage.getMultisigConfig env world = (.ok config, later) ↔
      world.multiSigConfig = some config ∧ later = world := by
  simp [Storage.getMultisigConfig]

end Primitive

/-! ## Writes to the records of one pair -/

/-- `set_attestation` followed by `push_attestation_history`. -/
def Appended (env : Env) (pair : Pair) (attestation : Attestation)
    (before after : World) : Prop :=
  ∃ sequence,
    checkedAdd (Storage.getAttestationSeq pair before) 1 = some sequence ∧
      after = Storage.setHistoryEntry pair sequence attestation env
        (Storage.setAttestationSeq pair sequence env
          (Storage.setAttestation pair attestation env before))

/-- What `record_attestation` has checked and written when it succeeds. -/
structure Recorded (env : Env) (attestor : Address) (entry : BatchAttestEntry)
    (before after : World) : Prop where
  positive : entry.ttlSeconds ≠ 0
  short : entry.attestationType.chars.length ≤ Entry.maxAttestationTypeLen
  capped : entry.ttlSeconds ≤
    Storage.getMaxAttestationTtl entry.attestationType before
  written : ∃ appended count,
    Appended env (Entry.pairOf entry)
        (Entry.issued attestor entry env.ledger.timestamp) before appended ∧
      checkedAdd (Storage.getAttestationCount before) 1 = some count ∧
      after = (Storage.setAttestationCount count env appended).emit
        (.attested entry.subject entry.attestationType attestor entry.payloadHash
          (Entry.issued attestor entry env.ledger.timestamp).expiresAt)

inductive RecordedAll (env : Env) (attestor : Address) :
    List BatchAttestEntry → World → World → Prop
  | nil (world : World) : RecordedAll env attestor [] world world
  | cons {entry : BatchAttestEntry} {rest : List BatchAttestEntry}
      {before middle after : World}
      (first : Recorded env attestor entry before middle)
      (others : RecordedAll env attestor rest middle after) :
      RecordedAll env attestor (entry :: rest) before after

theorem pushAttestationHistory_ok {pair : Pair} {attestation : Attestation}
    {env : Env} {before after : World} {value : Unit} :
    Storage.pushAttestationHistory pair attestation env
        (Storage.setAttestation pair attestation env before) = (.ok value, after) ↔
      Appended env pair attestation before after := by
  simp [Storage.pushAttestationHistory, Storage.nextAttestationSeq, Appended,
    Storage.getAttestationSeq, Storage.setAttestation]

theorem Appended.attestationCount {env : Env} {pair : Pair}
    {attestation : Attestation} {before after : World}
    (appended : Appended env pair attestation before after) :
    after.attestationCount = before.attestationCount := by
  obtain ⟨_, _, rfl⟩ := appended
  rfl

@[simp] theorem bumpAttestationCount_ok {env : Env} {world later : World}
    {next : UInt64} :
    Storage.bumpAttestationCount env world = (.ok next, later) ↔
      checkedAdd (Storage.getAttestationCount world) 1 = some next ∧
        later = Storage.setAttestationCount next env world := by
  simp [Storage.bumpAttestationCount]

theorem recordAttestation_ok {attestor : Address} {entry : BatchAttestEntry}
    {env : Env} {before after : World} {value : Unit} :
    Entry.recordAttestation attestor entry env before = (.ok value, after) ↔
      Recorded env attestor entry before after := by
  simp only [Entry.recordAttestation, Entry.validateAttestationType, Program.bind_ok,
    ensureNot_ok, beq_eq_false_iff_ne, ne_eq, decide_eq_false_iff_not, not_lt,
    Program.inspect_ok, UInt64.not_lt, Program.ask_ok, Program.update_ok,
    bumpAttestationCount_ok, publish_ok, ↓existsAndEq, and_true, exists_eq_left,
    pushAttestationHistory_ok, exists_const, exists_eq_left']
  constructor
  · rintro ⟨positive, short, capped, appended, pushed, count, counted, rfl⟩
    refine ⟨positive, short, capped, appended, count, pushed, ?_, rfl⟩
    simpa [Storage.getAttestationCount, pushed.attestationCount] using counted
  · rintro ⟨positive, short, capped, appended, count, pushed, counted, rfl⟩
    refine ⟨positive, short, capped, appended, pushed, count, ?_, rfl⟩
    simpa [Storage.getAttestationCount, pushed.attestationCount] using counted

theorem recordedAll_iff {attestor : Address} {entries : List BatchAttestEntry}
    {env : Env} {before after : World} {value : PUnit} :
    (forM entries (Entry.recordAttestation attestor)) env before =
        (.ok value, after) ↔
      RecordedAll env attestor entries before after := by
  induction entries generalizing before with
  | nil =>
      rw [Program.forM_nil_ok]
      constructor
      · rintro rfl
        exact .nil after
      · rintro ⟨⟩
        rfl
  | cons entry rest ih =>
      rw [Program.forM_cons_ok]
      constructor
      · rintro ⟨middle, first, others⟩
        exact .cons (recordAttestation_ok.mp first) (ih.mp others)
      · rintro (_ | ⟨first, others⟩)
        exact ⟨_, recordAttestation_ok.mpr first, ih.mpr others⟩

/-! ## Writes to the governance settings -/

/-- What each admin-gated entry point writes once the admin has authorised it. -/
inductive AdminWrite (env : Env) (admin : Address) :
    Call → World → World → Prop
  | setAdmin (newAdmin : Address) (world : World) :
      AdminWrite env admin (.setAdmin newAdmin) world
        ((Storage.setAdmin newAdmin env world).emit (.adminChanged admin newAdmin))
  | pause (world : World) :
      AdminWrite env admin .pause world
        ((Storage.setPaused true env world).emit (.pauseToggled true))
  | unpause (world : World) :
      AdminWrite env admin .unpause world
        ((Storage.setPaused false env world).emit (.pauseToggled false))
  | addAttestor (attestor : Address) (world : World)
      (unlisted : Storage.isAttestor attestor world = false) :
      AdminWrite env admin (.addAttestor attestor) world
        ((Storage.setAttestor attestor true env world).emit (.attestorAdded attestor))
  | removeAttestor (attestor : Address) (world : World)
      (listed : Storage.isAttestor attestor world = true) :
      AdminWrite env admin (.removeAttestor attestor) world
        ((Storage.setAttestor attestor false env world).emit
          (.attestorRemoved attestor))
  | renewAttestor (attestor : Address) (world : World)
      (listed : Storage.isAttestor attestor world = true) :
      AdminWrite env admin (.renewAttestor attestor) world
        ((Storage.setAttestor attestor true env world).emit
          (.attestorRenewed attestor))
  | setDefaultMaxAttestationTtl (maxTtlSeconds : UInt64) (world : World)
      (positive : maxTtlSeconds ≠ 0) :
      AdminWrite env admin (.setDefaultMaxAttestationTtl maxTtlSeconds) world
        ((Storage.setDefaultMaxAttestationTtl maxTtlSeconds env world).emit
          (.defaultMaxAttestationTtlChanged maxTtlSeconds))
  | setMaxAttestationTtl (attestationType : Symbol) (maxTtlSeconds : UInt64)
      (world : World) (positive : maxTtlSeconds ≠ 0) :
      AdminWrite env admin (.setMaxAttestationTtl attestationType maxTtlSeconds) world
        ((Storage.setMaxAttestationTtl attestationType maxTtlSeconds env world).emit
          (.maxAttestationTtlChanged attestationType maxTtlSeconds))

/-! ## All entry points -/

def Call.isQuery : Call → Bool
  | .getAdmin | .isPaused | .isAttestor _ | .getMaxAttestationTtl _
  | .getAttestation _ | .isValid _ | .getAttestationCount
  | .listAttestationHistory .. | .getMultisigConfig => true
  | _ => false

/-- The attestor and the entries of a call that issues attestations. -/
def Call.issues : Call → Option (Address × List BatchAttestEntry)
  | .attest attestor entry => some (attestor, [entry])
  | .attestBatch attestor entries => some (attestor, entries)
  | _ => none

theorem Call.issues_cases {call : Call} {attestor : Address}
    {entries : List BatchAttestEntry}
    (issues : call.issues = some (attestor, entries)) :
    (∃ entry, call = .attest attestor entry ∧ entries = [entry]) ∨
      call = .attestBatch attestor entries := by
  cases call with
  | attest _ entry =>
      obtain ⟨rfl, rfl⟩ := Prod.mk.inj (Option.some.inj issues)
      exact Or.inl ⟨entry, rfl, rfl⟩
  | attestBatch _ _ =>
      obtain ⟨rfl, rfl⟩ := Prod.mk.inj (Option.some.inj issues)
      exact Or.inr rfl
  | _ => contradiction

inductive Committed (env : Env) : Call → World → World → Prop
  | query {call : Call} {world : World} (readOnly : call.isQuery = true) :
      Committed env call world world
  | initialized {admin : Address} {world : World}
      (fresh : world.admin = none) (authorised : admin ∈ env.auths) :
      Committed env (.initializeContract admin) world
        ((Storage.setPaused false env (Storage.setAdmin admin env world)).emit
          (.initialized admin))
  | administered {call : Call} {admin : Address} {before after : World}
      (held : before.admin = some admin) (authorised : admin ∈ env.auths)
      (write : AdminWrite env admin call before after) :
      Committed env call before after
  | issued {call : Call} {attestor : Address} {entries : List BatchAttestEntry}
      {before after : World} (issues : call.issues = some (attestor, entries))
      (running : Storage.isPaused before = false)
      (authorised : attestor ∈ env.auths)
      (listed : Storage.isAttestor attestor before = true)
      (nonempty : entries ≠ [])
      (recorded : RecordedAll env attestor entries before after) :
      Committed env call before after
  | revoked {caller admin : Address} {pair : Pair} {attestation : Attestation}
      {before appended : World} (running : Storage.isPaused before = false)
      (authorised : caller ∈ env.auths)
      (stored : Storage.getAttestation pair before = some attestation)
      (held : before.admin = some admin)
      (entitled : caller = admin ∨ caller = attestation.attestor)
      (unrevoked : attestation.status ≠ .revoked)
      (write : Appended env pair (Entry.markRevoked attestation) before appended) :
      Committed env (.revoke caller pair) before
        (appended.emit (.revoked pair.1 pair.2 caller))
  | renewed {caller admin : Address} {pair : Pair} {attestation : Attestation}
      {world : World} (authorised : caller ∈ env.auths)
      (stored : Storage.getAttestation pair world = some attestation)
      (held : world.admin = some admin)
      (entitled : caller = admin ∨ caller = attestation.attestor) :
      Committed env (.renewAttestation caller pair) world
        ((Storage.setAttestation pair attestation env world).emit
          (.attestationRenewed pair.1 pair.2 caller))
  | configured {signers : List Address} {threshold : UInt32} {world : World}
      (unlocked : world.admin = none ∨ world.multiSigConfig = none)
      (accepted : Multisig.SignersAccepted signers threshold) :
      Committed env (.initializeMultisig signers threshold) world
        (Storage.setMultisigConfig ⟨signers, threshold, 0⟩ env world)
  | rotated {newSigners : List Address} {newThreshold : UInt32}
      {sigInfo : SignatureInfo} {config : MultiSigConfig} {world : World}
      (stored : world.multiSigConfig = some config)
      (enough : config.threshold.toNat ≤
        Entry.countValidSigners config.signers sigInfo.signers)
      (accepted : Multisig.SignersAccepted newSigners newThreshold) :
      Committed env (.rotateSigners newSigners newThreshold sigInfo) world
        ((Storage.setMultisigConfig
            ⟨newSigners, newThreshold, saturatingAdd config.nonce 1⟩ env world).emit
          (.signersRotated newThreshold))

theorem Committed.of_issues {env : Env} {call : Call} {attestor : Address}
    {entries : List BatchAttestEntry} {before after : World}
    (committed : Committed env call before after)
    (issues : call.issues = some (attestor, entries)) :
    Storage.isPaused before = false ∧ attestor ∈ env.auths ∧
      Storage.isAttestor attestor before = true ∧
      RecordedAll env attestor entries before after := by
  cases committed with
  | issued same running authorised listed _ recorded =>
      obtain ⟨rfl, rfl⟩ := Prod.mk.inj (Option.some.inj (same.symm.trans issues))
      exact ⟨running, authorised, listed, recorded⟩
  | query readOnly => cases call <;> simp [Call.isQuery, Call.issues] at readOnly issues
  | administered _ _ write => cases write <;> cases issues
  | _ => cases issues

/-! ## One specification for every writing entry point -/

section Specification

variable {env : Env} {world later : World} {value : Unit}

theorem initializeContract_ok {admin : Address} :
    Entry.initializeContract admin env world = (.ok value, later) ↔
      world.admin = none ∧ admin ∈ env.auths ∧
        later = (Storage.setPaused false env
          (Storage.setAdmin admin env world)).emit (.initialized admin) := by
  simp [Entry.initializeContract, Storage.isInitialized]

theorem attest_ok {attestor : Address} {entry : BatchAttestEntry} :
    Entry.attest attestor entry.subject entry.attestationType entry.payloadHash
        entry.ttlSeconds env world = (.ok value, later) ↔
      Storage.isPaused world = false ∧ attestor ∈ env.auths ∧
        Storage.isAttestor attestor world = true ∧
        Recorded env attestor entry world later := by
  simp [Entry.attest, recordAttestation_ok]

theorem validateEntry_ok {entry : BatchAttestEntry} :
    Entry.validateEntry entry env world = (.ok value, later) ↔
      (entry.ttlSeconds ≠ 0 ∧
        entry.attestationType.chars.length ≤ Entry.maxAttestationTypeLen) ∧
        later = world := by
  simp [Entry.validateEntry, Entry.validateAttestationType, and_assoc]

theorem validateEntries_ok {entries : List BatchAttestEntry} :
    (forM entries Entry.validateEntry) env world = (.ok value, later) ↔
      (∀ entry ∈ entries, entry.ttlSeconds ≠ 0 ∧
        entry.attestationType.chars.length ≤ Entry.maxAttestationTypeLen) ∧
        later = world :=
  Program.forM_check_ok _ (fun _ _ _ => validateEntry_ok) entries

theorem attestBatch_ok {attestor : Address} {entries : List BatchAttestEntry} :
    Entry.attestBatch attestor entries env world = (.ok value, later) ↔
      Storage.isPaused world = false ∧ attestor ∈ env.auths ∧
        Storage.isAttestor attestor world = true ∧ entries ≠ [] ∧
        (∀ entry ∈ entries, entry.ttlSeconds ≠ 0 ∧
          entry.attestationType.chars.length ≤ Entry.maxAttestationTypeLen) ∧
        RecordedAll env attestor entries world later := by
  simp [Entry.attestBatch, recordedAll_iff, validateEntries_ok, and_assoc]

theorem revoke_ok {caller : Address} {pair : Pair} :
    Entry.revoke caller pair env world = (.ok value, later) ↔
      Storage.isPaused world = false ∧ caller ∈ env.auths ∧
        ∃ attestation admin appended,
          Storage.getAttestation pair world = some attestation ∧
          world.admin = some admin ∧
          (caller = admin ∨ caller = attestation.attestor) ∧
          attestation.status ≠ .revoked ∧
          Appended env pair (Entry.markRevoked attestation) world appended ∧
          later = appended.emit (.revoked pair.1 pair.2 caller) := by
  simp [Entry.revoke, pushAttestationHistory_ok, or_iff_not_imp_left]

theorem renewAttestation_ok {caller : Address} {pair : Pair} :
    Entry.renewAttestation caller pair env world = (.ok value, later) ↔
      caller ∈ env.auths ∧ ∃ attestation admin,
        Storage.getAttestation pair world = some attestation ∧
        world.admin = some admin ∧
        (caller = admin ∨ caller = attestation.attestor) ∧
        later = (Storage.setAttestation pair attestation env world).emit
          (.attestationRenewed pair.1 pair.2 caller) := by
  simp [Entry.renewAttestation, or_iff_not_imp_left]

theorem initializeMultisig_ok {signers : List Address} {threshold : UInt32} :
    Entry.initializeMultisig signers threshold env world = (.ok value, later) ↔
      (world.admin = none ∨ world.multiSigConfig = none) ∧
        Multisig.SignersAccepted signers threshold ∧
        later = Storage.setMultisigConfig ⟨signers, threshold, 0⟩ env world := by
  have guard : (Storage.isInitialized world && Storage.hasMultisigConfig world) = false ↔
      world.admin = none ∨ world.multiSigConfig = none := by
    cases admin : world.admin <;>
      simp [Storage.isInitialized, Storage.hasMultisigConfig, admin]
  simp [Entry.initializeMultisig, Multisig.initializeMultisig, guard, - Bool.and_eq_false_imp]

theorem rotateSigners_ok {newSigners : List Address} {newThreshold : UInt32}
    {sigInfo : SignatureInfo} :
    Entry.rotateSigners newSigners newThreshold sigInfo env world =
        (.ok value, later) ↔
      ∃ config, world.multiSigConfig = some config ∧
        config.threshold.toNat ≤
          Entry.countValidSigners config.signers sigInfo.signers ∧
        Multisig.SignersAccepted newSigners newThreshold ∧
        later = (Storage.setMultisigConfig
            ⟨newSigners, newThreshold, saturatingAdd config.nonce 1⟩ env world).emit
          (.signersRotated newThreshold) := by
  simp only [Entry.rotateSigners, Multisig.rotateSigners, Program.bind_ok,
    getMultisigConfig_ok, ensureNot_ok, decide_eq_false_iff_not, not_lt,
    Multisig.checkSigners_ok, Program.update_ok, publish_ok]
  constructor
  · rintro ⟨config, _, ⟨stored, rfl⟩, _, _, ⟨enough, rfl⟩, _, _,
      ⟨_, _, ⟨accepted, rfl⟩, same, _, ⟨storedAgain, rfl⟩, rfl⟩, rfl⟩
    have configEq : same = config := Option.some.inj (storedAgain.symm.trans stored)
    subst same
    exact ⟨config, stored, enough, accepted, rfl⟩
  · rintro ⟨config, stored, enough, accepted, rfl⟩
    exact ⟨config, world, ⟨stored, rfl⟩, (), world, ⟨enough, rfl⟩, (), _,
      ⟨(), world, ⟨accepted, rfl⟩, config, world, ⟨stored, rfl⟩, rfl⟩, rfl⟩

end Specification

theorem ensureNot_readOnly (condition : Bool) (code : Error) :
    (ensureNot condition code).ReadOnly :=
  .rejectIf condition (Failure.error code)

theorem invoke_readOnly {call : Call} (query : call.isQuery = true) :
    (invoke call).ReadOnly := by
  cases call with
  | getAdmin =>
      exact .bind (.bind (.inspect _) fun admin => .someOr admin _) fun _ => .pure _
  | isPaused =>
      exact .bind (.bind (.inspect _) fun _ => .bind (ensureNot_readOnly _ _) fun _ => .inspect _)
        fun _ => .pure _
  | isAttestor attestor => exact .bind (.inspect _) fun _ => .pure _
  | getMaxAttestationTtl attestationType => exact .bind (.inspect _) fun _ => .pure _
  | getAttestation pair =>
      exact .bind (.bind (.inspect _) fun found => .someOr found _) fun _ => .pure _
  | isValid pair => exact .bind (.bind (.ask _) fun _ => .inspect _) fun _ => .pure _
  | getAttestationCount => exact .bind (.inspect _) fun _ => .pure _
  | listAttestationHistory pair startSeq limit reverse =>
      exact .bind (.bind (ensureNot_readOnly _ _) fun _ =>
        .bind (.inspect _) fun page => .someOr page _) fun _ => .pure _
  | getMultisigConfig =>
      exact .bind (.bind (.bind (.inspect _) fun config => .someOr config _)
        fun _ => .pure _) fun _ => .pure _
  | _ => exact absurd query (by simp [Call.isQuery])

section Steps

variable {env : Env} {before after : World} {value : Unit}

theorem of_unit_reply {entry : HostM Unit} {reply : Reply}
    (run : (entry >>= fun _ => pure Reply.unit) env before = (.ok reply, after)) :
    entry env before = (.ok (), after) := by
  obtain ⟨_, _, ran, replied⟩ := Program.bind_ok.mp run
  obtain ⟨_, rfl⟩ := Program.pure_ok.mp replied
  exact ran

theorem of_admin_gate {rest : Address → HostM Unit}
    (run : (Storage.getAdmin >>= fun admin => requireAuth admin >>= fun _ => rest admin)
      env before = (.ok value, after)) :
    ∃ admin, before.admin = some admin ∧ admin ∈ env.auths ∧
      rest admin env before = (.ok value, after) := by
  obtain ⟨admin, _, found, gated⟩ := Program.bind_ok.mp run
  obtain ⟨held, rfl⟩ := getAdmin_ok.mp found
  obtain ⟨_, _, checked, rests⟩ := Program.bind_ok.mp gated
  obtain ⟨authorised, rfl⟩ := requireAuth_ok.mp checked
  exact ⟨admin, held, authorised, rests⟩

theorem of_ensureNot {condition : Bool} {code : Error} {rest : HostM Unit}
    (run : (ensureNot condition code >>= fun _ => rest) env before = (.ok value, after)) :
    condition = false ∧ rest env before = (.ok value, after) := by
  obtain ⟨_, _, checked, rests⟩ := Program.bind_ok.mp run
  obtain ⟨passed, rfl⟩ := ensureNot_ok.mp checked
  exact ⟨passed, rests⟩

theorem of_inspect {Value : Type} {read : World → Value} {rest : Value → HostM Unit}
    (run : (Program.inspect read >>= rest) env before = (.ok value, after)) :
    rest (read before) env before = (.ok value, after) := by
  obtain ⟨_, _, found, rests⟩ := Program.bind_ok.mp run
  obtain ⟨rfl, rfl⟩ := Program.inspect_ok.mp found
  exact rests

theorem of_write {write : Env → World → World} {event : Event}
    (run : (Program.update write >>= fun _ => publish event) env before =
      (.ok value, after)) : after = (write env before).emit event := by
  obtain ⟨_, _, wrote, published⟩ := Program.bind_ok.mp run
  cases Program.update_ok.mp wrote
  exact publish_ok.mp published

end Steps

theorem invoke_committed {env : Env} {call : Call} {before after : World}
    {reply : Reply} (run : invoke call env before = (.ok reply, after)) :
    Committed env call before after := by
  by_cases query : call.isQuery = true
  · have same : after = before := by
      have unchanged := invoke_readOnly query env before
      rwa [run] at unchanged
    subst after
    exact .query query
  cases call with
  | initializeContract admin =>
      obtain ⟨fresh, authorised, rfl⟩ := initializeContract_ok.mp (of_unit_reply run)
      exact .initialized fresh authorised
  | setAdmin newAdmin =>
      obtain ⟨admin, held, authorised, gated⟩ := of_admin_gate (of_unit_reply run)
      cases of_write gated
      exact .administered held authorised (.setAdmin newAdmin before)
  | pause =>
      obtain ⟨admin, held, authorised, gated⟩ := of_admin_gate (of_unit_reply run)
      cases of_write gated
      exact .administered held authorised (.pause before)
  | unpause =>
      obtain ⟨admin, held, authorised, gated⟩ := of_admin_gate (of_unit_reply run)
      cases of_write gated
      exact .administered held authorised (.unpause before)
  | addAttestor attestor =>
      obtain ⟨admin, held, authorised, gated⟩ := of_admin_gate (of_unit_reply run)
      obtain ⟨unlisted, written⟩ := of_ensureNot (of_inspect gated)
      cases of_write written
      exact .administered held authorised (.addAttestor attestor before unlisted)
  | removeAttestor attestor =>
      obtain ⟨admin, held, authorised, gated⟩ := of_admin_gate (of_unit_reply run)
      obtain ⟨listed, written⟩ := of_ensureNot (of_inspect gated)
      cases of_write written
      exact .administered held authorised
        (.removeAttestor attestor before (by simpa using listed))
  | renewAttestor attestor =>
      obtain ⟨admin, held, authorised, gated⟩ := of_admin_gate (of_unit_reply run)
      obtain ⟨listed, written⟩ := of_ensureNot (of_inspect gated)
      cases of_write written
      exact .administered held authorised
        (.renewAttestor attestor before (by simpa using listed))
  | setDefaultMaxAttestationTtl maxTtlSeconds =>
      obtain ⟨admin, held, authorised, gated⟩ := of_admin_gate (of_unit_reply run)
      obtain ⟨positive, written⟩ := of_ensureNot gated
      cases of_write written
      exact .administered held authorised
        (.setDefaultMaxAttestationTtl maxTtlSeconds before (by simpa using positive))
  | setMaxAttestationTtl attestationType maxTtlSeconds =>
      obtain ⟨admin, held, authorised, gated⟩ := of_admin_gate (of_unit_reply run)
      obtain ⟨positive, written⟩ := of_ensureNot gated
      cases of_write written
      exact .administered held authorised
        (.setMaxAttestationTtl attestationType maxTtlSeconds before (by simpa using positive))
  | attest attestor entry =>
      obtain ⟨running, authorised, listed, recorded⟩ := attest_ok.mp (of_unit_reply run)
      exact .issued rfl running authorised listed (by simp)
        (.cons recorded (.nil after))
  | attestBatch attestor entries =>
      obtain ⟨running, authorised, listed, nonempty, _, recorded⟩ :=
        attestBatch_ok.mp (of_unit_reply run)
      exact .issued rfl running authorised listed nonempty recorded
  | revoke caller pair =>
      obtain ⟨running, authorised, attestation, admin, appended, stored, held, entitled,
        unrevoked, write, rfl⟩ := revoke_ok.mp (of_unit_reply run)
      exact .revoked running authorised stored held entitled unrevoked write
  | renewAttestation caller pair =>
      obtain ⟨authorised, attestation, admin, stored, held, entitled, rfl⟩ :=
        renewAttestation_ok.mp (of_unit_reply run)
      exact .renewed authorised stored held entitled
  | initializeMultisig signers threshold =>
      obtain ⟨unlocked, accepted, rfl⟩ := initializeMultisig_ok.mp (of_unit_reply run)
      exact .configured unlocked accepted
  | rotateSigners newSigners newThreshold sigInfo =>
      obtain ⟨config, stored, enough, accepted, rfl⟩ :=
        rotateSigners_ok.mp (of_unit_reply run)
      exact .rotated stored enough accepted
  | _ => exact absurd rfl query

theorem Committed.of_revoke {env : Env} {caller : Address} {pair : Pair}
    {before after : World} (committed : Committed env (.revoke caller pair) before after) :
    ∃ attestation appended,
      Storage.getAttestation pair before = some attestation ∧
        Appended env pair (Entry.markRevoked attestation) before appended ∧
        after = appended.emit (.revoked pair.1 pair.2 caller) := by
  cases committed with
  | query readOnly => contradiction
  | administered _ _ write => cases write
  | issued issues _ _ _ _ _ => cases issues
  | revoked _ _ stored _ _ _ write => exact ⟨_, _, stored, write, rfl⟩

theorem Committed.of_renewAttestation {env : Env} {caller : Address} {pair : Pair}
    {before after : World}
    (committed : Committed env (.renewAttestation caller pair) before after) :
    ∃ attestation, Storage.getAttestation pair before = some attestation ∧
      after = (Storage.setAttestation pair attestation env before).emit
        (.attestationRenewed pair.1 pair.2 caller) := by
  cases committed with
  | query readOnly => contradiction
  | administered _ _ write => cases write
  | issued issues _ _ _ _ _ => cases issues
  | renewed _ stored _ _ => exact ⟨_, stored, rfl⟩

theorem step_cases (world : World) (step : Step) :
    (step.succeeds world = false ∧ world.step step = world) ∨
      (step.succeeds world = true ∧
        Committed step.env step.call world (world.step step)) := by
  rcases Program.commit_cases (invoke step.call) step.env world with
    ⟨failed, same⟩ | ⟨reply, run⟩
  · exact Or.inl ⟨failed, same⟩
  · exact Or.inr ⟨Program.succeeds_iff.mpr ⟨reply, _, run⟩, invoke_committed run⟩

theorem committed_of_succeeds {world : World} {step : Step}
    (succeeds : step.succeeds world = true) :
    Committed step.env step.call world (world.step step) := by
  rcases step_cases world step with ⟨failed, _⟩ | ⟨_, committed⟩
  · rw [failed] at succeeds
    contradiction
  · exact committed

end AnchorKit.Contract
