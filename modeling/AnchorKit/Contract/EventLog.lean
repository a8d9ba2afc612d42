import AnchorKit.Contract.Authority
import AnchorKit.Contract.History

/-!
# What the event log tells

Indexers see the events of `events.rs` and nothing else.  `Index` is the state one of
them can keep, and `Index.apply` its reaction to an event.  Replaying the log of any run
rebuilds the administrator, the pause flag, the allow-list, the caps, the count and, for
every pair, the whole history up to the issue times, which no event carries.  The
signers are not in the log either: `initialize_multisig` publishes nothing.
-/

set_option autoImplicit false

namespace AnchorKit.Contract

open AnchorKit.Base AnchorKit.Base.MachineInt

/-- What the events say about one entry of a history. -/
structure Listing where
  attestor : Address
  payloadHash : BytesN 32
  expiresAt : UInt64
  status : AttestationStatus
  deriving DecidableEq, Repr

def HistoryEntry.listing (entry : HistoryEntry) : Listing :=
  ⟨entry.attestor, entry.payloadHash, entry.expiresAt, entry.status⟩

def Attestation.listing (attestation : Attestation) : Listing :=
  ⟨attestation.attestor, attestation.payloadHash, attestation.expiresAt, attestation.status⟩

structure Index where
  admin : Option Address
  paused : Bool
  attestors : Address → Bool
  defaultMaxTtl : Option UInt64
  maxTtl : Symbol → Option UInt64
  count : ℕ
  trail : Pair → List Listing

namespace Index

def empty : Index where
  admin := none
  paused := false
  attestors := fun _ => false
  defaultMaxTtl := none
  maxTtl := fun _ => none
  count := 0
  trail := fun _ => []

def append (pair : Pair) (listing : Listing) (index : Index) : Index :=
  { index with
    trail := fun other =>
      if other = pair then index.trail other ++ [listing] else index.trail other }

def list (attestor : Address) (listed : Bool) (index : Index) : Index :=
  { index with
    attestors := fun other => if other = attestor then listed else index.attestors other }

def apply (index : Index) : Event → Index
  | .initialized admin => { index with admin := some admin, paused := false }
  | .adminChanged _ newAdmin => { index with admin := some newAdmin }
  | .attestorAdded attestor => index.list attestor true
  | .attestorRemoved attestor => index.list attestor false
  | .attestorRenewed _ => index
  | .attested subject attestationType attestor payloadHash expiresAt =>
      { index.append (subject, attestationType) ⟨attestor, payloadHash, expiresAt, .active⟩ with
        count := index.count + 1 }
  | .revoked subject attestationType _ =>
      match (index.trail (subject, attestationType)).getLast? with
      | none => index
      | some last => index.append (subject, attestationType) { last with status := .revoked }
  | .attestationRenewed _ _ _ => index
  | .pauseToggled paused => { index with paused := paused }
  | .defaultMaxAttestationTtlChanged maxTtlSeconds =>
      { index with defaultMaxTtl := some maxTtlSeconds }
  | .maxAttestationTtlChanged attestationType maxTtlSeconds =>
      { index with
        maxTtl := fun other =>
          if other = attestationType then some maxTtlSeconds else index.maxTtl other }
  | .signersRotated _ => index

def replay (events : List Event) : Index :=
  events.foldl apply empty

theorem replay_append_singleton (events : List Event) (event : Event) :
    replay (events ++ [event]) = (replay events).apply event := by
  simp only [replay, List.foldl_append, List.foldl_cons, List.foldl_nil]

def effectiveMaxTtl (index : Index) (attestationType : Symbol) : UInt64 :=
  (index.maxTtl attestationType).getD
    (index.defaultMaxTtl.getD Storage.defaultMaxAttestationTtlSeconds)

def isValid (index : Index) (pair : Pair) (now : UInt64) : Bool :=
  (index.trail pair).getLast?.any fun last =>
    last.status == .active && decide (now < last.expiresAt)

end Index

/-! ## The index follows the contract -/

structure Mirrors (index : Index) (world : World) : Prop where
  admin : index.admin = world.admin
  paused : index.paused = Storage.isPaused world
  attestors : ∀ attestor, index.attestors attestor = Storage.isAttestor attestor world
  defaultMaxTtl : index.defaultMaxTtl = world.defaultMaxAttestationTtl
  maxTtl : index.maxTtl = world.maxAttestationTtl
  count : index.count = (Storage.getAttestationCount world).toNat
  trail : ∀ pair, ∃ log, Audited world pair log ∧
    index.trail pair = log.map HistoryEntry.listing

theorem Storage.isAttestor_setAttestor (attestor other : Address) (allowed : Bool) (env : Env)
    (world : World) :
    Storage.isAttestor other (Storage.setAttestor attestor allowed env world) =
      if other = attestor then allowed else Storage.isAttestor other world := by
  cases allowed with
  | true =>
      simp only [Storage.isAttestor, Storage.setAttestor, if_true, LiveMap.get_extendTtl,
        LiveMap.get_set]
      split
      · rfl
      · rfl
  | false =>
      simp only [Storage.isAttestor, Storage.setAttestor, Bool.false_eq_true, if_false,
        LiveMap.remove, LiveMap.get_put]
      split
      · rfl
      · rfl

theorem Index.list_eq {index : Index} {world : World}
    (attestors : ∀ attestor, index.attestors attestor = Storage.isAttestor attestor world)
    {attestor : Address} {listed : Bool} (other : Address) :
    (index.list attestor listed).attestors other =
      if other = attestor then listed else Storage.isAttestor other world := by
  simp only [Index.list, attestors]

theorem SameRecords.trail {before after : World} (same : SameRecords before after)
    {index : Index} (mirrors : Mirrors index before) (pair : Pair) :
    ∃ log, Audited after pair log ∧ index.trail pair = log.map HistoryEntry.listing := by
  obtain ⟨log, audited, listed⟩ := mirrors.trail pair
  exact ⟨log, same.audited audited, listed⟩

theorem Wrote.trail {pair : Pair} {attestation : Attestation} {before after : World}
    (wrote : Wrote pair attestation before after) {index : Index}
    (mirrors : Mirrors index before) (other : Pair) :
    ∃ log, Audited after other log ∧
      (index.append pair attestation.listing).trail other =
        log.map HistoryEntry.listing := by
  obtain ⟨log, audited, listed⟩ := mirrors.trail other
  by_cases named : other = pair
  · subst other
    refine ⟨_, wrote.audited audited, ?_⟩
    simp only [Index.append, if_true, listed, List.map_append, List.map_cons, List.map_nil]
    rfl
  · refine ⟨log, wrote.audited_of_ne named audited, ?_⟩
    simp only [Index.append, named, if_false, listed]

theorem Mirrors.last {index : Index} {world : World} (mirrors : Mirrors index world)
    (pair : Pair) :
    (index.trail pair).getLast? =
      (Storage.getAttestation pair world).map Attestation.listing := by
  obtain ⟨log, audited, listed⟩ := mirrors.trail pair
  rw [listed, List.getLast?_map, audited.current, Option.map_map]
  rfl

def Followed (world : World) : Prop :=
  Mirrors (Index.replay world.events) world

theorem Followed.of_event {before after : World} {event : Event}
    (published : after.events = before.events ++ [event])
    (mirrors : Mirrors ((Index.replay before.events).apply event) after) :
    Followed after := by
  rw [Followed, published, Index.replay_append_singleton]
  exact mirrors

theorem deployed_followed : Followed World.deployed where
  admin := rfl
  paused := rfl
  attestors := fun _ => rfl
  defaultMaxTtl := rfl
  maxTtl := rfl
  count := rfl
  trail := fun pair => ⟨[], deployed_audited pair, rfl⟩

theorem AdminWrite.followed {env : Env} {admin : Address} {call : Call}
    {before after : World} (write : AdminWrite env admin call before after)
    (followed : Followed before) : Followed after := by
  have trail := write.sameRecords.trail followed
  obtain ⟨sameAdmin, paused, attestors, defaultMaxTtl, maxTtl, count, _⟩ := followed
  cases write with
  | setAdmin newAdmin =>
      exact .of_event rfl ⟨rfl, paused, attestors, defaultMaxTtl, maxTtl, count, trail⟩
  | pause =>
      exact .of_event rfl ⟨sameAdmin, rfl, attestors, defaultMaxTtl, maxTtl, count, trail⟩
  | unpause =>
      exact .of_event rfl ⟨sameAdmin, rfl, attestors, defaultMaxTtl, maxTtl, count, trail⟩
  | addAttestor attestor =>
      refine .of_event rfl
        ⟨sameAdmin, paused, ?_, defaultMaxTtl, maxTtl, count, trail⟩
      intro other
      exact (Index.list_eq attestors other).trans
        (Storage.isAttestor_setAttestor attestor other true env before).symm
  | removeAttestor attestor =>
      refine .of_event rfl
        ⟨sameAdmin, paused, ?_, defaultMaxTtl, maxTtl, count, trail⟩
      intro other
      exact (Index.list_eq attestors other).trans
        (Storage.isAttestor_setAttestor attestor other false env before).symm
  | renewAttestor attestor _ listed =>
      refine .of_event rfl
        ⟨sameAdmin, paused, ?_, defaultMaxTtl, maxTtl, count, trail⟩
      intro other
      refine (attestors other).trans (Eq.trans ?_
        (Storage.isAttestor_setAttestor attestor other true env before).symm)
      split
      · rename_i same
        rw [same, listed]
      · rfl
  | setDefaultMaxAttestationTtl =>
      exact .of_event rfl ⟨sameAdmin, paused, attestors, rfl, maxTtl, count, trail⟩
  | setMaxAttestationTtl attestationType maxTtlSeconds =>
      refine .of_event rfl ⟨sameAdmin, paused, attestors, defaultMaxTtl, ?_, count, trail⟩
      funext other
      simp only [Index.apply, Storage.setMaxAttestationTtl, World.emit, maxTtl]

theorem Appended.events {env : Env} {pair : Pair} {attestation : Attestation}
    {before after : World} (appended : Appended env pair attestation before after) :
    after.events = before.events := by
  obtain ⟨_, _, rfl⟩ := appended
  rfl

theorem Mirrors.written {index : Index} {before after : World} (mirrors : Mirrors index before)
    (same : SameSettings before after) {count : ℕ} {trail : Pair → List Listing}
    (counted : count = (Storage.getAttestationCount after).toNat)
    (trails : ∀ pair, ∃ log, Audited after pair log ∧
      trail pair = log.map HistoryEntry.listing) :
    Mirrors { index with count := count, trail := trail } after where
  admin := mirrors.admin.trans same.admin.symm
  paused := by
    change index.paused = Storage.isPaused after
    rw [mirrors.paused, Storage.isPaused, Storage.isPaused, same.paused]
  attestors other := by
    change index.attestors other = Storage.isAttestor other after
    rw [mirrors.attestors, Storage.isAttestor, Storage.isAttestor, same.attestor]
  defaultMaxTtl := mirrors.defaultMaxTtl.trans same.defaultMaxAttestationTtl.symm
  maxTtl := mirrors.maxTtl.trans same.maxAttestationTtl.symm
  count := counted
  trail := trails

theorem Recorded.followed {env : Env} {attestor : Address} {entry : BatchAttestEntry}
    {before after : World} (recorded : Recorded env attestor entry before after)
    (followed : Followed before) : Followed after := by
  have same := recorded.sameGovernance
  have trail := recorded.wrote.trail followed
  obtain ⟨appended, count, pushed, counted, rfl⟩ := recorded.written
  have grown := (congrArg (· + 1) followed.count).trans (checkedAdd_eq_some counted).symm
  exact .of_event (congrArg (· ++ [_]) pushed.events)
    (followed.written same.sameSettings grown trail)

theorem RecordedAll.followed {env : Env} {attestor : Address}
    {entries : List BatchAttestEntry} {before after : World}
    (recorded : RecordedAll env attestor entries before after)
    (followed : Followed before) : Followed after := by
  induction recorded with
  | nil world => exact followed
  | cons first _ ih => exact ih (first.followed followed)

/-- The revocation event names the pair alone; the index repeats its last listing. -/
theorem Appended.followed {env : Env} {caller : Address} {pair : Pair}
    {attestation : Attestation} {before appended : World}
    (write : Appended env pair (Entry.markRevoked attestation) before appended)
    (stored : Storage.getAttestation pair before = some attestation)
    (followed : Followed before) :
    Followed (appended.emit (.revoked pair.1 pair.2 caller)) := by
  have same : SameGovernance before (appended.emit (.revoked pair.1 pair.2 caller)) :=
    write.sameGovernance.trans ⟨rfl, rfl, rfl, rfl, rfl, rfl⟩
  have kept := followed.count.trans
    (congrArg (fun count => (Option.getD count 0).toNat) write.attestationCount).symm
  have last : ((Index.replay before.events).trail (pair.1, pair.2)).getLast? =
      some attestation.listing := by
    rw [followed.last, stored, Option.map_some]
  refine .of_event (congrArg (· ++ [_]) write.events) ?_
  rw [Index.apply, last]
  exact followed.written same.sameSettings kept ((write.wrote.emit _).trail followed)

theorem Mirrors.kept {index : Index} {before after : World} (mirrors : Mirrors index before)
    (same : SameSettings before after) (records : SameRecords before after) :
    Mirrors index after :=
  mirrors.written same (mirrors.count.trans (congrArg UInt64.toNat records.count).symm)
    (records.trail mirrors)

theorem Committed.followed {env : Env} {call : Call} {before after : World}
    (committed : Committed env call before after) (followed : Followed before) :
    Followed after := by
  cases committed with
  | query _ => exact followed
  | @initialized admin =>
      have records : SameRecords before ((Storage.setPaused false env
          (Storage.setAdmin admin env before)).emit (.initialized admin)) :=
        .of_fields rfl rfl rfl rfl
      have trail := records.trail followed
      exact .of_event rfl ⟨rfl, rfl, followed.attestors, followed.defaultMaxTtl,
        followed.maxTtl, followed.count, trail⟩
  | administered _ _ write => exact write.followed followed
  | issued _ _ _ _ _ recorded => exact recorded.followed followed
  | revoked _ _ stored _ _ _ write => exact write.followed stored followed
  | renewed _ stored _ _ =>
      have same := setAttestation_sameRecords env stored
      exact .of_event rfl (followed.kept ⟨rfl, rfl, rfl, rfl, rfl⟩
        ⟨same.attestation, same.sequence, same.history, same.count⟩)
  | configured _ _ =>
      exact followed.kept ⟨rfl, rfl, rfl, rfl, rfl⟩ (.of_fields rfl rfl rfl rfl)
  | rotated _ _ _ =>
      exact .of_event rfl
        (followed.kept ⟨rfl, rfl, rfl, rfl, rfl⟩ (.of_fields rfl rfl rfl rfl))

theorem reached_followed (steps : List Step) : Followed (reached steps) := by
  refine Machine.run_invariant World.step Followed ?_ steps World.deployed deployed_followed
  intro world step followed
  rcases step_cases world step with ⟨_, same⟩ | ⟨_, committed⟩
  · rw [same]
    exact followed
  · exact committed.followed followed

/-! ## Reading the contract off its log -/

theorem Mirrors.effectiveMaxTtl {index : Index} {world : World} (mirrors : Mirrors index world)
    (attestationType : Symbol) :
    index.effectiveMaxTtl attestationType =
      Storage.getMaxAttestationTtl attestationType world := by
  rw [Index.effectiveMaxTtl, Storage.getMaxAttestationTtl, mirrors.maxTtl,
    mirrors.defaultMaxTtl]

theorem Mirrors.isValid {index : Index} {world : World} (mirrors : Mirrors index world)
    (pair : Pair) (now : UInt64) :
    index.isValid pair now = Entry.isValidAt now pair world := by
  rw [Index.isValid, mirrors.last, Entry.isValidAt]
  cases Storage.getAttestation pair world with
  | none => rfl
  | some attestation => rfl

theorem Mirrors.entry {index : Index} {world : World} (mirrors : Mirrors index world)
    (pair : Pair) {number : UInt64} :
    (Storage.getHistoryEntry pair number world).map HistoryEntry.listing =
      if number = 0 then none else (index.trail pair)[number.toNat - 1]? := by
  obtain ⟨log, audited, listed⟩ := mirrors.trail pair
  rw [audited.represents.stored number, listed, List.getElem?_map]
  by_cases zero : number = 0
  · simp [zero]
  · have positive : number.toNat ≠ 0 := by
      intro none
      exact zero (UInt64.toNat_inj.mp none)
    rw [if_neg positive, if_neg zero]

/-- The log of a run alone tells the administrator, the pause flag, the allow-list, the
caps, the count, the record and the history of every pair without the issue times, and
what `is_valid` answers at any time. -/
theorem event_log_determines_state (steps : List Step) :
    let world := reached steps
    let index := Index.replay world.events
    index.admin = world.admin ∧ index.paused = Storage.isPaused world ∧
    (∀ attestor, index.attestors attestor = Storage.isAttestor attestor world) ∧
    (∀ attestationType, index.effectiveMaxTtl attestationType =
      Storage.getMaxAttestationTtl attestationType world) ∧
    index.count = (Storage.getAttestationCount world).toNat ∧
    ∀ pair,
      (index.trail pair).length = (Storage.getAttestationSeq pair world).toNat ∧
      (∀ number, (Storage.getHistoryEntry pair number world).map HistoryEntry.listing =
        if number = 0 then none else (index.trail pair)[number.toNat - 1]?) ∧
      (Storage.getAttestation pair world).map Attestation.listing =
        (index.trail pair).getLast? ∧
      ∀ env, Entry.isValid pair env world =
        (.ok (index.isValid pair env.ledger.timestamp), world) := by
  intro world index
  have followed : Mirrors index world := reached_followed steps
  refine ⟨followed.admin, followed.paused, followed.attestors, followed.effectiveMaxTtl,
    followed.count, ?_⟩
  intro pair
  refine ⟨?_, fun _ => followed.entry pair, (followed.last pair).symm, ?_⟩
  · obtain ⟨log, audited, listed⟩ := followed.trail pair
    rw [listed, List.length_map, audited.represents.counted]
  · intro env
    rw [followed.isValid]
    rfl

end AnchorKit.Contract
