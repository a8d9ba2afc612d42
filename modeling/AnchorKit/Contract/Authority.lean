import AnchorKit.Contract.Records

/-!
# Who may change what

Every change of a setting needs the admin, every change of a record needs an
allow-listed attestor or, for a revocation, the admin or the recorded attestor,
and no call reaches past the pairs it names.  The admin itself is installed once
and handed on only by its holder, and before that the contract is blank.
-/

set_option autoImplicit false

namespace AnchorKit.Contract

open AnchorKit.Base AnchorKit.Base.MachineInt

/-! ## Records -/

structure SamePair (pair : Pair) (before after : World) : Prop where
  attestation :
    Storage.getAttestation pair after = Storage.getAttestation pair before
  sequence :
    Storage.getAttestationSeq pair after = Storage.getAttestationSeq pair before
  history : ∀ number, Storage.getHistoryEntry pair number after =
    Storage.getHistoryEntry pair number before

theorem SamePair.refl (pair : Pair) (world : World) : SamePair pair world world :=
  ⟨rfl, rfl, fun _ => rfl⟩

theorem SamePair.trans {pair : Pair} {first second third : World}
    (before : SamePair pair first second) (after : SamePair pair second third) :
    SamePair pair first third where
  attestation := after.attestation.trans before.attestation
  sequence := after.sequence.trans before.sequence
  history number := (after.history number).trans (before.history number)

theorem SameRecords.samePair {before after : World} (same : SameRecords before after)
    (pair : Pair) : SamePair pair before after :=
  ⟨same.attestation pair, same.sequence pair, same.history pair⟩

theorem Wrote.samePair {pair other : Pair} {attestation : Attestation}
    {before after : World} (wrote : Wrote pair attestation before after)
    (different : other ≠ pair) : SamePair other before after where
  attestation := (wrote.stored other).trans (if_neg different)
  sequence := wrote.unmoved other different
  history number :=
    (wrote.logged other number).trans (if_neg fun same => different same.1)

section Batch

variable {env : Env} {attestor : Address} {entries : List BatchAttestEntry}
  {before after : World}

theorem RecordedAll.samePair (recorded : RecordedAll env attestor entries before after)
    {pair : Pair} (unnamed : pair ∉ entries.map Entry.pairOf) :
    SamePair pair before after := by
  induction recorded with
  | nil world => exact .refl pair world
  | cons first _ ih =>
      simp only [List.map_cons, List.mem_cons, not_or] at unnamed
      exact (first.wrote.samePair unnamed.1).trans (ih unnamed.2)

theorem RecordedAll.attestor_stored
    (recorded : RecordedAll env attestor entries before after)
    {pair : Pair} (named : pair ∈ entries.map Entry.pairOf) :
    ∃ attestation, Storage.getAttestation pair after = some attestation ∧
      attestation.attestor = attestor := by
  induction recorded with
  | nil world => simp at named
  | @cons entry rest _ _ _ first others ih =>
      by_cases again : pair ∈ rest.map Entry.pairOf
      · exact ih again
      · have same : pair = Entry.pairOf entry := by
          simpa [again] using named
        subst pair
        refine ⟨_, (others.samePair again).attestation.trans
          ((first.wrote.stored _).trans (if_pos rfl)), rfl⟩

theorem RecordedAll.history_attestor
    (recorded : RecordedAll env attestor entries before after)
    (pair : Pair) (number : UInt64) (entry : HistoryEntry)
    (found : Storage.getHistoryEntry pair number after = some entry) :
    Storage.getHistoryEntry pair number before = some entry ∨
      entry.attestor = attestor := by
  rcases recorded.history_cases found with kept | added
  · exact Or.inl kept
  · obtain ⟨_, _, _, rfl, _⟩ := added
    exact Or.inr rfl

end Batch

/-- The pairs whose records a call may rewrite. -/
def Call.touched : Call → List Pair
  | .attest _ entry => [Entry.pairOf entry]
  | .attestBatch _ entries => entries.map Entry.pairOf
  | .revoke _ pair => [pair]
  | .renewAttestation _ pair => [pair]
  | _ => []

theorem Call.touched_of_issues {call : Call} {attestor : Address}
    {entries : List BatchAttestEntry}
    (issues : call.issues = some (attestor, entries)) :
    call.touched = entries.map Entry.pairOf := by
  rcases Call.issues_cases issues with ⟨entry, rfl, rfl⟩ | rfl
  · rfl
  · rfl

/-- An attest of the pair by an allow-listed attestor, who is recorded as such
in the pair's record and in every entry added to its history. -/
def IssuedUnder (env : Env) (call : Call) (pair : Pair) (before after : World) : Prop :=
  ∃ attestor entries, call.issues = some (attestor, entries) ∧
    pair ∈ entries.map Entry.pairOf ∧ attestor ∈ env.auths ∧
    Storage.isAttestor attestor before = true ∧
    (∃ attestation, Storage.getAttestation pair after = some attestation ∧
      attestation.attestor = attestor) ∧
    ∀ number entry, Storage.getHistoryEntry pair number after = some entry →
      Storage.getHistoryEntry pair number before = some entry ∨
        entry.attestor = attestor

/-- A revocation of the pair by the admin or by its recorded attestor. -/
def RevokedUnder (env : Env) (call : Call) (pair : Pair) (before : World) : Prop :=
  ∃ caller attestation, call = .revoke caller pair ∧ caller ∈ env.auths ∧
    Storage.getAttestation pair before = some attestation ∧
    (before.admin = some caller ∨ caller = attestation.attestor)

theorem Committed.pair_change {env : Env} {call : Call} {before after : World}
    (committed : Committed env call before after) (pair : Pair) :
    SamePair pair before after ∨
      Storage.isPaused before = false ∧
        (IssuedUnder env call pair before after ∨ RevokedUnder env call pair before) := by
  cases committed with
  | query _ => exact Or.inl (.refl pair _)
  | initialized _ _ => exact Or.inl ⟨rfl, rfl, fun _ => rfl⟩
  | administered _ _ write => exact Or.inl (write.sameRecords.samePair pair)
  | @issued _ attestor entries _ _ issues running authorised listed _ recorded =>
      by_cases named : pair ∈ entries.map Entry.pairOf
      · exact Or.inr ⟨running, Or.inl ⟨attestor, entries, issues, named, authorised,
          listed, recorded.attestor_stored named, recorded.history_attestor pair⟩⟩
      · exact Or.inl (recorded.samePair named)
  | @revoked caller admin target attestation _ _ running authorised stored held entitled _
      write =>
      by_cases named : pair = target
      · subst pair
        refine Or.inr ⟨running, Or.inr ⟨caller, attestation, rfl, authorised, stored, ?_⟩⟩
        rcases entitled with rfl | rfl
        · exact Or.inl held
        · exact Or.inr rfl
      · exact Or.inl ((write.wrote.emit _).samePair named)
  | renewed _ stored _ _ =>
      have same := (setAttestation_sameRecords env stored).samePair pair
      exact Or.inl ⟨same.attestation, same.sequence, same.history⟩
  | configured _ _ => exact Or.inl ⟨rfl, rfl, fun _ => rfl⟩
  | rotated _ _ _ => exact Or.inl ⟨rfl, rfl, fun _ => rfl⟩

theorem Committed.samePair_of_untouched {env : Env} {call : Call}
    {before after : World} (committed : Committed env call before after)
    {pair : Pair} (untouched : pair ∉ call.touched) : SamePair pair before after := by
  rcases committed.pair_change pair with same | ⟨_, issued | revoked⟩
  · exact same
  · obtain ⟨_, _, issues, named, _⟩ := issued
    rw [Call.touched_of_issues issues] at untouched
    contradiction
  · obtain ⟨_, _, rfl, _⟩ := revoked
    simp [Call.touched] at untouched

theorem Committed.count_change {env : Env} {call : Call} {before after : World}
    (committed : Committed env call before after) :
    Storage.getAttestationCount after = Storage.getAttestationCount before ∨
      Storage.isPaused before = false ∧
        ∃ pair, IssuedUnder env call pair before after := by
  cases committed with
  | query _ => exact Or.inl rfl
  | initialized _ _ => exact Or.inl rfl
  | administered _ _ write => exact Or.inl write.sameRecords.count
  | @issued _ attestor entries _ _ issues running authorised listed nonempty recorded =>
      obtain ⟨entry, member⟩ := List.exists_mem_of_ne_nil entries nonempty
      have named := List.mem_map_of_mem (f := Entry.pairOf) member
      exact Or.inr ⟨running, Entry.pairOf entry, attestor, entries, issues, named,
        authorised, listed, recorded.attestor_stored named, recorded.history_attestor _⟩
  | revoked _ _ _ _ _ _ write =>
      exact Or.inl (congrArg (Option.getD · 0) write.attestationCount)
  | renewed _ _ _ _ => exact Or.inl rfl
  | configured _ _ => exact Or.inl rfl
  | rotated _ _ _ => exact Or.inl rfl

/-! ## Settings -/

structure SameSettings (before after : World) : Prop where
  admin : after.admin = before.admin
  paused : after.paused = before.paused
  attestor : after.attestor = before.attestor
  maxAttestationTtl : after.maxAttestationTtl = before.maxAttestationTtl
  defaultMaxAttestationTtl :
    after.defaultMaxAttestationTtl = before.defaultMaxAttestationTtl

theorem SameGovernance.sameSettings {before after : World}
    (same : SameGovernance before after) : SameSettings before after :=
  ⟨same.admin, same.paused, same.attestor, same.maxAttestationTtl,
    same.defaultMaxAttestationTtl⟩

/-- A committed call keeps the settings, installs the first admin, or was
authorised by the admin. -/
theorem Committed.settings_change {env : Env} {call : Call} {before after : World}
    (committed : Committed env call before after) :
    SameSettings before after ∨ before.admin = none ∨
      ∃ admin, before.admin = some admin ∧ admin ∈ env.auths := by
  cases committed with
  | query _ => exact Or.inl ⟨rfl, rfl, rfl, rfl, rfl⟩
  | initialized fresh _ => exact Or.inr (Or.inl fresh)
  | administered held authorised _ => exact Or.inr (Or.inr ⟨_, held, authorised⟩)
  | issued _ _ _ _ _ recorded => exact Or.inl recorded.sameGovernance.sameSettings
  | revoked _ _ _ _ _ _ write =>
      have same := write.sameGovernance
      exact Or.inl ⟨same.admin, same.paused, same.attestor, same.maxAttestationTtl,
        same.defaultMaxAttestationTtl⟩
  | renewed _ _ _ _ => exact Or.inl ⟨rfl, rfl, rfl, rfl, rfl⟩
  | configured _ _ => exact Or.inl ⟨rfl, rfl, rfl, rfl, rfl⟩
  | rotated _ _ _ => exact Or.inl ⟨rfl, rfl, rfl, rfl, rfl⟩

/-- No setting changes without the admin, no record without an entitled and
unpaused call, and no pair but those a call names. -/
theorem changes_are_authorised (steps : List Step) (step : Step) :
    (∀ admin, (reached steps).admin = some admin →
      ¬ SameSettings (reached steps) ((reached steps).step step) →
      admin ∈ step.env.auths) ∧
    (∀ pair, ¬ SamePair pair (reached steps) ((reached steps).step step) →
      Storage.isPaused (reached steps) = false ∧
        (IssuedUnder step.env step.call pair (reached steps) ((reached steps).step step) ∨
          RevokedUnder step.env step.call pair (reached steps))) ∧
    (Storage.getAttestationCount ((reached steps).step step) ≠
        Storage.getAttestationCount (reached steps) →
      Storage.isPaused (reached steps) = false ∧
        ∃ pair, IssuedUnder step.env step.call pair (reached steps)
          ((reached steps).step step)) ∧
    (∀ pair, pair ∉ step.call.touched →
      SamePair pair (reached steps) ((reached steps).step step)) := by
  rcases step_cases (reached steps) step with ⟨_, same⟩ | ⟨_, committed⟩
  · rw [same]
    exact ⟨fun _ _ changed => absurd ⟨rfl, rfl, rfl, rfl, rfl⟩ changed,
      fun pair changed => absurd (.refl pair _) changed,
      fun changed => absurd rfl changed, fun pair _ => .refl pair _⟩
  · refine ⟨?_, ?_, ?_, ?_⟩
    · intro admin held changed
      rcases committed.settings_change with kept | unset | ⟨holder, holds, authorised⟩
      · exact absurd kept changed
      · rw [unset] at held
        contradiction
      · cases Option.some.inj (held.symm.trans holds)
        exact authorised
    · intro pair changed
      exact (committed.pair_change pair).resolve_left changed
    · intro changed
      exact committed.count_change.resolve_left changed
    · intro pair untouched
      exact committed.samePair_of_untouched untouched

/-! ## The admin -/

inductive AdminChange (env : Env) (call : Call) (before after : World) : Prop
  | kept (same : after.admin = before.admin)
      (other : ∀ admin, call ≠ .initializeContract admin)
  | installed (admin : Address) (installs : call = .initializeContract admin)
      (fresh : before.admin = none) (written : after.admin = some admin)
  | handedOn (admin next : Address) (hands : call = .setAdmin next)
      (held : before.admin = some admin) (authorised : admin ∈ env.auths)
      (written : after.admin = some next)

theorem Committed.adminChange {env : Env} {call : Call} {before after : World}
    (committed : Committed env call before after) :
    AdminChange env call before after := by
  cases committed with
  | query readOnly =>
      refine .kept rfl ?_
      rintro admin rfl
      contradiction
  | initialized fresh _ => exact .installed _ rfl fresh rfl
  | administered held authorised write =>
      cases write with
      | setAdmin newAdmin => exact .handedOn _ newAdmin rfl held authorised rfl
      | _ => exact .kept rfl (by simp)
  | issued issues _ _ _ _ recorded =>
      refine .kept recorded.sameGovernance.admin ?_
      rintro admin rfl
      contradiction
  | revoked _ _ _ _ _ _ write => exact .kept write.sameGovernance.admin (by simp)
  | renewed _ _ _ _ => exact .kept rfl (by simp)
  | configured _ _ => exact .kept rfl (by simp)
  | rotated _ _ _ => exact .kept rfl (by simp)

theorem step_admin_isSome (world : World) (step : Step)
    (held : world.admin.isSome = true) : (world.step step).admin.isSome = true := by
  rcases step_cases world step with ⟨_, same⟩ | ⟨_, committed⟩
  · rwa [same]
  · cases committed.adminChange with
    | kept same _ => rwa [same]
    | installed _ _ _ written => rw [written]; rfl
    | handedOn _ _ _ _ _ written => rw [written]; rfl

def Call.installsAdmin : Call → Bool
  | .initializeContract _ => true
  | _ => false

/-- A successful `initialize`. -/
def installs (visit : World × Step) : Bool :=
  visit.2.call.installsAdmin && visit.2.succeeds visit.1

theorem adminChange_of_installs {world : World} {step : Step}
    (fired : installs (world, step) = true) :
    world.admin = none ∧ (world.step step).admin.isSome = true := by
  simp only [installs, Bool.and_eq_true] at fired
  obtain ⟨isInstall, succeeded⟩ := fired
  cases (committed_of_succeeds succeeded).adminChange with
  | kept _ other =>
      cases call : step.call with
      | initializeContract admin => exact absurd call (other admin)
      | _ => simp [call, Call.installsAdmin] at isInstall
  | installed _ _ fresh written => exact ⟨fresh, by rw [written]; rfl⟩
  | handedOn _ _ hands _ _ _ => simp [hands, Call.installsAdmin] at isInstall

theorem installs_once (steps : List Step) : (visits steps).countP installs ≤ 1 := by
  refine Machine.countP_visits_le_one World.step installs
    (fun world => world.admin.isSome = true) steps World.deployed ?_ step_admin_isSome
    fun _ _ fired => (adminChange_of_installs fired).2
  rintro ⟨world, step⟩ _ held
  by_contra fired
  rw [Bool.not_eq_false] at fired
  simp [(adminChange_of_installs fired).1] at held

/-- Nothing has been listed, attested, counted, capped or paused. -/
structure Blank (world : World) : Prop where
  unlisted : ∀ attestor, Storage.isAttestor attestor world = false
  unattested : ∀ pair, Storage.getAttestation pair world = none
  unlogged : ∀ pair number, Storage.getHistoryEntry pair number world = none
  unnumbered : ∀ pair, world.attestationSeq.get pair = none
  uncapped : ∀ attestationType, world.maxAttestationTtl attestationType = none
  undefaulted : world.defaultMaxAttestationTtl = none
  uncounted : Storage.getAttestationCount world = 0
  running : Storage.isPaused world = false

theorem deployed_blank : Blank World.deployed where
  unlisted _ := rfl
  unattested _ := rfl
  unlogged _ _ := rfl
  unnumbered _ := rfl
  uncapped _ := rfl
  undefaulted := rfl
  uncounted := rfl
  running := rfl

theorem Committed.blank {env : Env} {call : Call} {before after : World}
    (committed : Committed env call before after) (unset : after.admin = none)
    (start : before.admin = none → Blank before) : Blank after := by
  have unsetBefore : before.admin = none := by
    cases committed.adminChange with
    | kept same _ => rw [← same, unset]
    | installed _ _ fresh _ => exact fresh
    | handedOn _ _ _ _ _ written =>
        rw [unset] at written
        contradiction
  have blank := start unsetBefore
  -- `attest` and `attest_batch` check no admin: the empty allow-list stops them
  cases committed with
  | query _ => exact blank
  | initialized _ _ => contradiction
  | administered held _ _ =>
      rw [unsetBefore] at held
      contradiction
  | issued _ _ _ listed _ _ =>
      rw [blank.unlisted] at listed
      contradiction
  | revoked _ _ _ held _ _ _ =>
      rw [unsetBefore] at held
      contradiction
  | renewed _ _ held _ =>
      rw [unsetBefore] at held
      contradiction
  | configured _ _ =>
      exact ⟨blank.unlisted, blank.unattested, blank.unlogged, blank.unnumbered,
        blank.uncapped, blank.undefaulted, blank.uncounted, blank.running⟩
  | rotated _ _ _ =>
      exact ⟨blank.unlisted, blank.unattested, blank.unlogged, blank.unnumbered,
        blank.uncapped, blank.undefaulted, blank.uncounted, blank.running⟩

theorem reached_blank (steps : List Step) :
    (reached steps).admin = none → Blank (reached steps) := by
  refine Machine.run_invariant World.step (fun world => world.admin = none → Blank world)
    ?_ steps World.deployed fun _ => deployed_blank
  intro world step holds unset
  rcases step_cases world step with ⟨_, same⟩ | ⟨_, committed⟩
  · rw [same] at unset ⊢
    exact holds unset
  · exact committed.blank unset holds

/-- An admin is followed by itself or by the successor it authorised. -/
theorem step_admin_chain (world : World) (step : Step) (admin : Address)
    (held : world.admin = some admin) :
    ∃ next, (world.step step).admin = some next ∧
      (next ≠ admin → step.call = .setAdmin next ∧ step.succeeds world = true ∧
        admin ∈ step.env.auths) := by
  rcases step_cases world step with ⟨_, same⟩ | ⟨succeeded, committed⟩
  · exact ⟨admin, by rw [same, held], fun changed => absurd rfl changed⟩
  · cases committed.adminChange with
    | kept same _ => exact ⟨admin, by rw [same, held], fun changed => absurd rfl changed⟩
    | installed _ _ fresh _ =>
        rw [fresh] at held
        contradiction
    | handedOn holder next hands holds authorised written =>
        cases Option.some.inj (held.symm.trans holds)
        exact ⟨next, written, fun _ => ⟨hands, succeeded, authorised⟩⟩

/-- `initialize` succeeds at most once, the contract is blank until it does, and
from then on every change of the admin is a `set_admin` of the admin it replaces. -/
theorem administration_chain (steps : List Step) :
    (visits steps).countP installs ≤ 1 ∧
    ((reached steps).admin = none → Blank (reached steps)) ∧
    (∀ visit ∈ visits steps, ∀ admin, visit.1.admin = some admin →
      ∃ next, (visit.1.step visit.2).admin = some next ∧
        (next ≠ admin → visit.2.call = .setAdmin next ∧
          visit.2.succeeds visit.1 = true ∧ admin ∈ visit.2.env.auths)) :=
  ⟨installs_once steps, reached_blank steps,
    fun visit _ admin held => step_admin_chain visit.1 visit.2 admin held⟩

end AnchorKit.Contract
