import AnchorKit.Base.Register
import AnchorKit.Contract.Records

/-!
# Validity over whole runs

The reference model knows nothing of the stores.  It keeps the journal of the
successful attests and revokes of a run, and a pair is valid while its last fact
is an attest that has not expired.  The contract keeps one record per pair,
overwritten by every attest and revoke; its unrevoked expiry is the register
replayed from the journal.
-/

set_option autoImplicit false

namespace AnchorKit.Contract

open AnchorKit.Base AnchorKit.Base.MachineInt

/-! ## The reference model -/

inductive Fact where
  | attested (pair : Pair) (issuedAt ttlSeconds : UInt64)
  | revoked (pair : Pair)
  deriving DecidableEq

def factOf (now : UInt64) (entry : BatchAttestEntry) : Fact :=
  .attested (Entry.pairOf entry) now entry.ttlSeconds

/-- What a call establishes when it succeeds; a batch counts entry by entry. -/
def Step.facts (step : Step) : List Fact :=
  match step.call with
  | .attest _ entry => [factOf step.env.ledger.timestamp entry]
  | .attestBatch _ entries => entries.map (factOf step.env.ledger.timestamp)
  | .revoke _ pair => [.revoked pair]
  | _ => []

def committedFacts (visit : World × Step) : List Fact :=
  if visit.2.succeeds visit.1 then visit.2.facts else []

def journalFrom (world : World) (steps : List Step) : List Fact :=
  Machine.outputs World.step committedFacts world steps

def journal (steps : List Step) : List Fact := journalFrom World.deployed steps

/-- How a fact changes the expiry a pair stands under. -/
def Fact.effect (pair : Pair) : Fact → Option (Option UInt64)
  | .attested other issuedAt ttlSeconds =>
      if other = pair then some (some (saturatingAdd issuedAt ttlSeconds)) else none
  | .revoked other => if other = pair then some none else none

theorem Fact.effect_eq_none_iff {pair : Pair} (fact : Fact) :
    fact.effect pair = none ↔
      (∀ issuedAt ttlSeconds, fact ≠ .attested pair issuedAt ttlSeconds) ∧
        fact ≠ .revoked pair := by
  cases fact with
  | attested other issuedAt ttlSeconds => simp [Fact.effect]
  | revoked other => simp [Fact.effect]

theorem Fact.effect_eq_some_some_iff {pair : Pair} (fact : Fact) (expiry : UInt64) :
    fact.effect pair = some (some expiry) ↔
      ∃ issuedAt ttlSeconds, fact = .attested pair issuedAt ttlSeconds ∧
        saturatingAdd issuedAt ttlSeconds = expiry := by
  cases fact with
  | attested other issuedAt ttlSeconds =>
      by_cases same : other = pair
      · simp [Fact.effect, same]
      · simp [Fact.effect, same]
  | revoked other => simp [Fact.effect]

/-! ## The stored record as a register -/

def standing (pair : Pair) (world : World) : Option UInt64 :=
  match Storage.getAttestation pair world with
  | some attestation =>
      if attestation.status = .active then some attestation.expiresAt else none
  | none => none

theorem isValidAt_iff (now : UInt64) (pair : Pair) (world : World) :
    Entry.isValidAt now pair world = true ↔
      ∃ expiry, standing pair world = some expiry ∧ now < expiry := by
  unfold Entry.isValidAt standing
  cases Storage.getAttestation pair world with
  | none => simp
  | some attestation =>
      cases status : attestation.status with
      | active => simp [status]
      | revoked => simp [status]

theorem isValid_ok {pair : Pair} {env : Env} {world later : World} {valid : Bool} :
    Entry.isValid pair env world = (.ok valid, later) ↔
      Entry.isValidAt env.ledger.timestamp pair world = valid ∧ later = world := by
  simp only [Entry.isValid, Program.bind_ok, Program.ask_ok, Program.inspect_ok]
  constructor
  · rintro ⟨_, _, ⟨rfl, rfl⟩, valid, same⟩
    exact ⟨valid, same⟩
  · rintro ⟨valid, same⟩
    exact ⟨_, world, ⟨rfl, rfl⟩, valid, same⟩

theorem standing_of_attestation {before after : World} {pair : Pair}
    (same : Storage.getAttestation pair after = Storage.getAttestation pair before) :
    standing pair after = standing pair before := by
  simp only [standing, same]

theorem Recorded.standing_eq {env : Env} {attestor : Address}
    {entry : BatchAttestEntry} {before after : World}
    (recorded : Recorded env attestor entry before after) (pair : Pair) :
    standing pair after = ((factOf env.ledger.timestamp entry).effect pair).getD
      (standing pair before) := by
  have stored := recorded.wrote.stored pair
  by_cases named : Entry.pairOf entry = pair
  · subst pair
    rw [if_pos rfl] at stored
    simp [standing, stored, Entry.issued, factOf, Fact.effect]
  · rw [if_neg (Ne.symm named)] at stored
    simp [standing_of_attestation stored, factOf, Fact.effect, named]

theorem RecordedAll.standing_eq {env : Env} {attestor : Address}
    {entries : List BatchAttestEntry} {before after : World}
    (recorded : RecordedAll env attestor entries before after) (pair : Pair) :
    standing pair after = Register.replay (Fact.effect pair) (standing pair before)
      (entries.map (factOf env.ledger.timestamp)) := by
  induction recorded with
  | nil world => rfl
  | cons first _ ih =>
      rw [ih, List.map_cons, Register.replay_cons, first.standing_eq]

theorem Appended.standing_markRevoked {env : Env} {target : Pair}
    {attestation : Attestation} {before after : World}
    (write : Appended env target (Entry.markRevoked attestation) before after)
    (pair : Pair) :
    standing pair after =
      ((Fact.revoked target).effect pair).getD (standing pair before) := by
  have stored := write.wrote.stored pair
  by_cases named : target = pair
  · subst pair
    rw [if_pos rfl] at stored
    simp [standing, stored, Entry.markRevoked, Fact.effect]
  · rw [if_neg (Ne.symm named)] at stored
    simp [standing_of_attestation stored, Fact.effect, named]

theorem Step.facts_of_issues {step : Step} {attestor : Address}
    {entries : List BatchAttestEntry}
    (issues : step.call.issues = some (attestor, entries)) :
    step.facts = entries.map (factOf step.env.ledger.timestamp) := by
  obtain ⟨env, call⟩ := step
  rcases Call.issues_cases issues with ⟨entry, rfl, rfl⟩ | rfl
  · rfl
  · rfl

theorem Committed.standing_eq {env : Env} {call : Call} {before after : World}
    (committed : Committed env call before after) (pair : Pair) :
    standing pair after = Register.replay (Fact.effect pair) (standing pair before)
      (Step.facts ⟨env, call⟩) := by
  cases committed with
  | query readOnly => cases call <;> first | rfl | simp [Call.isQuery] at readOnly
  | initialized _ _ => rfl
  | administered _ _ write =>
      have same := standing_of_attestation (write.sameRecords.attestation pair)
      cases write <;> exact same
  | issued issues _ _ _ _ recorded =>
      rw [Step.facts_of_issues issues]
      exact recorded.standing_eq pair
  | revoked _ _ _ _ _ _ write => exact write.standing_markRevoked pair
  | renewed _ stored _ _ =>
      exact standing_of_attestation
        ((setAttestation_sameRecords env stored).attestation pair)
  | configured _ _ => rfl
  | rotated _ _ _ => rfl

/-- The record of a pair refines the register replayed from the journal. -/
theorem standing_run (pair : Pair) (world : World) (steps : List Step) :
    standing pair (world.run steps) =
      Register.replay (Fact.effect pair) (standing pair world)
        (journalFrom world steps) := by
  refine Register.view_run (Fact.effect pair) World.step committedFacts
    (standing pair) ?_ world steps
  intro current step
  rcases step_cases current step with ⟨failed, same⟩ | ⟨succeeded, committed⟩
  · rw [same, committedFacts, failed]
    rfl
  · rw [committedFacts, succeeded]
    exact committed.standing_eq pair

theorem standing_reached_iff (pair : Pair) (steps : List Step) (expiry : UInt64) :
    standing pair (reached steps) = some expiry ↔
      ∃ earlier later issuedAt ttlSeconds,
        journal steps = earlier ++ .attested pair issuedAt ttlSeconds :: later ∧
        saturatingAdd issuedAt ttlSeconds = expiry ∧
        (∀ issuedAgain ttlAgain, Fact.attested pair issuedAgain ttlAgain ∉ later) ∧
        Fact.revoked pair ∉ later := by
  have replayed : standing pair (reached steps) =
      Register.replay (Fact.effect pair) none (journal steps) :=
    standing_run pair World.deployed steps
  rw [replayed, Register.replay_eq_iff (Fact.effect pair) (by simp) (journal steps)]
  simp only [Fact.effect_eq_some_some_iff, Fact.effect_eq_none_iff]
  constructor
  · rintro ⟨earlier, _, later, split, ⟨issuedAt, ttlSeconds, rfl, sum⟩, silent⟩
    refine ⟨earlier, later, issuedAt, ttlSeconds, split, sum, ?_, ?_⟩
    · intro issuedAgain ttlAgain member
      exact (silent _ member).1 issuedAgain ttlAgain rfl
    · intro member
      exact (silent _ member).2 rfl
  · rintro ⟨earlier, later, issuedAt, ttlSeconds, split, sum, unissued, unrevoked⟩
    refine ⟨earlier, _, later, split, ⟨issuedAt, ttlSeconds, rfl, sum⟩, ?_⟩
    intro other member
    refine ⟨?_, ?_⟩
    · rintro issuedAgain ttlAgain rfl
      exact unissued issuedAgain ttlAgain member
    · rintro rfl
      exact unrevoked member

theorem standing_of_no_attest {pair : Pair} {world : World} {steps : List Step}
    (unissued : ∀ issuedAt ttlSeconds,
      Fact.attested pair issuedAt ttlSeconds ∉ journalFrom world steps)
    {expiry : UInt64} (stands : standing pair (world.run steps) = some expiry) :
    standing pair world = some expiry := by
  by_contra differs
  rw [standing_run, Register.replay_eq_iff (Fact.effect pair) differs] at stands
  obtain ⟨earlier, output, later, split, wrote, _⟩ := stands
  obtain ⟨issuedAt, ttlSeconds, rfl, _⟩ := (output.effect_eq_some_some_iff expiry).mp wrote
  exact unissued issuedAt ttlSeconds (by rw [split]; simp)

theorem isValidAt_reached_iff (steps : List Step) (pair : Pair) (now : UInt64) :
    Entry.isValidAt now pair (reached steps) = true ↔
      ∃ earlier later issuedAt ttlSeconds,
        journal steps = earlier ++ .attested pair issuedAt ttlSeconds :: later ∧
        (∀ issuedAgain ttlAgain, Fact.attested pair issuedAgain ttlAgain ∉ later) ∧
        Fact.revoked pair ∉ later ∧
        now.toNat < min (issuedAt.toNat + ttlSeconds.toNat) (2 ^ 64 - 1) := by
  rw [isValidAt_iff]
  constructor
  · intro valid
    obtain ⟨expiry, stands, alive⟩ := valid
    obtain ⟨earlier, later, issuedAt, ttlSeconds, split, rfl, unissued, unrevoked⟩ :=
      (standing_reached_iff pair steps expiry).mp stands
    rw [UInt64.lt_iff_toNat_lt, saturatingAdd_toNat] at alive
    exact ⟨earlier, later, issuedAt, ttlSeconds, split, unissued, unrevoked, alive⟩
  · intro last
    obtain ⟨earlier, later, issuedAt, ttlSeconds, split, unissued, unrevoked, alive⟩ := last
    refine ⟨saturatingAdd issuedAt ttlSeconds, ?_, ?_⟩
    · exact (standing_reached_iff pair steps _).mpr
        ⟨earlier, later, issuedAt, ttlSeconds, split, rfl, unissued, unrevoked⟩
    · rw [UInt64.lt_iff_toNat_lt, saturatingAdd_toNat]
      exact alive

/-- `is_valid` answers as the reference model does: the last fact of the pair is
an attest and its lifetime has not run out.  Only a fresh attest lengthens the
validity of a pair or revives a revoked one. -/
theorem isValid_refines_journal (steps : List Step) (pair : Pair) (env : Env) :
    (Entry.isValid pair env (reached steps) = (.ok true, reached steps) ↔
      ∃ earlier later issuedAt ttlSeconds,
        journal steps = earlier ++ .attested pair issuedAt ttlSeconds :: later ∧
        (∀ issuedAgain ttlAgain, Fact.attested pair issuedAgain ttlAgain ∉ later) ∧
        Fact.revoked pair ∉ later ∧
        env.ledger.timestamp.toNat <
          min (issuedAt.toNat + ttlSeconds.toNat) (2 ^ 64 - 1)) ∧
    (∀ more, (∀ issuedAt ttlSeconds,
        Fact.attested pair issuedAt ttlSeconds ∉ journalFrom (reached steps) more) →
      Entry.isValid pair env (reached (steps ++ more)) =
        (.ok true, reached (steps ++ more)) →
      Entry.isValid pair env (reached steps) = (.ok true, reached steps)) ∧
    (∀ more attestation, Storage.getAttestation pair (reached steps) = some attestation →
      attestation.status = .revoked →
      (∀ issuedAt ttlSeconds,
        Fact.attested pair issuedAt ttlSeconds ∉ journalFrom (reached steps) more) →
      Entry.isValid pair env (reached (steps ++ more)) =
        (.ok false, reached (steps ++ more))) := by
  simp only [isValid_ok, and_true, reached_append]
  refine ⟨?_, ?_, ?_⟩
  · exact isValidAt_reached_iff steps pair env.ledger.timestamp
  · intro more unissued valid
    obtain ⟨expiry, stands, alive⟩ := (isValidAt_iff _ _ _).mp valid
    exact (isValidAt_iff _ _ _).mpr
      ⟨expiry, standing_of_no_attest unissued stands, alive⟩
  · intro more attestation stored revoked unissued
    apply Bool.eq_false_iff.mpr
    intro valid
    obtain ⟨expiry, stands, _⟩ := (isValidAt_iff _ _ _).mp valid
    have before := standing_of_no_attest unissued stands
    simp [standing, stored, revoked] at before

end AnchorKit.Contract
