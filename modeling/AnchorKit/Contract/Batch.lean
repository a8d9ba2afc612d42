import AnchorKit.Contract.Records

/-!
# A batch is the sequence of its entries

`attest_batch` checks its gates once, validates every entry and then records
them.  Recording leaves the gates open, so the batch succeeds exactly when the
single calls do, one after the other, and leaves the same world: storage, rent
and events.
-/

set_option autoImplicit false

namespace AnchorKit.Contract

open AnchorKit.Base AnchorKit.Base.MachineInt

structure MayAttest (env : Env) (attestor : Address) (world : World) : Prop where
  running : Storage.isPaused world = false
  authorised : attestor ∈ env.auths
  listed : Storage.isAttestor attestor world = true

theorem MayAttest.of_sameGovernance {env : Env} {attestor : Address}
    {before after : World} (same : SameGovernance before after) :
    MayAttest env attestor after ↔ MayAttest env attestor before := by
  have paused : Storage.isPaused after = Storage.isPaused before := by
    simp only [Storage.isPaused, same.paused]
  have listed : Storage.isAttestor attestor after = Storage.isAttestor attestor before := by
    simp only [Storage.isAttestor, same.attestor]
  constructor
  · intro gates
    exact ⟨paused ▸ gates.running, gates.authorised, listed ▸ gates.listed⟩
  · intro gates
    exact ⟨paused.trans gates.running, gates.authorised, listed.trans gates.listed⟩

/-- The single calls that stand for a batch, all under one ledger header. -/
def singleCalls (env : Env) (attestor : Address) (entries : List BatchAttestEntry) :
    List Step :=
  entries.map fun entry => ⟨env, .attest attestor entry⟩

def AllSucceed (world : World) (steps : List Step) : Prop :=
  ∀ visit ∈ Machine.visits World.step world steps, visit.2.succeeds visit.1 = true

theorem allSucceed_cons {world : World} {step : Step} {rest : List Step} :
    AllSucceed world (step :: rest) ↔
      step.succeeds world = true ∧ AllSucceed (world.step step) rest := by
  simp [AllSucceed, Machine.visits]

section Calls

variable {env : Env} {attestor : Address} {world : World}

theorem step_ok_iff {step : Step} {after : World} :
    step.succeeds world = true ∧ world.step step = after ↔
      ∃ reply, invoke step.call step.env world = (.ok reply, after) := by
  rw [Step.succeeds, Program.succeeds_iff, World.step]
  constructor
  · rintro ⟨⟨reply, later, run⟩, rfl⟩
    exact ⟨reply, by rw [Program.commit_of_ok run, run]⟩
  · rintro ⟨reply, run⟩
    exact ⟨⟨reply, after, run⟩, Program.commit_of_ok run⟩

theorem attest_step_iff {entry : BatchAttestEntry} {after : World} :
    Step.succeeds world ⟨env, .attest attestor entry⟩ = true ∧
        world.step ⟨env, .attest attestor entry⟩ = after ↔
      MayAttest env attestor world ∧ Recorded env attestor entry world after := by
  rw [step_ok_iff]
  simp only [invoke, Program.bind_ok, Program.pure_ok, attest_ok]
  constructor
  · rintro ⟨_, _, _, ⟨running, authorised, listed, recorded⟩, _, rfl⟩
    exact ⟨⟨running, authorised, listed⟩, recorded⟩
  · rintro ⟨gates, recorded⟩
    exact ⟨.unit, (), after, ⟨gates.running, gates.authorised, gates.listed, recorded⟩,
      rfl, rfl⟩

/-- What decides whether an `attest` succeeds: the gates, the entry itself, and
whether both counters can still move. -/
theorem attest_succeeds_iff {entry : BatchAttestEntry} :
    Step.succeeds world ⟨env, .attest attestor entry⟩ = true ↔
      MayAttest env attestor world ∧ entry.ttlSeconds ≠ 0 ∧
        entry.attestationType.chars.length ≤ Entry.maxAttestationTypeLen ∧
        entry.ttlSeconds ≤ Storage.getMaxAttestationTtl entry.attestationType world ∧
        (checkedAdd (Storage.getAttestationSeq (Entry.pairOf entry) world) 1).isSome =
          true ∧
        (checkedAdd (Storage.getAttestationCount world) 1).isSome = true := by
  constructor
  · intro succeeded
    obtain ⟨gates, recorded⟩ := attest_step_iff.mp ⟨succeeded, rfl⟩
    obtain ⟨appended, count, ⟨sequence, advanced, _⟩, counted, _⟩ := recorded.written
    exact ⟨gates, recorded.positive, recorded.short, recorded.capped,
      Option.isSome_of_eq_some advanced, Option.isSome_of_eq_some counted⟩
  · rintro ⟨gates, positive, short, capped, advances, counts⟩
    obtain ⟨sequence, advanced⟩ := Option.isSome_iff_exists.mp advances
    obtain ⟨count, counted⟩ := Option.isSome_iff_exists.mp counts
    exact (attest_step_iff.mpr ⟨gates, positive, short, capped, _, count,
      ⟨sequence, advanced, rfl⟩, counted, rfl⟩).1

theorem RecordedAll.validated {entries : List BatchAttestEntry} {after : World}
    (recorded : RecordedAll env attestor entries world after) :
    ∀ entry ∈ entries, entry.ttlSeconds ≠ 0 ∧
      entry.attestationType.chars.length ≤ Entry.maxAttestationTypeLen := by
  induction recorded with
  | nil _ => simp
  | cons first _ ih =>
      exact List.forall_mem_cons.mpr ⟨⟨first.positive, first.short⟩, ih⟩

theorem attestBatch_step_iff {entries : List BatchAttestEntry} {after : World} :
    Step.succeeds world ⟨env, .attestBatch attestor entries⟩ = true ∧
        world.step ⟨env, .attestBatch attestor entries⟩ = after ↔
      MayAttest env attestor world ∧ entries ≠ [] ∧
        RecordedAll env attestor entries world after := by
  rw [step_ok_iff]
  simp only [invoke, Program.bind_ok, Program.pure_ok, attestBatch_ok]
  constructor
  · rintro ⟨_, _, _, ⟨running, authorised, listed, nonempty, _, recorded⟩, _, rfl⟩
    exact ⟨⟨running, authorised, listed⟩, nonempty, recorded⟩
  · rintro ⟨gates, nonempty, recorded⟩
    exact ⟨.unit, (), after, ⟨gates.running, gates.authorised, gates.listed, nonempty,
      recorded.validated, recorded⟩, rfl, rfl⟩

/-- The single calls record their entries one after the other; the gates, open
at the first call, stay open. -/
theorem singleCalls_iff (entries : List BatchAttestEntry) {after : World} :
    AllSucceed world (singleCalls env attestor entries) ∧
        world.run (singleCalls env attestor entries) = after ↔
      (entries ≠ [] → MayAttest env attestor world) ∧
        RecordedAll env attestor entries world after := by
  induction entries generalizing world with
  | nil =>
      constructor
      · rintro ⟨_, rfl⟩
        exact ⟨fun nonempty => absurd rfl nonempty, .nil world⟩
      · rintro ⟨_, ⟨⟩⟩
        exact ⟨by simp [AllSucceed, singleCalls, Machine.visits], rfl⟩
  | cons entry rest ih =>
      rw [singleCalls, List.map_cons, allSucceed_cons]
      constructor
      · rintro ⟨⟨succeeded, others⟩, final⟩
        obtain ⟨gates, first⟩ := attest_step_iff.mp ⟨succeeded, rfl⟩
        exact ⟨fun _ => gates, .cons first (ih.mp ⟨others, final⟩).2⟩
      · rintro ⟨gates, _ | @⟨_, _, _, middle, _, first, others⟩⟩
        have opened := gates (by simp)
        obtain ⟨succeeded, stepped⟩ := attest_step_iff.mpr ⟨opened, first⟩
        have openAfter := (MayAttest.of_sameGovernance first.sameGovernance).mpr opened
        obtain ⟨allOthers, final⟩ := ih.mpr ⟨fun _ => openAfter, others⟩
        subst stepped
        exact ⟨⟨succeeded, allOthers⟩, final⟩

end Calls

/-- `attest_batch` succeeds exactly when attesting its entries one by one does,
and then both leave the same world: records, histories, counters, count, rent
and events. -/
theorem batch_equals_sequence (steps : List Step) (env : Env) (attestor : Address)
    (entries : List BatchAttestEntry) (nonempty : entries ≠ []) :
    (Step.succeeds (reached steps) ⟨env, .attestBatch attestor entries⟩ = true ↔
      AllSucceed (reached steps) (singleCalls env attestor entries)) ∧
    (Step.succeeds (reached steps) ⟨env, .attestBatch attestor entries⟩ = true →
      (reached steps).step ⟨env, .attestBatch attestor entries⟩ =
        (reached steps).run (singleCalls env attestor entries)) := by
  have sequential : ∀ after,
      (Step.succeeds (reached steps) ⟨env, .attestBatch attestor entries⟩ = true ∧
        (reached steps).step ⟨env, .attestBatch attestor entries⟩ = after) ↔
      (AllSucceed (reached steps) (singleCalls env attestor entries) ∧
        (reached steps).run (singleCalls env attestor entries) = after) := by
    intro after
    rw [attestBatch_step_iff, singleCalls_iff]
    constructor
    · rintro ⟨gates, _, recorded⟩
      exact ⟨fun _ => gates, recorded⟩
    · rintro ⟨gates, recorded⟩
      exact ⟨gates nonempty, nonempty, recorded⟩
  refine ⟨⟨?_, ?_⟩, ?_⟩
  · intro succeeded
    exact ((sequential _).mp ⟨succeeded, rfl⟩).1
  · intro all
    exact ((sequential _).mpr ⟨all, rfl⟩).1
  · intro succeeded
    exact ((sequential _).mp ⟨succeeded, rfl⟩).2.symm

theorem batch_of_repeated_pair :
    AllSucceed (reached sampleDeployment)
        (singleCalls sampleEnv ⟨1⟩ [sampleEntry 200, sampleEntry 365]) ∧
      (reached sampleDeployment).step
          ⟨sampleEnv, .attestBatch ⟨1⟩ [sampleEntry 200, sampleEntry 365]⟩ =
        (reached sampleDeployment).run
          (singleCalls sampleEnv ⟨1⟩ [sampleEntry 200, sampleEntry 365]) := by
  have equal := batch_equals_sequence sampleDeployment sampleEnv ⟨1⟩
    [sampleEntry 200, sampleEntry 365] (by simp)
  have succeeds : Step.succeeds (reached sampleDeployment)
      ⟨sampleEnv, .attestBatch ⟨1⟩ [sampleEntry 200, sampleEntry 365]⟩ = true := by
    decide +kernel
  exact ⟨equal.1.mp succeeds, equal.2 succeeds⟩

end AnchorKit.Contract
