import AnchorKit.Contract.History
import Mathlib.Data.Set.Card

/-!
# The attestation count against the histories

The count is one number in instance storage; the active history entries are
spread over the histories of all pairs.  A push writes a slot its pair has never
used, so the set of active slots grows by that slot exactly when the count does.
-/

set_option autoImplicit false

namespace AnchorKit.Contract

open AnchorKit.Base AnchorKit.Base.MachineInt

/-- The history slots, over all pairs, that hold an active entry. -/
def activeSlots (world : World) : Set (Pair × UInt64) :=
  { slot | ∃ entry, Storage.getHistoryEntry slot.1 slot.2 world = some entry ∧
    entry.status = .active }

/-- How many attestations a successful call issues. -/
def Call.issuedCount : Call → Nat
  | .attest _ _ => 1
  | .attestBatch _ entries => entries.length
  | _ => 0

/-! ## The active slots -/

theorem SameRecords.activeSlots_eq {before after : World}
    (same : SameRecords before after) : activeSlots after = activeSlots before := by
  simp only [activeSlots, same.history]

theorem Wrote.mem_activeSlots_iff {pair : Pair} {attestation : Attestation}
    {before after : World} (wrote : Wrote pair attestation before after)
    (slot : Pair × UInt64) :
    slot ∈ activeSlots after ↔
      if slot = (pair, Storage.getAttestationSeq pair after) then
        attestation.status = .active
      else slot ∈ activeSlots before := by
  obtain ⟨other, number⟩ := slot
  simp only [activeSlots, Set.mem_ofPred_eq, wrote.logged, Prod.mk.injEq]
  by_cases written : other = pair ∧ number = Storage.getAttestationSeq pair after
  · simp [written, Storage.historyEntry]
  · simp [written]

theorem Wrote.fresh_slot {pair : Pair} {attestation : Attestation}
    {before after : World} (wrote : Wrote pair attestation before after)
    {log : List HistoryEntry} (audited : Audited before pair log) :
    (pair, Storage.getAttestationSeq pair after) ∉ activeSlots before := by
  rintro ⟨entry, found, _⟩
  have bounds := (audited.isSome_iff _).mp (Option.isSome_of_eq_some found)
  have bounded : (Storage.getAttestationSeq pair after).toNat ≤ _ :=
    UInt64.le_iff_toNat_le.mp bounds.2
  have advanced := wrote.advanced
  omega

theorem Wrote.activeSlots_of_active {pair : Pair} {attestation : Attestation}
    {before after : World} (wrote : Wrote pair attestation before after)
    (active : attestation.status = .active) :
    activeSlots after =
      insert (pair, Storage.getAttestationSeq pair after) (activeSlots before) := by
  ext slot
  rw [wrote.mem_activeSlots_iff, Set.mem_insert_iff]
  by_cases written : slot = (pair, Storage.getAttestationSeq pair after)
  · simp [written, active]
  · simp [written]

theorem Wrote.activeSlots_of_revoked {pair : Pair} {attestation : Attestation}
    {before after : World} (wrote : Wrote pair attestation before after)
    (revoked : attestation.status = .revoked)
    (fresh : (pair, Storage.getAttestationSeq pair after) ∉ activeSlots before) :
    activeSlots after = activeSlots before := by
  ext slot
  rw [wrote.mem_activeSlots_iff]
  by_cases written : slot = (pair, Storage.getAttestationSeq pair after)
  · subst slot
    simp [revoked, fresh]
  · simp [written]

/-! ## The count -/

def Counted (world : World) : Prop :=
  (activeSlots world).encard = (Storage.getAttestationCount world).toNat

theorem deployed_counted : Counted World.deployed := by
  have none : activeSlots World.deployed = ∅ := by
    ext slot
    simp [activeSlots, Storage.getHistoryEntry, World.deployed]
  rw [Counted, none, Set.encard_empty]
  rfl

theorem RecordStep.counted {env : Env} {before after : World}
    (step : RecordStep env before after)
    (audited : ∀ pair, ∃ log, Audited before pair log) (counted : Counted before) :
    Counted after := by
  unfold Counted at counted ⊢
  cases step with
  | kept same => rw [same.activeSlots_eq, same.count, counted]
  | issued attestor entry wrote grown =>
      obtain ⟨log, auditedPair⟩ := audited (Entry.pairOf entry)
      rw [wrote.activeSlots_of_active rfl,
        Set.encard_insert_of_notMem (wrote.fresh_slot auditedPair), counted, grown]
      rfl
  | revoked pair attestation _ _ wrote same =>
      obtain ⟨log, auditedPair⟩ := audited pair
      rw [wrote.activeSlots_of_revoked rfl (wrote.fresh_slot auditedPair), same, counted]

theorem reached_counted (steps : List Step) : Counted (reached steps) := by
  have both : (∀ pair, ∃ log, Audited (reached steps) pair log) ∧
      Counted (reached steps) := by
    refine run_of_recordStep
      (fun world => (∀ pair, ∃ log, Audited world pair log) ∧ Counted world)
      ?_ steps World.deployed
      ⟨fun pair => ⟨[], deployed_audited pair⟩, deployed_counted⟩
    rintro env before after step ⟨audited, counted⟩
    refine ⟨?_, step.counted audited counted⟩
    intro pair
    obtain ⟨log, auditedPair⟩ := audited pair
    obtain ⟨grown, _, auditedAfter⟩ := step.logStep auditedPair
    exact ⟨grown, auditedAfter⟩
  exact both.2

theorem Call.issuedCount_of_issues {call : Call} {attestor : Address}
    {entries : List BatchAttestEntry}
    (issues : call.issues = some (attestor, entries)) :
    call.issuedCount = entries.length := by
  rcases Call.issues_cases issues with ⟨entry, rfl, rfl⟩ | rfl
  · rfl
  · rfl

theorem RecordedAll.count {env : Env} {attestor : Address}
    {entries : List BatchAttestEntry} {before after : World}
    (recorded : RecordedAll env attestor entries before after) :
    (Storage.getAttestationCount after).toNat =
      (Storage.getAttestationCount before).toNat + entries.length := by
  induction recorded with
  | nil world => rfl
  | cons first _ ih =>
      obtain ⟨_, count, _, counted, rfl⟩ := first.written
      have grown : count.toNat = _ + 1 := checkedAdd_eq_some counted
      rw [ih, List.length_cons]
      change count.toNat + _ = _
      omega

theorem Committed.count {env : Env} {call : Call} {before after : World}
    (committed : Committed env call before after) :
    (Storage.getAttestationCount after).toNat =
      (Storage.getAttestationCount before).toNat + call.issuedCount := by
  cases committed with
  | query readOnly => cases call <;> first | rfl | simp [Call.isQuery] at readOnly
  | initialized _ _ => rfl
  | administered _ _ write => cases write <;> rfl
  | issued issues _ _ _ _ recorded =>
      rw [recorded.count, Call.issuedCount_of_issues issues]
  | revoked _ _ _ _ _ _ write =>
      exact congrArg (fun count => (count.getD 0).toNat) write.attestationCount
  | renewed _ _ _ _ => rfl
  | configured _ _ => rfl
  | rotated _ _ _ => rfl

/-- The count is the number of active history entries over all pairs, and grows
by what a successful call issues. -/
theorem count_agrees_with_history (steps : List Step) :
    (activeSlots (reached steps)).encard =
        (Storage.getAttestationCount (reached steps)).toNat ∧
      ∀ step, (Storage.getAttestationCount (reached (steps ++ [step]))).toNat =
        (Storage.getAttestationCount (reached steps)).toNat +
          if step.succeeds (reached steps) then step.call.issuedCount else 0 := by
  refine ⟨reached_counted steps, ?_⟩
  intro step
  rw [reached_append_singleton]
  rcases step_cases (reached steps) step with ⟨failed, same⟩ | ⟨succeeded, committed⟩
  · rw [same, failed]
    rfl
  · rw [committed.count, succeeded]
    rfl

end AnchorKit.Contract
