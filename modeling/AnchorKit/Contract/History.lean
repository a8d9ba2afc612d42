import AnchorKit.Base.NumberedLog
import AnchorKit.Contract.Records
import Mathlib.Data.List.Chain

/-!
# The audit trail of a pair

The current record, the sequence counter and the history entries of a pair are
three stores for one append-only log.  `LogStep` is what may happen to the log
itself: an active entry is appended, or the last entry is repeated as revoked.
The contract simulates it, so what every `LogStep` preserves holds of the
history of every pair in every reachable world.
-/

set_option autoImplicit false

namespace AnchorKit.Contract

open AnchorKit.Base AnchorKit.Base.MachineInt

/-! ## The abstract log -/

/-- `later` repeats the active entry `earlier` as revoked. -/
structure HistoryEntry.Withdraws (later earlier : HistoryEntry) : Prop where
  active : earlier.status = .active
  revoked : later.status = .revoked
  attestor : later.attestor = earlier.attestor
  payloadHash : later.payloadHash = earlier.payloadHash
  issuedAt : later.issuedAt = earlier.issuedAt
  expiresAt : later.expiresAt = earlier.expiresAt

inductive LogStep (now : UInt64) (log : List HistoryEntry) :
    List HistoryEntry → Prop
  | kept : LogStep now log log
  | issued (entry : HistoryEntry) (active : entry.status = .active)
      (dated : entry.issuedAt = now) : LogStep now log (log ++ [entry])
  | revoked (last entry : HistoryEntry) (latest : log.getLast? = some last)
      (withdraws : entry.Withdraws last) : LogStep now log (log ++ [entry])

theorem LogStep.isPrefix {now : UInt64} {log grown : List HistoryEntry}
    (step : LogStep now log grown) : log <+: grown := by
  cases step with
  | kept => exact List.prefix_rfl
  | issued entry _ _ => exact List.prefix_append log [entry]
  | revoked _ entry _ _ => exact List.prefix_append log [entry]

/-- An entry is active unless it withdraws the one before it. -/
def HistoryEntry.Follows (earlier later : HistoryEntry) : Prop :=
  later.status = .active ∨ later.Withdraws earlier

structure Grammatical (log : List HistoryEntry) : Prop where
  starts : ∀ first ∈ log.head?, first.status = .active
  follows : log.IsChain HistoryEntry.Follows

theorem grammatical_nil : Grammatical [] where
  starts := by simp
  follows := List.isChain_nil

theorem Grammatical.push {log : List HistoryEntry} {entry : HistoryEntry}
    (grammatical : Grammatical log)
    (first : log = [] → entry.status = .active)
    (next : ∀ last ∈ log.getLast?, last.Follows entry) :
    Grammatical (log ++ [entry]) where
  starts := by
    cases log with
    | nil => simpa using first rfl
    | cons head rest => simpa using grammatical.starts
  follows := by
    refine List.isChain_append.mpr
      ⟨grammatical.follows, List.isChain_singleton entry, ?_⟩
    intro last isLast later isHead
    cases Option.some.inj isHead
    exact next last isLast

theorem LogStep.grammatical {now : UInt64} {log grown : List HistoryEntry}
    (step : LogStep now log grown) (grammatical : Grammatical log) :
    Grammatical grown := by
  cases step with
  | kept => exact grammatical
  | issued entry active _ =>
      exact grammatical.push (fun _ => active) fun _ _ => Or.inl active
  | revoked last entry latest withdraws =>
      refine grammatical.push ?_ ?_
      · rintro rfl
        simp at latest
      · intro other isLast
        cases Option.some.inj (latest.symm.trans isLast)
        exact Or.inr withdraws

/-- Issue times do not decrease along the log and none lies after `now`. -/
structure Dated (now : Nat) (log : List HistoryEntry) : Prop where
  sorted : log.Pairwise fun earlier later => earlier.issuedAt ≤ later.issuedAt
  past : ∀ entry ∈ log, entry.issuedAt.toNat ≤ now

theorem Dated.mono {now later : Nat} {log : List HistoryEntry}
    (dated : Dated now log) (elapsed : now ≤ later) : Dated later log :=
  ⟨dated.sorted, fun entry member => (dated.past entry member).trans elapsed⟩

theorem Dated.push {now : Nat} {log : List HistoryEntry} {entry : HistoryEntry}
    (dated : Dated now log)
    (newest : ∀ earlier ∈ log, earlier.issuedAt ≤ entry.issuedAt)
    (past : entry.issuedAt.toNat ≤ now) : Dated now (log ++ [entry]) where
  sorted := by
    refine List.pairwise_append.mpr
      ⟨dated.sorted, List.pairwise_singleton _ entry, ?_⟩
    intro earlier member later isLater
    cases List.mem_singleton.mp isLater
    exact newest earlier member
  past := by
    intro other member
    rcases List.mem_append.mp member with old | new
    · exact dated.past other old
    · cases List.mem_singleton.mp new
      exact past

theorem Dated.le_last {now : Nat} {log : List HistoryEntry} (dated : Dated now log)
    {last : HistoryEntry} (latest : log.getLast? = some last) :
    ∀ entry ∈ log, entry.issuedAt ≤ last.issuedAt := by
  obtain ⟨front, rfl⟩ := List.getLast?_eq_some_iff.mp latest
  intro entry member
  rcases List.mem_append.mp member with old | new
  · exact (List.pairwise_append.mp dated.sorted).2.2 entry old last (by simp)
  · cases List.mem_singleton.mp new
    exact UInt64.le_refl _

theorem LogStep.dated {now : UInt64} {log grown : List HistoryEntry}
    (step : LogStep now log grown) (dated : Dated now.toNat log) :
    Dated now.toNat grown := by
  cases step with
  | kept => exact dated
  | issued entry _ issuedNow =>
      refine dated.push ?_ (by rw [issuedNow])
      intro earlier member
      rw [issuedNow]
      exact UInt64.le_iff_toNat_le.mpr (dated.past earlier member)
  | revoked last entry latest withdraws =>
      have lastMember := List.mem_of_getLast? latest
      refine dated.push ?_ ?_
      · rw [withdraws.issuedAt]
        exact dated.le_last latest
      · rw [withdraws.issuedAt]
        exact dated.past last lastMember

/-! ## The stores of a pair stand for its log -/

structure Audited (world : World) (pair : Pair) (log : List HistoryEntry) : Prop where
  represents : NumberedLog.Represents (Storage.getAttestationSeq pair world)
    (fun number => Storage.getHistoryEntry pair number world) log
  numbered : ∀ index entry, log[index]? = some entry →
    entry.sequence.toNat = index + 1
  current : log.getLast? = (Storage.getAttestation pair world).map
    (Storage.historyEntry (Storage.getAttestationSeq pair world))

theorem deployed_audited (pair : Pair) : Audited World.deployed pair [] where
  represents := NumberedLog.represents_empty fun _ => rfl
  numbered := by simp
  current := rfl

theorem SameRecords.audited {before after : World} (same : SameRecords before after)
    {pair : Pair} {log : List HistoryEntry} (audited : Audited before pair log) :
    Audited after pair log where
  represents := by
    simpa only [same.sequence, same.history] using audited.represents
  numbered := audited.numbered
  current := by
    rw [same.attestation, same.sequence]
    exact audited.current

theorem Wrote.audited_of_ne {pair other : Pair} {attestation : Attestation}
    {before after : World} (wrote : Wrote pair attestation before after)
    (different : other ≠ pair) {log : List HistoryEntry}
    (audited : Audited before other log) : Audited after other log where
  represents := by
    simpa [wrote.unmoved other different, wrote.logged, different] using
      audited.represents
  numbered := audited.numbered
  current := by
    rw [wrote.stored, if_neg different, wrote.unmoved other different]
    exact audited.current

theorem Wrote.audited {pair : Pair} {attestation : Attestation}
    {before after : World} (wrote : Wrote pair attestation before after)
    {log : List HistoryEntry} (audited : Audited before pair log) :
    Audited after pair (log ++
      [Storage.historyEntry (Storage.getAttestationSeq pair after) attestation]) where
  represents := by
    refine NumberedLog.represents_push audited.represents wrote.advanced ?_
    intro number
    rw [wrote.logged]
    by_cases fresh : number = Storage.getAttestationSeq pair after
    · simp [fresh]
    · simp [fresh]
  numbered := by
    intro index entry found
    rw [List.getElem?_append] at found
    split at found
    · exact audited.numbered index entry found
    · rename_i beyond
      have position : index = log.length := by
        have bound := (List.getElem?_eq_some_iff.mp found).1
        simp only [List.length_singleton] at bound
        omega
      subst index
      simp only [Nat.sub_self, List.getElem?_cons_zero, Option.some.injEq] at found
      subst entry
      change (Storage.getAttestationSeq pair after).toNat = log.length + 1
      rw [wrote.advanced, audited.represents.counted]
  current := by
    rw [wrote.stored, if_pos rfl]
    simp

/-- The contract simulates the abstract log of every pair. -/
theorem RecordStep.logStep {env : Env} {before after : World}
    (step : RecordStep env before after) {pair : Pair} {log : List HistoryEntry}
    (audited : Audited before pair log) :
    ∃ grown, LogStep env.ledger.timestamp log grown ∧ Audited after pair grown := by
  cases step with
  | kept same => exact ⟨log, .kept, same.audited audited⟩
  | issued attestor entry wrote _ =>
      by_cases named : pair = Entry.pairOf entry
      · subst pair
        exact ⟨_, .issued _ rfl rfl, wrote.audited audited⟩
      · exact ⟨log, .kept, wrote.audited_of_ne named audited⟩
  | revoked target attestation stored unrevoked wrote _ =>
      by_cases named : pair = target
      · subst pair
        have latest := audited.current
        rw [stored, Option.map_some] at latest
        have active : attestation.status = .active := by
          cases status : attestation.status with
          | active => rfl
          | revoked => exact absurd status unrevoked
        refine ⟨_, ?_, wrote.audited audited⟩
        exact .revoked _ _ latest ⟨active, rfl, rfl, rfl, rfl, rfl⟩
      · exact ⟨log, .kept, wrote.audited_of_ne named audited⟩

theorem run_audited (Good : List HistoryEntry → Prop)
    (preserved : ∀ now log grown, LogStep now log grown → Good log → Good grown)
    (pair : Pair) (steps : List Step) (world : World)
    (start : ∃ log, Audited world pair log ∧ Good log) :
    ∃ log, Audited (world.run steps) pair log ∧ Good log := by
  refine run_of_recordStep (fun current => ∃ log, Audited current pair log ∧ Good log)
    ?_ steps world start
  rintro env before after step ⟨log, audited, good⟩
  obtain ⟨grown, logStep, auditedAfter⟩ := step.logStep audited
  exact ⟨grown, auditedAfter, preserved _ log grown logStep good⟩

theorem reached_audited (steps : List Step) (pair : Pair) :
    ∃ log, Audited (reached steps) pair log ∧ Grammatical log :=
  run_audited Grammatical (fun _ _ _ step good => step.grammatical good) pair steps
    World.deployed ⟨[], deployed_audited pair, grammatical_nil⟩

theorem reached_dated (pair : Pair) (steps : List Step) (ordered : Ordered steps)
    (now : Nat) (past : ∀ step ∈ steps, step.env.ledger.timestamp.toNat ≤ now) :
    ∃ log, Audited (reached steps) pair log ∧ Dated now log := by
  induction steps using List.reverseRecOn generalizing now with
  | nil => exact ⟨[], deployed_audited pair, List.Pairwise.nil, by simp⟩
  | append_singleton earlier step ih =>
      obtain ⟨earlierOrdered, _, before⟩ := List.pairwise_append.mp ordered
      have reachedNow := ih earlierOrdered step.env.ledger.timestamp.toNat
        fun other member =>
          UInt64.le_iff_toNat_le.mp (before other member step (by simp))
      rw [reached_append_singleton]
      obtain ⟨log, audited, dated⟩ := recordSteps_preserve
        (fun world => ∃ log, Audited world pair log ∧
          Dated step.env.ledger.timestamp.toNat log)
        (by
          rintro world later recordStep ⟨log, audited, dated⟩
          obtain ⟨grown, logStep, auditedAfter⟩ := recordStep.logStep audited
          exact ⟨grown, auditedAfter, logStep.dated dated⟩)
        (step_recordSteps (reached earlier) step) reachedNow
      exact ⟨log, audited, dated.mono (past step (by simp))⟩

/-! ## Reading the log back from the stores -/

section Reading

variable {world : World} {pair : Pair} {log : List HistoryEntry}

theorem Audited.isSome_iff (audited : Audited world pair log) (number : UInt64) :
    (Storage.getHistoryEntry pair number world).isSome = true ↔
      1 ≤ number ∧ number ≤ Storage.getAttestationSeq pair world := by
  rw [NumberedLog.isSome_iff audited.represents number, UInt64.le_iff_toNat_le,
    UInt64.le_iff_toNat_le]
  rfl

theorem Audited.sequence_eq (audited : Audited world pair log) {number : UInt64}
    {entry : HistoryEntry}
    (found : Storage.getHistoryEntry pair number world = some entry) :
    entry.sequence = number := by
  obtain ⟨positive, located⟩ := NumberedLog.cell_eq_some audited.represents found
  have numbered := audited.numbered _ entry located
  apply UInt64.toNat_inj.mp
  omega

theorem Audited.latest (audited : Audited world pair log) :
    Storage.getHistoryEntry pair (Storage.getAttestationSeq pair world) world =
      (Storage.getAttestation pair world).map
        (Storage.historyEntry (Storage.getAttestationSeq pair world)) := by
  have last := NumberedLog.cell_counter audited.represents
  exact last.trans audited.current

theorem Audited.latest_of_stored (audited : Audited world pair log)
    {attestation : Attestation}
    (stored : Storage.getAttestation pair world = some attestation) :
    Storage.getHistoryEntry pair (Storage.getAttestationSeq pair world) world =
      some (Storage.historyEntry (Storage.getAttestationSeq pair world) attestation) := by
  rw [audited.latest, stored, Option.map_some]

theorem Audited.attestation_isSome_iff (audited : Audited world pair log) :
    (Storage.getAttestation pair world).isSome = true ↔
      1 ≤ Storage.getAttestationSeq pair world := by
  have mirrored := congrArg Option.isSome audited.latest
  rw [Option.isSome_map] at mirrored
  rw [← mirrored, audited.isSome_iff]
  simp

theorem Audited.withdraws (audited : Audited world pair log)
    (grammatical : Grammatical log) {number : UInt64} {entry : HistoryEntry}
    (found : Storage.getHistoryEntry pair number world = some entry)
    (revoked : entry.status = .revoked) :
    ∃ earlier, Storage.getHistoryEntry pair (number - 1) world = some earlier ∧
      entry.Withdraws earlier := by
  obtain ⟨positive, located⟩ := NumberedLog.cell_eq_some audited.represents found
  cases position : number.toNat - 1 with
  | zero =>
      rw [position, ← List.head?_eq_getElem?] at located
      have active := grammatical.starts entry located
      rw [revoked] at active
      contradiction
  | succ index =>
      rw [position] at located
      obtain ⟨inside, value⟩ := List.getElem?_eq_some_iff.mp located
      have follows := List.isChain_iff_getElem.mp grammatical.follows index inside
      rw [value] at follows
      have before : (number - 1).toNat = index + 1 := by
        rw [UInt64.toNat_sub_of_le _ _ (UInt64.le_iff_toNat_le.mpr (by
          change 1 ≤ number.toNat
          omega))]
        exact position
      refine ⟨log[index], ?_, ?_⟩
      · have read := NumberedLog.cell_of_getElem audited.represents index before
        rw [List.getElem?_eq_getElem (by omega)] at read
        exact read
      · rcases follows with active | withdraws
        · rw [revoked] at active
          contradiction
        · exact withdraws

theorem Audited.first_active (audited : Audited world pair log)
    (grammatical : Grammatical log) {first : HistoryEntry}
    (found : Storage.getHistoryEntry pair 1 world = some first) :
    first.status = .active := by
  have located := (NumberedLog.cell_eq_some audited.represents found).2
  exact grammatical.starts first (List.head?_eq_getElem?.trans located)

theorem Audited.not_both_revoked (audited : Audited world pair log)
    (grammatical : Grammatical log) {number : UInt64} {earlier later : HistoryEntry}
    (found : Storage.getHistoryEntry pair number world = some earlier)
    (foundNext : Storage.getHistoryEntry pair (number + 1) world = some later) :
    ¬ (earlier.status = .revoked ∧ later.status = .revoked) := by
  intro both
  obtain ⟨before, foundBefore, withdraws⟩ :=
    audited.withdraws grammatical foundNext both.2
  rw [UInt64.add_sub_cancel, found] at foundBefore
  cases Option.some.inj foundBefore
  have active := withdraws.active
  rw [both.1] at active
  contradiction

theorem Audited.issuedAt_le (audited : Audited world pair log) {now : Nat}
    (dated : Dated now log) {number other : UInt64} {earlier later : HistoryEntry}
    (notLater : number ≤ other)
    (found : Storage.getHistoryEntry pair number world = some earlier)
    (foundLater : Storage.getHistoryEntry pair other world = some later) :
    earlier.issuedAt ≤ later.issuedAt := by
  obtain ⟨positive, located⟩ := NumberedLog.cell_eq_some audited.represents found
  obtain ⟨_, locatedLater⟩ := NumberedLog.cell_eq_some audited.represents foundLater
  obtain ⟨inside, rfl⟩ := List.getElem?_eq_some_iff.mp located
  obtain ⟨insideLater, rfl⟩ := List.getElem?_eq_some_iff.mp locatedLater
  rcases Nat.eq_or_lt_of_le (UInt64.le_iff_toNat_le.mp notLater) with same | before
  · simp only [same]
    exact UInt64.le_refl _
  · exact List.pairwise_iff_getElem.mp dated.sorted _ _ inside insideLater (by omega)

theorem Audited.persists (audited : Audited world pair log) {later : World}
    {grown : List HistoryEntry} (auditedLater : Audited later pair grown)
    (extended : log <+: grown) {number : UInt64} {entry : HistoryEntry}
    (found : Storage.getHistoryEntry pair number world = some entry) :
    Storage.getHistoryEntry pair number later = some entry := by
  obtain ⟨positive, located⟩ := NumberedLog.cell_eq_some audited.represents found
  obtain ⟨tail, rfl⟩ := extended
  have inside := (List.getElem?_eq_some_iff.mp located).1
  have read : Storage.getHistoryEntry pair number later =
      (log ++ tail)[number.toNat - 1]? :=
    NumberedLog.cell_of_getElem auditedLater.represents _ (by omega)
  rw [read, List.getElem?_append_left inside]
  exact located

end Reading

theorem reached_history_persists (steps more : List Step) {pair : Pair}
    {number : UInt64} {entry : HistoryEntry}
    (found : Storage.getHistoryEntry pair number (reached steps) = some entry) :
    Storage.getHistoryEntry pair number (reached (steps ++ more)) = some entry := by
  obtain ⟨log, audited, _⟩ := reached_audited steps pair
  obtain ⟨grown, auditedLater, extended⟩ := run_audited (log <+: ·)
    (fun _ _ _ step kept => kept.trans step.isPrefix) pair more (reached steps)
    ⟨log, audited, List.prefix_rfl⟩
  rw [reached_append]
  exact audited.persists auditedLater extended found

/-- The history of a pair is append-only and numbered from one to its counter,
and the current record mirrors its last entry. -/
theorem history_append_only (steps more : List Step) (pair : Pair) :
    (∀ number, (Storage.getHistoryEntry pair number (reached steps)).isSome = true ↔
      1 ≤ number ∧ number ≤ Storage.getAttestationSeq pair (reached steps)) ∧
    (∀ number entry, Storage.getHistoryEntry pair number (reached steps) = some entry →
      entry.sequence = number) ∧
    ((Storage.getAttestation pair (reached steps)).isSome = true ↔
      1 ≤ Storage.getAttestationSeq pair (reached steps)) ∧
    (∀ attestation, Storage.getAttestation pair (reached steps) = some attestation →
      ∃ entry, Storage.getHistoryEntry pair
          (Storage.getAttestationSeq pair (reached steps)) (reached steps) = some entry ∧
        attestation.attestor = entry.attestor ∧
        attestation.payloadHash = entry.payloadHash ∧
        attestation.issuedAt = entry.issuedAt ∧
        attestation.expiresAt = entry.expiresAt ∧
        attestation.status = entry.status) ∧
    (∀ number entry, Storage.getHistoryEntry pair number (reached steps) = some entry →
      Storage.getHistoryEntry pair number (reached (steps ++ more)) = some entry) := by
  obtain ⟨log, audited, _⟩ := reached_audited steps pair
  refine ⟨audited.isSome_iff, fun _ _ => audited.sequence_eq,
    audited.attestation_isSome_iff, ?_,
    fun _ _ found => reached_history_persists steps more found⟩
  intro attestation stored
  exact ⟨_, audited.latest_of_stored stored, rfl, rfl, rfl, rfl, rfl⟩

/-- Every history starts active, a revoked entry repeats the active entry before
it, and issue times follow the ledger. -/
theorem history_grammar (steps : List Step) (pair : Pair) :
    (∀ first, Storage.getHistoryEntry pair 1 (reached steps) = some first →
      first.status = .active) ∧
    (∀ number earlier later,
      Storage.getHistoryEntry pair number (reached steps) = some earlier →
      Storage.getHistoryEntry pair (number + 1) (reached steps) = some later →
      ¬ (earlier.status = .revoked ∧ later.status = .revoked)) ∧
    (∀ number entry, Storage.getHistoryEntry pair number (reached steps) = some entry →
      entry.status = .revoked →
      ∃ earlier,
        Storage.getHistoryEntry pair (number - 1) (reached steps) = some earlier ∧
        earlier.status = .active ∧
        entry.attestor = earlier.attestor ∧
        entry.payloadHash = earlier.payloadHash ∧
        entry.issuedAt = earlier.issuedAt ∧
        entry.expiresAt = earlier.expiresAt) ∧
    (Ordered steps → ∀ number other earlier later, number ≤ other →
      Storage.getHistoryEntry pair number (reached steps) = some earlier →
      Storage.getHistoryEntry pair other (reached steps) = some later →
      earlier.issuedAt ≤ later.issuedAt) := by
  obtain ⟨log, audited, grammatical⟩ := reached_audited steps pair
  refine ⟨fun _ => audited.first_active grammatical,
    fun _ _ _ => audited.not_both_revoked grammatical, ?_, ?_⟩
  · intro number entry found revoked
    obtain ⟨earlier, foundBefore, withdraws⟩ := audited.withdraws grammatical found revoked
    exact ⟨earlier, foundBefore, withdraws.active, withdraws.attestor,
      withdraws.payloadHash, withdraws.issuedAt, withdraws.expiresAt⟩
  · intro ordered number other earlier later notLater found foundLater
    obtain ⟨datedLog, auditedDated, dated⟩ := reached_dated pair steps ordered u64Max
      fun step _ => toNat_le_u64Max step.env.ledger.timestamp
    exact auditedDated.issuedAt_le dated notLater found foundLater

end AnchorKit.Contract
