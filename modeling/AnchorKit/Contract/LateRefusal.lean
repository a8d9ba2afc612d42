import AnchorKit.Contract.Batch
import AnchorKit.Contract.Count

/-!
# A batch that is refused after it has written

`attest_batch` goes through its entries twice.  The first loop repeats two of the
checks of `record_attestation`; the third one, the TTL cap, is made in the second
loop only, when the entries before have been written and announced.
-/

set_option autoImplicit false

namespace AnchorKit.Contract

open AnchorKit.Base AnchorKit.Base.MachineInt

/-- The checks of the first loop. -/
def Validated (entry : BatchAttestEntry) : Prop :=
  entry.ttlSeconds ≠ 0 ∧
    entry.attestationType.chars.length ≤ Entry.maxAttestationTypeLen

/-- The check that only `record_attestation` makes. -/
def WithinCap (world : World) (entry : BatchAttestEntry) : Prop :=
  entry.ttlSeconds ≤ Storage.getMaxAttestationTtl entry.attestationType world

/-- The count and the history counters can take all the entries. -/
structure RoomFor (world : World) (entries : List BatchAttestEntry) : Prop where
  count : (Storage.getAttestationCount world).toNat + entries.length ≤ u64Max
  sequences : ∀ pair, (Storage.getAttestationSeq pair world).toNat +
    entries.countP (fun entry => Entry.pairOf entry = pair) ≤ u64Max

/-- Everything is in order except for an entry above its cap, and that entry is not
the first one. -/
structure RefusedLate (env : Env) (attestor : Address) (entries : List BatchAttestEntry)
    (world : World) : Prop where
  gates : MayAttest env attestor world
  validated : ∀ entry ∈ entries, Validated entry
  split : ∃ written entry rest, entries = written ++ entry :: rest ∧ written ≠ [] ∧
    (∀ early ∈ written, WithinCap world early) ∧ RoomFor world written ∧
    ¬ WithinCap world entry

section Recording

variable {env : Env} {attestor : Address} {before after world later : World}
  {entry : BatchAttestEntry} {entries : List BatchAttestEntry}

theorem SameGovernance.withinCap_iff (same : SameGovernance before after) :
    WithinCap after entry ↔ WithinCap before entry := by
  rw [WithinCap, WithinCap, same.getMaxAttestationTtl]

theorem Recorded.sequence (recorded : Recorded env attestor entry before after) (pair : Pair) :
    (Storage.getAttestationSeq pair after).toNat =
      (Storage.getAttestationSeq pair before).toNat +
        if Entry.pairOf entry = pair then 1 else 0 := by
  by_cases named : Entry.pairOf entry = pair
  · subst named
    rw [if_pos rfl]
    exact recorded.wrote.advanced
  · rw [if_neg named, recorded.wrote.unmoved pair (Ne.symm named), Nat.add_zero]

theorem roomFor_nil (world : World) : RoomFor world [] where
  count := toNat_le_u64Max _
  sequences _ := toNat_le_u64Max _

theorem Recorded.roomFor_iff (recorded : Recorded env attestor entry before after) :
    RoomFor before (entry :: entries) ↔ RoomFor after entries := by
  have counted := (RecordedAll.cons recorded (.nil after)).count
  simp only [List.length_singleton] at counted
  constructor
  · intro room
    refine ⟨?_, ?_⟩
    · have total := room.count
      simp only [List.length_cons] at total
      omega
    · intro pair
      have total := room.sequences pair
      have moved := recorded.sequence pair
      simp only [List.countP_cons, decide_eq_true_eq] at total
      omega
  · intro room
    refine ⟨?_, ?_⟩
    · have total := room.count
      simp only [List.length_cons]
      omega
    · intro pair
      have total := room.sequences pair
      have moved := recorded.sequence pair
      simp only [List.countP_cons, decide_eq_true_eq]
      omega

theorem exists_recorded (env : Env) (attestor : Address) (validated : Validated entry)
    (capped : WithinCap world entry) (room : RoomFor world (entry :: entries)) :
    ∃ later, Recorded env attestor entry world later := by
  have sequenceRoom := room.sequences (Entry.pairOf entry)
  have countRoom := room.count
  simp only [List.countP_cons, List.length_cons, decide_true, if_true] at sequenceRoom countRoom
  have one : (1 : UInt64).toNat = 1 := rfl
  obtain ⟨sequence, advanced⟩ := Option.isSome_iff_exists.mp
    (checkedAdd_isSome_iff.mpr
      (by omega : (Storage.getAttestationSeq (Entry.pairOf entry) world).toNat +
        (1 : UInt64).toNat ≤ u64Max))
  obtain ⟨count, counted⟩ := Option.isSome_iff_exists.mp
    (checkedAdd_isSome_iff.mpr
      (by omega : (Storage.getAttestationCount world).toNat + (1 : UInt64).toNat ≤ u64Max))
  exact ⟨_, validated.1, validated.2, capped, _, count, ⟨sequence, advanced, rfl⟩, counted, rfl⟩

theorem exists_recordedAll_iff (env : Env) (attestor : Address)
    (validated : ∀ entry ∈ entries, Validated entry) :
    (∃ later, RecordedAll env attestor entries world later) ↔
      (∀ entry ∈ entries, WithinCap world entry) ∧ RoomFor world entries := by
  induction entries generalizing world with
  | nil => exact ⟨fun _ => ⟨by simp, roomFor_nil world⟩, fun _ => ⟨world, .nil world⟩⟩
  | cons first rest ih =>
      have others : ∀ entry ∈ rest, Validated entry := fun entry member =>
        validated entry (List.mem_cons_of_mem _ member)
      constructor
      · intro ⟨later, recorded⟩
        cases recorded with
        | @cons _ _ _ middle _ written remaining =>
            obtain ⟨capped, room⟩ := (ih others).mp ⟨later, remaining⟩
            refine ⟨List.forall_mem_cons.mpr ⟨written.capped, ?_⟩, written.roomFor_iff.mpr room⟩
            intro entry member
            exact written.sameGovernance.withinCap_iff.mp (capped entry member)
      · intro ⟨capped, room⟩
        obtain ⟨cappedFirst, cappedRest⟩ := List.forall_mem_cons.mp capped
        obtain ⟨middle, written⟩ := exists_recorded env attestor
          (validated first List.mem_cons_self) cappedFirst room
        obtain ⟨later, remaining⟩ := (ih others).mpr
          ⟨fun entry member => written.sameGovernance.withinCap_iff.mpr (cappedRest entry member),
            written.roomFor_iff.mp room⟩
        exact ⟨later, .cons written remaining⟩

theorem RecordedAll.announced (recorded : RecordedAll env attestor entries before after) :
    after.events.length = before.events.length + entries.length := by
  induction recorded with
  | nil world => rfl
  | @cons entry rest before middle after first others ih =>
      obtain ⟨appended, count, ⟨sequence, _, rfl⟩, _, rfl⟩ := first.written
      rw [ih, List.length_cons]
      simp only [World.emit, List.length_append, List.length_singleton]
      change before.events.length + 1 + rest.length = _
      omega

theorem RecordedAll.changes (recorded : RecordedAll env attestor entries before after)
    (nonempty : entries ≠ []) : after ≠ before := by
  intro same
  have announced := recorded.announced
  rw [same] at announced
  have positive := List.length_pos_iff.mpr nonempty
  omega

end Recording

section Refusal

variable {env : Env} {attestor : Address} {world later : World} {code : Error}
  {entry : BatchAttestEntry} {entries : List BatchAttestEntry}

theorem validateEntry_readOnly (entry : BatchAttestEntry) :
    (Entry.validateEntry entry).ReadOnly :=
  .bind (ensureNot_readOnly _ _) fun _ => ensureNot_readOnly _ _

theorem pushAttestationHistory_onlyAborts (pair : Pair) (attestation : Attestation) :
    (Storage.pushAttestationHistory pair attestation).OnlyFails .abort :=
  .bind (.bind (.inspect _) fun _ => .bind (.someOr _) fun _ =>
    .bind (.of_neverFails (.update _)) fun _ => .of_neverFails (.pure _))
    fun _ => .of_neverFails (.update _)

theorem bumpAttestationCount_onlyAborts : Storage.bumpAttestationCount.OnlyFails .abort :=
  .bind (.inspect _) fun _ => .bind (.someOr _) fun _ =>
    .bind (.of_neverFails (.update _)) fun _ => .of_neverFails (.pure _)

/-- For a validated entry `record_attestation` returns an error only at the cap, before
its first write; what can still fail after it aborts. -/
theorem recordAttestation_refused_iff (validated : Validated entry) :
    Entry.recordAttestation attestor entry env world = (.error (.error code), later) ↔
      ¬ WithinCap world entry ∧ code = .exceedsMaxTtl ∧ later = world := by
  have positive : ensureNot (entry.ttlSeconds == 0) .invalidExpiration env world =
      (.ok (), world) := by
    simpa using validated.1
  have short : Entry.validateAttestationType entry.attestationType env world =
      (.ok (), world) := by
    simpa [Entry.validateAttestationType] using validated.2
  have read : (Program.inspect (Storage.getMaxAttestationTtl entry.attestationType) :
      HostM _) env world =
      (.ok (Storage.getMaxAttestationTtl entry.attestationType world), world) := rfl
  rw [Entry.recordAttestation, Program.bind_of_ok positive, Program.bind_of_ok short,
    Program.bind_of_ok read]
  by_cases capped : WithinCap world entry
  · have passed : ensureNot (decide
        (Storage.getMaxAttestationTtl entry.attestationType world < entry.ttlSeconds))
        .exceedsMaxTtl env world = (.ok (), world) := by
      simpa [WithinCap] using capped
    rw [Program.bind_of_ok passed]
    constructor
    · intro run
      have aborts : Failure.error code = .abort := by
        refine Program.OnlyFails.bind (.of_neverFails fun env state => ⟨_, state, rfl⟩)
          (fun _ => .bind (.of_neverFails (.update _)) fun _ =>
            .bind (pushAttestationHistory_onlyAborts _ _) fun _ =>
              .bind bumpAttestationCount_onlyAborts fun _ => .of_neverFails (.update _))
          env world _ later run
      cases aborts
    · intro refusal
      exact absurd capped refusal.1
  · have refused : ensureNot (decide
        (Storage.getMaxAttestationTtl entry.attestationType world < entry.ttlSeconds))
        .exceedsMaxTtl env world = (.error (.error .exceedsMaxTtl), world) := by
      have above : Storage.getMaxAttestationTtl entry.attestationType world <
          entry.ttlSeconds := UInt64.not_le.mp capped
      simp only [ensureNot, above, decide_true]
      rfl
    rw [Program.bind_of_error refused]
    constructor
    · intro same
      cases same
      exact ⟨capped, rfl, rfl⟩
    · intro refusal
      rw [refusal.2.1, refusal.2.2]

theorem requireAuth_readOnly (address : Address) : (requireAuth address).ReadOnly :=
  .bind (.ask _) fun _ => .rejectIf _ _

theorem attestBatch_eq (gates : MayAttest env attestor world) (nonempty : entries ≠ [])
    (validated : ∀ entry ∈ entries, Validated entry) :
    Entry.attestBatch attestor entries env world =
      (forM entries (Entry.recordAttestation attestor)) env world := by
  have paused : (Program.inspect Storage.isPaused : HostM _) env world = (.ok false, world) := by
    simpa using gates.running
  have running : ensureNot false .contractPaused env world = (.ok (), world) := rfl
  have authorised : requireAuth attestor env world = (.ok (), world) := by
    simpa using gates.authorised
  have listed : (Program.inspect (Storage.isAttestor attestor) : HostM _) env world =
      (.ok true, world) := by
    simpa using gates.listed
  have known : ensureNot (!true) .attestorNotRegistered env world = (.ok (), world) := rfl
  have filled : ensureNot entries.isEmpty .emptyBatch env world = (.ok (), world) := by
    simpa using nonempty
  have checked : (forM entries Entry.validateEntry) env world = (.ok ⟨⟩, world) :=
    validateEntries_ok.mpr ⟨validated, rfl⟩
  rw [Entry.attestBatch, Program.bind_of_ok paused, Program.bind_of_ok running,
    Program.bind_of_ok authorised, Program.bind_of_ok listed, Program.bind_of_ok known,
    Program.bind_of_ok filled, Program.bind_of_ok checked]

theorem attestBatch_error (run : Entry.attestBatch attestor entries env world =
      (.error (.error code), later)) :
    later = world ∨ MayAttest env attestor world ∧ (∀ entry ∈ entries, Validated entry) ∧
      (forM entries (Entry.recordAttestation attestor)) env world =
        (.error (.error code), later) := by
  rcases Program.ReadOnly.bind_error (.inspect _) run with
    clean | ⟨paused, readPaused, run⟩
  · exact Or.inl clean
  rcases (ensureNot_readOnly _ _).bind_error run with clean | ⟨_, running, run⟩
  · exact Or.inl clean
  rcases (requireAuth_readOnly _).bind_error run with clean | ⟨_, authorised, run⟩
  · exact Or.inl clean
  rcases Program.ReadOnly.bind_error (.inspect _) run with
    clean | ⟨listed, readListed, run⟩
  · exact Or.inl clean
  rcases (ensureNot_readOnly _ _).bind_error run with clean | ⟨_, known, run⟩
  · exact Or.inl clean
  rcases (ensureNot_readOnly _ _).bind_error run with clean | ⟨_, _, run⟩
  · exact Or.inl clean
  rcases (Program.ReadOnly.forM validateEntry_readOnly entries).bind_error run with
    clean | ⟨_, checked, run⟩
  · exact Or.inl clean
  have gates : MayAttest env attestor world := by
    simp only [Program.inspect_ok, and_true, ensureNot_ok, requireAuth_ok,
      Bool.not_eq_eq_eq_not, Bool.not_false] at readPaused running authorised readListed known
    exact ⟨readPaused.trans running, authorised, readListed.trans known⟩
  exact Or.inr ⟨gates, (validateEntries_ok.mp checked).1, run⟩

end Refusal

/-- A batch that returns an error has written nothing and announced nothing, unless
what it is refused for is the cap of an entry after the first. -/
theorem batch_error_clean_iff (world : World) (env : Env) (attestor : Address)
    (entries : List BatchAttestEntry) :
    (∀ code later, Entry.attestBatch attestor entries env world =
        (.error (.error code), later) → later = world) ↔
      ¬ RefusedLate env attestor entries world := by
  constructor
  · intro clean refused
    obtain ⟨written, entry, rest, split, nonempty, capped, room, above⟩ := refused.split
    have validated := refused.validated
    rw [split] at validated
    obtain ⟨early, others⟩ := List.forall_mem_append.mp validated
    have valid := others entry List.mem_cons_self
    obtain ⟨middle, recorded⟩ :=
      (exists_recordedAll_iff env attestor early).mpr ⟨capped, room⟩
    have stillAbove : ¬ WithinCap middle entry := by
      rw [recorded.sameGovernance.withinCap_iff]
      exact above
    have failed : (forM entries (Entry.recordAttestation attestor)) env world =
        (.error (.error .exceedsMaxTtl), middle) :=
      Program.forM_error_iff.mpr ⟨written, entry, rest, middle, split,
        recordedAll_iff.mpr recorded,
        (recordAttestation_refused_iff valid).mpr ⟨stillAbove, rfl, rfl⟩⟩
    rw [← attestBatch_eq refused.gates (by simp [split]) refused.validated] at failed
    exact recorded.changes nonempty (clean _ middle failed)
  · intro timely code later run
    rcases attestBatch_error run with clean | ⟨gates, validated, failed⟩
    · exact clean
    · obtain ⟨written, entry, rest, middle, split, looped, stopped⟩ :=
        Program.forM_error_iff.mp failed
      have recorded := recordedAll_iff.mp looped
      have valid := validated entry (by simp [split])
      obtain ⟨above, _, unchanged⟩ := (recordAttestation_refused_iff valid).mp stopped
      rw [unchanged]
      by_cases first : written = []
      · subst first
        cases recorded
        rfl
      · have early : ∀ entry ∈ written, Validated entry := fun entry member =>
          validated entry (by simp [split, member])
        obtain ⟨capped, room⟩ := (exists_recordedAll_iff env attestor early).mp ⟨middle, recorded⟩
        rw [recorded.sameGovernance.withinCap_iff] at above
        exact absurd ⟨gates, validated, written, entry, rest, split, first, capped, room, above⟩
          timely

theorem second_entry_above_cap_writes_first :
    ∃ later, Entry.attestBatch ⟨1⟩ [sampleEntry 200, sampleEntry 366] sampleEnv
        (reached sampleDeployment) = (.error (.error .exceedsMaxTtl), later) ∧
      later.events.length = (reached sampleDeployment).events.length + 1 ∧
      (Storage.getAttestation (⟨2⟩, sampleType) (reached sampleDeployment)).isSome = false ∧
      (Storage.getAttestation (⟨2⟩, sampleType) later).isSome = true := by
  refine ⟨(Entry.attestBatch ⟨1⟩ [sampleEntry 200, sampleEntry 366] sampleEnv
    (reached sampleDeployment)).2, ?_, ?_, ?_, ?_⟩
  · exact Prod.ext (by decide +kernel) rfl
  · decide +kernel
  · decide +kernel
  · decide +kernel

end AnchorKit.Contract
