import AnchorKit.Base.Paging
import AnchorKit.Contract.Commute
import AnchorKit.Contract.History

/-!
# Pages of an attestation history

In a reachable world the history of a pair is a list stored under consecutive
numbers.  A page is a slice of that list, or of its reverse, and following the
sequence numbers from page to page walks all of it.

The forward loop runs over an open range, whose iterator adds one to every number it
yields.  A page that runs past the end asks for the number after the last entry, and
with 2^64 - 2 entries that one has no successor.
-/

set_option autoImplicit false

namespace AnchorKit.Contract

open AnchorKit.Base AnchorKit.Base.MachineInt AnchorKit.Base.Paging

def entriesBetween (pair : Pair) (world : World) (first last : Nat) :
    List (Option HistoryEntry) :=
  (List.range' first (last + 1 - first)).map fun number =>
    Storage.getHistoryEntry pair (UInt64.ofNat number) world

/-- A client's walk: pages of `limit` entries, each from the number next to that of
the last entry seen. -/
def historyWalk (env : Env) (world : World) (pair : Pair) (limit : UInt32)
    (reverse : Bool) (fuel : Nat) (start : UInt64) : Option (List HistoryEntry) :=
  Paging.walk
    (fun start => (Entry.listAttestationHistory pair start limit reverse env world).1.toOption)
    (fun last => if reverse then last.sequence - 1 else last.sequence + 1)
    fuel start

section Loops

variable {read : UInt64 → Option HistoryEntry} {total : UInt64} {log : List HistoryEntry}

theorem collectBackward_eq_slice (represents : NumberedLog.Represents total read log)
    (limit : Nat) {current : UInt64} (inside : current.toNat ≤ log.length) :
    Storage.collectBackward read limit current =
      slice log.reverse limit (log.length - current.toNat) := by
  induction limit generalizing current with
  | zero => simp [Storage.collectBackward, slice]
  | succ limit ih =>
      rw [Storage.collectBackward]
      by_cases zero : current = 0
      · subst zero
        simp [slice]
      · have positive : current.toNat ≠ 0 := by
          intro none
          exact zero (UInt64.toNat_inj.mp none)
        have below : current.toNat - 1 < log.length := by omega
        have down : (saturatingSub current 1).toNat = current.toNat - 1 :=
          saturatingSub_toNat current 1
        have cell : read current = some log[current.toNat - 1] := by
          rw [represents.stored current, if_neg positive, List.getElem?_eq_getElem below]
        have mirrored : log.reverse[log.length - current.toNat]? =
            some log[current.toNat - 1] := by
          rw [List.getElem?_reverse (by omega), ← List.getElem?_eq_getElem below]
          congr 1
          omega
        rw [if_neg zero, cell, ih (by omega), down, slice_succ mirrored]
        have next : log.length - (current.toNat - 1) = log.length - current.toNat + 1 := by
          omega
        rw [next]
        rfl

/-- The range is never asked for the number that has no successor. -/
def Roomy (total limit : Nat) (current : Nat) : Prop :=
  total + 2 < 2 ^ 64 ∨ current + limit < 2 ^ 64

theorem collectForward_eq_slice (represents : NumberedLog.Represents total read log)
    (limit : Nat) {current : UInt64} (positive : 1 ≤ current.toNat)
    (inside : current.toNat ≤ log.length + 1)
    (roomy : Roomy log.length limit current.toNat) :
    Storage.collectForward read total limit current =
      some (slice log limit (current.toNat - 1)) := by
  induction limit generalizing current with
  | zero => simp [Storage.collectForward, slice]
  | succ limit ih =>
      have fits : current.toNat + (1 : UInt64).toNat ≤ u64Max := by
        have one : (1 : UInt64).toNat = 1 := rfl
        unfold Roomy at roomy
        unfold u64Max
        omega
      obtain ⟨next, added⟩ := Option.isSome_iff_exists.mp (checkedAdd_isSome_iff.mpr fits)
      have up : next.toNat = current.toNat + 1 := checkedAdd_eq_some added
      rw [Storage.collectForward, added]
      dsimp only
      have counted := represents.counted
      by_cases past : total < current
      · have beyond : log.length ≤ current.toNat - 1 := by
          have above := UInt64.lt_iff_toNat_lt.mp past
          omega
        rw [if_pos past, (slice_eq_nil_iff (Nat.succ_pos limit)).mpr beyond]
      · have within : current.toNat - 1 < log.length := by
          have notAbove := UInt64.le_iff_toNat_le.mp (UInt64.not_lt.mp past)
          omega
        have cell : read current = log[current.toNat - 1]? := by
          rw [represents.stored current, if_neg (by omega)]
        have later : Roomy log.length limit next.toNat := by
          unfold Roomy at roomy ⊢
          omega
        rw [if_neg past, ih (by omega) (by omega) later, cell,
          List.getElem?_eq_getElem within, slice_succ (List.getElem?_eq_getElem within), up]
        have same : current.toNat + 1 - 1 = current.toNat - 1 + 1 := by omega
        rw [same]
        rfl

theorem collectForward_overflow (read : UInt64 → Option HistoryEntry) :
    Storage.collectForward read (UInt64.ofNat (2 ^ 64 - 2)) 2 (UInt64.ofNat (2 ^ 64 - 2)) =
      none := by
  rfl

end Loops

section Pages

variable {world : World} {pair : Pair} {log : List HistoryEntry}

theorem Audited.length_eq (audited : Audited world pair log) :
    (Storage.getAttestationSeq pair world).toNat = log.length :=
  audited.represents.counted

theorem Audited.entriesBetween_eq (audited : Audited world pair log) {first last : Nat}
    (positive : 1 ≤ first) (inside : last ≤ log.length) :
    entriesBetween pair world first last =
      (slice log (last + 1 - first) (first - 1)).map some := by
  apply List.ext_getElem?
  intro index
  rw [entriesBetween, List.getElem?_map, List.getElem?_map, slice, List.getElem?_take,
    List.getElem?_drop]
  by_cases listed : index < last + 1 - first
  · have bounded : first + index < 2 ^ 64 := by
      have counter := (Storage.getAttestationSeq pair world).toNat_lt
      have counted := audited.length_eq
      omega
    have number : (UInt64.ofNat (first + index)).toNat = first - 1 + index + 1 := by
      rw [UInt64.toNat_ofNat', Nat.mod_eq_of_lt bounded]
      omega
    have cell := NumberedLog.cell_of_getElem audited.represents (first - 1 + index) number
    have located : first - 1 + index < log.length := by omega
    rw [List.getElem?_range' listed, if_pos listed, Option.map_some, Nat.one_mul]
    rw [List.getElem?_eq_getElem located] at cell ⊢
    rw [cell, Option.map_some]
  · rw [if_neg listed, List.getElem?_eq_none (by simpa using listed)]
    rfl

theorem listAttestationHistory_of_page {startSeq : UInt64} {limit : UInt32} {reverse : Bool}
    {page : List HistoryEntry} (nonzero : limit ≠ 0) (env : Env)
    (found : Storage.historyPage pair startSeq limit reverse world = some page) :
    Entry.listAttestationHistory pair startSeq limit reverse env world =
      (.ok page, world) := by
  apply Program.bind_ok.mpr
  refine ⟨(), world, ?_, ?_⟩
  · simpa [ensureNot] using nonzero
  · apply Program.bind_ok.mpr
    exact ⟨some page, world, by simp [found], by simp⟩

theorem listAttestationHistory_of_overflow {startSeq : UInt64} {limit : UInt32}
    {reverse : Bool} {env : Env} (nonzero : limit ≠ 0)
    (overflow : Storage.historyPage pair startSeq limit reverse world = none) :
    Entry.listAttestationHistory pair startSeq limit reverse env world =
      (.error .abort, world) := by
  have passed : ensureNot (limit == 0) .invalidPagination env world = (.ok (), world) := by
    simpa [ensureNot] using nonzero
  have paged : (Program.inspect (Storage.historyPage pair startSeq limit reverse) :
      HostM _) env world = (.ok none, world) := by
    simpa using overflow
  rw [Entry.listAttestationHistory, Storage.listAttestationHistory,
    Program.bind_of_ok passed, Program.bind_of_ok paged]
  rfl

theorem historyPage_past_end {startSeq : UInt64} {limit : UInt32} {reverse : Bool}
    (past : Storage.getAttestationSeq pair world < startSeq) :
    Storage.historyPage pair startSeq limit reverse world = some [] := by
  rw [Storage.historyPage, if_pos (Or.inr past)]

theorem Audited.backward_page (audited : Audited world pair log) {startSeq : UInt64}
    (inside : startSeq.toNat ≤ log.length) (limit : UInt32) :
    Storage.historyPage pair startSeq limit true world =
      some (slice log.reverse limit.toNat (log.length - startSeq.toNat)) := by
  have counted := audited.length_eq
  rw [Storage.historyPage]
  by_cases empty : log.length = 0
  · have zero : Storage.getAttestationSeq pair world = 0 :=
      UInt64.toNat_inj.mp (counted.trans empty)
    have nothing : log = [] := List.length_eq_zero_iff.mp empty
    rw [if_pos (Or.inl zero), nothing]
    simp [slice]
  · rw [if_neg, if_pos rfl, collectBackward_eq_slice audited.represents _ inside]
    intro outside
    rcases outside with zero | past
    · exact empty (counted.symm.trans (congrArg UInt64.toNat zero))
    · have above := UInt64.lt_iff_toNat_lt.mp past
      omega

theorem Audited.forward_page (audited : Audited world pair log) {startSeq : UInt64}
    (positive : 1 ≤ startSeq.toNat) {limit : UInt32}
    (roomy : startSeq.toNat ≤ log.length → Roomy log.length limit.toNat startSeq.toNat) :
    Storage.historyPage pair startSeq limit false world =
      some (slice log limit.toNat (startSeq.toNat - 1)) := by
  have counted := audited.length_eq
  by_cases past : Storage.getAttestationSeq pair world < startSeq
  · have above := UInt64.lt_iff_toNat_lt.mp past
    rw [historyPage_past_end past, slice, List.drop_eq_nil_of_le (by omega)]
    simp
  · have inside : startSeq.toNat ≤ log.length := by
      have notAbove := UInt64.le_iff_toNat_le.mp (UInt64.not_lt.mp past)
      omega
    rw [Storage.historyPage, if_neg, if_neg (by simp)]
    · exact collectForward_eq_slice audited.represents _ positive (by omega) (roomy inside)
    · intro outside
      rcases outside with zero | above
      · have none : log.length = 0 := counted.symm.trans (congrArg UInt64.toNat zero)
        omega
      · exact past above

/-! ## Walks -/

theorem served_of_page {startSeq : UInt64} {limit : UInt32} {reverse : Bool}
    {page : List HistoryEntry} (nonzero : limit ≠ 0) (env : Env)
    (found : Storage.historyPage pair startSeq limit reverse world = some page) :
    (Entry.listAttestationHistory pair startSeq limit reverse env world).1.toOption =
      some page := by
  rw [listAttestationHistory_of_page nonzero env found]
  rfl

theorem Audited.toNat_sequence (audited : Audited world pair log) {index : Nat}
    {entry : HistoryEntry} (found : log[index]? = some entry) :
    entry.sequence.toNat = index + 1 ∧ index < log.length :=
  ⟨audited.numbered index entry found, (List.getElem?_eq_some_iff.mp found).1⟩

/-- The walk ends on full pages where the range has no room past the last entry. -/
def WalkFits (total limit : Nat) : Prop :=
  total + 2 < 2 ^ 64 ∨ limit ∣ total

/-- A number on the forward walk: the entries below it are behind it. -/
def ForwardAt (total limit position : Nat) (start : UInt64) : Prop :=
  start.toNat = position + 1 ∧ (total + 2 < 2 ^ 64 ∨ limit ∣ position)

def BackwardAt (total position : Nat) (start : UInt64) : Prop :=
  start.toNat + position = total

theorem full_page {limit position total : Nat} (aligned : limit ∣ position)
    (whole : limit ∣ total) (before : position < total) : position + limit ≤ total := by
  have rest : limit ∣ total - position := Nat.dvd_sub whole aligned
  have fits := Nat.le_of_dvd (by omega) rest
  omega

theorem Audited.forward_paged (audited : Audited world pair log) (env : Env)
    {limit : UInt32} (nonzero : limit ≠ 0) (bounded : log.length < 2 ^ 64 - 1)
    (fits : WalkFits log.length limit.toNat) :
    Paged
      (fun start => (Entry.listAttestationHistory pair start limit false env world).1.toOption)
      (fun last => if false then last.sequence - 1 else last.sequence + 1)
      log limit.toNat (ForwardAt log.length limit.toNat) where
  served := by
    intro position start located _
    obtain ⟨numbered, roomy⟩ := located
    have room : start.toNat ≤ log.length →
        Roomy log.length limit.toNat start.toNat := by
      intro inside
      rcases roomy with wide | aligned
      · exact Or.inl wide
      · rcases fits with wide | whole
        · exact Or.inl wide
        · have full := full_page aligned whole (by omega)
          exact Or.inr (by omega)
    have page := audited.forward_page (by omega) room
    rw [numbered, Nat.add_sub_cancel] at page
    exact served_of_page nonzero env page
  advances := by
    intro position start last located before found
    obtain ⟨numbered, roomy⟩ := located
    obtain ⟨sequence, inside⟩ := audited.toNat_sequence found
    have one : (1 : UInt64).toNat = 1 := rfl
    refine ⟨?_, ?_⟩
    · change (last.sequence + 1).toNat = _
      rw [UInt64.toNat_add, sequence, one, Nat.mod_eq_of_lt (by omega)]
      have moved : 0 < min (position + limit.toNat) log.length := by
        have positive : limit.toNat ≠ 0 := fun zero => nonzero (UInt32.toNat_inj.mp zero)
        omega
      omega
    · rcases fits with wide | whole
      · exact Or.inl wide
      · rcases roomy with wide | aligned
        · exact Or.inl wide
        · have full := full_page aligned whole before
          rw [Nat.min_eq_left full]
          exact Or.inr (Nat.dvd_add aligned (Nat.dvd_refl _))

theorem Audited.backward_paged (audited : Audited world pair log) (env : Env)
    {limit : UInt32} (nonzero : limit ≠ 0) :
    Paged
      (fun start => (Entry.listAttestationHistory pair start limit true env world).1.toOption)
      (fun last => if true then last.sequence - 1 else last.sequence + 1)
      log.reverse limit.toNat (BackwardAt log.length) where
  served := by
    intro position start located _
    unfold BackwardAt at located
    have page := audited.backward_page (by omega : start.toNat ≤ log.length) limit
    have same : log.length - start.toNat = position := by omega
    rw [same] at page
    exact served_of_page nonzero env page
  advances := by
    intro position start last located before found
    rw [List.length_reverse] at before found ⊢
    have positive : limit.toNat ≠ 0 := fun zero => nonzero (UInt32.toNat_inj.mp zero)
    rw [List.getElem?_reverse (by omega)] at found
    obtain ⟨sequence, _⟩ := audited.toNat_sequence found
    have one : (1 : UInt64).toNat = 1 := rfl
    have above : (1 : UInt64) ≤ last.sequence := by
      apply UInt64.le_iff_toNat_le.mpr
      omega
    change (last.sequence - 1).toNat + _ = _
    rw [UInt64.toNat_sub_of_le _ _ above, sequence]
    omega

theorem Audited.forward_walk (audited : Audited world pair log) (env : Env)
    {limit : UInt32} (nonzero : limit ≠ 0) (bounded : log.length < 2 ^ 64 - 1)
    (fits : WalkFits log.length limit.toNat) {fuel : Nat} (enough : log.length < fuel) :
    historyWalk env world pair limit false fuel 1 = some log := by
  have positive : 0 < limit.toNat :=
    Nat.pos_of_ne_zero fun zero => nonzero (UInt32.toNat_inj.mp zero)
  have start : ForwardAt log.length limit.toNat 0 1 := ⟨rfl, Or.inr (Nat.dvd_zero _)⟩
  exact (audited.forward_paged env nonzero bounded fits).walk_eq_drop positive fuel start
    (Nat.zero_le _) enough

theorem Audited.backward_walk (audited : Audited world pair log) (env : Env)
    {limit : UInt32} (nonzero : limit ≠ 0) {fuel : Nat} (enough : log.length < fuel) :
    historyWalk env world pair limit true fuel (Storage.getAttestationSeq pair world) =
      some log.reverse := by
  have positive : 0 < limit.toNat :=
    Nat.pos_of_ne_zero fun zero => nonzero (UInt32.toNat_inj.mp zero)
  have start : BackwardAt log.length 0 (Storage.getAttestationSeq pair world) :=
    audited.length_eq
  exact (audited.backward_paged env nonzero).walk_eq_drop positive fuel start
    (Nat.zero_le _) (by simpa using enough)

theorem Audited.forward_slice (audited : Audited world pair log) {start limit : Nat}
    (positive : 1 ≤ start) (inside : start ≤ log.length) :
    (slice log limit (start - 1)).map some =
      entriesBetween pair world start (min log.length (start + limit - 1)) := by
  rw [audited.entriesBetween_eq positive (Nat.min_le_left _ _)]
  congr 1
  apply slice_eq_slice
  omega

theorem Audited.backward_slice (audited : Audited world pair log) {start limit : Nat}
    (positive : 1 ≤ start) (inside : start ≤ log.length) :
    (slice log.reverse limit (log.length - start)).map some =
      (entriesBetween pair world (max 1 (start + 1 - limit)) start).reverse := by
  rw [audited.entriesBetween_eq (Nat.le_max_left _ _) inside, slice_reverse log limit inside,
    List.map_reverse]
  congr 3
  · omega
  · omega

theorem Audited.sequences (audited : Audited world pair log) :
    log.map (fun entry => entry.sequence.toNat) = List.range' 1 log.length := by
  apply List.ext_getElem?
  intro index
  rw [List.getElem?_map]
  by_cases inside : index < log.length
  · rw [List.getElem?_range' inside, List.getElem?_eq_getElem inside, Option.map_some,
      audited.numbered index _ (List.getElem?_eq_getElem inside)]
    congr 1
    omega
  · rw [List.getElem?_eq_none (by omega), List.getElem?_eq_none (by simpa using inside)]
    rfl

end Pages

/-- Pages are exact slices and walks are complete.  A forward page is cut off by an
overflow only with 2^64 - 2 entries, when it runs past the last of them. -/
theorem history_pages_exact_and_walks_complete (steps : List Step) (pair : Pair) (env : Env)
    (limit : UInt32) (total : Nat)
    (counted : (Storage.getAttestationSeq pair (reached steps)).toNat = total)
    (bounded : total < 2 ^ 64 - 1) (positive : 1 ≤ limit.toNat) :
    (∀ start : UInt64, 1 ≤ start.toNat → start.toNat ≤ total →
      (total < 2 ^ 64 - 2 ∨ start.toNat + limit.toNat < 2 ^ 64 →
        ∃ page, Entry.listAttestationHistory pair start limit false env (reached steps) =
            (.ok page, reached steps) ∧
          page.map some = entriesBetween pair (reached steps) start.toNat
            (min total (start.toNat + limit.toNat - 1))) ∧
      ∃ page, Entry.listAttestationHistory pair start limit true env (reached steps) =
          (.ok page, reached steps) ∧
        page.map some = (entriesBetween pair (reached steps)
          (max 1 (start.toNat + 1 - limit.toNat)) start.toNat).reverse) ∧
    (∃ all : List HistoryEntry,
      all.map some = entriesBetween pair (reached steps) 1 total ∧
      all.map (fun entry => entry.sequence.toNat) = List.range' 1 total ∧
      (total < 2 ^ 64 - 2 ∨ limit.toNat ∣ total → ∀ fuel, total < fuel →
        historyWalk env (reached steps) pair limit false fuel 1 = some all) ∧
      ∀ fuel, total < fuel → historyWalk env (reached steps) pair limit true fuel
        (Storage.getAttestationSeq pair (reached steps)) = some all.reverse) ∧
    (∀ start reverse, Entry.listAttestationHistory pair start 0 reverse env (reached steps) =
      (.error (.error .invalidPagination), reached steps)) ∧
    ∀ start reverse, total < start.toNat →
      Entry.listAttestationHistory pair start limit reverse env (reached steps) =
        (.ok [], reached steps) := by
  obtain ⟨log, audited, _⟩ := reached_audited steps pair
  have size : log.length = total := audited.length_eq.symm.trans counted
  subst size
  have nonzero : limit ≠ 0 := by
    intro zero
    rw [zero] at positive
    exact absurd positive (by decide)
  refine ⟨?_, ?_, ?_, ?_⟩
  · intro start first inside
    refine ⟨?_, ?_⟩
    · intro roomy
      have room : start.toNat ≤ log.length → Roomy log.length limit.toNat start.toNat := by
        intro _
        unfold Roomy
        omega
      exact ⟨_, listAttestationHistory_of_page nonzero env (audited.forward_page first room),
        audited.forward_slice first inside⟩
    · exact ⟨_, listAttestationHistory_of_page nonzero env (audited.backward_page inside limit),
        audited.backward_slice first inside⟩
  · refine ⟨log, ?_, audited.sequences, ?_, ?_⟩
    · rw [audited.entriesBetween_eq (Nat.le_refl 1) (Nat.le_refl _)]
      simp [slice]
    · intro fits fuel enough
      refine audited.forward_walk env nonzero bounded ?_ enough
      unfold WalkFits
      omega
    · intro fuel enough
      exact audited.backward_walk env nonzero enough
  · intro start reverse
    rfl
  · intro start reverse past
    have beyond : Storage.getAttestationSeq pair (reached steps) < start := by
      rw [UInt64.lt_iff_toNat_lt, counted]
      exact past
    exact listAttestationHistory_of_page nonzero env (historyPage_past_end beyond)

theorem three_entries_walked :
    (Storage.getAttestationSeq (⟨2⟩, sampleType) (reached (crowdedRun 3))).toNat = 3 ∧
      3 < 2 ^ 64 - 1 ∧ 1 ≤ (2 : UInt32).toNat ∧
      ∃ all : List HistoryEntry,
        all.map (fun entry => entry.sequence.toNat) = List.range' 1 3 ∧
        historyWalk sampleEnv (reached (crowdedRun 3)) (⟨2⟩, sampleType) 2 false 4 1 =
          some all := by
  have counted := crowdedRun_sequence 3 (by decide)
  have bounded : 3 < 2 ^ 64 - 1 := by decide
  have positive : 1 ≤ (2 : UInt32).toNat := by decide
  obtain ⟨_, ⟨all, _, sequences, forward, _⟩, _⟩ :=
    history_pages_exact_and_walks_complete (crowdedRun 3) (⟨2⟩, sampleType) sampleEnv 2 3
      counted bounded positive
  exact ⟨counted, bounded, positive, all, sequences, forward (Or.inl (by decide)) 4 (by decide)⟩

/-- With 2^64 - 2 entries, a forward page of two from the last one aborts. -/
theorem full_history_page_aborts :
    (Storage.getAttestationSeq (⟨2⟩, sampleType) (reached (crowdedRun (2 ^ 64 - 2)))).toNat =
        2 ^ 64 - 2 ∧
      Entry.listAttestationHistory (⟨2⟩, sampleType) (UInt64.ofNat (2 ^ 64 - 2)) 2 false
          sampleEnv (reached (crowdedRun (2 ^ 64 - 2))) =
        (.error .abort, reached (crowdedRun (2 ^ 64 - 2))) := by
  have counted := crowdedRun_sequence (2 ^ 64 - 2) (by unfold u64Max; omega)
  have total : Storage.getAttestationSeq (⟨2⟩, sampleType) (reached (crowdedRun (2 ^ 64 - 2))) =
      UInt64.ofNat (2 ^ 64 - 2) :=
    UInt64.toNat_inj.mp counted
  refine ⟨counted, ?_⟩
  apply listAttestationHistory_of_overflow (by decide)
  rw [Storage.historyPage, total, if_neg (by decide), if_neg (by decide)]
  exact collectForward_overflow _

end AnchorKit.Contract
