import AnchorKit.Base.Machine
import AnchorKit.Contract.Pagination

/-!
# Reading a history while it grows

A client reads the history of a pair page by page, each from the number next to that of
the last entry it has seen, and other calls are made between its pages.  An empty page
leaves the client where it is, and it may ask again later; so does a page that is
refused.
-/

set_option autoImplicit false

namespace AnchorKit.Contract

open AnchorKit.Base AnchorKit.Base.Paging

inductive Turn where
  | call (step : Step)
  | read (env : Env) (limit : UInt32)

def Turn.step? : Turn → Option Step
  | .call step => some step
  | .read _ _ => none

def calls (turns : List Turn) : List Step :=
  turns.filterMap Turn.step?

structure Reading where
  world : World
  cursor : UInt64
  seen : List HistoryEntry

namespace Reading

def begin (steps : List Step) (cursor : UInt64) : Reading where
  world := reached steps
  cursor := cursor
  seen := []

def take (reading : Reading) (reverse : Bool) (page : List HistoryEntry) : Reading where
  world := reading.world
  cursor :=
    match page.getLast? with
    | none => reading.cursor
    | some last => if reverse then last.sequence - 1 else last.sequence + 1
  seen := reading.seen ++ page

def turn (pair : Pair) (reverse : Bool) (reading : Reading) : Turn → Reading
  | .call step => { reading with world := reading.world.step step }
  | .read env limit =>
      match (Entry.listAttestationHistory pair reading.cursor limit reverse env
          reading.world).1 with
      | .ok page => reading.take reverse page
      | .error _ => reading

def run (pair : Pair) (reverse : Bool) (reading : Reading) (turns : List Turn) : Reading :=
  Machine.run (turn pair reverse) reading turns

end Reading

def forwardReading (pair : Pair) (steps : List Step) (turns : List Turn) : Reading :=
  (Reading.begin steps 1).run pair false turns

def backwardReading (pair : Pair) (steps : List Step) (first : UInt64) (turns : List Turn) :
    Reading :=
  (Reading.begin steps first).run pair true turns

/-! ## The world and its history -/

theorem turn_read_world (pair : Pair) (reverse : Bool) (reading : Reading) (env : Env)
    (limit : UInt32) : (reading.turn pair reverse (.read env limit)).world = reading.world := by
  unfold Reading.turn
  dsimp only
  split
  · rfl
  · rfl

theorem run_world (pair : Pair) (reverse : Bool) (steps : List Step) (cursor : UInt64)
    (turns : List Turn) :
    ((Reading.begin steps cursor).run pair reverse turns).world =
      reached (steps ++ calls turns) := by
  induction turns using List.reverseRecOn with
  | nil => simp [Reading.run, Machine.run, Reading.begin, calls]
  | append_singleton before turn ih =>
      rw [Reading.run, Machine.run_append, calls, List.filterMap_append, ← List.append_assoc]
      cases turn with
      | call step =>
          simp only [List.filterMap_cons, Turn.step?, List.filterMap_nil]
          rw [reached_append_singleton]
          exact congrArg (World.step · step) ih
      | read env limit =>
          simp only [List.filterMap_cons, Turn.step?, List.filterMap_nil, List.append_nil]
          exact (turn_read_world pair reverse _ env limit).trans ih

theorem World.step_audited {world : World} {pair : Pair} {log : List HistoryEntry}
    (audited : Audited world pair log) (step : Step) :
    ∃ grown, Audited (world.step step) pair grown ∧ log <+: grown :=
  run_audited (log <+: ·) (fun _ _ _ grows kept => kept.trans grows.isPrefix) pair [step] world
    ⟨log, audited, List.prefix_rfl⟩

theorem getAttestationSeq_step_le {world : World} {pair : Pair} {log : List HistoryEntry}
    (audited : Audited world pair log) (step : Step) :
    (Storage.getAttestationSeq pair world).toNat ≤
      (Storage.getAttestationSeq pair (world.step step)).toNat := by
  obtain ⟨grown, later, extended⟩ := World.step_audited audited step
  rw [audited.length_eq, later.length_eq]
  exact extended.length_le

theorem turn_read_zero (pair : Pair) (reverse : Bool) (reading : Reading) (env : Env) :
    reading.turn pair reverse (.read env 0) = reading := by
  rfl

/-! ## Forward -/

/-- The client has read the log up to its cursor. -/
structure Forward (pair : Pair) (log : List HistoryEntry) (reading : Reading) : Prop where
  audited : Audited reading.world pair log
  behind : reading.seen <+: log
  cursor : reading.cursor.toNat = reading.seen.length + 1

section Forwards

variable {pair : Pair} {log : List HistoryEntry} {reading : Reading}

theorem Forward.turn_read (forward : Forward pair log reading) (room : log.length + 2 < 2 ^ 64)
    (env : Env) {limit : UInt32} (nonzero : limit ≠ 0) :
    reading.turn pair false (.read env limit) =
      reading.take false (slice log limit.toNat reading.seen.length) := by
  have cursor := forward.cursor
  have page : Storage.historyPage pair reading.cursor limit false reading.world = _ :=
    forward.audited.forward_page (by omega) (fun _ => Or.inl room)
  rw [cursor, Nat.add_sub_cancel] at page
  rw [Reading.turn, listAttestationHistory_of_page nonzero env page]

theorem Forward.take (forward : Forward pair log reading) (room : log.length + 2 < 2 ^ 64)
    {limit : Nat} (positive : 0 < limit) :
    Forward pair log (reading.take false (slice log limit reading.seen.length)) := by
  refine ⟨forward.audited, append_slice_isPrefix forward.behind limit, ?_⟩
  have within := forward.behind.length_le
  change _ = (reading.seen ++ slice log limit reading.seen.length).length + 1
  rw [length_append_slice forward.behind, Reading.take]
  dsimp only
  by_cases done : log.length ≤ reading.seen.length
  · rw [(slice_eq_nil_iff positive).mpr done]
    have cursor := forward.cursor
    simp only [List.getLast?_nil]
    omega
  · have inside : reading.seen.length < log.length := by omega
    have last : min (reading.seen.length + limit) log.length - 1 < log.length := by omega
    rw [getLast?_slice positive inside, List.getElem?_eq_getElem last]
    have sequence :=
      (forward.audited.toNat_sequence (List.getElem?_eq_getElem last)).1
    have one : (1 : UInt64).toNat = 1 := rfl
    simp only [Bool.false_eq_true, if_false]
    rw [UInt64.toNat_add, sequence, one, Nat.mod_eq_of_lt (by omega)]
    omega

theorem Forward.length_read (forward : Forward pair log reading)
    (room : log.length + 2 < 2 ^ 64) (env : Env) {limit : UInt32} (nonzero : limit ≠ 0) :
    (reading.turn pair false (.read env limit)).seen.length =
      min (reading.seen.length + limit.toNat) log.length := by
  rw [forward.turn_read room env nonzero]
  exact length_append_slice forward.behind limit.toNat

theorem Forward.read (forward : Forward pair log reading) (room : log.length + 2 < 2 ^ 64)
    (env : Env) (limit : UInt32) :
    Forward pair log (reading.turn pair false (.read env limit)) := by
  by_cases zero : limit = 0
  · rw [zero, turn_read_zero]
    exact forward
  · rw [forward.turn_read room env zero]
    exact forward.take room (Nat.pos_of_ne_zero fun none => zero (UInt32.toNat_inj.mp none))

theorem forward_run (pair : Pair) (steps : List Step) (turns : List Turn)
    (fewer : (Storage.getAttestationSeq pair (reached (steps ++ calls turns))).toNat + 2 < 2 ^ 64) :
    ∃ log, Forward pair log ((Reading.begin steps 1).run pair false turns) := by
  induction turns using List.reverseRecOn with
  | nil =>
      obtain ⟨log, audited, _⟩ := reached_audited steps pair
      exact ⟨log, audited, List.nil_prefix, rfl⟩
  | append_singleton before turn ih =>
      rw [← run_world pair false steps 1] at ih fewer
      rw [Reading.run, Machine.run_append] at fewer ⊢
      cases turn with
      | call step =>
          obtain ⟨past, audited, _⟩ := reached_audited (steps ++ calls before) pair
          rw [← run_world pair false steps 1] at audited
          have grows := getAttestationSeq_step_le audited step
          obtain ⟨log, forward⟩ := ih (Nat.lt_of_le_of_lt (Nat.add_le_add_right grows 2) fewer)
          obtain ⟨grown, later, extended⟩ := World.step_audited forward.audited step
          exact ⟨grown, later, forward.behind.trans extended, forward.cursor⟩
      | read env limit =>
          have still := turn_read_world pair false
            ((Reading.begin steps 1).run pair false before) env limit
          have bounded := still ▸ fewer
          obtain ⟨log, forward⟩ := ih bounded
          rw [forward.audited.length_eq] at bounded
          exact ⟨log, forward.read bounded env limit⟩

end Forwards

/-! ## Backward -/

/-- The client has read the entries from the number `start` down to its cursor. -/
structure Backward (pair : Pair) (start : Nat) (target log : List HistoryEntry)
    (reading : Reading) : Prop where
  audited : Audited reading.world pair log
  inside : start ≤ log.length
  listed : target = (log.take start).reverse
  behind : reading.seen <+: target
  cursor : reading.cursor.toNat + reading.seen.length = start

section Backwards

variable {pair : Pair} {start : Nat} {target log : List HistoryEntry} {reading : Reading}

theorem Backward.length_target (backward : Backward pair start target log reading) :
    target.length = start := by
  have inside := backward.inside
  rw [backward.listed, List.length_reverse, List.length_take]
  omega

theorem Backward.toNat_sequence (backward : Backward pair start target log reading) {index : Nat}
    {entry : HistoryEntry} (found : target[index]? = some entry) :
    entry.sequence.toNat + index = start := by
  have inside := backward.inside
  have within := (List.getElem?_eq_some_iff.mp found).1
  rw [backward.length_target] at within
  have size : (log.take start).length = start := by
    rw [List.length_take]
    omega
  rw [backward.listed, List.getElem?_reverse (by omega), size,
    List.getElem?_take_of_lt (by omega)] at found
  have sequence := (backward.audited.toNat_sequence found).1
  omega

theorem Backward.turn_read (backward : Backward pair start target log reading)
    (env : Env) {limit : UInt32} (nonzero : limit ≠ 0) :
    reading.turn pair true (.read env limit) =
      reading.take true (slice target limit.toNat reading.seen.length) := by
  have cursor := backward.cursor
  have inside := backward.inside
  have page := backward.audited.backward_page (by omega : reading.cursor.toNat ≤ log.length) limit
  have rest : start - reading.cursor.toNat = reading.seen.length := by omega
  rw [slice_reverse_take _ (by omega) inside, ← backward.listed, rest] at page
  rw [Reading.turn, listAttestationHistory_of_page nonzero env page]

theorem Backward.take (backward : Backward pair start target log reading) {limit : Nat}
    (positive : 0 < limit) :
    Backward pair start target log
      (reading.take true (slice target limit reading.seen.length)) := by
  refine ⟨backward.audited, backward.inside, backward.listed,
    append_slice_isPrefix backward.behind limit, ?_⟩
  have length := backward.length_target
  have within := backward.behind.length_le
  have cursor := backward.cursor
  have inside := backward.inside
  change _ + (reading.seen ++ slice target limit reading.seen.length).length = _
  rw [length_append_slice backward.behind, Reading.take]
  dsimp only
  by_cases done : target.length ≤ reading.seen.length
  · rw [(slice_eq_nil_iff positive).mpr done]
    simp only [List.getLast?_nil]
    omega
  · have last : min (reading.seen.length + limit) target.length - 1 < target.length := by omega
    have sequence := backward.toNat_sequence (List.getElem?_eq_getElem last)
    have one : (1 : UInt64).toNat = 1 := rfl
    have above :
        (1 : UInt64) ≤ target[min (reading.seen.length + limit) target.length - 1].sequence := by
      apply UInt64.le_iff_toNat_le.mpr
      omega
    rw [getLast?_slice positive (by omega), List.getElem?_eq_getElem last]
    simp only [if_true]
    rw [UInt64.toNat_sub_of_le _ _ above]
    omega

theorem Backward.length_read (backward : Backward pair start target log reading)
    (env : Env) {limit : UInt32} (nonzero : limit ≠ 0) :
    (reading.turn pair true (.read env limit)).seen.length =
      min (reading.seen.length + limit.toNat) start := by
  rw [backward.turn_read env nonzero, ← backward.length_target]
  exact length_append_slice backward.behind limit.toNat

theorem Backward.turn (backward : Backward pair start target log reading) (turn : Turn) :
    ∃ grown, Backward pair start target grown (reading.turn pair true turn) := by
  obtain ⟨audited, inside, listed, behind, cursor⟩ := backward
  cases turn with
  | call step =>
      obtain ⟨grown, later, extended⟩ := World.step_audited audited step
      have same : grown.take start = log.take start := by
        obtain ⟨added, rfl⟩ := extended
        exact List.take_append_of_le_length inside
      exact ⟨grown, later, inside.trans extended.length_le, same ▸ listed, behind, cursor⟩
  | read env limit =>
      refine ⟨log, ?_⟩
      by_cases zero : limit = 0
      · rw [zero, turn_read_zero]
        exact ⟨audited, inside, listed, behind, cursor⟩
      · have backward : Backward pair start target log reading :=
          ⟨audited, inside, listed, behind, cursor⟩
        rw [backward.turn_read env zero]
        exact backward.take (Nat.pos_of_ne_zero fun none => zero (UInt32.toNat_inj.mp none))

theorem backward_run (steps : List Step) {first : UInt64} {log : List HistoryEntry}
    (audited : Audited (reached steps) pair log) (inside : first.toNat ≤ log.length)
    (turns : List Turn) :
    ∃ grown, Backward pair first.toNat (log.take first.toNat).reverse grown
      ((Reading.begin steps first).run pair true turns) := by
  refine Machine.run_invariant (Reading.turn pair true)
    (fun reading => ∃ grown, Backward pair first.toNat (log.take first.toNat).reverse grown
      reading) ?_ turns _ ?_
  · rintro reading turn ⟨grown, backward⟩
    exact backward.turn turn
  · exact ⟨log, audited, inside, rfl, List.nil_prefix, rfl⟩

end Backwards

theorem entriesBetween_of_isPrefix {world : World} {pair : Pair} {log seen : List HistoryEntry}
    (audited : Audited world pair log) (behind : seen <+: log) :
    seen.map some = entriesBetween pair world 1 seen.length := by
  rw [audited.entriesBetween_eq (Nat.le_refl 1) behind.length_le, slice]
  simp only [Nat.add_sub_cancel, Nat.sub_self, List.drop_zero]
  rw [← List.prefix_iff_eq_take.mp behind]

theorem entriesBetween_of_isPrefix_reverse {world : World} {pair : Pair}
    {log seen : List HistoryEntry} (audited : Audited world pair log) {start : Nat}
    (inside : start ≤ log.length) (behind : seen <+: (log.take start).reverse) :
    seen.map some =
      (entriesBetween pair world (start - seen.length + 1) start).reverse := by
  have within := behind.length_le
  rw [List.length_reverse, List.length_take, Nat.min_eq_left inside] at within
  have page : seen = slice log.reverse seen.length (log.length - start) := by
    rw [slice_reverse_take _ (Nat.le_refl start) inside, Nat.sub_self, slice, List.drop_zero]
    exact List.prefix_iff_eq_take.mp behind
  rw [audited.entriesBetween_eq (Nat.le_add_left 1 _) inside]
  nth_rewrite 1 [page]
  rw [slice_reverse log _ inside, List.map_reverse]
  congr 3
  omega

/-- Whatever calls are made in between, a client that reads forward has seen the entries
from the first one on, each once and in order, and one that reads backward those below
the number it began at, as they stood then; and a page always brings what is left, up to
its limit. -/
theorem readers_miss_nothing (pair : Pair) (steps : List Step) (turns : List Turn)
    (fewer : (Storage.getAttestationSeq pair (reached (steps ++ calls turns))).toNat + 2 < 2 ^ 64)
    (first : UInt64) (inside : first ≤ Storage.getAttestationSeq pair (reached steps)) :
    (forwardReading pair steps turns).seen.map some =
        entriesBetween pair (reached (steps ++ calls turns)) 1
          (forwardReading pair steps turns).seen.length ∧
      (∀ env limit, limit ≠ 0 →
        ((forwardReading pair steps turns).turn pair false (.read env limit)).seen.length =
          min ((forwardReading pair steps turns).seen.length + limit.toNat)
            (Storage.getAttestationSeq pair (reached (steps ++ calls turns))).toNat) ∧
      (backwardReading pair steps first turns).seen.map some =
        (entriesBetween pair (reached steps)
          (first.toNat - (backwardReading pair steps first turns).seen.length + 1)
          first.toNat).reverse ∧
      ∀ env limit, limit ≠ 0 →
        ((backwardReading pair steps first turns).turn pair true (.read env limit)).seen.length =
          min ((backwardReading pair steps first turns).seen.length + limit.toNat)
            first.toNat := by
  obtain ⟨log, forward⟩ := forward_run pair steps turns fewer
  have world := run_world pair false steps 1 turns
  have audited : Audited (reached (steps ++ calls turns)) pair log := world ▸ forward.audited
  obtain ⟨earlier, began, _⟩ := reached_audited steps pair
  have listed : first.toNat ≤ earlier.length := by
    rw [← began.length_eq]
    exact UInt64.le_iff_toNat_le.mp inside
  obtain ⟨grown, backward⟩ := backward_run steps began listed turns
  refine ⟨entriesBetween_of_isPrefix audited forward.behind, ?_,
    entriesBetween_of_isPrefix_reverse began listed backward.behind, ?_⟩
  · intro env limit nonzero
    rw [audited.length_eq] at fewer ⊢
    exact forward.length_read fewer env nonzero
  · intro env limit nonzero
    exact backward.length_read env nonzero

def pageAttestPage : List Turn :=
  [.read sampleEnv 1, .call ((attestFor ⟨2⟩).step sampleEnv), .read sampleEnv 5]

theorem third_entry_seen :
    (Storage.getAttestationSeq (⟨2⟩, sampleType)
        (reached (crowdedRun 2 ++ calls pageAttestPage))).toNat = 3 ∧
      (forwardReading (⟨2⟩, sampleType) (crowdedRun 2) pageAttestPage).seen.map some =
        entriesBetween (⟨2⟩, sampleType) (reached (crowdedRun 2 ++ calls pageAttestPage)) 1
          (forwardReading (⟨2⟩, sampleType) (crowdedRun 2) pageAttestPage).seen.length := by
  have counted : (Storage.getAttestationSeq (⟨2⟩, sampleType)
      (reached (crowdedRun 2 ++ calls pageAttestPage))).toNat = 3 :=
    crowdedRun_sequence 3 (by decide)
  have two := crowdedRun_sequence 2 (by decide)
  refine ⟨counted, (readers_miss_nothing (⟨2⟩, sampleType) (crowdedRun 2) pageAttestPage ?_ 2
    ?_).1⟩
  · rw [counted]
    decide
  · rw [UInt64.le_iff_toNat_le, two]
    decide

end AnchorKit.Contract
