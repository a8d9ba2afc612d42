import AnchorKit.Base.Paging
import AnchorKit.Webhook.Tables
import Mathlib.Data.List.Dedup
import Mathlib.Data.List.Sort

/-!
# The dead-letter queue as a store, of `dead_letter.rs` and `monitor.rs`

A letter is stored once under its identifier and read back whole.  The queue is read page
by page while letters are being stored: a letter that comes in moves the ones behind it to
later pages, so that a reader may see a letter twice but misses none that was there.
-/

set_option autoImplicit false

namespace AnchorKit.Webhook

open AnchorKit.Base
open AnchorKit.Base.Rfc3339

variable {Value : Type} (libraries : Libraries Value) (surroundings : Surroundings)

def DeadLetterQueue.get (queue : DeadLetterQueue) (now : Instant) (id : String) :
    Option (DeadLetter Value) :=
  (queue.rows.find? fun row => row.id == id).map (rowToDeadLetter libraries surroundings now)

def DeadLetterQueue.count (queue : DeadLetterQueue) : Nat :=
  queue.rows.length

def DeadLetterQueue.empty : DeadLetterQueue where
  rows := []
  stamped := nofun

/-- A refused `INSERT` is reported to the caller and leaves the table as it was. -/
def DeadLetterQueue.keep (queue : DeadLetterQueue) (letter : DeadLetter Value) :
    DeadLetterQueue :=
  (queue.store libraries letter).getD queue

structure MonitoringReport (Value : Type) where
  totalDeadLetters : Nat
  recentDeadLetters : List (DeadLetter Value)

/-- The letters are counted and then listed; some may be stored in between. -/
def generateReport (now : Instant) (queue : DeadLetterQueue) (stored : List (DeadLetter Value)) :
    MonitoringReport Value where
  totalDeadLetters := queue.count
  recentDeadLetters := (stored.foldl (DeadLetterQueue.keep libraries) queue).list libraries
    surroundings now 10 0

/-! ## Round trip -/

/-- The payload is one that `serde_json` reads back from its text. -/
def Recoverable (letter : DeadLetter Value) : Prop :=
  libraries.fromStr (libraries.toString letter.delivery.payload) = some letter.delivery.payload

theorem rowToDeadLetter_rowOf (now : Instant) {letter : DeadLetter Value}
    (recoverable : Recoverable libraries letter) :
    rowToDeadLetter libraries surroundings now (rowOf libraries letter) = letter := by
  obtain ⟨id, delivery, reason, deadLetteredAt⟩ := letter
  obtain ⟨deliveryId, url, payload, statusCode, responseBody, attempt, error, createdAt,
    lastAttemptedAt, delivered, attempt_lt⟩ := delivery
  have status : (statusCode.map fun status => status.toUInt32.toInt32).map
      (fun status => status.toUInt32.toUInt16) = statusCode := by
    cases statusCode with
    | none => rfl
    | some status => simp
  have attempted : (lastAttemptedAt.map toRfc3339).bind surroundings.parseFromRfc3339 =
      lastAttemptedAt := by
    cases lastAttemptedAt with
    | none => rfl
    | some instant => exact surroundings.reads instant
  have read : libraries.fromStr (libraries.toString payload) = some payload := recoverable
  simp only [rowToDeadLetter, rowOf, status, attempted, read, surroundings.reads,
    Option.getD_some, UInt32.toUInt32_toInt32]

def letIn (kept : List (DeadLetter Value)) (letter : DeadLetter Value) :
    List (DeadLetter Value) :=
  if kept.any fun other => other.id == letter.id then kept else kept ++ [letter]

/-- The first letter under each identifier, in the order they came. -/
def firsts (letters : List (DeadLetter Value)) : List (DeadLetter Value) :=
  letters.foldl letIn []

theorem DeadLetterQueue.store_eq_none_iff (queue : DeadLetterQueue)
    (letter : DeadLetter Value) :
    queue.store libraries letter = none ↔ letter.id ∈ queue.rows.map DeadLetterRow.id := by
  unfold DeadLetterQueue.store
  split
  · rename_i taken
    simpa using taken
  · rename_i free
    simpa using free

theorem DeadLetterQueue.keep_rows (queue : DeadLetterQueue) (letter : DeadLetter Value) :
    (queue.keep libraries letter).rows =
      if queue.rows.any fun row => row.id == letter.id then queue.rows
      else queue.rows ++ [rowOf libraries letter] := by
  unfold DeadLetterQueue.keep DeadLetterQueue.store
  split
  · rfl
  · rfl

theorem foldl_keep_rows (letters kept : List (DeadLetter Value)) (queue : DeadLetterQueue)
    (same : queue.rows = kept.map (rowOf libraries)) :
    (letters.foldl (DeadLetterQueue.keep libraries) queue).rows =
      (letters.foldl letIn kept).map (rowOf libraries) := by
  induction letters generalizing kept queue with
  | nil => exact same
  | cons letter rest ih =>
      refine ih (letIn kept letter) (queue.keep libraries letter) ?_
      have taken : (queue.rows.any fun row => row.id == letter.id) =
          kept.any fun other => other.id == letter.id := by
        rw [same, List.any_map]
        rfl
      rw [DeadLetterQueue.keep_rows, taken, same, letIn]
      split
      · rfl
      · rw [List.map_append, List.map_singleton]

section Firsts

variable {letters kept : List (DeadLetter Value)}

theorem find?_foldl_letIn (letters kept : List (DeadLetter Value)) (id : String) :
    (letters.foldl letIn kept).find? (fun letter => letter.id == id) =
      (kept ++ letters).find? fun letter => letter.id == id := by
  induction letters generalizing kept with
  | nil => rw [List.foldl_nil, List.append_nil]
  | cons letter rest ih =>
      rw [List.foldl_cons, ih, letIn]
      split
      · rename_i taken
        by_cases here : letter.id = id
        · obtain ⟨other, member, same⟩ := List.any_eq_true.mp taken
          have found : (kept.find? fun letter => letter.id == id).isSome = true := by
            rw [List.find?_isSome]
            exact ⟨other, member, here ▸ same⟩
          obtain ⟨first, found⟩ := Option.isSome_iff_exists.mp found
          rw [List.find?_append, List.find?_append, found]
          rfl
        · rw [List.find?_append, List.find?_append, List.find?_cons_of_neg (by simpa using here)]
      · rw [List.append_assoc]
        rfl

theorem nodup_foldl_letIn (distinct : (kept.map DeadLetter.id).Nodup)
    (letters : List (DeadLetter Value)) :
    ((letters.foldl letIn kept).map DeadLetter.id).Nodup := by
  induction letters generalizing kept with
  | nil => exact distinct
  | cons letter rest ih =>
      refine ih ?_
      unfold letIn
      split
      · exact distinct
      · rename_i free
        rw [List.map_append, List.map_singleton, List.nodup_append]
        refine ⟨distinct, List.nodup_singleton _, ?_⟩
        intro id member other here
        rw [List.mem_singleton.mp here]
        rintro rfl
        obtain ⟨taken, inside, same⟩ := List.mem_map.mp member
        exact free (List.any_eq_true.mpr ⟨taken, inside, beq_iff_eq.mpr same⟩)

theorem mem_iff_find? (distinct : (kept.map DeadLetter.id).Nodup) (letter : DeadLetter Value) :
    letter ∈ kept ↔ kept.find? (fun other => other.id == letter.id) = some letter := by
  constructor
  · intro member
    have taken : (kept.find? fun other => other.id == letter.id).isSome = true :=
      List.find?_isSome.mpr ⟨letter, member, beq_self_eq_true letter.id⟩
    obtain ⟨found, here⟩ := Option.isSome_iff_exists.mp taken
    have named : (found.id == letter.id) = true :=
      List.find?_some (p := fun other : DeadLetter Value => other.id == letter.id) here
    have same : found = letter := List.inj_on_of_nodup_map distinct
      (List.mem_of_find?_eq_some here) member (beq_iff_eq.mp named)
    rw [here, same]
  · exact List.mem_of_find?_eq_some

theorem find?_firsts (letters : List (DeadLetter Value)) (id : String) :
    (firsts letters).find? (fun letter => letter.id == id) =
      letters.find? fun letter => letter.id == id :=
  find?_foldl_letIn letters [] id

theorem nodup_firsts (letters : List (DeadLetter Value)) :
    ((firsts letters).map DeadLetter.id).Nodup := by
  have none : (([] : List (DeadLetter Value)).map DeadLetter.id).Nodup := List.nodup_nil
  exact nodup_foldl_letIn none letters

theorem mem_firsts_iff (letter : DeadLetter Value) :
    letter ∈ firsts letters ↔
      letters.find? (fun other => other.id == letter.id) = some letter := by
  rw [mem_iff_find? (nodup_firsts letters), find?_firsts]

theorem mem_ids_firsts (id : String) :
    id ∈ (firsts letters).map DeadLetter.id ↔ id ∈ letters.map DeadLetter.id := by
  have found : ∀ kept : List (DeadLetter Value), id ∈ kept.map DeadLetter.id ↔
      (kept.find? fun letter => letter.id == id).isSome = true := by
    intro kept
    simp [List.find?_isSome]
  rw [found, found, find?_firsts]

theorem length_firsts :
    (firsts letters).length = (letters.map DeadLetter.id).dedup.length := by
  have same : ((firsts letters).map DeadLetter.id).Perm (letters.map DeadLetter.id).dedup := by
    refine (List.perm_ext_iff_of_nodup (nodup_firsts letters) (List.nodup_dedup _)).mpr ?_
    intro id
    rw [List.mem_dedup, mem_ids_firsts]
  have lengths := same.length_eq
  rwa [List.length_map] at lengths

end Firsts

/-- Whatever letters with readable payloads are stored, in whatever order, the queue gives
each back whole under its identifier: the first that was stored under it.  It refuses a
letter exactly if its identifier is taken.  The count is that of the identifiers, and the
list is that of the letters that got in. -/
theorem dead_letters_round_trip (letters : List (DeadLetter Value))
    (recoverable : ∀ letter ∈ letters, Recoverable libraries letter) (now : Instant) :
    let queue := letters.foldl (DeadLetterQueue.keep libraries) DeadLetterQueue.empty
    (∀ id, queue.get libraries surroundings now id =
      letters.find? fun letter => letter.id == id) ∧
    (∀ letter : DeadLetter Value, queue.store libraries letter = none ↔
      letter.id ∈ letters.map DeadLetter.id) ∧
    queue.count = (letters.map DeadLetter.id).dedup.length ∧
    ∀ letter, letter ∈ queue.list libraries surroundings now (-1) 0 ↔
      letters.find? (fun other => other.id == letter.id) = some letter := by
  intro queue
  have rows : queue.rows = (firsts letters).map (rowOf libraries) :=
    foldl_keep_rows libraries letters [] DeadLetterQueue.empty rfl
  have back : ∀ letter ∈ firsts letters,
      rowToDeadLetter libraries surroundings now (rowOf libraries letter) = letter := by
    intro letter member
    exact rowToDeadLetter_rowOf libraries surroundings now
      (recoverable letter (List.mem_of_find?_eq_some ((mem_firsts_iff letter).mp member)))
  refine ⟨?_, ?_, ?_, ?_⟩
  · intro id
    rw [DeadLetterQueue.get, rows, List.find?_map, Option.map_map, ← find?_firsts letters id]
    have same : ((fun row : DeadLetterRow => row.id == id) ∘ rowOf libraries) =
        fun letter => letter.id == id := rfl
    rw [same]
    cases found : (firsts letters).find? fun letter => letter.id == id with
    | none => rfl
    | some letter => exact congrArg some (back letter (List.mem_of_find?_eq_some found))
  · intro letter
    rw [DeadLetterQueue.store_eq_none_iff, rows, List.map_map]
    exact mem_ids_firsts letter.id
  · rw [DeadLetterQueue.count, rows, List.length_map, length_firsts]
  · intro letter
    have listed : queue.list libraries surroundings now (-1) 0 =
        (surroundings.orderByDesc queue.rows).map
          (rowToDeadLetter libraries surroundings now) := rfl
    rw [← mem_firsts_iff, listed, List.mem_map]
    constructor
    · rintro ⟨row, member, rfl⟩
      have stored := (surroundings.permutes queue.rows).mem_iff.mp member
      rw [rows] at stored
      obtain ⟨first, kept, rfl⟩ := List.mem_map.mp stored
      rw [back first kept]
      exact kept
    · intro member
      refine ⟨rowOf libraries letter, ?_, back letter member⟩
      refine (surroundings.permutes queue.rows).mem_iff.mpr ?_
      rw [rows]
      exact List.mem_map_of_mem member

/-! ## The report -/

theorem keep_grows (queue : DeadLetterQueue) (letter : DeadLetter Value) :
    ∃ more, (queue.keep libraries letter).rows = queue.rows ++ more := by
  rw [DeadLetterQueue.keep_rows]
  split
  · exact ⟨[], (List.append_nil _).symm⟩
  · exact ⟨_, rfl⟩

theorem foldl_keep_grows (queue : DeadLetterQueue) (letters : List (DeadLetter Value)) :
    ∃ more, (letters.foldl (DeadLetterQueue.keep libraries) queue).rows = queue.rows ++ more := by
  induction letters generalizing queue with
  | nil => exact ⟨[], (List.append_nil _).symm⟩
  | cons letter rest ih =>
      obtain ⟨first, grown⟩ := keep_grows libraries queue letter
      obtain ⟨more, others⟩ := ih (queue.keep libraries letter)
      exact ⟨first ++ more, by rw [List.foldl_cons, others, grown, List.append_assoc]⟩

/-- Whatever is stored while a report is made, it counts no letter that is not there, shows
as many as are there, ten at most, and shows none in place of a later one. -/
theorem report_shows_the_latest (now : Instant) (queue : DeadLetterQueue)
    (stored : List (DeadLetter Value)) :
    let after := stored.foldl (DeadLetterQueue.keep libraries) queue
    let report := generateReport libraries surroundings now queue stored
    report.totalDeadLetters ≤ after.count ∧
    report.recentDeadLetters.length = min 10 after.count ∧
    ∃ older, after.list libraries surroundings now (-1) 0 = report.recentDeadLetters ++ older ∧
      ∀ recent ∈ report.recentDeadLetters, ∀ letter ∈ older,
        letter.deadLetteredAt.nanos ≤ recent.deadLetteredAt.nanos := by
  intro after report
  have grows : ∃ more, after.rows = queue.rows ++ more := foldl_keep_grows libraries queue stored
  have every : after.list libraries surroundings now (-1) 0 =
      (surroundings.orderByDesc after.rows).map
        (rowToDeadLetter libraries surroundings now) := rfl
  have shown : report.recentDeadLetters =
      (after.list libraries surroundings now (-1) 0).take 10 := by
    rw [every, ← List.map_take]
    rfl
  refine ⟨?_, ?_, ?_⟩
  · obtain ⟨more, grown⟩ := grows
    have counted : after.count = queue.count + more.length := by
      rw [DeadLetterQueue.count, grown, List.length_append]
      rfl
    exact counted ▸ Nat.le_add_right _ _
  · rw [shown, List.length_take, every, List.length_map,
      (surroundings.permutes after.rows).length_eq]
    rfl
  · refine ⟨(after.list libraries surroundings now (-1) 0).drop 10, ?_, ?_⟩
    · rw [shown, List.take_append_drop]
    · have descends := after.list_descends libraries surroundings now (-1) 0
      rw [← List.take_append_drop 10 (after.list libraries surroundings now (-1) 0),
        List.pairwise_append] at descends
      rw [shown]
      exact descends.2.2

/-! ## Reading page by page -/

/-- A client that reads page after page until one is not full. -/
structure Reader (Value : Type) where
  queue : DeadLetterQueue
  page : Nat
  seen : List (DeadLetter Value)
  ended : Bool

def Reader.start (queue : DeadLetterQueue) : Reader Value where
  queue := queue
  page := 0
  seen := []
  ended := false

inductive Reading (Value : Type) where
  | store (letter : DeadLetter Value)
  | list (now : Instant)

def Reader.step (limit : Nat) (reader : Reader Value) : Reading Value → Reader Value
  | .store letter => { reader with queue := reader.queue.keep libraries letter }
  | .list now =>
      if reader.ended then reader
      else
        let letters := reader.queue.list libraries surroundings now (Int64.ofNat limit)
          (Int64.ofNat (reader.page * limit))
        { reader with
          page := reader.page + 1
          seen := reader.seen ++ letters
          ended := decide (letters.length < limit) }

/-- No two letters were written off at the same instant. -/
def Apart (rows : List DeadLetterRow) : Prop :=
  rows.Pairwise fun first second => first.deadLetteredAt ≠ second.deadLetteredAt

/-- How many letters are listed before this one. -/
def rank (rows : List DeadLetterRow) (row : DeadLetterRow) : Nat :=
  rows.countP fun other => decide (row.deadLetteredAt < other.deadLetteredAt)

theorem page_ofNat {α : Type} {limit offset : Nat} (limited : limit < 2 ^ 63)
    (inRange : offset < 2 ^ 63) (rows : List α) :
    page (Int64.ofNat limit) (Int64.ofNat offset) rows = Paging.slice rows limit offset := by
  have toInt : ∀ {number : Nat}, number < 2 ^ 63 → (Int64.ofNat number).toInt = number := by
    intro number fits
    exact Int64.toInt_ofNat_of_lt fits
  have positive : ¬ Int64.ofNat limit < 0 := by
    rw [Int64.lt_iff_toInt_lt, toInt limited]
    simp
  rw [page, if_neg positive, toInt limited, toInt inRange, Int.toNat_natCast, Int.toNat_natCast,
    Paging.slice]

/-- In which order the letters are listed is settled, if no two are of the same instant. -/
theorem orderByDesc_descends (queue : DeadLetterQueue) (apart : Apart queue.rows) :
    (surroundings.orderByDesc queue.rows).Pairwise fun first second =>
      second.deadLetteredAt < first.deadLetteredAt := by
  have permutes := surroundings.permutes queue.rows
  have distinct : Apart (surroundings.orderByDesc queue.rows) :=
    permutes.symm.pairwise apart Ne.symm
  refine ((surroundings.descends queue.rows).and distinct).imp_of_mem ?_
  rintro first second firstMember secondMember ⟨notBefore, different⟩
  obtain ⟨earlier, firstStamped⟩ := queue.stamped first (permutes.mem_iff.mp firstMember)
  obtain ⟨later, secondStamped⟩ := queue.stamped second (permutes.mem_iff.mp secondMember)
  rw [firstStamped, secondStamped] at notBefore different ⊢
  rw [toRfc3339_lt_iff] at notBefore ⊢
  have unequal : earlier.nanos ≠ later.nanos := by
    intro same
    apply different
    cases earlier
    cases later
    cases same
    rfl
  omega

theorem getElem?_orderByDesc (queue : DeadLetterQueue) (apart : Apart queue.rows)
    {row : DeadLetterRow} (stored : row ∈ queue.rows) :
    (surroundings.orderByDesc queue.rows)[rank queue.rows row]? = some row := by
  have permutes := surroundings.permutes queue.rows
  have placed := Paging.getElem?_rank
    (fun first second : DeadLetterRow => second.deadLetteredAt < first.deadLetteredAt)
    (fun first second later earlier => List.lt_asymm later earlier)
    (orderByDesc_descends surroundings queue apart) (permutes.mem_iff.mpr stored)
  rwa [permutes.countP_eq] at placed

section Reading

variable {libraries surroundings} {limit : Nat} {row : DeadLetterRow} {reader : Reader Value}

/-- The letter is on a page that has been read, or on one that has yet to be. -/
structure Ahead (limit : Nat) (row : DeadLetterRow) (reader : Reader Value) : Prop where
  stored : row ∈ reader.queue.rows
  unread : row.id ∈ reader.seen.map DeadLetter.id ∨
    reader.ended = false ∧ reader.page * limit ≤ rank reader.queue.rows row

theorem Ahead.store (ahead : Ahead limit row reader) (letter : DeadLetter Value) :
    Ahead limit row (reader.step libraries surroundings limit (.store letter)) := by
  obtain ⟨more, grown⟩ : ∃ more, (reader.queue.keep libraries letter).rows =
      reader.queue.rows ++ more := keep_grows libraries reader.queue letter
  have later : rank reader.queue.rows row ≤
      rank (reader.queue.keep libraries letter).rows row := by
    rw [grown, rank, rank, List.countP_append]
    exact Nat.le_add_right _ _
  constructor
  · dsimp only [Reader.step]
    rw [grown]
    exact List.mem_append_left more ahead.stored
  · refine ahead.unread.imp_right ?_
    rintro ⟨going, behind⟩
    exact ⟨going, Nat.le_trans behind later⟩

theorem Ahead.list (ahead : Ahead limit row reader) (limited : limit < 2 ^ 63)
    (apart : Apart reader.queue.rows) (fits : reader.queue.rows.length < 2 ^ 63)
    (now : Instant) :
    Ahead limit row (reader.step libraries surroundings limit (.list now)) := by
  refine ⟨?_, ?_⟩
  · dsimp only [Reader.step]
    split
    · exact ahead.stored
    · exact ahead.stored
  · rcases ahead.unread with seen | ⟨going, behind⟩
    · left
      dsimp only [Reader.step]
      split
      · exact seen
      · rw [List.map_append]
        exact List.mem_append_left _ seen
    · have placed := getElem?_orderByDesc surroundings reader.queue apart ahead.stored
      have inside := (List.getElem?_eq_some_iff.mp placed).1
      have same := (surroundings.permutes reader.queue.rows).length_eq
      have offset : reader.page * limit < 2 ^ 63 := by omega
      have pages := page_ofNat limited offset (surroundings.orderByDesc reader.queue.rows)
      have next : (reader.page + 1) * limit = reader.page * limit + limit :=
        Nat.succ_mul _ _
      simp only [Reader.step, going, Bool.false_eq_true, if_false, DeadLetterQueue.list, pages]
      by_cases here : rank reader.queue.rows row < reader.page * limit + limit
      · left
        rw [List.map_append, List.map_map]
        exact List.mem_append_right _ (List.mem_map.mpr
          ⟨row, Paging.mem_slice placed behind here, rfl⟩)
      · right
        refine ⟨?_, by omega⟩
        rw [List.length_map, Paging.slice, List.length_take, List.length_drop,
          decide_eq_false_iff_not]
        omega

theorem step_grows (reader : Reader Value) (reading : Reading Value) :
    ∃ more, (reader.step libraries surroundings limit reading).queue.rows =
      reader.queue.rows ++ more := by
  cases reading with
  | store letter => exact keep_grows libraries reader.queue letter
  | list now =>
      refine ⟨[], ?_⟩
      rw [List.append_nil]
      dsimp only [Reader.step]
      split
      · rfl
      · rfl

theorem run_grows (reader : Reader Value) (readings : List (Reading Value)) :
    ∃ more, (Machine.run (Reader.step libraries surroundings limit) reader readings).queue.rows =
      reader.queue.rows ++ more := by
  refine Machine.run_relates (Reader.step libraries surroundings limit)
    (fun earlier later => ∃ more, later.queue.rows = earlier.queue.rows ++ more)
    (fun _ => ⟨[], (List.append_nil _).symm⟩) ?_ (fun _ _ => step_grows _ _) readings reader
  rintro first second third ⟨more, grown⟩ ⟨others, grownAgain⟩
  exact ⟨more ++ others, by rw [grownAgain, grown, List.append_assoc]⟩

/-- A reader that goes from page to page until one is not full has seen every letter that was
there when it began, whatever is stored between the pages, if no two letters are of the same
instant. -/
theorem paging_misses_no_letter (limited : limit < 2 ^ 63) (queue : DeadLetterQueue)
    (readings : List (Reading Value)) :
    let reader := Machine.run (Reader.step libraries surroundings limit) (Reader.start queue)
      readings
    Apart reader.queue.rows → reader.queue.rows.length < 2 ^ 63 → reader.ended = true →
      ∀ row ∈ queue.rows, row.id ∈ reader.seen.map DeadLetter.id := by
  intro reader apart fits ended row stored
  have ahead : Ahead limit row reader := by
    refine Machine.run_invariant_of_visits (Reader.step libraries surroundings limit)
      (Ahead limit row) readings (Reader.start queue) ?_
      ⟨stored, Or.inr ⟨rfl, by simp [Reader.start]⟩⟩
    rintro ⟨met, reading⟩ visited ahead
    obtain ⟨before, after, split, reached⟩ := (Machine.mem_visits_iff _ _ _ _ _).mp visited
    obtain ⟨more, grown⟩ : ∃ more, reader.queue.rows = met.queue.rows ++ more := by
      have whole : reader = Machine.run (Reader.step libraries surroundings limit) met
          (reading :: after) := by
        rw [reached, ← Machine.run_append, ← split]
      rw [whole]
      exact run_grows met (reading :: after)
    cases reading with
    | store letter => exact ahead.store letter
    | list now =>
        rw [grown] at apart fits
        rw [List.length_append] at fits
        have fewer : met.queue.rows.length < 2 ^ 63 := by omega
        exact ahead.list limited (List.pairwise_append.mp apart).1 fewer now
  rcases ahead.unread with seen | ⟨going, _⟩
  · exact seen
  · rw [ended] at going
    cases going

end Reading

section Sample

def letterAt (id : String) (deadLetteredAt : Instant) : DeadLetter String where
  id := id
  delivery :=
    { id := "delivery"
      url := "a.example"
      payload := "event"
      statusCode := some 500
      responseBody := none
      attempt := 5
      error := none
      createdAt := epoch
      lastAttemptedAt := some epochHalf
      delivered := false
      attempt_lt := by decide }
  reason := "Max retries exceeded"
  deadLetteredAt := deadLetteredAt

def NotBefore (first second : DeadLetterRow) : Prop :=
  second.deadLetteredAt ≤ first.deadLetteredAt

instance : DecidableRel NotBefore := fun first second =>
  inferInstanceAs (Decidable (second.deadLetteredAt ≤ first.deadLetteredAt))

instance : Std.Total NotBefore where
  total first second := List.le_total second.deadLetteredAt first.deadLetteredAt

instance : IsTrans DeadLetterRow NotBefore where
  trans _ _ _ before after := List.le_trans after before

def insertionSurroundings : Surroundings where
  parseFromRfc3339 := fromRfc3339
  reads := fromRfc3339_toRfc3339
  orderByDesc := fun rows => rows.insertionSort NotBefore
  permutes := fun rows => List.perm_insertionSort NotBefore rows
  descends := fun rows => (List.pairwise_insertionSort NotBefore rows).imp
    fun ordered => List.not_lt.mpr ordered

def storedLetters : DeadLetterQueue :=
  [letterAt "a" epoch, letterAt "b" epochHalf].foldl (DeadLetterQueue.keep plainLibraries) .empty

def readings : List (Reading String) :=
  [.list epoch, .store (letterAt "c" dayAfter), .list epoch, .list epoch, .list epoch]

end Sample

/-- The second letter under an identifier does not replace the first, and a third is refused
as well. -/
theorem second_letter_refused :
    let queue := [letterAt "a" epoch, letterAt "a" epochHalf].foldl
      (DeadLetterQueue.keep plainLibraries) .empty
    queue.get plainLibraries sortedSurroundings epoch "a" = some (letterAt "a" epoch) ∧
      queue.store plainLibraries (letterAt "a" dayAfter) = none := by
  have trip := dead_letters_round_trip plainLibraries sortedSurroundings
    [letterAt "a" epoch, letterAt "a" epochHalf] ?_ epoch
  · exact ⟨(trip.1 "a").trans rfl, (trip.2.1 _).mpr List.mem_cons_self⟩
  · intro letter member
    rcases List.mem_cons.mp member with rfl | member
    · rfl
    · rw [List.mem_singleton.mp member]
      rfl

theorem first_letters_seen :
    let reader := Machine.run (Reader.step plainLibraries insertionSurroundings 1)
      (Reader.start storedLetters) readings
    reader.ended = true ∧
      ∀ row ∈ storedLetters.rows, row.id ∈ reader.seen.map DeadLetter.id := by
  intro reader
  have ended : reader.ended = true := by decide +kernel
  have apart : Apart reader.queue.rows := by
    unfold Apart
    decide +kernel
  exact ⟨ended, paging_misses_no_letter (by decide) storedLetters readings apart
    (by decide +kernel) ended⟩

end AnchorKit.Webhook
