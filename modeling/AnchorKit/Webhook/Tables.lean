import AnchorKit.Base.Rfc3339
import AnchorKit.Webhook.Processor

/-!
# Timestamps in the tables of `idempotency.rs` and `dead_letter.rs`

Both tables keep times as RFC 3339 text and leave it to SQLite to compare them, byte by
byte.  A row of `idempotency_keys` carries the instant it was inserted at beside its
text, which no query reads.  The table is the map that the processor looks keys up in.

In which order SQLite returns rows with equal timestamps, and how `chrono` reads a text
that it has not written itself, is left open.  The number of attempts is written as a `u32`
and read as an `i32`, where a larger number is a panic; a letter has fewer than `2 ^ 31`.
-/

set_option autoImplicit false

namespace AnchorKit.Webhook

open AnchorKit.Base
open AnchorKit.Base.Rfc3339

/-! ## Idempotency records -/

structure IdempotencyRecord where
  idempotencyKey : String
  payload : String
  response : String
  createdAt : List UInt8
  created : Instant
  stamped : createdAt = toRfc3339 created

/-- `INSERT OR IGNORE` under a primary key. -/
def IdempotencyTable.record (table : List IdempotencyRecord) (now : Instant)
    (idempotencyKey payload response : String) : List IdempotencyRecord :=
  if table.any fun row => row.idempotencyKey == idempotencyKey then table
  else table ++ [⟨idempotencyKey, payload, response, toRfc3339 now, now, rfl⟩]

/-- `now - chrono::Duration::days(days)`, if it lies in the years 0 to 9999. -/
def minusDays (now : Instant) (days : ℤ) : Option Instant :=
  if (now.nanos : ℤ) - days * nanosPerDay < 0 then none
  else Instant.ofNanos ((now.nanos : ℤ) - days * nanosPerDay).toNat

/-- `DELETE FROM idempotency_keys WHERE created_at < ?`: the number of rows deleted, and
what is left. -/
def cleanupOldRecords (table : List IdempotencyRecord) (now : Instant)
    (retentionDays : Int32) : Option (ℕ × List IdempotencyRecord) :=
  (minusDays now retentionDays.toInt).map fun daysAgo =>
    (table.countP fun row => decide (row.createdAt < toRfc3339 daysAgo),
      table.filter fun row => !decide (row.createdAt < toRfc3339 daysAgo))

/-- The rows as the processor's store has them. -/
def rowsOf (table : List IdempotencyRecord) (key : String) : Option Row :=
  (table.find? fun row => row.idempotencyKey == key).map fun row =>
    ⟨row.payload, row.response, row.created.nanos⟩

/-- Inserting into the table is recording in the store. -/
theorem rowsOf_record (table : List IdempotencyRecord) (now : Instant)
    (key payload response : String) :
    rowsOf (IdempotencyTable.record table now key payload response) =
      Function.update (rowsOf table) key
        (some ((rowsOf table key).getD ⟨payload, response, now.nanos⟩)) := by
  funext other
  unfold IdempotencyTable.record
  by_cases taken : (table.any fun row => row.idempotencyKey == key) = true
  · rw [if_pos taken]
    by_cases same : other = key
    · subst other
      obtain ⟨row, found⟩ := Option.isSome_iff_exists.mp
        (List.find?_isSome.mpr (List.any_eq_true.mp taken))
      rw [Function.update_self, rowsOf, found]
      rfl
    · rw [Function.update_of_ne same]
  · have absent : table.find? (fun row => row.idempotencyKey == key) = none := by
      rw [← Option.not_isSome_iff_eq_none, List.find?_isSome, ← List.any_eq_true]
      exact taken
    rw [if_neg taken]
    by_cases same : other = key
    · subst other
      rw [Function.update_self, rowsOf, rowsOf, List.find?_append, absent]
      simp
    · rw [Function.update_of_ne same, rowsOf, rowsOf, List.find?_append]
      simp [Ne.symm same]

theorem cleanupOldRecords_eq {now cutoff : Instant} {retentionDays : Int32}
    (inRange : minusDays now retentionDays.toInt = some cutoff)
    (table : List IdempotencyRecord) :
    cleanupOldRecords table now retentionDays =
      some (table.countP fun row => decide (row.created.nanos < cutoff.nanos),
        table.filter fun row => decide (cutoff.nanos ≤ row.created.nanos)) := by
  have older : (fun row : IdempotencyRecord => decide (row.createdAt < toRfc3339 cutoff)) =
      fun row => decide (row.created.nanos < cutoff.nanos) := by
    funext row
    rw [decide_eq_decide, row.stamped]
    exact toRfc3339_lt_iff row.created cutoff
  have younger : (fun row : IdempotencyRecord => !decide (row.createdAt < toRfc3339 cutoff)) =
      fun row => decide (cutoff.nanos ≤ row.created.nanos) := by
    funext row
    rw [congrFun older row, ← decide_not, decide_eq_decide, Nat.not_lt]
  rw [cleanupOldRecords, inRange, Option.map_some, older, younger]

/-! ## Dead letters -/

/-- `WebhookDelivery` with the fields that only the storage uses. -/
structure StoredDelivery (Value : Type) where
  id : String
  url : String
  payload : Value
  statusCode : Option UInt16
  responseBody : Option String
  attempt : UInt32
  error : Option String
  createdAt : Instant
  lastAttemptedAt : Option Instant
  delivered : Bool
  attempt_lt : attempt.toNat < 2 ^ 31

structure DeadLetter (Value : Type) where
  id : String
  delivery : StoredDelivery Value
  reason : String
  deadLetteredAt : Instant

structure DeadLetterRow where
  id : String
  deliveryId : String
  url : String
  payload : String
  statusCode : Option Int32
  responseBody : Option String
  attempt : UInt32
  error : Option String
  createdAt : List UInt8
  lastAttemptedAt : Option (List UInt8)
  delivered : Bool
  reason : String
  deadLetteredAt : List UInt8
  attempt_lt : attempt.toNat < 2 ^ 31

/-- What `chrono` and SQLite do that the crate relies on. -/
structure Surroundings where
  parseFromRfc3339 : List UInt8 → Option Instant
  reads : ∀ instant, parseFromRfc3339 (toRfc3339 instant) = some instant
  orderByDesc : List DeadLetterRow → List DeadLetterRow
  permutes : ∀ rows, (orderByDesc rows).Perm rows
  descends : ∀ rows, (orderByDesc rows).Pairwise fun first second =>
    ¬ first.deadLetteredAt < second.deadLetteredAt

structure DeadLetterQueue where
  rows : List DeadLetterRow
  stamped : ∀ row ∈ rows, ∃ instant, row.deadLetteredAt = toRfc3339 instant

section DeadLetters

variable {Value : Type} (libraries : Libraries Value)

def rowOf (letter : DeadLetter Value) : DeadLetterRow where
  id := letter.id
  deliveryId := letter.delivery.id
  url := letter.delivery.url
  payload := libraries.toString letter.delivery.payload
  statusCode := letter.delivery.statusCode.map fun status => status.toUInt32.toInt32
  responseBody := letter.delivery.responseBody
  attempt := letter.delivery.attempt
  error := letter.delivery.error
  createdAt := toRfc3339 letter.delivery.createdAt
  lastAttemptedAt := letter.delivery.lastAttemptedAt.map toRfc3339
  delivered := letter.delivery.delivered
  reason := letter.reason
  deadLetteredAt := toRfc3339 letter.deadLetteredAt
  attempt_lt := letter.delivery.attempt_lt

/-- `INSERT`, refused if the identifier is taken. -/
def DeadLetterQueue.store (queue : DeadLetterQueue) (letter : DeadLetter Value) :
    Option DeadLetterQueue :=
  if queue.rows.any fun row => row.id == letter.id then none
  else some {
    rows := queue.rows ++ [rowOf libraries letter]
    stamped := by
      intro row member
      rcases List.mem_append.mp member with earlier | here
      · exact queue.stamped row earlier
      · rw [List.mem_singleton.mp here]
        exact ⟨letter.deadLetteredAt, rfl⟩ }

variable (surroundings : Surroundings)

/-- A time that cannot be read is replaced by the current one. -/
def rowToDeadLetter (now : Instant) (row : DeadLetterRow) : DeadLetter Value where
  id := row.id
  delivery :=
    { id := row.deliveryId
      url := row.url
      payload := (libraries.fromStr row.payload).getD (libraries.object [])
      statusCode := row.statusCode.map fun status => status.toUInt32.toUInt16
      responseBody := row.responseBody
      attempt := row.attempt.toInt32.toUInt32
      error := row.error
      createdAt := (surroundings.parseFromRfc3339 row.createdAt).getD now
      lastAttemptedAt := row.lastAttemptedAt.bind surroundings.parseFromRfc3339
      delivered := row.delivered
      attempt_lt := by rw [UInt32.toUInt32_toInt32]; exact row.attempt_lt }
  reason := row.reason
  deadLetteredAt := (surroundings.parseFromRfc3339 row.deadLetteredAt).getD now

/-- `LIMIT ? OFFSET ?`: a negative limit is none, and a negative offset is zero. -/
def page {α : Type} (limit offset : Int64) (rows : List α) : List α :=
  if limit < 0 then rows.drop offset.toInt.toNat
  else (rows.drop offset.toInt.toNat).take limit.toInt.toNat

def DeadLetterQueue.list (queue : DeadLetterQueue) (now : Instant) (limit offset : Int64) :
    List (DeadLetter Value) :=
  (page limit offset (surroundings.orderByDesc queue.rows)).map
    (rowToDeadLetter libraries surroundings now)

theorem page_sublist {α : Type} (limit offset : Int64) (rows : List α) :
    (page limit offset rows).Sublist rows := by
  unfold page
  split
  · exact List.drop_sublist _ _
  · exact (List.take_sublist _ _).trans (List.drop_sublist _ _)

theorem rowToDeadLetter_deadLetteredAt (now : Instant) {row : DeadLetterRow} {instant : Instant}
    (stamped : row.deadLetteredAt = toRfc3339 instant) :
    (rowToDeadLetter libraries surroundings now row).deadLetteredAt = instant := by
  rw [rowToDeadLetter]
  dsimp only
  rw [stamped, surroundings.reads, Option.getD_some]

theorem DeadLetterQueue.list_descends (queue : DeadLetterQueue) (now : Instant)
    (limit offset : Int64) :
    (queue.list libraries surroundings now limit offset).Pairwise fun first second =>
      second.deadLetteredAt.nanos ≤ first.deadLetteredAt.nanos := by
  have sublist := page_sublist limit offset (surroundings.orderByDesc queue.rows)
  have sorted := (surroundings.descends queue.rows).sublist sublist
  unfold DeadLetterQueue.list
  rw [List.pairwise_map]
  refine sorted.imp_of_mem ?_
  intro first second firstMember secondMember notBefore
  have member : ∀ row ∈ page limit offset (surroundings.orderByDesc queue.rows),
      row ∈ queue.rows := fun row found =>
    (surroundings.permutes queue.rows).mem_iff.mp (sublist.subset found)
  obtain ⟨earlier, firstStamped⟩ := queue.stamped first (member first firstMember)
  obtain ⟨later, secondStamped⟩ := queue.stamped second (member second secondMember)
  rw [rowToDeadLetter_deadLetteredAt libraries surroundings now firstStamped,
    rowToDeadLetter_deadLetteredAt libraries surroundings now secondStamped]
  rw [firstStamped, secondStamped, toRfc3339_lt_iff] at notBefore
  exact Nat.le_of_not_lt notBefore

end DeadLetters

/-- Texts of timestamps are ordered byte by byte as the instants by time; so a cleanup
deletes exactly the records created before the cutoff, and dead letters are listed the
latest first. -/
theorem text_timestamps_order_like_time {Value : Type} (libraries : Libraries Value)
    (surroundings : Surroundings) :
    (∀ first second : Instant,
      toRfc3339 first < toRfc3339 second ↔ first.nanos < second.nanos) ∧
    (∀ (table : List IdempotencyRecord) (now cutoff : Instant) (retentionDays : Int32),
      minusDays now retentionDays.toInt = some cutoff →
        cleanupOldRecords table now retentionDays =
          some (table.countP fun row => decide (row.created.nanos < cutoff.nanos),
            table.filter fun row => decide (cutoff.nanos ≤ row.created.nanos))) ∧
    ∀ (queue : DeadLetterQueue) (now : Instant) (limit offset : Int64),
      (queue.list libraries surroundings now limit offset).Pairwise fun first second =>
        second.deadLetteredAt.nanos ≤ first.deadLetteredAt.nanos :=
  ⟨toRfc3339_lt_iff, fun table _ _ _ inRange => cleanupOldRecords_eq inRange table,
    fun queue now limit offset => queue.list_descends libraries surroundings now limit offset⟩

section Sample

def latestFirst (first second : DeadLetterRow) : Bool :=
  decide (second.deadLetteredAt ≤ first.deadLetteredAt)

theorem mergeSort_latestFirst (rows : List DeadLetterRow) :
    (rows.mergeSort latestFirst).Pairwise fun first second =>
      ¬ first.deadLetteredAt < second.deadLetteredAt := by
  have transitive : ∀ first second third : DeadLetterRow, latestFirst first second = true →
      latestFirst second third = true → latestFirst first third = true := by
    intro first second third before after
    exact decide_eq_true (List.le_trans (of_decide_eq_true after) (of_decide_eq_true before))
  have total : ∀ first second : DeadLetterRow,
      (latestFirst first second || latestFirst second first) = true := by
    intro first second
    rw [Bool.or_eq_true, latestFirst, latestFirst, decide_eq_true_eq, decide_eq_true_eq]
    exact List.le_total _ _
  refine (List.pairwise_mergeSort transitive total rows).imp ?_
  intro first second ordered
  exact List.not_lt.mpr (of_decide_eq_true ordered)

def sortedSurroundings : Surroundings where
  parseFromRfc3339 := fromRfc3339
  reads := fromRfc3339_toRfc3339
  orderByDesc := fun rows => rows.mergeSort latestFirst
  permutes := fun rows => List.mergeSort_perm rows latestFirst
  descends := mergeSort_latestFirst

def recordAt (created : Instant) : IdempotencyRecord where
  idempotencyKey := "key"
  payload := "event"
  response := "response"
  createdAt := toRfc3339 created
  created := created
  stamped := rfl

def epoch : Instant := ⟨719528 * nanosPerDay, by decide⟩

def epochHalf : Instant := ⟨719528 * nanosPerDay + 500000000, by decide⟩

def dayAfter : Instant := ⟨719529 * nanosPerDay + 500000000, by decide⟩

end Sample

/-- The text of the first record goes on with an offset where that of the cutoff goes on
with a point. -/
theorem epoch_record_deleted :
    minusDays dayAfter 1 = some epochHalf ∧
      cleanupOldRecords [recordAt epoch, recordAt epochHalf] dayAfter 1 =
        some (1, [recordAt epochHalf]) :=
  ⟨by decide +kernel, ((text_timestamps_order_like_time plainLibraries
    sortedSurroundings).2.1 _ dayAfter epochHalf 1 (by decide +kernel)).trans rfl⟩

end AnchorKit.Webhook
