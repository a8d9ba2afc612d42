import Mathlib.Data.List.Basic

/-!
# Walking a list page by page

A client that cannot read a list at once asks for one page after another, each
from where the last item of the page before points to, until a page is empty.
If every page is a slice of one list, the walk collects the rest of the list.
-/

set_option autoImplicit false

namespace AnchorKit.Base.Paging

variable {Cursor Item : Type}

/-- The walk from a cursor; no page or no fuel ends it without a result. -/
def walk (page : Cursor → Option (List Item)) (next : Item → Cursor) :
    Nat → Cursor → Option (List Item)
  | 0, _ => none
  | fuel + 1, cursor =>
      match page cursor with
      | none => none
      | some items =>
          match items.getLast? with
          | none => some []
          | some last => (walk page next fuel (next last)).map (items ++ ·)

def slice (log : List Item) (limit position : Nat) : List Item :=
  (log.drop position).take limit

theorem slice_eq_nil_iff {log : List Item} {limit position : Nat} (positive : 0 < limit) :
    slice log limit position = [] ↔ log.length ≤ position := by
  rw [slice, List.take_eq_nil_iff, List.drop_eq_nil_iff]
  omega

theorem slice_succ {log : List Item} {position : Nat} {item : Item}
    (found : log[position]? = some item) (limit : Nat) :
    slice log (limit + 1) position = item :: slice log limit (position + 1) := by
  obtain ⟨inside, same⟩ := List.getElem?_eq_some_iff.mp found
  rw [slice, List.drop_eq_getElem_cons inside, List.take_succ_cons, same, slice]

theorem slice_append_drop (log : List Item) (limit position : Nat) :
    slice log limit position ++ log.drop (position + limit) = log.drop position := by
  rw [slice, ← List.drop_drop]
  exact List.take_append_drop limit (log.drop position)

theorem mem_slice {log : List Item} {limit position index : Nat} {item : Item}
    (found : log[index]? = some item) (after : position ≤ index)
    (before : index < position + limit) : item ∈ slice log limit position := by
  apply List.mem_of_getElem? (i := index - position)
  rw [slice, List.getElem?_take, List.getElem?_drop, if_pos (by omega),
    Nat.add_sub_cancel' after]
  exact found

theorem slice_reverse (log : List Item) (limit : Nat) {start : Nat}
    (inside : start ≤ log.length) :
    slice log.reverse limit (log.length - start) =
      (slice log (start - (start - limit)) (start - limit)).reverse := by
  have kept : log.length - (log.length - start) = start := by omega
  rw [slice, List.drop_reverse, kept, List.take_reverse, List.length_take,
    Nat.min_eq_left inside, List.drop_take, slice]

theorem slice_eq_slice {log : List Item} {limit other position : Nat}
    (same : min limit (log.length - position) = min other (log.length - position)) :
    slice log limit position = slice log other position := by
  rw [slice, slice, List.take_eq_take_iff, List.length_drop]
  exact same

theorem getLast?_slice {log : List Item} {limit position : Nat}
    (positive : 0 < limit) (inside : position < log.length) :
    (slice log limit position).getLast? = log[min (position + limit) log.length - 1]? := by
  rw [slice, List.getLast?_eq_getElem?, List.getElem?_take, List.getElem?_drop,
    List.length_take, List.length_drop]
  rw [if_pos (by omega)]
  congr 1
  omega

theorem append_slice_isPrefix {seen log : List Item} (behind : seen <+: log) (limit : Nat) :
    seen ++ slice log limit seen.length <+: log := by
  obtain ⟨rest, rfl⟩ := behind
  rw [slice, List.drop_left]
  exact (List.prefix_append_right_inj seen).mpr (List.take_prefix limit rest)

theorem length_append_slice {seen log : List Item} (behind : seen <+: log) (limit : Nat) :
    (seen ++ slice log limit seen.length).length = min (seen.length + limit) log.length := by
  have within := behind.length_le
  rw [List.length_append, slice, List.length_take, List.length_drop]
  omega

theorem slice_reverse_take {log : List Item} {start position : Nat} (limit : Nat)
    (before : position ≤ start) (inside : start ≤ log.length) :
    slice log.reverse limit (log.length - position) =
      slice (log.take start).reverse limit (start - position) := by
  rw [slice, slice, List.drop_reverse, List.drop_reverse, List.length_take, List.take_take]
  congr 3
  omega

/-- The cursors of a walk over `log`: what they stand for, what their page is and
where the last item of the page leads. -/
structure Paged (page : Cursor → Option (List Item)) (next : Item → Cursor)
    (log : List Item) (limit : Nat) (At : Nat → Cursor → Prop) : Prop where
  served : ∀ position cursor, At position cursor → position ≤ log.length →
    page cursor = some (slice log limit position)
  advances : ∀ position cursor last, At position cursor → position < log.length →
    log[min (position + limit) log.length - 1]? = some last →
    At (min (position + limit) log.length) (next last)

theorem Paged.walk_eq_drop {page : Cursor → Option (List Item)} {next : Item → Cursor}
    {log : List Item} {limit : Nat} {At : Nat → Cursor → Prop}
    (paged : Paged page next log limit At) (positive : 0 < limit) (fuel : Nat)
    {position : Nat} {cursor : Cursor} (located : At position cursor)
    (inside : position ≤ log.length) (enough : log.length - position < fuel) :
    walk page next fuel cursor = some (log.drop position) := by
  induction fuel generalizing position cursor with
  | zero => omega
  | succ fuel ih =>
      rw [walk, paged.served position cursor located inside]
      dsimp only
      by_cases done : position = log.length
      · have empty : slice log limit position = [] :=
          (slice_eq_nil_iff positive).mpr (Nat.le_of_eq done.symm)
        rw [empty, done, List.drop_length]
        rfl
      · have before : position < log.length := Nat.lt_of_le_of_ne inside done
        have last := getLast?_slice positive before
        have exists_last : min (position + limit) log.length - 1 < log.length := by omega
        rw [List.getElem?_eq_getElem exists_last] at last
        rw [last]
        dsimp only
        have rest := ih (paged.advances position cursor _ located before
          (List.getElem?_eq_getElem exists_last)) (Nat.min_le_right _ _) (by omega)
        rw [rest, Option.map_some]
        congr 1
        rw [← slice_append_drop log limit position]
        congr 1
        -- past the end both sides drop everything
        by_cases short : position + limit ≤ log.length
        · rw [Nat.min_eq_left short]
        · rw [Nat.min_eq_right (by omega), List.drop_length]
          exact (List.drop_eq_nil_of_le (by omega)).symm

theorem getElem?_rank (Before : Item → Item → Prop) [DecidableRel Before]
    (asymmetric : ∀ first second, Before first second → ¬ Before second first)
    {sorted : List Item} (ordered : sorted.Pairwise Before) {item : Item}
    (member : item ∈ sorted) :
    sorted[sorted.countP fun other => decide (Before other item)]? = some item := by
  induction sorted with
  | nil => cases member
  | cons head rest ih =>
      obtain ⟨first, orderedRest⟩ := List.pairwise_cons.mp ordered
      rcases List.mem_cons.mp member with rfl | later
      · have none : ((item :: rest).countP fun other => decide (Before other item)) = 0 := by
          rw [List.countP_eq_zero]
          intro other found before
          have earlier := of_decide_eq_true before
          rcases List.mem_cons.mp found with rfl | inRest
          · exact asymmetric _ _ earlier earlier
          · exact asymmetric _ _ (first other inRest) earlier
        rw [none]
        rfl
      · have one : ((head :: rest).countP fun other => decide (Before other item)) =
            (rest.countP fun other => decide (Before other item)) + 1 := by
          simp [first item later]
        rw [one, List.getElem?_cons_succ]
        exact ih orderedRest later

end AnchorKit.Base.Paging
