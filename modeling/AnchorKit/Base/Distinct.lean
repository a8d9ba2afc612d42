import Mathlib.Data.Finset.Card
import Mathlib.Data.List.Destutter
import Mathlib.Data.List.Sort

/-!
# Counting distinct values

Sorting a list and dropping what repeats its neighbour leaves each value once, so that
the length is the number of distinct values.
-/

set_option autoImplicit false

namespace AnchorKit.Base

variable {Value : Type}

theorem mem_destutter_from [DecidableEq Value] (value first : Value) (rest : List Value) :
    value ∈ rest.destutter' (· ≠ ·) first ↔ value = first ∨ value ∈ rest := by
  induction rest generalizing first with
  | nil => simp
  | cons second rest ofRest =>
      by_cases same : first = second
      · subst same
        rw [List.destutter'_cons_neg _ (by simp), ofRest]
        simp
      · rw [List.destutter'_cons_pos _ same, List.mem_cons, ofRest, List.mem_cons]

theorem mem_destutter [DecidableEq Value] (value : Value) (values : List Value) :
    value ∈ values.destutter (· ≠ ·) ↔ value ∈ values := by
  cases values with
  | nil => simp
  | cons first rest => rw [List.destutter_cons', mem_destutter_from, List.mem_cons]

theorem nodup_destutter [LinearOrder Value] {values : List Value}
    (sorted : values.Pairwise (· ≤ ·)) : (values.destutter (· ≠ ·)).Nodup := by
  have ascending := sorted.sublist (List.destutter_sublist (· ≠ ·) values)
  have changing := List.isChain_destutter (· ≠ ·) values
  -- neighbours are ordered and differ, so the list ascends strictly
  have strict : (values.destutter (· ≠ ·)).IsChain (· < ·) := by
    rw [List.isChain_iff_forall_rel_of_append_cons_cons] at changing ⊢
    intro left right before behind split
    have ordered := List.isChain_iff_forall_rel_of_append_cons_cons.1 ascending.isChain split
    exact lt_of_le_of_ne ordered (changing split)
  exact strict.pairwise.imp fun less => less.ne

theorem length_destutter_insertionSort [LinearOrder Value] (values : List Value) :
    ((values.insertionSort (· ≤ ·)).destutter (· ≠ ·)).length = values.toFinset.card := by
  have distinct := nodup_destutter (List.pairwise_insertionSort (· ≤ ·) values)
  rw [← List.toFinset_card_of_nodup distinct]
  congr 1
  ext value
  simp [mem_destutter]

end AnchorKit.Base
