import Mathlib.Data.List.Destutter

/-!
# Reporting changes only

`changes last` reports an item when it differs from the one reported before, and
`upTo` cuts a list off after the first item of a kind.
-/

set_option autoImplicit false

namespace AnchorKit.Base

variable {α : Type}

/-- The items up to the first one of a kind, and with it. -/
def upTo (final : α → Bool) : List α → List α
  | [] => []
  | item :: rest => if final item then [item] else item :: upTo final rest

variable [DecidableEq α]

def changes : Option α → List α → List α
  | _, [] => []
  | last, item :: rest =>
      if last = some item then changes last rest else item :: changes (some item) rest

theorem cons_changes (last : α) (items : List α) :
    last :: changes (some last) items = items.destutter' (· ≠ ·) last := by
  induction items generalizing last with
  | nil => rfl
  | cons item rest ih =>
      by_cases same : last = item
      · rw [List.destutter'_cons_neg _ (not_not.mpr same), changes, if_pos (by rw [same]), ih]
      · rw [List.destutter'_cons_pos _ same, changes, if_neg (by simpa using same), ih]

theorem changes_none (items : List α) : changes none items = items.destutter (· ≠ ·) := by
  cases items with
  | nil => rfl
  | cons item rest =>
      rw [changes, if_neg (by simp), cons_changes]
      rfl

end AnchorKit.Base
