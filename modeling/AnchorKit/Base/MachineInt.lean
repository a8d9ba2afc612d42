import Mathlib.Order.MinMax
import Mathlib.Tactic.Ring

/-!
# Saturating and checked unsigned arithmetic

The overflow behaviours a program can choose from for its 64-bit sums and its
32-bit counters, each with its value as a natural number, and the number that stands
in the first bytes of a buffer.
-/

set_option autoImplicit false

namespace AnchorKit.Base.MachineInt

def u64Max : Nat := 2 ^ 64 - 1

def saturatingAdd (left right : UInt64) : UInt64 :=
  if left.toNat + right.toNat ≤ u64Max then left + right
  else UInt64.ofNat u64Max

def saturatingSub (left right : UInt64) : UInt64 :=
  if right ≤ left then left - right else 0

/-- Addition that reports an overflow instead of wrapping. -/
def checkedAdd (left right : UInt64) : Option UInt64 :=
  if left.toNat + right.toNat ≤ u64Max then some (left + right) else none

def checkedSucc (value : UInt32) : Option UInt32 :=
  if value.toNat + 1 < 2 ^ 32 then some (value + 1) else none

theorem checkedSucc_toNat {value next : UInt32} (success : checkedSucc value = some next) :
    next.toNat = value.toNat + 1 := by
  unfold checkedSucc at success
  split at success
  · rename_i fits
    cases Option.some.inj success
    rw [UInt32.toNat_add]
    exact Nat.mod_eq_of_lt fits
  · cases success

theorem toNat_le_u64Max (value : UInt64) : value.toNat ≤ u64Max := by
  have bound := value.toNat_lt
  unfold u64Max
  omega

theorem one_le_of_ne_zero {value : UInt64} (nonzero : value ≠ 0) : 1 ≤ value := by
  have positive : value.toNat ≠ 0 := by
    intro zero
    exact nonzero (UInt64.toNat_inj.mp zero)
  apply UInt64.le_iff_toNat_le.mpr
  change 1 ≤ value.toNat
  omega

theorem saturatingAdd_toNat (left right : UInt64) :
    (saturatingAdd left right).toNat = min (left.toNat + right.toNat) u64Max := by
  unfold saturatingAdd
  split
  · rename_i fits
    have small : left.toNat + right.toNat < 2 ^ 64 := by
      unfold u64Max at fits
      omega
    rw [UInt64.toNat_add, Nat.mod_eq_of_lt small, min_eq_left fits]
  · rename_i overflows
    rw [min_eq_right (by omega)]
    decide

theorem saturatingSub_toNat (left right : UInt64) :
    (saturatingSub left right).toNat = left.toNat - right.toNat := by
  unfold saturatingSub
  split
  · rename_i ordered
    exact UInt64.toNat_sub_of_le left right ordered
  · rename_i reversed
    have below : left.toNat < right.toNat :=
      UInt64.lt_iff_toNat_lt.mp (UInt64.not_le.mp reversed)
    rw [Nat.sub_eq_zero_of_le below.le]
    rfl

theorem checkedAdd_eq_some {left right sum : UInt64}
    (success : checkedAdd left right = some sum) :
    sum.toNat = left.toNat + right.toNat := by
  unfold checkedAdd at success
  split at success
  · rename_i fits
    have small : left.toNat + right.toNat < 2 ^ 64 := by
      unfold u64Max at fits
      omega
    cases Option.some.inj success
    rw [UInt64.toNat_add, Nat.mod_eq_of_lt small]
  · contradiction

theorem checkedAdd_isSome_iff {left right : UInt64} :
    (checkedAdd left right).isSome = true ↔ left.toNat + right.toNat ≤ u64Max := by
  unfold checkedAdd
  split
  · rename_i fits
    simp [fits]
  · rename_i overflows
    simp [overflows]

/-- The number that the first `count` bytes spell, the lowest byte first. -/
def readLe : Nat → List UInt8 → Nat
  | count + 1, byte :: rest => byte.toNat + 256 * readLe count rest
  | _, _ => 0

end AnchorKit.Base.MachineInt
