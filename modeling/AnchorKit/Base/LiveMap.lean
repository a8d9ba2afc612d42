import Mathlib.Logic.Basic

/-!
# Maps whose cells expire

A cell holds a value and the last ledger at which it is live.  Writing a live
cell keeps its expiry, writing any other cell grants the minimum lifetime, and
`extendTtl` moves the expiry only when the remaining lifetime has fallen below
a threshold.  Reads see the value alone.
-/

set_option autoImplicit false

namespace AnchorKit.Base

structure Cell (Value : Type) where
  value : Value
  liveUntil : Nat

@[ext] structure LiveMap (Key Value : Type) where
  cells : Key → Option (Cell Value)

namespace LiveMap

variable {Key Value : Type}

def empty : LiveMap Key Value := ⟨fun _ => none⟩

def get (map : LiveMap Key Value) (key : Key) : Option Value :=
  (map.cells key).map Cell.value

/-- The last live ledger of a key, zero when the key was never written. -/
def liveUntil (map : LiveMap Key Value) (key : Key) : Nat :=
  ((map.cells key).map Cell.liveUntil).getD 0

def ttl (map : LiveMap Key Value) (current : Nat) (key : Key) : Nat :=
  map.liveUntil key - current

def isLive (map : LiveMap Key Value) (current : Nat) (key : Key) : Bool :=
  (map.get key).isSome && decide (current ≤ map.liveUntil key)

/-- The expiry a write leaves: kept on a live key, the minimum otherwise. -/
def writeExpiry (map : LiveMap Key Value) (current minimum : Nat)
    (key : Key) : Nat :=
  if map.isLive current key then map.liveUntil key else current + minimum

/-- The expiry of a key as it is stored: none when the key was never written. -/
def lease (map : LiveMap Key Value) (key : Key) : Option Nat :=
  (map.cells key).map Cell.liveUntil

theorem isLive_eq_lease (map : LiveMap Key Value) (current : Nat) (key : Key) :
    map.isLive current key = (map.lease key).any fun expiry => decide (current ≤ expiry) := by
  unfold isLive lease get liveUntil
  cases map.cells key with
  | none => rfl
  | some cell => simp

theorem lease_isSome (map : LiveMap Key Value) (key : Key) :
    (map.lease key).isSome = (map.get key).isSome := by
  simp [lease, get]

theorem writeExpiry_eq_lease (map : LiveMap Key Value) (current minimum : Nat)
    (key : Key) :
    map.writeExpiry current minimum key =
      if (map.lease key).any fun expiry => decide (current ≤ expiry) then
        (map.lease key).getD 0
      else current + minimum := by
  unfold writeExpiry
  rw [isLive_eq_lease]
  rfl

@[simp] theorem get_empty (key : Key) :
    (empty : LiveMap Key Value).get key = none := rfl

variable [DecidableEq Key]

def put (map : LiveMap Key Value) (key : Key) (cell : Option (Cell Value)) :
    LiveMap Key Value :=
  ⟨fun other => if other = key then cell else map.cells other⟩

def set (map : LiveMap Key Value) (current minimum : Nat) (key : Key)
    (value : Value) : LiveMap Key Value :=
  map.put key (some ⟨value, map.writeExpiry current minimum key⟩)

def remove (map : LiveMap Key Value) (key : Key) : LiveMap Key Value :=
  map.put key none

def extendTtl (map : LiveMap Key Value) (current : Nat) (key : Key)
    (threshold extendTo : Nat) : LiveMap Key Value :=
  match map.cells key with
  | none => map
  | some cell =>
      if cell.liveUntil - current < threshold then
        map.put key (some ⟨cell.value, current + extendTo⟩)
      else map

theorem get_put (map : LiveMap Key Value) (key other : Key)
    (cell : Option (Cell Value)) :
    (map.put key cell).get other =
      if other = key then cell.map Cell.value else map.get other := by
  by_cases same : other = key
  · simp [put, get, same]
  · simp [put, get, same]

theorem liveUntil_put (map : LiveMap Key Value) (key other : Key)
    (cell : Option (Cell Value)) :
    (map.put key cell).liveUntil other =
      if other = key then (cell.map Cell.liveUntil).getD 0
      else map.liveUntil other := by
  by_cases same : other = key
  · simp [put, liveUntil, same]
  · simp [put, liveUntil, same]

theorem get_set (map : LiveMap Key Value) (current minimum : Nat)
    (key other : Key) (value : Value) :
    (map.set current minimum key value).get other =
      if other = key then some value else map.get other :=
  get_put map key other _

@[simp] theorem get_set_self (map : LiveMap Key Value) (current minimum : Nat)
    (key : Key) (value : Value) :
    (map.set current minimum key value).get key = some value := by
  simp [get_set]

@[simp] theorem get_extendTtl (map : LiveMap Key Value) (current : Nat)
    (key other : Key) (threshold extendTo : Nat) :
    (map.extendTtl current key threshold extendTo).get other = map.get other := by
  unfold extendTtl
  cases found : map.cells key with
  | none => rfl
  | some cell =>
      by_cases low : cell.liveUntil - current < threshold
      · simp only [if_pos low, get_put]
        split
        · rename_i same
          subst other
          simp [get, found]
        · rfl
      · simp only [if_neg low]

theorem liveUntil_set (map : LiveMap Key Value) (current minimum : Nat)
    (key other : Key) (value : Value) :
    (map.set current minimum key value).liveUntil other =
      if other = key then map.writeExpiry current minimum key
      else map.liveUntil other :=
  liveUntil_put map key other _

theorem liveUntil_extendTtl_of_ne (map : LiveMap Key Value) (current : Nat)
    {key other : Key} (threshold extendTo : Nat) (different : other ≠ key) :
    (map.extendTtl current key threshold extendTo).liveUntil other =
      map.liveUntil other := by
  unfold extendTtl
  cases map.cells key with
  | none => rfl
  | some cell =>
      by_cases low : cell.liveUntil - current < threshold
      · simp [low, liveUntil_put, different]
      · simp [low]

theorem liveUntil_extendTtl {map : LiveMap Key Value} {key : Key}
    (present : (map.get key).isSome) (current threshold extendTo : Nat) :
    (map.extendTtl current key threshold extendTo).liveUntil key =
      if map.ttl current key < threshold then current + extendTo
      else map.liveUntil key := by
  cases found : map.cells key with
  | none => simp [get, found] at present
  | some cell =>
      have stored : map.liveUntil key = cell.liveUntil := by
        simp [liveUntil, found]
      simp only [extendTtl, found, ttl, stored]
      by_cases low : cell.liveUntil - current < threshold
      · simp [low, liveUntil_put]
      · simp [low, stored]

omit [DecidableEq Key] in
theorem liveUntil_le_writeExpiry (map : LiveMap Key Value) (current minimum : Nat)
    (key : Key) : map.liveUntil key ≤ map.writeExpiry current minimum key := by
  unfold writeExpiry
  by_cases live : map.isLive current key = true
  · exact Nat.le_of_eq (if_pos live).symm
  · rw [if_neg live]
    by_cases expired : map.liveUntil key < current
    · omega
    · have absent : map.cells key = none := by
        simpa [isLive, get, Nat.not_lt.mp expired] using live
      simp [liveUntil, absent]

omit [DecidableEq Key] in
theorem current_le_writeExpiry (map : LiveMap Key Value) (current minimum : Nat)
    (key : Key) : current ≤ map.writeExpiry current minimum key := by
  unfold writeExpiry
  by_cases live : map.isLive current key = true
  · rw [if_pos live]
    simp only [isLive, Bool.and_eq_true, decide_eq_true_eq] at live
    exact live.2
  · rw [if_neg live]
    omega

theorem lease_put (map : LiveMap Key Value) (key other : Key)
    (cell : Option (Cell Value)) :
    (map.put key cell).lease other =
      if other = key then cell.map Cell.liveUntil else map.lease other := by
  by_cases same : other = key
  · simp [put, lease, same]
  · simp [put, lease, same]

theorem lease_set (map : LiveMap Key Value) (current minimum : Nat)
    (key other : Key) (value : Value) :
    (map.set current minimum key value).lease other =
      if other = key then some (map.writeExpiry current minimum key)
      else map.lease other :=
  lease_put map key other _

theorem cells_put (map : LiveMap Key Value) (key other : Key)
    (cell : Option (Cell Value)) :
    (map.put key cell).cells other = if other = key then cell else map.cells other :=
  rfl

theorem cells_set_extendTtl (map : LiveMap Key Value)
    (current minimum threshold extendTo : Nat) (key other : Key) (value : Value) :
    ((map.set current minimum key value).extendTtl current key threshold
        extendTo).cells other =
      if other = key then
        some ⟨value, if map.writeExpiry current minimum key - current < threshold then
          current + extendTo else map.writeExpiry current minimum key⟩
      else map.cells other := by
  have written : (map.set current minimum key value).cells key =
      some ⟨value, map.writeExpiry current minimum key⟩ := by
    simp [set, put]
  simp only [extendTtl, written]
  by_cases low : map.writeExpiry current minimum key - current < threshold
  · simp only [low, if_true, set, cells_put]
    split
    · rfl
    · rfl
  · simp only [low, if_false, set, cells_put]

theorem lease_set_extendTtl (map : LiveMap Key Value)
    (current minimum threshold extendTo : Nat) (key other : Key) (value : Value) :
    ((map.set current minimum key value).extendTtl current key threshold
        extendTo).lease other =
      if other = key then
        some (if map.writeExpiry current minimum key - current < threshold then
          current + extendTo else map.writeExpiry current minimum key)
      else map.lease other := by
  rw [lease, cells_set_extendTtl]
  by_cases same : other = key
  · simp only [same, if_true, Option.map_some]
  · simp only [same, if_false, lease]

omit [DecidableEq Key] in
theorem writeExpiry_congr {map other : LiveMap Key Value} {key : Key}
    (same : other.cells key = map.cells key) (current minimum : Nat) :
    other.writeExpiry current minimum key = map.writeExpiry current minimum key := by
  have leases : other.lease key = map.lease key := congrArg (Option.map Cell.liveUntil) same
  rw [writeExpiry_eq_lease, writeExpiry_eq_lease, leases]

theorem liveUntil_set_extendTtl (map : LiveMap Key Value)
    (current minimum threshold extendTo : Nat) (key : Key) (value : Value) :
    ((map.set current minimum key value).extendTtl current key threshold
        extendTo).liveUntil key =
      if map.writeExpiry current minimum key - current < threshold then
        current + extendTo
      else map.writeExpiry current minimum key := by
  rw [liveUntil_extendTtl (by simp)]
  simp only [ttl, liveUntil_set, if_true]

theorem liveUntil_le_set_extendTtl (map : LiveMap Key Value)
    {threshold extendTo : Nat} (ordered : threshold ≤ extendTo)
    (current minimum : Nat) (key other : Key) (value : Value) :
    map.liveUntil other ≤ ((map.set current minimum key value).extendTtl current key
      threshold extendTo).liveUntil other := by
  by_cases same : other = key
  · subst other
    have kept := map.liveUntil_le_writeExpiry current minimum key
    rw [liveUntil_set_extendTtl]
    split
    · omega
    · exact kept
  · have kept : (map.set current minimum key value).liveUntil other =
        map.liveUntil other := by
      rw [liveUntil_set, if_neg same]
    rw [liveUntil_extendTtl_of_ne _ _ _ _ same]
    exact Nat.le_of_eq kept.symm

theorem threshold_le_set_extendTtl (map : LiveMap Key Value)
    {threshold extendTo : Nat} (ordered : threshold ≤ extendTo)
    (current minimum : Nat) (key : Key) (value : Value) :
    current + threshold ≤ ((map.set current minimum key value).extendTtl current key
      threshold extendTo).liveUntil key := by
  have written := map.current_le_writeExpiry current minimum key
  rw [liveUntil_set_extendTtl]
  split
  · omega
  · omega

end LiveMap
end AnchorKit.Base
