import Mathlib.Algebra.Order.Floor.Ring
import Mathlib.Algebra.Order.Field.Basic
import Mathlib.Tactic.Linarith

/-!
# Sliding-window admission

Time is cut into aligned windows of one width.  The rate at a time is estimated from
the counts of its window and of the window before, the latter weighted by the part
of it that a window ending at that time still covers.  A log in which every entry was
admitted under the limit by this estimate holds at most `limit` entries in an
aligned window, and at most `limit * (1 + d / width)` in an interval of length `d`.

Logs are newest first.
-/

set_option autoImplicit false

namespace AnchorKit.Base.SlidingWindow

variable {K : Type} [Field K] [LinearOrder K] [FloorRing K]

def index (width time : K) : ℤ := ⌊time / width⌋

def countIn (width : K) (log : List K) (number : ℤ) : ℕ :=
  log.countP fun time => decide (index width time = number)

def countBetween (log : List K) (since length : K) : ℕ :=
  log.countP fun time => decide (since ≤ time ∧ time < since + length)

def estimate (width : K) (log : List K) (time : K) : K :=
  countIn width log (index width time - 1) * (1 - Int.fract (time / width)) +
    countIn width log (index width time)

/-- Every entry came last and was admitted by the estimate over the earlier ones. -/
inductive Admitted (width limit : K) : List K → Prop
  | nil : Admitted width limit []
  | cons {time : K} {earlier : List K} (ordered : ∀ before ∈ earlier, before ≤ time)
      (fits : estimate width earlier time + 1 ≤ limit)
      (rest : Admitted width limit earlier) : Admitted width limit (time :: earlier)

/-! ## Counts -/

theorem countIn_cons (width time : K) (log : List K) (number : ℤ) :
    countIn width (time :: log) number =
      countIn width log number + if index width time = number then 1 else 0 := by
  simp [countIn, List.countP_cons]

theorem countIn_eq_zero_of_lt {width : K} {log : List K} {number : ℤ}
    (before : ∀ time ∈ log, index width time < number) : countIn width log number = 0 := by
  apply List.countP_eq_zero.mpr
  intro time member
  simpa using (before time member).ne

theorem countBetween_le_countIn {width since length : K} {log : List K} {number : ℤ}
    (inside : ∀ time ∈ log, since ≤ time → time < since + length →
      index width time = number) :
    countBetween log since length ≤ countIn width log number := by
  apply List.countP_mono_left
  intro time member chosen
  rw [decide_eq_true_eq] at chosen
  simpa using inside time member chosen.1 chosen.2

theorem countBetween_le_countIn_add {width since length : K} {log : List K}
    {first second : ℤ}
    (inside : ∀ time ∈ log, since ≤ time → time < since + length →
      index width time = first ∨ index width time = second) :
    countBetween log since length ≤ countIn width log first + countIn width log second := by
  induction log with
  | nil => exact Nat.zero_le _
  | cons time rest ih =>
      have others : countBetween rest since length ≤ _ :=
        ih fun other member => inside other (List.mem_cons_of_mem _ member)
      unfold countBetween at others ⊢
      rw [List.countP_cons, countIn_cons, countIn_cons]
      by_cases chosen : since ≤ time ∧ time < since + length
      · rcases inside time (List.mem_cons_self ..) chosen.1 chosen.2 with here | here
        · simp only [chosen, and_self, decide_true, here, if_true]
          omega
        · simp only [chosen, and_self, decide_true, here, if_true]
          omega
      · simp only [chosen, decide_false, Bool.false_eq_true, if_false]
        omega

/-! ## Windows -/

theorem one_sub_fract {width : K} (positive : 0 < width) (time : K) :
    1 - Int.fract (time / width) = 1 - (time - index width time * width) / width := by
  unfold Int.fract index
  rw [sub_div, mul_div_cancel_right₀ _ positive.ne']

variable [IsStrictOrderedRing K]

section Index

variable {width : K} (positive : 0 < width)

include positive

theorem index_eq_iff (time : K) (number : ℤ) :
    index width time = number ↔ number * width ≤ time ∧ time < (number + 1) * width := by
  unfold index
  rw [Int.floor_eq_iff, le_div_iff₀ positive, div_lt_iff₀ positive]

theorem index_mono {first second : K} (ordered : first ≤ second) :
    index width first ≤ index width second :=
  Int.floor_mono (div_le_div_of_nonneg_right ordered positive.le)

theorem index_add_le {first second : K} (windows : ℕ)
    (apart : first + windows * width ≤ second) :
    index width first + windows ≤ index width second := by
  have shifted : first / width + windows ≤ second / width := by
    rw [← mul_div_cancel_right₀ (windows : K) positive.ne', ← add_div]
    exact div_le_div_of_nonneg_right apart positive.le
  have floors := Int.floor_mono shifted
  rw [Int.floor_add_natCast] at floors
  exact floors

theorem index_near {first second : K} (ordered : first ≤ second)
    (near : second < first + width) :
    index width first = index width second - 1 ∨ index width first = index width second := by
  have upper := index_mono positive ordered
  have lower : index width second ≤ index width (first + width) :=
    index_mono positive near.le
  have shifted : index width (first + width) = index width first + 1 := by
    unfold index
    rw [add_div, div_self positive.ne', Int.floor_add_one]
  omega

end Index

/-! ## Bounds -/

theorem countIn_le_estimate (width : K) (log : List K) (time : K) :
    (countIn width log (index width time) : K) ≤ estimate width log time := by
  unfold estimate
  have weight : 0 ≤ 1 - Int.fract (time / width) :=
    sub_nonneg.mpr (Int.fract_lt_one _).le
  have carried : (0 : K) ≤ countIn width log (index width time - 1) :=
    Nat.cast_nonneg _
  have product := mul_nonneg carried weight
  linarith

section Bounds

variable {width limit since length : K} {log : List K}

theorem Admitted.countIn_le (admitted : Admitted width limit log) (nonnegative : 0 ≤ limit)
    (number : ℤ) : (countIn width log number : K) ≤ limit := by
  induction admitted with
  | nil => simpa [countIn] using nonnegative
  | @cons time earlier ordered fits rest ih =>
      rw [countIn_cons]
      by_cases here : index width time = number
      · subst number
        have current := countIn_le_estimate width earlier time
        simp only [if_true, Nat.cast_add, Nat.cast_one]
        linarith
      · simpa [here] using ih

/-- The newest entry of an interval that reaches back over the boundary of its
window: what the estimate left out of the window before is the part that the
interval covers of the window of the entry. -/
theorem burst_over_boundary (positive : 0 < width) {time : K} {earlier : List K}
    (fits : estimate width earlier time + 1 ≤ limit)
    (previous : (countIn width earlier (index width time - 1) : K) ≤ limit)
    (crosses : since ≤ index width time * width) (inside : time < since + length) :
    (countIn width earlier (index width time - 1) : K) +
        countIn width earlier (index width time) + 1 ≤
      limit * (1 + length / width) := by
  have covered : Int.fract (time / width) ≤ length / width := by
    have share : (time - index width time * width) / width ≤ length / width := by
      apply div_le_div_of_nonneg_right _ positive.le
      linarith
    linarith [one_sub_fract positive time]
  have carried : (countIn width earlier (index width time - 1) : K) *
      Int.fract (time / width) ≤ limit * (length / width) :=
    mul_le_mul previous covered (Int.fract_nonneg _)
      ((Nat.cast_nonneg _).trans previous)
  unfold estimate at fits
  linarith

theorem burst_cons (positive : 0 < width) (short : length ≤ width) {time : K}
    {earlier : List K} (ordered : ∀ before ∈ earlier, before ≤ time)
    (fits : estimate width earlier time + 1 ≤ limit)
    (previous : (countIn width earlier (index width time - 1) : K) ≤ limit)
    (slack : 0 ≤ limit * (length / width)) (inside : time < since + length) :
    (countBetween earlier since length : K) + 1 ≤ limit * (1 + length / width) := by
  by_cases crosses : since ≤ index width time * width
  · have counted : countBetween earlier since length ≤
        countIn width earlier (index width time - 1) +
          countIn width earlier (index width time) := by
      apply countBetween_le_countIn_add
      intro before member late _
      apply index_near positive (ordered before member)
      linarith
    have counts : (countBetween earlier since length : K) ≤
        countIn width earlier (index width time - 1) +
          countIn width earlier (index width time) := by
      exact_mod_cast counted
    have bound := burst_over_boundary positive fits previous crosses inside
    linarith
  · -- the interval begins inside the window of its newest entry
    have counted : countBetween earlier since length ≤
        countIn width earlier (index width time) := by
      apply countBetween_le_countIn
      intro before member late _
      have ends := ((index_eq_iff positive time _).mp rfl).2
      apply (index_eq_iff positive before _).mpr
      constructor
      · linarith [not_le.mp crosses]
      · linarith [ordered before member]
    have counts : (countBetween earlier since length : K) ≤
        countIn width earlier (index width time) := by
      exact_mod_cast counted
    have current := countIn_le_estimate width earlier time
    linarith

/-- An interval of at most one width holds at most `limit * (1 + length / width)`
entries. -/
theorem Admitted.burst_le (admitted : Admitted width limit log) (positive : 0 < width)
    (nonnegative : 0 ≤ limit) (longer : 0 < length) (short : length ≤ width) :
    (countBetween log since length : K) ≤ limit * (1 + length / width) := by
  have slack : 0 ≤ limit * (length / width) :=
    mul_nonneg nonnegative (div_pos longer positive).le
  induction admitted with
  | nil =>
      simp only [countBetween, List.countP_nil, Nat.cast_zero]
      linarith
  | @cons time earlier ordered fits rest ih =>
      by_cases inside : since ≤ time ∧ time < since + length
      · have split : countBetween (time :: earlier) since length =
            countBetween earlier since length + 1 :=
          List.countP_cons_of_pos (by simpa using inside)
        rw [split, Nat.cast_add, Nat.cast_one]
        exact burst_cons positive short ordered fits (rest.countIn_le nonnegative _) slack
          inside.2
      · have same : countBetween (time :: earlier) since length =
            countBetween earlier since length :=
          List.countP_cons_of_neg (by simpa using inside)
        rw [same]
        exact ih

end Bounds

end AnchorKit.Base.SlidingWindow
