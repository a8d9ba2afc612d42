import Mathlib.Data.Nat.Find
import Mathlib.Tactic.Ring

/-!
# Numbers written so that texts order like them

A list is compared element by element from the front.  A number written with a fixed
number of digits is ordered like its text, and a number that is cut into a more and a
less significant part is ordered by the first and then by the second: so fields of
fixed width, the most significant first, make a text that is ordered like the number.
-/

set_option autoImplicit false

namespace AnchorKit.Base.Lexical

/-! ## Lists -/

section Lists

variable {α : Type} [LT α] {front ahead rest other : List α}

theorem append_lt_append_of_lt (same : front.length = ahead.length) (less : front < ahead) :
    front ++ rest < ahead ++ other := by
  induction front generalizing ahead with
  | nil =>
      cases ahead with
      | nil => exact absurd less (List.not_lt_nil [])
      | cons first tail => cases same
  | cons first tail ih =>
      cases ahead with
      | nil => cases same
      | cons second tail' =>
          rw [List.cons_append, List.cons_append, List.cons_lt_cons_iff]
          rcases List.cons_lt_cons_iff.mp less with before | ⟨equal, later⟩
          · exact .inl before
          · exact .inr ⟨equal, ih (Nat.succ.inj same) later⟩

theorem append_lt_append (same : front.length = ahead.length)
    (ordered : front < ahead ∨ front = ahead ∧ rest < other) :
    front ++ rest < ahead ++ other := by
  rcases ordered with less | ⟨equal, later⟩
  · exact append_lt_append_of_lt same less
  · rw [equal]
    exact List.append_left_lt later

end Lists

/-! ## Digits -/

def digit (value : ℕ) : UInt8 := UInt8.ofNat (48 + value % 10)

/-- The last `width` decimal digits. -/
def pad : ℕ → ℕ → List UInt8
  | 0, _ => []
  | width + 1, value => digit (value / 10 ^ width) :: pad width (value % 10 ^ width)

theorem digit_toNat (value : ℕ) : (digit value).toNat = 48 + value % 10 :=
  UInt8.toNat_ofNat_of_lt' (show 48 + value % 10 < 256 by omega)

theorem digit_lt_digit {first second : ℕ} (less : first < second) (small : second < 10) :
    digit first < digit second := by
  rw [UInt8.lt_iff_toNat_lt, digit_toNat, digit_toNat, Nat.mod_eq_of_lt small,
    Nat.mod_eq_of_lt (less.trans small)]
  omega

theorem length_pad (width value : ℕ) : (pad width value).length = width := by
  induction width generalizing value with
  | zero => rfl
  | succ width ih => rw [pad, List.length_cons, ih]

theorem pad_mod (width value : ℕ) : pad width (value % 10 ^ width) = pad width value := by
  cases width with
  | zero => rfl
  | succ width =>
      have head : digit (value % 10 ^ (width + 1) / 10 ^ width) = digit (value / 10 ^ width) := by
        rw [Nat.pow_succ, Nat.mod_mul_right_div_self, digit, digit, Nat.mod_mod]
      have tail : value % 10 ^ (width + 1) % 10 ^ width = value % 10 ^ width :=
        Nat.mod_mod_of_dvd _ (Nat.pow_dvd_pow 10 (Nat.le_succ width))
      rw [pad, pad, head, tail]

theorem pad_add (width more value : ℕ) :
    pad (width + more) value = pad width (value / 10 ^ more) ++ pad more (value % 10 ^ more) := by
  induction width generalizing value with
  | zero => rw [Nat.zero_add, pad, List.nil_append, pad_mod]
  | succ width ih =>
      have head : value / 10 ^ (width + more) = value / 10 ^ more / 10 ^ width := by
        rw [Nat.div_div_eq_div_mul, ← Nat.pow_add, Nat.add_comm]
      have middle : value % 10 ^ (width + more) / 10 ^ more = value / 10 ^ more % 10 ^ width := by
        rw [Nat.add_comm, Nat.pow_add, Nat.mod_mul_right_div_self]
      have tail : value % 10 ^ (width + more) % 10 ^ more = value % 10 ^ more :=
        Nat.mod_mod_of_dvd _ (Nat.pow_dvd_pow 10 (Nat.le_add_left more width))
      rw [Nat.add_right_comm, pad, pad, ih, head, middle, tail, List.cons_append]

def number (digits : List UInt8) : ℕ :=
  digits.foldl (fun value digit => value * 10 + (digit.toNat - 48)) 0

theorem foldl_pad {width value : ℕ} (before : ℕ) (bound : value < 10 ^ width) :
    (pad width value).foldl (fun value digit => value * 10 + (digit.toNat - 48)) before =
      before * 10 ^ width + value := by
  induction width generalizing value before with
  | zero =>
      rw [pad, List.foldl_nil]
      omega
  | succ width ih =>
      have positive : 0 < 10 ^ width := Nat.pow_pos (by decide)
      have small : value / 10 ^ width < 10 :=
        Nat.div_lt_of_lt_mul (by rwa [Nat.pow_succ] at bound)
      have split := Nat.div_add_mod value (10 ^ width)
      rw [pad, List.foldl_cons, ih _ (Nat.mod_lt _ positive), digit_toNat,
        Nat.mod_eq_of_lt small, Nat.add_sub_cancel_left, Nat.pow_succ, Nat.add_mul,
        Nat.mul_comm (value / 10 ^ width), Nat.add_assoc, split]
      ring

theorem number_pad {width value : ℕ} (bound : value < 10 ^ width) :
    number (pad width value) = value := by
  rw [number, foldl_pad 0 bound, Nat.zero_mul, Nat.zero_add]

theorem le_toNat_of_mem_pad {width value : ℕ} {byte : UInt8}
    (member : byte ∈ pad width value) : 48 ≤ byte.toNat := by
  induction width generalizing value with
  | zero => cases member
  | succ width ih =>
      rcases List.mem_cons.mp member with rfl | later
      · rw [digit_toNat]
        exact Nat.le_add_right 48 _
      · exact ih later

/-- The number in a field, and what follows its separator. -/
def field (width : ℕ) (text : List UInt8) : ℕ × List UInt8 :=
  (number (text.take width), text.drop (width + 1))

theorem field_pad {width value : ℕ} {separator : UInt8} (rest : List UInt8)
    (bound : value < 10 ^ width) :
    field width (pad width value ++ separator :: rest) = (value, rest) := by
  have taken : (pad width value ++ separator :: rest).take width = pad width value :=
    List.take_left' (length_pad width value)
  have dropped : (pad width value ++ separator :: rest).drop (width + 1) = rest := by
    rw [← List.drop_drop, List.drop_left' (length_pad width value), List.drop_one,
      List.tail_cons]
  rw [field, taken, dropped, number_pad bound]

theorem div_mod_lt {first second : ℕ} (divisor : ℕ) (less : first < second) :
    first / divisor < second / divisor ∨
      first / divisor = second / divisor ∧ first % divisor < second % divisor := by
  rcases Nat.lt_or_eq_of_le (Nat.div_le_div_right (c := divisor) less.le) with before | equal
  · exact .inl before
  · right
    refine ⟨equal, ?_⟩
    have split := Nat.div_add_mod first divisor
    have split' := Nat.div_add_mod second divisor
    rw [equal] at split
    omega

theorem pad_lt_pad {width first second : ℕ} (less : first < second)
    (bound : second < 10 ^ width) : pad width first < pad width second := by
  induction width generalizing first second with
  | zero => omega
  | succ width ih =>
      have positive : 0 < 10 ^ width := Nat.pow_pos (by decide)
      rw [pad, pad, List.cons_lt_cons_iff]
      rcases div_mod_lt (10 ^ width) less with before | ⟨equal, later⟩
      · left
        refine digit_lt_digit before (Nat.div_lt_of_lt_mul ?_)
        rwa [Nat.pow_succ] at bound
      · right
        rw [equal]
        exact ⟨rfl, ih later (Nat.mod_lt _ positive)⟩

theorem field_lt {width first second : ℕ} {separator : UInt8} {rest other : List UInt8}
    (bound : second < 10 ^ width) (ordered : first < second ∨ first = second ∧ rest < other) :
    pad width first ++ separator :: rest < pad width second ++ separator :: other := by
  apply append_lt_append
  · rw [length_pad, length_pad]
  · rcases ordered with less | ⟨equal, later⟩
    · exact .inl (pad_lt_pad less bound)
    · exact .inr ⟨by rw [equal], List.cons_lt_cons_iff.mpr (.inr ⟨rfl, later⟩)⟩

/-! ## Blocks of unequal length -/

/-- The last block, up to a limit, that starts at or before the value. -/
def block (start : ℕ → ℕ) (limit value : ℕ) : ℕ :=
  Nat.findGreatest (fun number => start number ≤ value) limit

section Blocks

variable (start : ℕ → ℕ) {limit limit' value first second : ℕ}

theorem start_block_le (begins : start 0 = 0) : start (block start limit value) ≤ value :=
  Nat.findGreatest_spec (P := fun number => start number ≤ value) (Nat.zero_le limit)
    (begins.trans_le (Nat.zero_le value))

theorem block_le (limit value : ℕ) : block start limit value ≤ limit :=
  Nat.findGreatest_le limit

theorem lt_start_block_succ (inside : block start limit value + 1 ≤ limit) :
    value < start (block start limit value + 1) := by
  have beyond : ¬ start (block start limit value + 1) ≤ value :=
    Nat.findGreatest_is_greatest (P := fun number => start number ≤ value)
      (Nat.lt_succ_self _) inside
  omega

theorem block_lt (begins : start 0 = 0) (less : first < second) (limits : limit ≤ limit') :
    block start limit first < block start limit' second ∨
      block start limit first = block start limit' second ∧
        first - start (block start limit first) < second - start (block start limit' second) := by
  have before : block start limit first ≤ block start limit' second :=
    Nat.findGreatest_mono (fun _ reached => le_trans reached less.le) limits
  rcases Nat.lt_or_eq_of_le before with earlier | same
  · exact .inl earlier
  · have reached : start (block start limit first) ≤ first := start_block_le start begins
    right
    rw [← same]
    exact ⟨rfl, by omega⟩

end Blocks

end AnchorKit.Base.Lexical
