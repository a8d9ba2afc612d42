import Mathlib.Data.List.Basic

/-!
# A list stored under consecutive numbers

A store that cannot hold a list keeps a counter and one cell per number,
counted from one.  `Represents` ties the two to the list they stand for; a
push advances the counter and fills the cell of the new number.
-/

set_option autoImplicit false

namespace AnchorKit.Base.NumberedLog

variable {Entry : Type}

structure Represents (counter : UInt64) (cells : UInt64 → Option Entry)
    (log : List Entry) : Prop where
  counted : counter.toNat = log.length
  stored : ∀ number : UInt64,
    cells number = if number.toNat = 0 then none else log[number.toNat - 1]?

theorem represents_empty {cells : UInt64 → Option Entry}
    (blank : ∀ number, cells number = none) :
    Represents 0 cells [] where
  counted := rfl
  stored number := by simp [blank number]

theorem represents_push {counter next : UInt64}
    {cells updated : UInt64 → Option Entry} {log : List Entry} {entry : Entry}
    (represents : Represents counter cells log)
    (advanced : next.toNat = counter.toNat + 1)
    (filled : ∀ number,
      updated number = if number = next then some entry else cells number) :
    Represents next updated (log ++ [entry]) where
  counted := by simp [advanced, represents.counted]
  stored number := by
    rw [filled number]
    by_cases fresh : number = next
    · subst number
      simp [advanced, represents.counted]
    · have elsewhere : number.toNat ≠ log.length + 1 := by
        intro same
        apply fresh
        apply UInt64.toNat_inj.mp
        rw [same, advanced, represents.counted]
      rw [if_neg fresh, represents.stored number]
      by_cases zero : number.toNat = 0
      · simp [zero]
      · simp only [zero, if_false]
        by_cases inside : number.toNat - 1 < log.length
        · rw [List.getElem?_append_left inside]
        · rw [List.getElem?_eq_none (by omega),
            List.getElem?_eq_none (by simp; omega)]

section Reading

variable {counter : UInt64} {cells : UInt64 → Option Entry} {log : List Entry}

theorem isSome_iff (represents : Represents counter cells log) (number : UInt64) :
    (cells number).isSome = true ↔ 1 ≤ number.toNat ∧ number.toNat ≤ counter.toNat := by
  rw [represents.stored number, represents.counted]
  by_cases zero : number.toNat = 0
  · simp [zero]
  · simp only [zero, if_false, isSome_getElem?]
    omega

theorem cell_eq_some (represents : Represents counter cells log)
    {number : UInt64} {entry : Entry} (found : cells number = some entry) :
    number.toNat ≠ 0 ∧ log[number.toNat - 1]? = some entry := by
  rw [represents.stored number] at found
  by_cases zero : number.toNat = 0
  · simp [zero] at found
  · simp only [zero, if_false] at found
    exact ⟨zero, found⟩

theorem cell_of_getElem (represents : Represents counter cells log)
    {number : UInt64} (index : Nat) (numbered : number.toNat = index + 1) :
    cells number = log[index]? := by
  rw [represents.stored number, numbered]
  simp

theorem cell_counter (represents : Represents counter cells log) :
    cells counter = log.getLast? := by
  rw [represents.stored counter, represents.counted, List.getLast?_eq_getElem?]
  cases log with
  | nil => rfl
  | cons entry rest => simp

end Reading

end AnchorKit.Base.NumberedLog
