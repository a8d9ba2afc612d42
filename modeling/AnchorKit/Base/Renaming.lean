import Mathlib.Logic.Function.Basic

/-!
# Tables that differ by their names

Two tables hold the same entries under different names.  An entry that comes in or goes
out in both keeps them so.
-/

set_option autoImplicit false

namespace AnchorKit.Base

variable {First Second Entry : Type}

structure Renames (name : First → Second) (first : First → Option Entry)
    (second : Second → Option Entry) : Prop where
  kept : ∀ key entry, first key = some entry → second (name key) = some entry
  found : ∀ key entry, second key = some entry → ∃ old, name old = key ∧ first old = some entry
  apart : ∀ key other entry other', first key = some entry → first other = some other' →
    name key = name other → key = other

/-- The tables hold the same entries under some names. -/
def Renamed (first : First → Option Entry) (second : Second → Option Entry) : Prop :=
  ∃ name, Renames name first second

variable {first : First → Option Entry} {second : Second → Option Entry}

theorem Renamed.empty [Nonempty Second] :
    Renamed (fun _ : First => (none : Option Entry)) (fun _ : Second => none) := by
  obtain ⟨key⟩ := ‹Nonempty Second›
  exact ⟨fun _ => key, nofun, nofun, nofun⟩

theorem Renamed.exists_iff (renamed : Renamed first second) (entry : Entry) :
    (∃ key, first key = some entry) ↔ ∃ key, second key = some entry := by
  obtain ⟨name, renames⟩ := renamed
  constructor
  · rintro ⟨key, here⟩
    exact ⟨name key, renames.kept key entry here⟩
  · rintro ⟨key, there⟩
    obtain ⟨old, _, here⟩ := renames.found key entry there
    exact ⟨old, here⟩

variable [DecidableEq First] [DecidableEq Second]

theorem Renamed.insert (renamed : Renamed first second) {key : First} {other : Second}
    (free : first key = none) (unused : second other = none) (entry : Entry) :
    Renamed (Function.update first key (some entry))
      (Function.update second other (some entry)) := by
  obtain ⟨name, renames⟩ := renamed
  have distinct : ∀ {old value}, first old = some value → old ≠ key := by
    rintro old value here rfl
    rw [free] at here
    cases here
  have elsewhere : ∀ {old value}, first old = some value → name old ≠ other := by
    rintro old value here rfl
    rw [renames.kept old value here] at unused
    cases unused
  refine ⟨Function.update name key other, ?_, ?_, ?_⟩
  · intro old value here
    by_cases new : old = key
    · subst old
      rw [Function.update_self] at here ⊢
      rw [Function.update_self, here]
    · rw [Function.update_of_ne new] at here ⊢
      rw [Function.update_of_ne (elsewhere here)]
      exact renames.kept old value here
  · intro place value there
    by_cases new : place = other
    · subst place
      rw [Function.update_self] at there
      exact ⟨key, by rw [Function.update_self], by rw [Function.update_self, there]⟩
    · rw [Function.update_of_ne new] at there
      obtain ⟨old, named, here⟩ := renames.found place value there
      refine ⟨old, ?_, ?_⟩
      · rw [Function.update_of_ne (distinct here), named]
      · rw [Function.update_of_ne (distinct here), here]
  · intro old old' value value' here here' same
    by_cases new : old = key
    · by_cases new' : old' = key
      · rw [new, new']
      · rw [Function.update_of_ne new'] at here' same
        rw [new, Function.update_self] at same
        exact absurd same.symm (elsewhere here')
    · rw [Function.update_of_ne new] at here same
      by_cases new' : old' = key
      · rw [new', Function.update_self] at same
        exact absurd same (elsewhere here)
      · rw [Function.update_of_ne new'] at here' same
        exact renames.apart old old' value value' here here' same

theorem Renamed.erase (renamed : Renamed first second) {key : First} {entry : Entry}
    (here : first key = some entry) :
    ∃ other, second other = some entry ∧
      Renamed (Function.update first key none) (Function.update second other none) := by
  obtain ⟨name, renames⟩ := renamed
  refine ⟨name key, renames.kept key entry here, name, ?_, ?_, ?_⟩
  · intro old value there
    have different : old ≠ key := by
      rintro rfl
      rw [Function.update_self] at there
      cases there
    rw [Function.update_of_ne different] at there
    rw [Function.update_of_ne]
    · exact renames.kept old value there
    · intro same
      exact different (renames.apart old key value entry there here same)
  · intro place value there
    have different : place ≠ name key := by
      rintro rfl
      rw [Function.update_self] at there
      cases there
    rw [Function.update_of_ne different] at there
    obtain ⟨old, named, holds⟩ := renames.found place value there
    refine ⟨old, named, ?_⟩
    rw [Function.update_of_ne]
    · exact holds
    · rintro rfl
      exact different named.symm
  · intro old old' value value' there there'
    have remains : ∀ {old value}, Function.update first key none old = some value →
        first old = some value := by
      intro old value there
      by_cases same : old = key
      · rw [same, Function.update_self] at there
        cases there
      · rwa [Function.update_of_ne same] at there
    exact renames.apart old old' value value' (remains there) (remains there')

end AnchorKit.Base
