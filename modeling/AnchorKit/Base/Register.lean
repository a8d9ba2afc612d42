import AnchorKit.Base.Machine
import Mathlib.Data.List.Induction

/-!
# A register replayed from a journal

Each output of a machine either overwrites a register or leaves it alone.  The
register after a journal is the value of the last overwrite in it, and a view of
the machine's state that every step updates as its outputs say is the register
replayed from everything the run emitted.
-/

set_option autoImplicit false

namespace AnchorKit.Base.Register

variable {Output Value : Type} (effect : Output → Option Value)

def replay (initial : Value) (journal : List Output) : Value :=
  journal.foldl (fun current output => (effect output).getD current) initial

theorem replay_append (initial : Value) (first second : List Output) :
    replay effect initial (first ++ second) =
      replay effect (replay effect initial first) second :=
  List.foldl_append

theorem replay_cons (initial : Value) (output : Output) (rest : List Output) :
    replay effect initial (output :: rest) =
      replay effect ((effect output).getD initial) rest :=
  rfl

theorem replay_of_silent (initial : Value) (journal : List Output)
    (silent : ∀ output ∈ journal, effect output = none) :
    replay effect initial journal = initial := by
  induction journal with
  | nil => rfl
  | cons output rest ih =>
      rw [replay_cons, silent output (by simp), Option.getD_none]
      exact ih fun other member => silent other (by simp [member])

/-- The register holds a value that was not there before exactly when the last
overwrite of the journal wrote it. -/
theorem replay_eq_iff {initial value : Value} (differs : initial ≠ value)
    (journal : List Output) :
    replay effect initial journal = value ↔
      ∃ earlier output later, journal = earlier ++ output :: later ∧
        effect output = some value ∧ ∀ other ∈ later, effect other = none := by
  constructor
  · intro holds
    induction journal using List.reverseRecOn with
    | nil => exact absurd holds differs
    | append_singleton front last ih =>
        rw [replay_append, replay_cons] at holds
        cases written : effect last with
        | some stored =>
            rw [written] at holds
            exact ⟨front, last, [], rfl, by rw [written, ← holds]; rfl, by simp⟩
        | none =>
            rw [written] at holds
            obtain ⟨earlier, output, later, rfl, wrote, silent⟩ := ih holds
            refine ⟨earlier, output, later ++ [last], by simp, wrote, ?_⟩
            intro other member
            rcases List.mem_append.mp member with old | new
            · exact silent other old
            · rw [List.mem_singleton.mp new]
              exact written
  · rintro ⟨earlier, output, later, rfl, wrote, silent⟩
    rw [replay_append, replay_cons, wrote]
    exact replay_of_silent effect value later silent

section Refinement

variable {State Input : Type} (step : State → Input → State)
  (emit : State × Input → List Output) (view : State → Value)

/-- A view that every step updates as its outputs say refines the register. -/
theorem view_run
    (refines : ∀ state input,
      view (step state input) = replay effect (view state) (emit (state, input)))
    (state : State) (inputs : List Input) :
    view (Machine.run step state inputs) =
      replay effect (view state) (Machine.outputs step emit state inputs) := by
  induction inputs using List.reverseRecOn with
  | nil => rfl
  | append_singleton front input ih =>
      rw [Machine.run_append, Machine.outputs_append, Machine.outputs_singleton,
        replay_append, ← ih]
      exact refines (Machine.run step state front) input

end Refinement

end AnchorKit.Base.Register
