import Mathlib.Data.List.Basic
import Mathlib.Data.List.Induction
import Mathlib.Order.Basic

/-!
# Runs of a deterministic machine

`run` folds a step function over a list of inputs and `visits` pairs every
input with the state it met, so that statements about whole runs are statements
about the members of one list.  The rules below are the inductions that the
developments over a machine share: an invariant, a preorder along a run, an
event that can fire only once, and a monotone input stream.
-/

set_option autoImplicit false

namespace AnchorKit.Base.Machine

variable {State Input : Type} (step : State → Input → State)

def run : State → List Input → State
  | state, [] => state
  | state, input :: rest => run (step state input) rest

def visits : State → List Input → List (State × Input)
  | _, [] => []
  | state, input :: rest => (state, input) :: visits (step state input) rest

theorem run_append (state : State) (first second : List Input) :
    run step state (first ++ second) = run step (run step state first) second := by
  induction first generalizing state with
  | nil => rfl
  | cons input rest ih => exact ih (step state input)

theorem visits_append (state : State) (first second : List Input) :
    visits step state (first ++ second) =
      visits step state first ++ visits step (run step state first) second := by
  induction first generalizing state with
  | nil => rfl
  | cons input rest ih =>
      simp only [List.cons_append, visits, run, ih]

theorem mem_visits_iff (start : State) (inputs : List Input) (state : State)
    (input : Input) :
    (state, input) ∈ visits step start inputs ↔
      ∃ before after, inputs = before ++ input :: after ∧
        state = run step start before := by
  induction inputs generalizing start with
  | nil => simp [visits]
  | cons head rest ih =>
      simp only [visits, List.mem_cons, Prod.mk.injEq, ih]
      constructor
      · rintro (⟨rfl, rfl⟩ | ⟨before, after, rfl, rfl⟩)
        · exact ⟨[], rest, rfl, rfl⟩
        · exact ⟨head :: before, after, rfl, rfl⟩
      · rintro ⟨before, after, split, reached⟩
        cases before with
        | nil =>
            obtain ⟨rfl, rfl⟩ := List.cons.inj split
            exact Or.inl ⟨reached, rfl⟩
        | cons first others =>
            obtain ⟨rfl, rfl⟩ := List.cons.inj split
            exact Or.inr ⟨others, after, rfl, reached⟩

theorem run_invariant (Holds : State → Prop)
    (preserved : ∀ state input, Holds state → Holds (step state input))
    (inputs : List Input) (state : State) (start : Holds state) :
    Holds (run step state inputs) := by
  induction inputs generalizing state with
  | nil => exact start
  | cons input rest ih => exact ih (step state input) (preserved state input start)

theorem run_invariant_of_visits (Holds : State → Prop)
    (inputs : List Input) (state : State)
    (preserved : ∀ visit ∈ visits step state inputs,
      Holds visit.1 → Holds (step visit.1 visit.2))
    (start : Holds state) :
    Holds (run step state inputs) := by
  induction inputs generalizing state with
  | nil => exact start
  | cons input rest ih =>
      refine ih (step state input) ?_ (preserved (state, input) (by simp [visits]) start)
      intro visit member
      exact preserved visit (by simp [visits, member])

theorem history_invariant (Holds : List (State × Input) → State → Prop)
    (inputs : List Input) (state : State)
    (kept : ∀ past, ∀ visit ∈ visits step state inputs,
      Holds past visit.1 → Holds (past ++ [visit]) (step visit.1 visit.2))
    (start : Holds [] state) :
    Holds (visits step state inputs) (run step state inputs) := by
  induction inputs using List.reverseRecOn with
  | nil => exact start
  | append_singleton before input ih =>
      rw [visits_append] at kept
      rw [visits_append, run_append]
      have earlier : Holds (visits step state before) (run step state before) :=
        ih fun past visit member => kept past visit (List.mem_append_left _ member)
      exact kept _ (run step state before, input) (by simp [visits]) earlier

theorem visits_invariant (Holds : State → Prop) (inputs : List Input) (state : State)
    (preserved : ∀ visit ∈ visits step state inputs,
      Holds visit.1 → Holds (step visit.1 visit.2))
    (start : Holds state) :
    ∀ visit ∈ visits step state inputs, Holds visit.1 := by
  induction inputs generalizing state with
  | nil => simp [visits]
  | cons input rest ih =>
      have next : Holds (step state input) :=
        preserved (state, input) (by simp [visits]) start
      have others := ih (step state input)
        (fun visit member => preserved visit (by simp [visits, member])) next
      intro visit member
      rcases List.mem_cons.mp member with rfl | inRest
      · exact start
      · exact others visit inRest

theorem prefix_invariant (Holds : State → Prop) (Meets : State × Input → Prop)
    (kept : ∀ state input, Holds state → Meets (state, input) →
      Holds (step state input))
    (start : State) (begins : Holds start) (inputs : List Input)
    (met : ∀ visit ∈ visits step start inputs, Meets visit) :
    ∀ earlier later, inputs = earlier ++ later → Holds (run step start earlier) := by
  intro earlier later split
  refine run_invariant_of_visits step Holds earlier start ?_ begins
  intro visit member holds
  apply kept visit.1 visit.2 holds
  apply met
  rw [split, visits_append]
  exact List.mem_append_left _ member

/-- A property holds after every prefix of a run exactly when every step meets a
condition, if a stronger invariant turns the one into the other step by step. -/
theorem prefixes_iff_visits (Weak Strong : State → Prop) (Meets : State × Input → Prop)
    (enough : ∀ state, Strong state → Weak state)
    (kept : ∀ state input, Strong state → Meets (state, input) →
      Strong (step state input))
    (needed : ∀ state input, Strong state → Weak (step state input) →
      Meets (state, input))
    (start : State) (begins : Strong start) (inputs : List Input) :
    (∀ earlier later, inputs = earlier ++ later → Weak (run step start earlier)) ↔
      ∀ visit ∈ visits step start inputs, Meets visit := by
  constructor
  · intro holds
    induction inputs generalizing start with
    | nil => simp [visits]
    | cons input rest ih =>
        have met : Meets (start, input) :=
          needed start input begins (holds [input] rest rfl)
        have others := ih (step start input) (kept start input begins met) (by
          intro earlier later split
          exact holds (input :: earlier) later (by rw [split]; rfl))
        intro visit member
        rcases List.mem_cons.mp member with rfl | inRest
        · exact met
        · exact others visit inRest
  · intro met earlier later split
    apply enough
    exact prefix_invariant step Strong Meets kept start begins inputs met earlier later split

theorem run_relates (Related : State → State → Prop)
    (reflexive : ∀ state, Related state state)
    (transitive : ∀ first second third,
      Related first second → Related second third → Related first third)
    (advances : ∀ state input, Related state (step state input))
    (inputs : List Input) (state : State) :
    Related state (run step state inputs) := by
  induction inputs generalizing state with
  | nil => exact reflexive state
  | cons input rest ih =>
      exact transitive _ _ _ (advances state input) (ih (step state input))

/-- Some inputs lead from the one state to the other. -/
def Reaches (state later : State) : Prop :=
  ∃ inputs, run step state inputs = later

section Reaching

variable {step}

theorem Reaches.refl (state : State) : Reaches step state state :=
  ⟨[], rfl⟩

theorem reaches_of_step {state later : State} (input : Input) (next : step state input = later) :
    Reaches step state later :=
  ⟨[input], next⟩

theorem Reaches.trans {state middle later : State} (first : Reaches step state middle)
    (second : Reaches step middle later) : Reaches step state later := by
  obtain ⟨before, toMiddle⟩ := first
  obtain ⟨after, toLater⟩ := second
  refine ⟨before ++ after, ?_⟩
  rw [run_append, toMiddle, toLater]

end Reaching

theorem countP_visits_split (fires : State × Input → Bool) (start : State)
    (before after : List Input) (input : Input) :
    (visits step start (before ++ input :: after)).countP fires =
      (visits step start before).countP fires +
        ((visits step (step (run step start before) input) after).countP fires +
          if fires (run step start before, input) then 1 else 0) := by
  rw [visits_append, List.countP_append]
  simp only [visits, List.countP_cons]

section Once

variable (fires : State × Input → Bool) (Spent : State → Prop)

theorem countP_visits_of_spent (inputs : List Input) (state : State)
    (silent : ∀ visit ∈ visits step state inputs, Spent visit.1 → fires visit = false)
    (remains : ∀ state input, Spent state → Spent (step state input))
    (spent : Spent state) :
    (visits step state inputs).countP fires = 0 := by
  induction inputs generalizing state with
  | nil => rfl
  | cons input rest ih =>
      have quiet := silent (state, input) (by simp [visits]) spent
      have later := ih (step state input)
        (fun visit member => silent visit (by simp [visits, member]))
        (remains state input spent)
      simp [visits, quiet, later]

/-- An event that is silent in the spent states this run meets, and spends every
state it fires in, fires at most once along the run. -/
theorem countP_visits_le_one (inputs : List Input) (state : State)
    (silent : ∀ visit ∈ visits step state inputs, Spent visit.1 → fires visit = false)
    (remains : ∀ state input, Spent state → Spent (step state input))
    (spends : ∀ state input, fires (state, input) = true →
      Spent (step state input)) :
    (visits step state inputs).countP fires ≤ 1 := by
  induction inputs generalizing state with
  | nil => simp [visits]
  | cons input rest ih =>
      have silentRest : ∀ visit ∈ visits step (step state input) rest,
          Spent visit.1 → fires visit = false :=
        fun visit member => silent visit (by simp [visits, member])
      simp only [visits, List.countP_cons]
      by_cases fired : fires (state, input) = true
      · have later := countP_visits_of_spent step fires Spent rest (step state input)
          silentRest remains (spends state input fired)
        simp [later, fired]
      · simpa [fired] using ih (step state input) silentRest

end Once

/-- What fires along a run is paid for, if no step fires more than it is charged and
than the balance, what is allowed less what is held, goes down by. -/
theorem countP_add_le (fires charged : State × Input → Bool) (held allowed : State → Nat)
    (balanced : ∀ state input,
      (fires (state, input)).toNat + held (step state input) + allowed state ≤
        (charged (state, input)).toNat + held state + allowed (step state input))
    (inputs : List Input) (state : State) :
    (visits step state inputs).countP fires + held (run step state inputs) + allowed state ≤
      (visits step state inputs).countP charged + held state +
        allowed (run step state inputs) := by
  induction inputs generalizing state with
  | nil => simp [visits, run]
  | cons input rest ih =>
      have first := balanced state input
      have others := ih (step state input)
      have counts : ∀ counted : State × Input → Bool,
          (visits step state (input :: rest)).countP counted =
            (visits step (step state input) rest).countP counted +
              (counted (state, input)).toNat := by
        intro counted
        rw [visits, List.countP_cons]
        cases counted (state, input) with
        | true => rfl
        | false => rfl
      rw [counts, counts]
      simp only [run]
      omega

section Output

variable {Output : Type} (emit : State × Input → List Output)

def outputs (state : State) (inputs : List Input) : List Output :=
  (visits step state inputs).flatMap emit

theorem outputs_cons (state : State) (input : Input) (rest : List Input) :
    outputs step emit state (input :: rest) =
      emit (state, input) ++ outputs step emit (step state input) rest := by
  simp only [outputs, visits, List.flatMap_cons]

theorem outputs_append (state : State) (first second : List Input) :
    outputs step emit state (first ++ second) =
      outputs step emit state first ++
        outputs step emit (run step state first) second := by
  simp only [outputs, visits_append, List.flatMap_append]

theorem foldl_outputs {View : Type} (view : State → View) (fold : View → Output → View)
    (folds : ∀ state input, view (step state input) =
      (emit (state, input)).foldl fold (view state))
    (inputs : List Input) (state : State) :
    view (run step state inputs) = (outputs step emit state inputs).foldl fold (view state) := by
  induction inputs generalizing state with
  | nil => rfl
  | cons input rest ih =>
      rw [outputs_cons, List.foldl_append, ← folds]
      exact ih (step state input)

theorem outputs_singleton (state : State) (input : Input) :
    outputs step emit state [input] = emit (state, input) := by
  simp [outputs, visits]

theorem outputs_filterMap {Result : Type} (select : Output → Option Result) (state : State)
    (inputs : List Input) :
    (outputs step emit state inputs).filterMap select =
      outputs step (fun visit => (emit visit).filterMap select) state inputs := by
  rw [outputs, outputs, List.filterMap_flatMap]

/-- A machine that follows another, with some inputs of its own for each of the other's, and
emits the same each time, emits the same altogether. -/
theorem outputs_simulates {Other OtherInput : Type} (follow : Other → OtherInput → Other)
    (echo : Other × OtherInput → List Output) (translate : Input → List OtherInput)
    (Related : State → Other → Prop) (inputs : List Input) (state : State) (other : Other)
    (follows : ∀ visit ∈ visits step state inputs, ∀ other, Related visit.1 other →
      emit visit = outputs follow echo other (translate visit.2) ∧
        Related (step visit.1 visit.2) (run follow other (translate visit.2)))
    (related : Related state other) :
    outputs step emit state inputs =
      outputs follow echo other (inputs.flatMap translate) := by
  induction inputs generalizing state other with
  | nil => rfl
  | cons input rest ih =>
      obtain ⟨same, next⟩ := follows (state, input) (by simp [visits]) other related
      rw [outputs_cons, List.flatMap_cons, outputs_append, ← same]
      congr 1
      exact ih (step state input) _
        (fun visit member => follows visit (by simp [visits, member])) next

end Output

end AnchorKit.Base.Machine
