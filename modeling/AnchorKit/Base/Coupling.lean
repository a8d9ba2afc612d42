import AnchorKit.Base.Program

/-!
# Two runs of one program

`Coupled` compares the runs of a program from two related states.  Both runs
fail with the same failure, or both succeed with the same value and leave
related states; a success on one side only is admitted when `Split` says so.
The rules follow the constructors of a program, so a coupling is built along
its text: a program that may split can only come last, or before one that never
fails.
-/

set_option autoImplicit false

namespace AnchorKit.Base.Program

variable {Env State Failure Value Result : Type}

inductive Agree (Split : Prop) (After : State → State → Prop) :
    Except Failure Value × State → Except Failure Value × State → Prop
  | succeed (value : Value) {left right : State} (after : After left right) :
      Agree Split After (.ok value, left) (.ok value, right)
  | fail (failure : Failure) (left right : State) :
      Agree Split After (.error failure, left) (.error failure, right)
  | leftOnly (split : Split) (value : Value) (failure : Failure) (left right : State) :
      Agree Split After (.ok value, left) (.error failure, right)
  | rightOnly (split : Split) (failure : Failure) (value : Value) (left right : State) :
      Agree Split After (.error failure, left) (.ok value, right)

def Coupled (Split : Prop) (Before After : State → State → Prop)
    (program : Program Env State Failure Value) : Prop :=
  ∀ env left right, Before left right →
    Agree Split After (program env left) (program env right)

section Rules

variable {Split : Prop} {Before Middle After : State → State → Prop}

theorem Coupled.pure (value : Value) :
    Coupled Split Before Before
      (Pure.pure value : Program Env State Failure Value) :=
  fun _ _ _ related => .succeed value related

theorem Coupled.ask (view : Env → Value) :
    Coupled Split Before Before
      (Program.ask view : Program Env State Failure Value) :=
  fun env _ _ related => .succeed (view env) related

theorem Coupled.inspect {view : State → Value}
    (same : ∀ left right, Before left right → view left = view right) :
    Coupled Split Before Before
      (Program.inspect view : Program Env State Failure Value) := by
  intro env left right related
  unfold Program.inspect
  rw [same left right related]
  exact .succeed (view right) related

theorem Coupled.update {change : Env → State → State}
    (kept : ∀ env left right, Before left right →
      After (change env left) (change env right)) :
    Coupled Split Before After
      (Program.update change : Program Env State Failure Unit) :=
  fun env left right related => .succeed () (kept env left right related)

theorem Coupled.rejectIf (condition : Bool) (failure : Failure) :
    Coupled Split Before Before
      (Program.rejectIf condition failure : Program Env State Failure Unit) := by
  intro env left right related
  cases condition with
  | false => exact .succeed () related
  | true => exact .fail failure left right

theorem Coupled.someOr (value : Option Value) (failure : Failure) :
    Coupled Split Before Before
      (Program.someOr value failure : Program Env State Failure Value) := by
  intro env left right related
  cases value with
  | none => exact .fail failure left right
  | some found => exact .succeed found related

theorem bind_apply (program : Program Env State Failure Value)
    (next : Value → Program Env State Failure Result) (env : Env) (state : State) :
    (program >>= next) env state =
      match program env state with
      | (.ok value, later) => next value env later
      | (.error failure, later) => (.error failure, later) :=
  rfl

theorem Coupled.bind {program : Program Env State Failure Value}
    {next : Value → Program Env State Failure Result}
    (first : Coupled False Before Middle program)
    (rest : ∀ value, Coupled Split Middle After (next value)) :
    Coupled Split Before After (program >>= next) := by
  intro env left right related
  have agreed := first env left right related
  rw [bind_apply, bind_apply]
  generalize program env left = leftRun at agreed ⊢
  generalize program env right = rightRun at agreed ⊢
  cases agreed with
  | succeed value middle => exact rest value env _ _ middle
  | fail failure _ _ => exact .fail failure _ _
  | leftOnly split => exact False.elim split
  | rightOnly split => exact False.elim split

theorem Coupled.bindTotal {program : Program Env State Failure Value}
    {next : Value → Program Env State Failure Result}
    (first : Coupled Split Before Middle program)
    (rest : ∀ value, Coupled Split Middle After (next value))
    (total : ∀ value, NeverFails (next value)) :
    Coupled Split Before After (program >>= next) := by
  intro env left right related
  have agreed := first env left right related
  rw [bind_apply, bind_apply]
  generalize program env left = leftRun at agreed ⊢
  generalize program env right = rightRun at agreed ⊢
  cases agreed with
  | succeed value middle => exact rest value env _ _ middle
  | fail failure _ _ => exact .fail failure _ _
  | leftOnly split value failure leftState rightState =>
      obtain ⟨result, later, run⟩ := total value env leftState
      simp only [run]
      exact .leftOnly split result failure later rightState
  | rightOnly split failure value leftState rightState =>
      obtain ⟨result, later, run⟩ := total value env rightState
      simp only [run]
      exact .rightOnly split failure result leftState later

end Rules

section Outcome

variable {Split : Prop} {Before After : State → State → Prop}
  {program : Program Env State Failure Value} {env : Env} {left right : State}

theorem Coupled.succeeds_eq (coupled : Coupled False Before After program)
    (related : Before left right) :
    program.succeeds env left = program.succeeds env right := by
  have agreed := coupled env left right related
  unfold succeeds
  generalize program env left = leftRun at agreed ⊢
  generalize program env right = rightRun at agreed ⊢
  cases agreed with
  | succeed value _ => rfl
  | fail failure _ _ => rfl
  | leftOnly split => exact False.elim split
  | rightOnly split => exact False.elim split

theorem Coupled.same_result (coupled : Coupled Split Before After program)
    (related : Before left right)
    (alike : program.succeeds env left = program.succeeds env right) :
    (program env left).1 = (program env right).1 := by
  have agreed := coupled env left right related
  unfold succeeds at alike
  generalize program env left = leftRun at agreed alike ⊢
  generalize program env right = rightRun at agreed alike ⊢
  cases agreed with
  | succeed value _ => rfl
  | fail failure _ _ => rfl
  | leftOnly => cases alike
  | rightOnly => cases alike

theorem Coupled.commit (coupled : Coupled Split Before Before program)
    (related : Before left right)
    (alike : program.succeeds env left = program.succeeds env right) :
    Before (program.commit env left) (program.commit env right) := by
  have agreed := coupled env left right related
  unfold succeeds at alike
  unfold Program.commit
  generalize program env left = leftRun at agreed alike ⊢
  generalize program env right = rightRun at agreed alike ⊢
  cases agreed with
  | succeed value after => exact after
  | fail failure _ _ => exact related
  | leftOnly => cases alike
  | rightOnly => cases alike

end Outcome

end AnchorKit.Base.Program
