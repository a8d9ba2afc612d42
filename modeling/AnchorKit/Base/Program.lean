import Mathlib.Data.List.Basic

/-!
# Stateful programs whose failures keep the state

A program reads an environment, threads a state and may fail.  A failing
program still returns the state it had reached, so that the writes made before
the failure stay visible; `commit` is the transaction around it, which keeps
the final state of a success and the initial state of a failure.

The `_ok` lemmas say what a successful run of each constructor did.  Rewriting
with them turns the success of a straight-line program into its guards and the
state it leaves.
-/

set_option autoImplicit false

namespace AnchorKit.Base

def Program (Env State Failure Value : Type) : Type :=
  Env → State → Except Failure Value × State

namespace Program

variable {Env State Failure Value Result Item : Type}

instance : Monad (Program Env State Failure) where
  pure value := fun _ state => (.ok value, state)
  bind program next := fun env state =>
    match program env state with
    | (.ok value, later) => next value env later
    | (.error failure, later) => (.error failure, later)

def fail (failure : Failure) : Program Env State Failure Value :=
  fun _ state => (.error failure, state)

def ask (view : Env → Value) : Program Env State Failure Value :=
  fun env state => (.ok (view env), state)

def inspect (view : State → Value) : Program Env State Failure Value :=
  fun _ state => (.ok (view state), state)

def update (change : Env → State → State) : Program Env State Failure Unit :=
  fun env state => (.ok (), change env state)

def rejectIf (condition : Bool) (failure : Failure) :
    Program Env State Failure Unit :=
  if condition then fail failure else pure ()

def someOr (value : Option Value) (failure : Failure) :
    Program Env State Failure Value :=
  match value with
  | some found => pure found
  | none => fail failure

/-- The transaction around a program: a failure rolls every write back. -/
def commit (program : Program Env State Failure Value) (env : Env)
    (state : State) : State :=
  match program env state with
  | (.ok _, later) => later
  | (.error _, _) => state

def succeeds (program : Program Env State Failure Value) (env : Env)
    (state : State) : Bool :=
  (program env state).1.toBool

theorem bind_of_ok {program : Program Env State Failure Value}
    {next : Value → Program Env State Failure Result} {env : Env}
    {state middle : State} {value : Value}
    (run : program env state = (.ok value, middle)) :
    (program >>= next) env state = next value env middle := by
  change (match program env state with
    | (.ok value, middle) => next value env middle
    | (.error failure, middle) => (.error failure, middle)) = _
  rw [run]

theorem bind_of_error {program : Program Env State Failure Value}
    {next : Value → Program Env State Failure Result} {env : Env}
    {state later : State} {failure : Failure}
    (run : program env state = (.error failure, later)) :
    (program >>= next) env state = (.error failure, later) := by
  change (match program env state with
    | (.ok value, middle) => next value env middle
    | (.error failure, middle) => (.error failure, middle)) = _
  rw [run]

section Success

variable {env : Env} {state later : State}

@[simp] theorem pure_ok {value result : Value} :
    (pure value : Program Env State Failure Value) env state =
        (.ok result, later) ↔ value = result ∧ later = state := by
  constructor
  · intro run
    cases run
    exact ⟨rfl, rfl⟩
  · rintro ⟨rfl, rfl⟩
    rfl

@[simp] theorem fail_ok {failure : Failure} {result : Value} :
    (fail failure : Program Env State Failure Value) env state =
        (.ok result, later) ↔ False := by
  constructor
  · intro run
    cases run
  · exact False.elim

@[simp] theorem ask_ok {view : Env → Value} {result : Value} :
    (ask view : Program Env State Failure Value) env state =
        (.ok result, later) ↔ view env = result ∧ later = state := by
  constructor
  · intro run
    cases run
    exact ⟨rfl, rfl⟩
  · rintro ⟨rfl, rfl⟩
    rfl

@[simp] theorem inspect_ok {view : State → Value} {result : Value} :
    (inspect view : Program Env State Failure Value) env state =
        (.ok result, later) ↔ view state = result ∧ later = state := by
  constructor
  · intro run
    cases run
    exact ⟨rfl, rfl⟩
  · rintro ⟨rfl, rfl⟩
    rfl

@[simp] theorem update_ok {change : Env → State → State} {value : Unit} :
    (update change : Program Env State Failure Unit) env state =
        (.ok value, later) ↔ later = change env state := by
  constructor
  · intro run
    cases run
    rfl
  · rintro rfl
    rfl

@[simp] theorem rejectIf_ok {condition : Bool} {failure : Failure} {value : Unit} :
    (rejectIf condition failure : Program Env State Failure Unit) env state =
        (.ok value, later) ↔ condition = false ∧ later = state := by
  cases condition with
  | false => simp [rejectIf]
  | true => simp [rejectIf]

@[simp] theorem someOr_ok {value : Option Value} {failure : Failure}
    {result : Value} :
    (someOr value failure : Program Env State Failure Value) env state =
        (.ok result, later) ↔ value = some result ∧ later = state := by
  cases value with
  | none => simp [someOr]
  | some found => simp [someOr]

@[simp] theorem bind_ok {program : Program Env State Failure Value}
    {next : Value → Program Env State Failure Result} {result : Result} :
    (program >>= next) env state = (.ok result, later) ↔
      ∃ value middle, program env state = (.ok value, middle) ∧
        next value env middle = (.ok result, later) := by
  rcases run : program env state with ⟨outcome, middle⟩
  cases outcome with
  | ok value =>
      rw [bind_of_ok run]
      constructor
      · intro rest
        exact ⟨value, middle, rfl, rest⟩
      · rintro ⟨_, _, same, rest⟩
        cases same
        exact rest
  | error failure =>
      rw [bind_of_error run]
      constructor
      · intro same
        cases same
      · rintro ⟨_, _, same, _⟩
        cases same

@[simp] theorem forM_nil_ok {body : Item → Program Env State Failure PUnit}
    {value : PUnit} :
    (forM ([] : List Item) body) env state = (.ok value, later) ↔
      later = state := by
  simp

@[simp] theorem forM_cons_ok {body : Item → Program Env State Failure PUnit}
    {item : Item} {rest : List Item} {value : PUnit} :
    (forM (item :: rest) body) env state = (.ok value, later) ↔
      ∃ middle, body item env state = (.ok ⟨⟩, middle) ∧
        (forM rest body) env middle = (.ok value, later) := by
  rw [List.forM_cons, bind_ok]
  constructor
  · rintro ⟨_, middle, first, others⟩
    exact ⟨middle, first, others⟩
  · rintro ⟨middle, first, others⟩
    exact ⟨⟨⟩, middle, first, others⟩

end Success

theorem forM_check_ok {body : Item → Program Env State Failure PUnit}
    {env : Env} (Passes : Item → Prop)
    (checks : ∀ item before after,
      body item env before = (.ok ⟨⟩, after) ↔ Passes item ∧ after = before)
    (items : List Item) {state later : State} {value : PUnit} :
    (forM items body) env state = (.ok value, later) ↔
      (∀ item ∈ items, Passes item) ∧ later = state := by
  induction items with
  | nil => simp
  | cons item rest ih =>
      simp only [forM_cons_ok, checks, List.forall_mem_cons]
      constructor
      · rintro ⟨_, ⟨passes, rfl⟩, others⟩
        obtain ⟨rest_pass, rfl⟩ := ih.mp others
        exact ⟨⟨passes, rest_pass⟩, rfl⟩
      · rintro ⟨⟨passes, rest_pass⟩, rfl⟩
        exact ⟨later, ⟨passes, rfl⟩, ih.mpr ⟨rest_pass, rfl⟩⟩

/-! ## Programs that never write -/

def ReadOnly (program : Program Env State Failure Value) : Prop :=
  ∀ env state, (program env state).2 = state

namespace ReadOnly

theorem pure (value : Value) :
    ReadOnly (Pure.pure value : Program Env State Failure Value) :=
  fun _ _ => rfl

theorem ask (view : Env → Value) :
    ReadOnly (Program.ask view : Program Env State Failure Value) :=
  fun _ _ => rfl

theorem inspect (view : State → Value) :
    ReadOnly (Program.inspect view : Program Env State Failure Value) :=
  fun _ _ => rfl

theorem rejectIf (condition : Bool) (failure : Failure) :
    ReadOnly (Program.rejectIf condition failure : Program Env State Failure Unit) := by
  intro env state
  cases condition <;> rfl

theorem someOr (value : Option Value) (failure : Failure) :
    ReadOnly (Program.someOr value failure : Program Env State Failure Value) := by
  intro env state
  cases value <;> rfl

theorem bind {program : Program Env State Failure Value}
    {next : Value → Program Env State Failure Result}
    (first : ReadOnly program) (rest : ∀ value, ReadOnly (next value)) :
    ReadOnly (program >>= next) := by
  intro env state
  have unchanged := first env state
  rcases run : program env state with ⟨outcome, later⟩
  rw [run] at unchanged
  cases outcome with
  | ok value =>
      rw [bind_of_ok run]
      exact (rest value env later).trans unchanged
  | error failure =>
      rw [bind_of_error run]
      exact unchanged

theorem forM {body : Item → Program Env State Failure PUnit}
    (each : ∀ item, ReadOnly (body item)) (items : List Item) :
    ReadOnly (ForM.forM items body) := by
  induction items with
  | nil => exact .pure _
  | cons item rest ih => exact .bind (each item) fun _ => ih

end ReadOnly

/-! ## Programs that fail before they write -/

/-- A failure leaves the state as it was, also without a transaction. -/
def FailsClean (program : Program Env State Failure Value) : Prop :=
  ∀ env state failure later,
    program env state = (.error failure, later) → later = state

def NeverFails (program : Program Env State Failure Value) : Prop :=
  ∀ env state, ∃ value later, program env state = (.ok value, later)

theorem bind_error {program : Program Env State Failure Value}
    {next : Value → Program Env State Failure Result} {env : Env}
    {state later : State} {failure : Failure}
    (run : (program >>= next) env state = (.error failure, later)) :
    program env state = (.error failure, later) ∨
      ∃ value middle, program env state = (.ok value, middle) ∧
        next value env middle = (.error failure, later) := by
  rcases first : program env state with ⟨outcome, middle⟩
  cases outcome with
  | ok value =>
      rw [bind_of_ok first] at run
      exact Or.inr ⟨value, middle, rfl, run⟩
  | error failed =>
      rw [bind_of_error first] at run
      cases run
      exact Or.inl rfl

theorem forM_error_iff {body : Item → Program Env State Failure PUnit} {env : Env}
    {items : List Item} {state later : State} {failure : Failure} :
    (forM items body) env state = (.error failure, later) ↔
      ∃ done item rest middle, items = done ++ item :: rest ∧
        (forM done body) env state = (.ok ⟨⟩, middle) ∧
        body item env middle = (.error failure, later) := by
  constructor
  · intro run
    induction items generalizing state with
    | nil => cases run
    | cons item rest ih =>
        rw [List.forM_cons] at run
        rcases bind_error run with stopped | ⟨_, middle, passed, failed⟩
        · exact ⟨[], item, rest, state, rfl, rfl, stopped⟩
        · obtain ⟨done, culprit, remaining, last, split, looped, stopped⟩ := ih failed
          refine ⟨item :: done, culprit, remaining, last, ?_, ?_, stopped⟩
          · rw [split, List.cons_append]
          · exact forM_cons_ok.mpr ⟨middle, passed, looped⟩
  · intro ⟨done, item, rest, middle, split, looped, stopped⟩
    subst split
    induction done generalizing state with
    | nil =>
        rw [forM_nil_ok] at looped
        rw [looped] at stopped
        exact bind_of_error stopped
    | cons first others ih =>
        obtain ⟨next, passed, remaining⟩ := forM_cons_ok.mp looped
        rw [List.cons_append, List.forM_cons, bind_of_ok passed]
        exact ih remaining

theorem ReadOnly.failsClean {program : Program Env State Failure Value}
    (readOnly : ReadOnly program) : FailsClean program := by
  intro env state failure later run
  have unchanged := readOnly env state
  rwa [run] at unchanged

theorem ReadOnly.bind_error {program : Program Env State Failure Value}
    {next : Value → Program Env State Failure Result} {env : Env}
    {state later : State} {failure : Failure} (first : ReadOnly program)
    (run : (program >>= next) env state = (.error failure, later)) :
    later = state ∨ ∃ value, program env state = (.ok value, state) ∧
      next value env state = (.error failure, later) := by
  rcases Program.bind_error run with stopped | ⟨value, middle, passed, failed⟩
  · exact Or.inl (first.failsClean env state failure later stopped)
  · have unchanged : middle = state := by
      have kept := first env state
      rwa [passed] at kept
    rw [unchanged] at passed failed
    exact Or.inr ⟨value, passed, failed⟩

namespace NeverFails

theorem pure (value : Value) :
    NeverFails (Pure.pure value : Program Env State Failure Value) :=
  fun _ state => ⟨value, state, rfl⟩

theorem update (change : Env → State → State) :
    NeverFails (Program.update change : Program Env State Failure Unit) :=
  fun env state => ⟨(), change env state, rfl⟩

theorem failsClean {program : Program Env State Failure Value}
    (total : NeverFails program) : FailsClean program := by
  intro env state failure later run
  obtain ⟨value, reached, succeeds⟩ := total env state
  rw [succeeds] at run
  cases run

end NeverFails

namespace FailsClean

theorem afterReadOnly {program : Program Env State Failure Value}
    {next : Value → Program Env State Failure Result}
    (first : ReadOnly program) (rest : ∀ value, FailsClean (next value)) :
    FailsClean (program >>= next) := by
  intro env state failure later run
  rcases first.bind_error run with clean | ⟨value, _, failed⟩
  · exact clean
  · exact rest value env state failure later failed

theorem beforeTotal {program : Program Env State Failure Value}
    {next : Value → Program Env State Failure Result}
    (first : FailsClean program) (rest : ∀ value, NeverFails (next value)) :
    FailsClean (program >>= next) := by
  intro env state failure later run
  rcases bind_error run with stopped | ⟨value, middle, _, failed⟩
  · exact first env state failure later stopped
  · obtain ⟨result, reached, succeeds⟩ := rest value env middle
    rw [succeeds] at failed
    cases failed

end FailsClean

/-! ## Programs with one way to fail -/

def OnlyFails (failure : Failure) (program : Program Env State Failure Value) : Prop :=
  ∀ env state failed later, program env state = (.error failed, later) → failed = failure

namespace OnlyFails

variable {failure : Failure}

theorem of_neverFails {program : Program Env State Failure Value}
    (total : NeverFails program) : OnlyFails failure program := by
  intro env state failed later run
  obtain ⟨value, reached, succeeds⟩ := total env state
  rw [succeeds] at run
  cases run

theorem inspect (view : State → Value) :
    OnlyFails failure (Program.inspect view : Program Env State Failure Value) :=
  of_neverFails fun _ state => ⟨view state, state, rfl⟩

theorem someOr (value : Option Value) :
    OnlyFails failure (Program.someOr value failure : Program Env State Failure Value) := by
  intro env state failed later run
  cases value with
  | some found => cases run
  | none =>
      cases run
      rfl

theorem bind {program : Program Env State Failure Value}
    {next : Value → Program Env State Failure Result}
    (first : OnlyFails failure program) (rest : ∀ value, OnlyFails failure (next value)) :
    OnlyFails failure (program >>= next) := by
  intro env state failed later run
  rcases bind_error run with stopped | ⟨value, middle, _, failing⟩
  · exact first env state failed later stopped
  · exact rest value env middle failed later failing

end OnlyFails

/-! ## Transactions -/

theorem commit_of_error {program : Program Env State Failure Value} {env : Env}
    {state later : State} {failure : Failure}
    (run : program env state = (.error failure, later)) :
    program.commit env state = state := by
  simp [commit, run]

theorem commit_of_ok {program : Program Env State Failure Value} {env : Env}
    {state later : State} {value : Value}
    (run : program env state = (.ok value, later)) :
    program.commit env state = later := by
  simp [commit, run]

theorem succeeds_iff {program : Program Env State Failure Value} {env : Env}
    {state : State} :
    program.succeeds env state = true ↔
      ∃ value later, program env state = (.ok value, later) := by
  unfold succeeds
  rcases run : program env state with ⟨outcome, later⟩
  cases outcome with
  | ok value => simp [Except.toBool]
  | error failure => simp [Except.toBool]

theorem commit_cases (program : Program Env State Failure Value) (env : Env)
    (state : State) :
    (program.succeeds env state = false ∧ program.commit env state = state) ∨
      ∃ value, program env state = (.ok value, program.commit env state) := by
  unfold succeeds commit
  rcases run : program env state with ⟨outcome, later⟩
  cases outcome with
  | ok value => exact Or.inr ⟨value, rfl⟩
  | error failure => exact Or.inl ⟨rfl, rfl⟩

end Program
end AnchorKit.Base
