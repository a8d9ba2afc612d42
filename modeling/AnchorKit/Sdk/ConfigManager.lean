import AnchorKit.Base.Machine
import Mathlib.Data.List.Nodup
import Mathlib.Data.List.Perm.Subperm
import Mathlib.Data.List.TakeWhile

/-!
# The configuration manager of `config/index.ts`

A listener may call the manager again, so a step ends where a listener begins: `stack`
holds the calls of `reload` that are notifying, the innermost first, each with the
position of its iterator.  The iterator walks the live array, and what a listener
throws is swallowed.

The array holds functions.  Beside each stands the number of its registration, which
the code does not have: `indexOf` compares the functions alone, and the unsubscribe
function that `onChange` returned for a registration knows that registration's
function.  Equal functions cannot be told apart, so that their numbers are handed on
where the first of them is taken out for a later one.  Invocations are logged with the
number of their reload.
-/

set_option autoImplicit false

namespace AnchorKit.Sdk.Config

open AnchorKit.Base

inductive ValidationResult where
  | valid
  | invalid (code message : String) (field : Option String)
  deriving DecidableEq, Repr

structure ConfigValidationError where
  code : String
  message : String
  field : Option String
  deriving DecidableEq, Repr

structure Registration (Listener : Type) where
  number : Nat
  listener : Listener
  deriving DecidableEq, Repr

/-- A call of `reload` that is notifying. -/
structure Notifying (Config : Type) where
  reload : Nat
  previous : Config
  position : Nat

structure Invocation (Config Listener : Type) where
  reload : Nat
  registration : Registration Listener
  next : Config
  previous : Config

/-- `registered` has the functions in the order of their registration.  The current
config has passed the validator. -/
structure ConfigManager {Config : Type} (validator : Config → ValidationResult)
    (Listener : Type) where
  current : Config
  valid : validator current = .valid
  listeners : List (Registration Listener)
  registered : List Listener
  reloads : Nat
  stack : List (Notifying Config)
  log : List (Invocation Config Listener)

section TakeOut

variable {Listener : Type} [DecidableEq Listener] (listener : Listener) (registration : Nat)

/-- The registration `vacant` goes on with the next entry of the function, the registration
there with the one after, and so on down to the registration that is given up. -/
def handDown : Nat → List (Registration Listener) → List (Registration Listener)
  | _, [] => []
  | vacant, own :: rest =>
      if own.listener = listener then
        ⟨vacant, listener⟩ ::
          (if own.number = registration then rest else handDown own.number rest)
      else own :: handDown vacant rest

/-- `splice` at the first entry of the function. -/
def takeOut (listeners : List (Registration Listener)) : List (Registration Listener) :=
  let left := listeners.eraseP (·.listener == listener)
  match listeners.find? (·.listener == listener) with
  | none => left
  | some first =>
      if left.any (·.number == registration) then
        handDown listener registration first.number left
      else left

end TakeOut

inductive Event (Config Listener : Type) where
  | onChange (listener : Listener)
  | unsubscribe (registration : Nat)
  | reload (candidate : Config)
  | returns (throws : Bool)
  deriving DecidableEq, Repr

namespace ConfigManager

variable {Config Listener : Type} {validator : Config → ValidationResult}

def start (initial : Config) (valid : validator initial = .valid) :
    ConfigManager validator Listener where
  current := initial
  valid := valid
  listeners := []
  registered := []
  reloads := 0
  stack := []
  log := []

def create (validator : Config → ValidationResult) (Listener : Type) (initial : Config) :
    Except ConfigValidationError (ConfigManager validator Listener) :=
  match result : validator initial with
  | .invalid code message field => .error ⟨code, message, field⟩
  | .valid => .ok (start initial result)

/-- The loop of a `reload` goes on at the position of its iterator. -/
def notify (manager : ConfigManager validator Listener) (notifying : Notifying Config) :
    ConfigManager validator Listener :=
  match manager.listeners[notifying.position]? with
  | none => manager
  | some registration =>
      { manager with
        stack := notifying :: manager.stack
        log := manager.log ++
          [⟨notifying.reload, registration, manager.current, notifying.previous⟩] }

def reload (manager : ConfigManager validator Listener) (candidate : Config) :
    Except ConfigValidationError (ConfigManager validator Listener) :=
  match result : validator candidate with
  | .invalid code message field => .error ⟨code, message, field⟩
  | .valid =>
      .ok ({ manager with
        current := candidate
        valid := result
        reloads := manager.reloads + 1 }.notify ⟨manager.reloads, manager.current, 0⟩)

def onChange (manager : ConfigManager validator Listener) (listener : Listener) :
    ConfigManager validator Listener :=
  { manager with
    listeners := manager.listeners ++ [⟨manager.registered.length, listener⟩]
    registered := manager.registered ++ [listener] }

/-- The function that `onChange` returned for a registration is called. -/
def unsubscribe [DecidableEq Listener] (manager : ConfigManager validator Listener)
    (registration : Nat) : ConfigManager validator Listener :=
  match manager.registered[registration]? with
  | none => manager
  | some listener =>
      { manager with listeners := takeOut listener registration manager.listeners }

def returned (manager : ConfigManager validator Listener) : ConfigManager validator Listener :=
  match manager.stack with
  | [] => manager
  | notifying :: rest =>
      { manager with stack := rest }.notify { notifying with position := notifying.position + 1 }

variable [DecidableEq Listener]

def step (manager : ConfigManager validator Listener) :
    Event Config Listener → ConfigManager validator Listener
  | .onChange listener => manager.onChange listener
  | .unsubscribe registration => manager.unsubscribe registration
  | .reload candidate =>
      match manager.reload candidate with
      | .error _ => manager
      | .ok next => next
  | .returns _ => manager.returned

def run (manager : ConfigManager validator Listener) (events : List (Event Config Listener)) :
    ConfigManager validator Listener :=
  Machine.run step manager events

def reached (initial : Config) (valid : validator initial = .valid)
    (events : List (Event Config Listener)) : ConfigManager validator Listener :=
  (start initial valid).run events

end ConfigManager

section Runs

variable {Config Listener : Type} {validator : Config → ValidationResult}

theorem notify_of_getElem? (manager : ConfigManager validator Listener)
    (notifying : Notifying Config) {registration : Registration Listener}
    (here : manager.listeners[notifying.position]? = some registration) :
    manager.notify notifying =
      { manager with
        stack := notifying :: manager.stack
        log := manager.log ++
          [⟨notifying.reload, registration, manager.current, notifying.previous⟩] } := by
  rw [ConfigManager.notify, here]

theorem notify_of_length_le (manager : ConfigManager validator Listener)
    (notifying : Notifying Config)
    (past : manager.listeners.length ≤ notifying.position) :
    manager.notify notifying = manager := by
  rw [ConfigManager.notify, List.getElem?_eq_none past]

@[simp] theorem notify_listeners (manager : ConfigManager validator Listener)
    (notifying : Notifying Config) :
    (manager.notify notifying).listeners = manager.listeners := by
  unfold ConfigManager.notify
  split
  · rfl
  · rfl

@[simp] theorem notify_registered (manager : ConfigManager validator Listener)
    (notifying : Notifying Config) :
    (manager.notify notifying).registered = manager.registered := by
  unfold ConfigManager.notify
  split
  · rfl
  · rfl

@[simp] theorem notify_reloads (manager : ConfigManager validator Listener)
    (notifying : Notifying Config) :
    (manager.notify notifying).reloads = manager.reloads := by
  unfold ConfigManager.notify
  split
  · rfl
  · rfl

@[simp] theorem returned_listeners (manager : ConfigManager validator Listener) :
    manager.returned.listeners = manager.listeners := by
  unfold ConfigManager.returned
  split
  · rfl
  · exact notify_listeners _ _

@[simp] theorem returned_registered (manager : ConfigManager validator Listener) :
    manager.returned.registered = manager.registered := by
  unfold ConfigManager.returned
  split
  · rfl
  · exact notify_registered _ _

variable [DecidableEq Listener]

theorem reload_of_valid (manager : ConfigManager validator Listener) {candidate : Config}
    (accepted : validator candidate = .valid) :
    manager.step (.reload candidate) =
      { manager with
        current := candidate
        valid := accepted
        reloads := manager.reloads + 1 }.notify ⟨manager.reloads, manager.current, 0⟩ := by
  have succeeds : manager.reload candidate = .ok
      ({ manager with
        current := candidate
        valid := accepted
        reloads := manager.reloads + 1 }.notify ⟨manager.reloads, manager.current, 0⟩) := by
    unfold ConfigManager.reload
    split
    · rename_i invalid
      rw [accepted] at invalid
      cases invalid
    · rfl
  rw [ConfigManager.step, succeeds]

theorem reload_of_not_valid (manager : ConfigManager validator Listener) {candidate : Config}
    (refused : validator candidate ≠ .valid) : manager.step (.reload candidate) = manager := by
  have fails : ∃ error, manager.reload candidate = .error error := by
    unfold ConfigManager.reload
    split
    · exact ⟨_, rfl⟩
    · rename_i accepted
      exact absurd accepted refused
  obtain ⟨error, failed⟩ := fails
  rw [ConfigManager.step, failed]

@[simp] theorem step_reload_listeners (manager : ConfigManager validator Listener)
    (candidate : Config) :
    (manager.step (.reload candidate)).listeners = manager.listeners := by
  by_cases accepted : validator candidate = .valid
  · rw [reload_of_valid manager accepted, notify_listeners]
  · rw [reload_of_not_valid manager accepted]

@[simp] theorem step_reload_registered (manager : ConfigManager validator Listener)
    (candidate : Config) :
    (manager.step (.reload candidate)).registered = manager.registered := by
  by_cases accepted : validator candidate = .valid
  · rw [reload_of_valid manager accepted, notify_registered]
  · rw [reload_of_not_valid manager accepted]

/-- While the listeners only return or throw, a `reload` walks through the array once. -/
theorem notify_through (manager : ConfigManager validator Listener)
    (notifying : Notifying Config) (outcomes : List Bool)
    (length : notifying.position + outcomes.length = manager.listeners.length) :
    (manager.notify notifying).run (outcomes.map .returns) =
      { manager with
        log := manager.log ++ (manager.listeners.drop notifying.position).map
          (⟨notifying.reload, ·, manager.current, notifying.previous⟩) } := by
  induction outcomes generalizing manager notifying with
  | nil =>
      have past : manager.listeners.length ≤ notifying.position :=
        Nat.le_of_eq (by simpa using length.symm)
      rw [notify_of_length_le manager notifying past, List.drop_of_length_le past]
      simp only [List.map_nil, List.append_nil]
      rfl
  | cons throws rest ih =>
      rw [List.length_cons] at length
      have inside : notifying.position < manager.listeners.length := by omega
      have called := notify_of_getElem? manager notifying (List.getElem?_eq_getElem inside)
      have again := ih
        { manager with
          log := manager.log ++ [⟨notifying.reload, manager.listeners[notifying.position],
            manager.current, notifying.previous⟩] }
        { notifying with position := notifying.position + 1 } (by dsimp only; omega)
      rw [called]
      refine Eq.trans ?_ (again.trans ?_)
      · rfl
      · simp only [List.drop_eq_getElem_cons inside, List.map_cons, List.append_assoc,
          List.singleton_append]

end Runs

/-! ## Taking a function out -/

section TakeOut

variable {Listener : Type} [DecidableEq Listener] {listener : Listener} {registration : Nat}

theorem handDown_functions (vacant : Nat) (entries : List (Registration Listener)) :
    (handDown listener registration vacant entries).map (·.listener) =
      entries.map (·.listener) := by
  induction entries generalizing vacant with
  | nil => rfl
  | cons own rest ih =>
      rw [handDown]
      split
      · rename_i same
        split
        · rw [List.map_cons, List.map_cons, same]
        · rw [List.map_cons, List.map_cons, ih, same]
      · rw [List.map_cons, List.map_cons, ih]

theorem takeOut_functions (entries : List (Registration Listener)) :
    (takeOut listener registration entries).map (·.listener) =
      (entries.map (·.listener)).eraseP (· == listener) := by
  have erased : (entries.eraseP (·.listener == listener)).map (·.listener) =
      (entries.map (·.listener)).eraseP (· == listener) := by
    rw [List.eraseP_map]
    rfl
  unfold takeOut
  dsimp only
  split
  · exact erased
  · split
    · rw [handDown_functions, erased]
    · exact erased

theorem handDown_subperm (listener : Listener) (registration vacant : Nat)
    (entries : List (Registration Listener)) :
    (handDown listener registration vacant entries).Subperm (⟨vacant, listener⟩ :: entries) := by
  induction entries generalizing vacant with
  | nil => exact List.nil_subperm
  | cons own rest ih =>
      rw [handDown]
      split
      · rename_i same
        have itself : (⟨own.number, listener⟩ : Registration Listener) = own := by
          rw [← same]
        rw [List.subperm_cons]
        split
        · exact (List.sublist_cons_self _ _).subperm
        · have below := ih own.number
          rwa [itself] at below
      · have swapped := (List.subperm_cons own).mpr (ih vacant)
        exact swapped.trans (List.Perm.swap _ _ _).subperm

theorem handDown_append (vacant : Nat) {others : List (Registration Listener)}
    (different : ∀ own ∈ others, own.listener ≠ listener)
    (entries : List (Registration Listener)) :
    handDown listener registration vacant (others ++ entries) =
      others ++ handDown listener registration vacant entries := by
  induction others with
  | nil => rfl
  | cons own rest ih =>
      rw [List.cons_append, handDown, if_neg (different own List.mem_cons_self),
        ih fun other member => different other (List.mem_cons_of_mem _ member)]
      rfl

theorem takeOut_split {entries : List (Registration Listener)} {first : Registration Listener}
    (found : entries.find? (·.listener == listener) = some first) (registration : Nat) :
    ∃ others rest, entries = others ++ first :: rest ∧
      (∀ own ∈ others, own.listener ≠ listener) ∧ first.listener = listener ∧
      takeOut listener registration entries = others ++
        (if (others ++ rest).any (·.number == registration) then
          handDown listener registration first.number rest
        else rest) := by
  obtain ⟨equal, others, rest, split, different⟩ := List.find?_eq_some_iff_append.mp found
  have apart : ∀ own ∈ others, own.listener ≠ listener := by
    intro own member same
    simpa [same] using different own member
  have erased : entries.eraseP (·.listener == listener) = others ++ rest := by
    rw [split, List.eraseP_append_right]
    · rw [List.eraseP_cons, equal, cond_true]
    · intro own member same
      exact apart own member (beq_iff_eq.mp same)
  refine ⟨others, rest, split, apart, beq_iff_eq.mp equal, ?_⟩
  unfold takeOut
  dsimp only
  rw [found, erased]
  dsimp only
  rw [handDown_append _ apart]
  split
  · rfl
  · rfl

theorem takeOut_of_absent {entries : List (Registration Listener)}
    (absent : entries.find? (·.listener == listener) = none) (registration : Nat) :
    takeOut listener registration entries = entries := by
  unfold takeOut
  dsimp only
  rw [absent, List.eraseP_of_forall_not]
  simpa using absent

theorem takeOut_subperm (listener : Listener) (registration : Nat)
    (entries : List (Registration Listener)) :
    (takeOut listener registration entries).Subperm entries := by
  cases found : entries.find? (·.listener == listener) with
  | none => rw [takeOut_of_absent found]
  | some first =>
      obtain ⟨others, rest, split, _, equal, after⟩ := takeOut_split found registration
      rw [after, split, List.subperm_append_left]
      split
      · have itself : (⟨first.number, listener⟩ : Registration Listener) = first := by
          rw [← equal]
        have handed := handDown_subperm listener registration first.number rest
        rwa [itself] at handed
      · exact (List.sublist_cons_self _ _).subperm

end TakeOut

/-! ## Numbers -/

structure Enrolled {Listener : Type} (registered : List Listener)
    (entries : List (Registration Listener)) : Prop where
  known : ∀ registration ∈ entries,
    registered[registration.number]? = some registration.listener
  nodup : (entries.map (·.number)).Nodup

namespace Enrolled

variable {Listener : Type} {registered : List Listener}
  {entries fewer : List (Registration Listener)}

theorem lt (enrolled : Enrolled registered entries) {registration : Registration Listener}
    (member : registration ∈ entries) : registration.number < registered.length :=
  (List.getElem?_eq_some_iff.mp (enrolled.known registration member)).1

theorem listener_eq (enrolled : Enrolled registered entries) {number : Nat}
    {listener : Listener} (known : registered[number]? = some listener) :
    ∀ registration ∈ entries, registration.number = number →
      registration.listener = listener := by
  rintro registration member rfl
  exact Option.some.inj ((enrolled.known registration member).symm.trans known)

theorem subperm (enrolled : Enrolled registered entries) (sub : fewer.Subperm entries) :
    Enrolled registered fewer := by
  refine ⟨fun registration member => enrolled.known registration (sub.subset member), ?_⟩
  obtain ⟨same, perm, inside⟩ := sub
  exact (perm.map _).nodup_iff.mp (enrolled.nodup.sublist (inside.map _))

theorem concat (enrolled : Enrolled registered entries) (listener : Listener) :
    Enrolled (registered ++ [listener]) (entries ++ [⟨registered.length, listener⟩]) := by
  refine ⟨?_, ?_⟩
  · intro own member
    rcases List.mem_append.mp member with earlier | new
    · rw [List.getElem?_append_left (enrolled.lt earlier)]
      exact enrolled.known own earlier
    · rw [List.mem_singleton.mp new, List.getElem?_concat_length]
  · rw [List.map_append, List.nodup_append]
    refine ⟨enrolled.nodup, List.nodup_singleton _, ?_⟩
    intro old member new isNew
    obtain ⟨own, earlier, rfl⟩ := List.mem_map.mp member
    rw [List.mem_singleton.mp isNew]
    exact Nat.ne_of_lt (enrolled.lt earlier)

end Enrolled

/-- The array has each registration at most once, and every `reload` that is notifying
or was logged has a number of its own. -/
structure Numbered {Config Listener : Type} {validator : Config → ValidationResult}
    (manager : ConfigManager validator Listener) : Prop where
  enrolled : Enrolled manager.registered manager.listeners
  stack : ∀ notifying ∈ manager.stack, notifying.reload < manager.reloads
  distinct : (manager.stack.map (·.reload)).Nodup
  log : ∀ invocation ∈ manager.log, invocation.reload < manager.reloads ∧
    invocation.registration.number < manager.registered.length

section Numbers

variable {Config Listener : Type} {validator : Config → ValidationResult}
  {manager : ConfigManager validator Listener}

theorem Numbered.notify (numbered : Numbered manager) {notifying : Notifying Config}
    (bound : notifying.reload < manager.reloads)
    (new : notifying.reload ∉ manager.stack.map (·.reload)) :
    Numbered (manager.notify notifying) := by
  unfold ConfigManager.notify
  split
  · exact numbered
  · rename_i registration here
    refine ⟨numbered.enrolled, ?_, List.nodup_cons.mpr ⟨new, numbered.distinct⟩, ?_⟩
    · intro other member
      rcases List.mem_cons.mp member with rfl | earlier
      · exact bound
      · exact numbered.stack other earlier
    · intro invocation member
      rcases List.mem_append.mp member with earlier | now
      · exact numbered.log invocation earlier
      · rw [List.mem_singleton.mp now]
        exact ⟨bound, numbered.enrolled.lt (List.mem_of_getElem? here)⟩

theorem Numbered.pop (numbered : Numbered manager) {top : Notifying Config}
    {rest : List (Notifying Config)} (stack : manager.stack = top :: rest) :
    Numbered { manager with stack := rest } ∧ top.reload ∉ rest.map (·.reload) := by
  have distinct := numbered.distinct
  rw [stack, List.map_cons, List.nodup_cons] at distinct
  refine ⟨⟨numbered.enrolled, ?_, distinct.2, numbered.log⟩, distinct.1⟩
  intro other member
  exact numbered.stack other (stack ▸ List.mem_cons_of_mem _ member)

theorem Numbered.returned (numbered : Numbered manager) : Numbered manager.returned := by
  unfold ConfigManager.returned
  split
  · exact numbered
  · rename_i notifying rest stack
    obtain ⟨popped, alone⟩ := numbered.pop stack
    refine popped.notify ?_ alone
    exact numbered.stack notifying (stack ▸ List.mem_cons_self)

theorem Numbered.commit (numbered : Numbered manager) {candidate : Config}
    (accepted : validator candidate = .valid) :
    Numbered { manager with
      current := candidate, valid := accepted, reloads := manager.reloads + 1 } := by
  refine ⟨numbered.enrolled, ?_, numbered.distinct, ?_⟩
  · intro notifying member
    exact Nat.lt_succ_of_lt (numbered.stack notifying member)
  · intro invocation member
    obtain ⟨one, two⟩ := numbered.log invocation member
    exact ⟨Nat.lt_succ_of_lt one, two⟩

theorem Numbered.onChange (numbered : Numbered manager) (listener : Listener) :
    Numbered (manager.onChange listener) := by
  refine ⟨numbered.enrolled.concat listener, numbered.stack, numbered.distinct, ?_⟩
  intro invocation member
  obtain ⟨one, two⟩ := numbered.log invocation member
  refine ⟨one, ?_⟩
  rw [ConfigManager.onChange, List.length_append]
  exact Nat.lt_add_right _ two

variable [DecidableEq Listener]

theorem Numbered.unsubscribe (numbered : Numbered manager) (registration : Nat) :
    Numbered (manager.unsubscribe registration) := by
  unfold ConfigManager.unsubscribe
  split
  · exact numbered
  · exact ⟨numbered.enrolled.subperm (takeOut_subperm _ _ _), numbered.stack,
      numbered.distinct, numbered.log⟩

theorem Numbered.step (numbered : Numbered manager) (event : Event Config Listener) :
    Numbered (manager.step event) := by
  cases event with
  | onChange listener => exact numbered.onChange listener
  | unsubscribe registration => exact numbered.unsubscribe registration
  | returns throws => exact numbered.returned
  | reload candidate =>
      by_cases accepted : validator candidate = .valid
      · rw [reload_of_valid manager accepted]
        refine (numbered.commit accepted).notify (Nat.lt_succ_self _) ?_
        intro member
        obtain ⟨notifying, within, same⟩ := List.mem_map.mp member
        exact absurd same (Nat.ne_of_lt (numbered.stack notifying within))
      · rw [reload_of_not_valid manager accepted]
        exact numbered

theorem numbered_reached (initial : Config) (valid : validator initial = .valid)
    (events : List (Event Config Listener)) :
    Numbered (ConfigManager.reached initial valid events) :=
  Machine.run_invariant ConfigManager.step Numbered (fun _ event numbered => numbered.step event)
    events _ ⟨⟨nofun, .nil⟩, nofun, List.nodup_nil, nofun⟩

end Numbers

/-! ## Who should be registered -/

/-- The registrations whose own unsubscribe function was not called, in their order. -/
structure Roster (Listener : Type) where
  registered : List Listener
  live : List (Registration Listener)

namespace Roster

variable {Config Listener : Type}

def step (roster : Roster Listener) : Event Config Listener → Roster Listener
  | .onChange listener =>
      { registered := roster.registered ++ [listener]
        live := roster.live ++ [⟨roster.registered.length, listener⟩] }
  | .unsubscribe registration =>
      { roster with live := roster.live.filter (·.number != registration) }
  | .reload _ => roster
  | .returns _ => roster

def after (events : List (Event Config Listener)) : Roster Listener :=
  Machine.run step ⟨[], []⟩ events

def visits (events : List (Event Config Listener)) :
    List (Roster Listener × Event Config Listener) :=
  Machine.visits step ⟨[], []⟩ events

theorem enrolled_step {roster : Roster Listener}
    (enrolled : Enrolled roster.registered roster.live) (event : Event Config Listener) :
    Enrolled (roster.step event).registered (roster.step event).live := by
  cases event with
  | reload candidate => exact enrolled
  | returns throws => exact enrolled
  | unsubscribe registration => exact enrolled.subperm List.filter_sublist.subperm
  | onChange listener => exact enrolled.concat listener

theorem enrolled_after (events : List (Event Config Listener)) :
    Enrolled (after events).registered (after events).live :=
  Machine.run_invariant step (fun roster => Enrolled roster.registered roster.live)
    (fun _ event enrolled => enrolled_step enrolled event) events _ ⟨nofun, .nil⟩

theorem after_concat (events : List (Event Config Listener))
    (event : Event Config Listener) :
    after (events ++ [event]) = (after events).step event :=
  Machine.run_append step _ events [event]

end Roster

/-- Calling the unsubscribe function of a registration takes out that one or an equal
function beside it: no other function stands between the first registration of its
function and itself.  Called again, it finds no registration of its function. -/
def removesOwn {Config Listener : Type} [DecidableEq Listener] (roster : Roster Listener) :
    Event Config Listener → Bool
  | .unsubscribe registration =>
      match roster.registered[registration]? with
      | none => true
      | some listener =>
          let fromFirst := roster.live.dropWhile (·.listener != listener)
          if roster.live.any (·.number == registration) then
            (fromFirst.takeWhile (·.number != registration)).all (·.listener == listener)
          else fromFirst.isEmpty
  | _ => true

section Removal

variable {Listener : Type} {number : Nat} {listener : Listener}

theorem filter_number_of_not_mem {rest : List (Registration Listener)}
    (absent : number ∉ rest.map (·.number)) : rest.filter (·.number != number) = rest := by
  rw [List.filter_eq_self]
  intro own within
  rw [bne_iff_ne]
  rintro rfl
  exact absent (List.mem_map_of_mem within)

theorem any_number_iff {rest : List (Registration Listener)} :
    rest.any (·.number == number) = true ↔ number ∈ rest.map (·.number) := by
  simp [List.any_eq_true, List.mem_map]

variable [DecidableEq Listener]

theorem tail_eq_filter_iff {rest : List (Registration Listener)}
    (nodup : (rest.map (·.number)).Nodup) (member : number ∈ rest.map (·.number))
    (known : ∀ own ∈ rest, own.number = number → own.listener = listener) :
    rest.map (·.listener) = listener :: (rest.filter (·.number != number)).map (·.listener) ↔
      (rest.takeWhile (·.number != number)).all (·.listener == listener) = true := by
  induction rest with
  | nil => simp at member
  | cons first rest ih =>
      rw [List.map_cons, List.nodup_cons] at nodup
      by_cases own : first.number = number
      · have skipped : ¬ (first.number != number) = true := by simpa using own
        rw [List.filter_cons, if_neg skipped, List.takeWhile_cons, if_neg skipped,
          filter_number_of_not_mem (own ▸ nodup.1), List.map_cons,
          known first List.mem_cons_self own]
        simp
      · have kept : (first.number != number) = true := by simpa using own
        have later : number ∈ rest.map (·.number) :=
          (List.mem_cons.mp member).resolve_left (Ne.symm own)
        have next := ih nodup.2 later
          fun other within => known other (List.mem_cons_of_mem _ within)
        rw [List.filter_cons, if_pos kept, List.takeWhile_cons, if_pos kept, List.map_cons,
          List.map_cons, List.all_cons, Bool.and_eq_true, beq_iff_eq, List.cons.injEq, ← next]
        constructor
        · rintro ⟨same, others⟩
          exact ⟨same, same ▸ others⟩
        · rintro ⟨same, others⟩
          exact ⟨same, same.symm ▸ others⟩

theorem eraseP_eq_filter_iff {live : List (Registration Listener)}
    (nodup : (live.map (·.number)).Nodup) (member : number ∈ live.map (·.number))
    (known : ∀ own ∈ live, own.number = number → own.listener = listener) :
    (live.map (·.listener)).eraseP (· == listener) =
        (live.filter (·.number != number)).map (·.listener) ↔
      ((live.dropWhile (·.listener != listener)).takeWhile (·.number != number)).all
        (·.listener == listener) = true := by
  induction live with
  | nil => simp at member
  | cons first rest ih =>
      rw [List.map_cons, List.nodup_cons] at nodup
      have others : ∀ own ∈ rest, own.number = number → own.listener = listener :=
        fun own within => known own (List.mem_cons_of_mem _ within)
      by_cases equal : first.listener = listener
      · have found : (first.listener == listener) = true := by simpa using equal
        have stops : ¬ (first.listener != listener) = true := by simpa using equal
        rw [List.map_cons, List.eraseP_cons, found, cond_true, List.dropWhile_cons, if_neg stops]
        by_cases own : first.number = number
        · have skipped : ¬ (first.number != number) = true := by simpa using own
          rw [List.filter_cons, if_neg skipped, List.takeWhile_cons, if_neg skipped,
            filter_number_of_not_mem (own ▸ nodup.1)]
          simp
        · have kept : (first.number != number) = true := by simpa using own
          have later : number ∈ rest.map (·.number) :=
            (List.mem_cons.mp member).resolve_left (Ne.symm own)
          rw [List.filter_cons, if_pos kept, List.takeWhile_cons, if_pos kept, List.map_cons,
            equal, tail_eq_filter_iff nodup.2 later others, List.all_cons, found,
            Bool.true_and]
      · have passed : (first.listener == listener) = false := by simpa using equal
        have skips : (first.listener != listener) = true := by simpa using equal
        have different : first.number ≠ number :=
          fun own => equal (known first List.mem_cons_self own)
        have kept : (first.number != number) = true := by simpa using different
        have later : number ∈ rest.map (·.number) :=
          (List.mem_cons.mp member).resolve_left (Ne.symm different)
        rw [List.map_cons, List.eraseP_cons, passed, cond_false, List.filter_cons, if_pos kept,
          List.map_cons, List.dropWhile_cons, if_pos skips, ← ih nodup.2 later others,
          List.cons.injEq, and_iff_right rfl]

theorem eraseP_eq_self_iff {live : List (Registration Listener)} :
    (live.map (·.listener)).eraseP (· == listener) = live.map (·.listener) ↔
      (live.dropWhile (·.listener != listener)).isEmpty = true := by
  rw [List.isEmpty_iff, List.dropWhile_eq_nil_iff, List.eraseP_eq_self_iff]
  simp

end Removal

section Unsubscription

variable {Config Listener : Type} {validator : Config → ValidationResult}

theorem filter_reload_map (reload : Nat) (next previous : Config)
    (listeners : List (Registration Listener)) :
    ((listeners.map (Invocation.mk reload · next previous)).filter (·.reload == reload)).map
      (·.registration.listener) = listeners.map (·.listener) := by
  have all : (listeners.map (Invocation.mk reload · next previous)).filter (·.reload == reload) =
      listeners.map (Invocation.mk reload · next previous) := by
    rw [List.filter_eq_self]
    intro invocation member
    obtain ⟨registration, _, rfl⟩ := List.mem_map.mp member
    exact beq_self_eq_true reload
  rw [all, List.map_map]
  rfl

variable [DecidableEq Listener]

theorem step_registered (manager : ConfigManager validator Listener) (roster : Roster Listener)
    (same : manager.registered = roster.registered) (event : Event Config Listener) :
    (manager.step event).registered = (roster.step event).registered := by
  cases event with
  | onChange listener =>
      change manager.registered ++ [listener] = roster.registered ++ [listener]
      rw [same]
  | unsubscribe registration =>
      rw [ConfigManager.step, ConfigManager.unsubscribe]
      split
      · exact same
      · exact same
  | reload candidate => rw [step_reload_registered, same, Roster.step]
  | returns throws => rw [ConfigManager.step, returned_registered, same, Roster.step]

/-- One step keeps the array in line with the registrations exactly if it removes the
right one. -/
theorem step_listeners_iff (manager : ConfigManager validator Listener)
    {roster : Roster Listener} (enrolled : Enrolled roster.registered roster.live)
    (registered : manager.registered = roster.registered)
    (agree : manager.listeners.map (·.listener) = roster.live.map (·.listener))
    (event : Event Config Listener) :
    (manager.step event).listeners.map (·.listener) =
        (roster.step event).live.map (·.listener) ↔
      removesOwn roster event = true := by
  cases event with
  | onChange listener => simp [ConfigManager.step, ConfigManager.onChange, Roster.step,
      removesOwn, agree]
  | reload candidate => simp [Roster.step, removesOwn, agree]
  | returns throws => simp [ConfigManager.step, Roster.step, removesOwn, agree]
  | unsubscribe number =>
      unfold ConfigManager.step ConfigManager.unsubscribe Roster.step removesOwn
      dsimp only
      rw [registered]
      cases own : roster.registered[number]? with
      | none =>
          have absent : number ∉ roster.live.map (·.number) := by
            intro member
            obtain ⟨registration, within, rfl⟩ := List.mem_map.mp member
            rw [enrolled.known registration within] at own
            cases own
          dsimp only
          rw [filter_number_of_not_mem absent]
          exact iff_of_true agree rfl
      | some listener =>
          have known := enrolled.listener_eq own
          have erased : (takeOut listener number manager.listeners).map (·.listener) =
              (roster.live.map (·.listener)).eraseP (· == listener) := by
            rw [takeOut_functions, agree]
          dsimp only
          rw [erased]
          by_cases member : number ∈ roster.live.map (·.number)
          · rw [if_pos (any_number_iff.mpr member)]
            exact eraseP_eq_filter_iff enrolled.nodup member known
          · rw [if_neg (any_number_iff.not.mpr member), filter_number_of_not_mem member]
            exact eraseP_eq_self_iff

def invokedNext (manager : ConfigManager validator Listener) (candidate : Config)
    (outcomes : List Bool) : List Listener :=
  ((manager.run (.reload candidate :: outcomes.map .returns)).log.filter
    (·.reload == manager.reloads)).map (·.registration.listener)

theorem invokedNext_eq (manager : ConfigManager validator Listener) {candidate : Config}
    (accepted : validator candidate = .valid) {outcomes : List Bool}
    (length : outcomes.length = manager.listeners.length)
    (past : ∀ invocation ∈ manager.log, invocation.reload < manager.reloads) :
    invokedNext manager candidate outcomes = manager.listeners.map (·.listener) := by
  have whole : manager.run (.reload candidate :: outcomes.map .returns) =
      { manager with
        current := candidate
        valid := accepted
        reloads := manager.reloads + 1
        log := manager.log ++ manager.listeners.map
          (⟨manager.reloads, ·, candidate, manager.current⟩) } := by
    have walked := notify_through
      { manager with current := candidate, valid := accepted, reloads := manager.reloads + 1 }
      ⟨manager.reloads, manager.current, 0⟩ outcomes (by simpa using length)
    rw [← reload_of_valid manager accepted] at walked
    exact walked
  have before : manager.log.filter (·.reload == manager.reloads) = [] := by
    rw [List.filter_eq_nil_iff]
    intro invocation member same
    have earlier := past invocation member
    rw [beq_iff_eq.mp same] at earlier
    exact Nat.lt_irrefl _ earlier
  rw [invokedNext, whole]
  dsimp only
  rw [List.filter_append, before, List.nil_append, filter_reload_map]

theorem reached_concat (initial : Config) (valid : validator initial = .valid)
    (events : List (Event Config Listener)) (event : Event Config Listener) :
    ConfigManager.reached initial valid (events ++ [event]) =
      (ConfigManager.reached initial valid events).step event :=
  Machine.run_append ConfigManager.step _ events [event]

theorem registered_reached (initial : Config) (valid : validator initial = .valid)
    (events : List (Event Config Listener)) :
    (ConfigManager.reached initial valid events).registered =
      (Roster.after events).registered := by
  induction events using List.reverseRecOn with
  | nil => rfl
  | append_singleton events event ih =>
      rw [reached_concat, Roster.after_concat]
      exact step_registered _ _ ih event

/-- After every call the next `reload` invokes the listeners of the registrations whose
own unsubscribe function was not called, in their order, exactly if every call of such a
function finds its own registration first, or equal ones only. -/
theorem unsubscription_removes_own_iff (initial : Config) (valid : validator initial = .valid)
    (events : List (Event Config Listener)) :
    (∀ earlier later, events = earlier ++ later → ∀ candidate outcomes,
        validator candidate = .valid →
        outcomes.length = (ConfigManager.reached initial valid earlier).listeners.length →
        invokedNext (ConfigManager.reached initial valid earlier) candidate outcomes =
          (Roster.after earlier).live.map (·.listener)) ↔
      ∀ visit ∈ Roster.visits events, removesOwn visit.1 visit.2 = true := by
  have invoked : ∀ earlier : List (Event Config Listener),
      (∀ candidate outcomes, validator candidate = .valid →
      outcomes.length = (ConfigManager.reached initial valid earlier).listeners.length →
      invokedNext (ConfigManager.reached initial valid earlier) candidate outcomes =
        (Roster.after earlier).live.map (·.listener)) ↔
      (ConfigManager.reached initial valid earlier).listeners.map (·.listener) =
        (Roster.after earlier).live.map (·.listener) := by
    intro earlier
    have past := fun invocation member =>
      ((numbered_reached initial valid earlier).log invocation member).1
    constructor
    · intro all
      -- the initial config is one that the validator accepts
      rw [← all initial (List.replicate _ false) valid (List.length_replicate ..)]
      exact (invokedNext_eq _ valid (List.length_replicate ..) past).symm
    · intro agree candidate outcomes accepted length
      rw [invokedNext_eq _ accepted length past, agree]
  have step := fun (earlier : List (Event Config Listener)) agree event =>
    step_listeners_iff (ConfigManager.reached initial valid earlier) (Roster.enrolled_after earlier)
      (registered_reached initial valid earlier) agree event
  simp only [invoked]
  constructor
  · rintro agree ⟨roster, event⟩ visited
    obtain ⟨earlier, later, split, rfl⟩ := (Machine.mem_visits_iff _ _ _ _ _).mp visited
    refine (step earlier (agree earlier (event :: later) split) event).mp ?_
    rw [← reached_concat, ← Roster.after_concat]
    exact agree (earlier ++ [event]) later (by rw [split, List.append_assoc]; rfl)
  · intro removes earlier
    induction earlier using List.reverseRecOn with
    | nil => exact fun _ _ => rfl
    | append_singleton earlier event ih =>
        intro later split
        rw [List.append_assoc] at split
        rw [reached_concat, Roster.after_concat]
        refine (step earlier (ih _ split) event).mpr (removes (Roster.after earlier, event) ?_)
        exact (Machine.mem_visits_iff _ _ _ _ _).mpr ⟨earlier, later, split, rfl⟩

end Unsubscription

def positive (candidate : Nat) : ValidationResult :=
  if 0 < candidate then .valid
  else .invalid "INVALID_FIELD_VALUE" "must be a positive finite number" none

theorem positive_one : positive 1 = .valid := rfl

def plainCalls : List (Event Nat String) :=
  [.onChange "cache", .onChange "client", .unsubscribe 0]

theorem plainCalls_invoke_rest :
    invokedNext (ConfigManager.reached 1 positive_one plainCalls) 2 [false] = ["client"] :=
  (unsubscription_removes_own_iff 1 positive_one plainCalls).mpr (by decide) plainCalls [] rfl 2
    [false] rfl rfl

/-- One function is registered before and after another one, and the second of its
registrations is given up. -/
def repeatedCalls : List (Event Nat String) :=
  [.onChange "cache", .onChange "client", .onChange "cache", .unsubscribe 2]

/-- A function is registered twice, and one unsubscribe function is called twice. -/
def doubledCalls : List (Event Nat String) :=
  [.onChange "cache", .onChange "cache", .unsubscribe 0, .unsubscribe 0]

theorem repeatedCalls_remove_another :
    invokedNext (ConfigManager.reached 1 positive_one repeatedCalls) 2 [false, false] =
        ["client", "cache"] ∧
      (Roster.after repeatedCalls).live.map (·.listener) = ["cache", "client"] ∧
      invokedNext (ConfigManager.reached 1 positive_one doubledCalls) 2 [] = [] ∧
      (Roster.after doubledCalls).live.map (·.listener) = ["cache"] := by
  decide

end AnchorKit.Sdk.Config
