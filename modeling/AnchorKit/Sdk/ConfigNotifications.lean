import AnchorKit.Sdk.ConfigManager

/-!
# Who a reload notifies

The loop of `reload` walks the live array and hands every listener the config that is
current when its turn comes.  `Owed` says where a `reload` stands with the listeners that
were registered when it began: told, unsubscribed, or still ahead of the iterator, as
long as the iterator passes over nobody and no further `reload` commits while somebody is
still ahead of it.
-/

set_option autoImplicit false

namespace AnchorKit.Sdk.Config

open AnchorKit.Base

variable {Config Listener : Type} {validator : Config → ValidationResult}
  [DecidableEq Listener]

def visits (initial : Config) (valid : validator initial = .valid)
    (events : List (Event Config Listener)) :
    List (ConfigManager validator Listener × Event Config Listener) :=
  Machine.visits ConfigManager.step (ConfigManager.start initial valid) events

def Notifying.hasNext (notifying : Notifying Config) (listeners : List (Registration Listener)) :
    Bool :=
  notifying.position + 1 < listeners.length

/-- The function that is taken out is one that the iterator has passed, so that it passes over
the one at its next place, and that is neither of the registration that is given up nor one
that cannot be told from it. -/
def passesOver (place : Nat) (listeners : List (Registration Listener)) (listener : Listener)
    (registration : Nat) : Bool :=
  let ahead := listeners.drop place
  (listeners.take place).any (·.listener == listener) && !ahead.isEmpty &&
    !(ahead.head?.any (·.listener == listener) && ahead.any (·.number == registration))

/-- An unsubscribe function that was called before takes out the function of another
registration, or an iterator passes over somebody; or a `reload` commits while an outer one
has somebody ahead. -/
def disturbs (visit : ConfigManager validator Listener × Event Config Listener) : Bool :=
  match visit.2 with
  | .unsubscribe registration =>
      match visit.1.registered[registration]? with
      | none => false
      | some listener =>
          visit.1.listeners.any (·.listener == listener) &&
            (!visit.1.listeners.any (·.number == registration) ||
              visit.1.stack.any fun notifying =>
                passesOver (notifying.position + 1) visit.1.listeners listener registration)
  | .reload candidate =>
      decide (validator candidate = .valid) &&
        visit.1.stack.any (·.hasNext visit.1.listeners)
  | _ => false

theorem undisturbed_reload {manager : ConfigManager validator Listener} {candidate : Config}
    (accepted : validator candidate = .valid)
    (undisturbed : disturbs (manager, .reload candidate) = false) :
    ∀ notifying ∈ manager.stack, manager.listeners.length ≤ notifying.position + 1 := by
  simpa [disturbs, accepted, Notifying.hasNext] using undisturbed

theorem undisturbed_unsubscribe {manager : ConfigManager validator Listener} {registration : Nat}
    {listener : Listener} (known : manager.registered[registration]? = some listener)
    (undisturbed : disturbs (manager, .unsubscribe registration) = false)
    {first : Registration Listener}
    (found : manager.listeners.find? (·.listener == listener) = some first) :
    registration ∈ manager.listeners.map (·.number) ∧ ∀ notifying ∈ manager.stack,
      passesOver (notifying.position + 1) manager.listeners listener registration = false := by
  have present : manager.listeners.any (·.listener == listener) = true :=
    List.any_eq_true.mpr (List.find?_isSome.mp (by rw [found]; rfl))
  rw [disturbs] at undisturbed
  dsimp only at undisturbed
  rw [known] at undisturbed
  dsimp only at undisturbed
  rw [present, Bool.true_and, Bool.or_eq_false_iff, Bool.not_eq_false', any_number_iff]
    at undisturbed
  refine ⟨undisturbed.1, ?_⟩
  simpa using undisturbed.2

def told (log : List (Invocation Config Listener)) (reload : Nat)
    (registration : Registration Listener) : Nat :=
  log.countP fun invocation =>
    invocation.reload == reload && invocation.registration == registration

theorem told_concat (log : List (Invocation Config Listener))
    (invocation : Invocation Config Listener) (reload : Nat)
    (registration : Registration Listener) :
    told (log ++ [invocation]) reload registration = told log reload registration +
      if invocation.reload = reload ∧ invocation.registration = registration then 1 else 0 := by
  rw [told, List.countP_append, List.countP_singleton]
  simp [told]

theorem told_eq_zero {log : List (Invocation Config Listener)} {reload : Nat}
    {registration : Registration Listener}
    (none : ∀ invocation ∈ log, invocation.reload = reload →
      invocation.registration ≠ registration) : told log reload registration = 0 := by
  rw [told, List.countP_eq_zero]
  intro invocation member both
  rw [Bool.and_eq_true, beq_iff_eq, beq_iff_eq] at both
  exact none invocation member both.1 both.2

/-- The `reload` is under way, and the registration is ahead of its iterator. -/
def Awaits (manager : ConfigManager validator Listener) (reload : Nat)
    (registration : Registration Listener) : Prop :=
  ∃ notifying ∈ manager.stack, notifying.reload = reload ∧
    registration ∈ manager.listeners.drop (notifying.position + 1)

/-! ## Taking a registration out -/

section Removal

variable {listener : Listener} {registration : Nat} {entries : List (Registration Listener)}

theorem mem_handDown {vacant : Nat} (member : registration ∈ entries.map (·.number))
    (known : ∀ own ∈ entries, own.number = registration → own.listener = listener)
    {own : Registration Listener} (listed : own ∈ (⟨vacant, listener⟩ : Registration Listener) ::
      entries) (other : own.number ≠ registration) :
    own ∈ handDown listener registration vacant entries := by
  induction entries generalizing vacant with
  | nil => cases member
  | cons first rest ih =>
      have knownRest : ∀ own ∈ rest, own.number = registration → own.listener = listener :=
        fun own within => known own (List.mem_cons_of_mem _ within)
      rw [handDown]
      by_cases same : first.listener = listener
      · have itself : (⟨first.number, listener⟩ : Registration Listener) = first := by
          rw [← same]
        rw [if_pos same]
        rcases List.mem_cons.mp listed with rfl | inside
        · exact List.mem_cons_self
        · refine List.mem_cons_of_mem _ ?_
          by_cases given : first.number = registration
          · rw [if_pos given]
            rcases List.mem_cons.mp inside with rfl | later
            · exact absurd given other
            · exact later
          · rw [if_neg given]
            refine ih ((List.mem_cons.mp member).resolve_left (Ne.symm given)) knownRest ?_
            rw [itself]
            exact inside
      · have kept : first.number ≠ registration :=
          fun given => same (known first List.mem_cons_self given)
        have later := (List.mem_cons.mp member).resolve_left (Ne.symm kept)
        rw [if_neg same]
        rcases List.mem_cons.mp listed with rfl | inside
        · exact List.mem_cons_of_mem _ (ih later knownRest List.mem_cons_self)
        · rcases List.mem_cons.mp inside with rfl | further
          · exact List.mem_cons_self
          · exact List.mem_cons_of_mem _ (ih later knownRest (List.mem_cons_of_mem _ further))

theorem handDown_drop (vacant : Nat) (front back : List (Registration Listener))
    {own : Registration Listener} (same : own.listener = listener)
    (later : ∀ other ∈ front, other.number ≠ registration) :
    (handDown listener registration vacant (front ++ own :: back)).drop (front.length + 1) =
      if own.number = registration then back
      else handDown listener registration own.number back := by
  induction front generalizing vacant with
  | nil =>
      rw [List.nil_append, handDown, if_pos same]
      rfl
  | cons first rest ih =>
      have laterRest : ∀ other ∈ rest, other.number ≠ registration :=
        fun other within => later other (List.mem_cons_of_mem _ within)
      rw [List.cons_append, handDown, if_neg (later first List.mem_cons_self), List.length_cons]
      split
      · exact ih _ laterRest
      · exact ih _ laterRest

/-- What becomes of the entries behind the first one of the function, as that is taken out. -/
def handedDown (listener : Listener) (registration : Nat) (first : Registration Listener)
    (rest : List (Registration Listener)) : List (Registration Listener) :=
  if rest.any (·.number == registration) then handDown listener registration first.number rest
  else rest

/-- Nobody is lost but the one that is given up, and nobody comes in. -/
structure LosesOnly (registration : Nat) (before after : List (Registration Listener)) :
    Prop where
  kept : ∀ own ∈ before, own.number ≠ registration → own ∈ after
  among : ∀ own ∈ after, own ∈ before

omit [DecidableEq Listener] in
theorem LosesOnly.refl (registration : Nat) (entries : List (Registration Listener)) :
    LosesOnly registration entries entries :=
  ⟨fun _ member _ => member, fun _ => id⟩

omit [DecidableEq Listener] in
theorem LosesOnly.append {before after : List (Registration Listener)}
    (losesOnly : LosesOnly registration before after) (front : List (Registration Listener)) :
    LosesOnly registration (front ++ before) (front ++ after) where
  kept own listed other := by
    rcases List.mem_append.mp listed with early | late
    · exact List.mem_append_left _ early
    · exact List.mem_append_right _ (losesOnly.kept own late other)
  among own listed := by
    rcases List.mem_append.mp listed with early | late
    · exact List.mem_append_left _ early
    · exact List.mem_append_right _ (losesOnly.among own late)

section HandedDown

variable {first : Registration Listener} {rest : List (Registration Listener)}

theorem length_handedDown (listener : Listener) (registration : Nat)
    (first : Registration Listener) (rest : List (Registration Listener)) :
    (handedDown listener registration first rest).length = rest.length := by
  unfold handedDown
  split
  · simpa using congrArg List.length (handDown_functions first.number rest)
  · rfl

theorem losesOnly_handedDown (equal : first.listener = listener)
    (known : ∀ own ∈ rest, own.number = registration → own.listener = listener)
    (member : registration ∈ (first :: rest).map (·.number)) :
    LosesOnly registration (first :: rest) (handedDown listener registration first rest) := by
  have itself : (⟨first.number, listener⟩ : Registration Listener) = first := by rw [← equal]
  unfold handedDown
  split
  · rename_i within
    refine ⟨?_, ?_⟩
    · intro own listed other
      refine mem_handDown (any_number_iff.mp within) known ?_ other
      rw [itself]
      exact listed
    · intro own handed
      rw [← itself]
      exact (handDown_subperm listener registration first.number rest).subset handed
  · rename_i absent
    have given := (List.mem_cons.mp member).resolve_right
      fun within => absent (any_number_iff.mpr within)
    refine ⟨?_, fun own => List.mem_cons_of_mem _⟩
    intro own listed other
    rcases List.mem_cons.mp listed with rfl | later
    · exact absurd given.symm other
    · exact later

/-- From a later entry of the function on, it is as if that one were taken out. -/
theorem drop_handedDown (first : Registration Listener)
    {front back : List (Registration Listener)}
    {own : Registration Listener} (same : own.listener = listener)
    (nodup : ((front ++ own :: back).map (·.number)).Nodup)
    (member : registration ∈ (own :: back).map (·.number)) :
    (handedDown listener registration first (front ++ own :: back)).drop (front.length + 1) =
      handedDown listener registration own back := by
  rw [List.map_append, List.nodup_append] at nodup
  obtain ⟨-, single, apart⟩ := nodup
  have earlier : ∀ other ∈ front, other.number ≠ registration :=
    fun other within => apart _ (List.mem_map_of_mem within) _ member
  have within : registration ∈ (front ++ own :: back).map (·.number) := by
    rw [List.map_append]
    exact List.mem_append_right _ member
  rw [handedDown, if_pos (any_number_iff.mpr within), handDown_drop _ _ _ same earlier,
    handedDown]
  rw [List.map_cons, List.nodup_cons] at single
  by_cases given : own.number = registration
  · rw [if_pos given, if_neg]
    exact fun again => single.1 (given ▸ any_number_iff.mp again)
  · rw [if_neg given, if_pos]
    exact any_number_iff.mpr ((List.mem_cons.mp member).resolve_left (Ne.symm given))

/-- Nobody is left behind the iterator's place, or the entry there has the function, and the
one given up is not before it. -/
theorem losesOnly_drop_handedDown (nodup : (rest.map (·.number)).Nodup)
    (known : ∀ own ∈ rest, own.number = registration → own.listener = listener) {place : Nat}
    (harmless : rest.drop place = [] ∨ ∃ own back, rest.drop place = own :: back ∧
      own.listener = listener ∧ registration ∈ (rest.drop place).map (·.number)) :
    LosesOnly registration (rest.drop place)
      ((handedDown listener registration first rest).drop (place + 1)) := by
  rcases harmless with none | ⟨own, back, ahead, same, member⟩
  · rw [none, List.drop_eq_nil_of_le]
    · exact LosesOnly.refl registration []
    · rw [length_handedDown]
      exact Nat.le_succ_of_le (List.drop_eq_nil_iff.mp none)
  · have split : rest = rest.take place ++ own :: back := by
      rw [← ahead, List.take_append_drop]
    have inside : place < rest.length := by
      by_contra past
      rw [List.drop_eq_nil_of_le (Nat.le_of_not_lt past)] at ahead
      cases ahead
    rw [ahead] at member
    rw [split] at nodup
    have dropped := drop_handedDown first same nodup member
    rw [← split, List.length_take_of_le inside.le] at dropped
    rw [dropped, ahead]
    refine losesOnly_handedDown same ?_ member
    intro other later
    refine known other ?_
    rw [split]
    exact List.mem_append_right _ (List.mem_cons_of_mem _ later)

end HandedDown

theorem passesOver_eq_false {others rest : List (Registration Listener)}
    {first : Registration Listener} (equal : first.listener = listener) {next : Nat}
    (harmless : passesOver (others.length + next + 1) (others ++ first :: rest) listener
      registration = false) :
    rest.drop next = [] ∨ ∃ own back, rest.drop next = own :: back ∧
      own.listener = listener ∧ registration ∈ (rest.drop next).map (·.number) := by
  have reached : ((others ++ first :: rest).take (others.length + next + 1)).any
      (·.listener == listener) = true := by
    rw [Nat.add_assoc, List.take_length_add_append, List.any_append, List.take_succ_cons,
      List.any_cons, beq_iff_eq.mpr equal, Bool.true_or, Bool.or_true]
  have ahead : (others ++ first :: rest).drop (others.length + next + 1) = rest.drop next := by
    rw [Nat.add_assoc, List.drop_length_add_append, List.drop_succ_cons]
  rw [passesOver, ahead, reached, Bool.true_and] at harmless
  cases further : rest.drop next with
  | nil => exact .inl rfl
  | cons own back =>
      rw [further, List.isEmpty_cons, Bool.not_false, Bool.true_and, Bool.not_eq_false',
        Bool.and_eq_true] at harmless
      exact .inr ⟨own, back, rfl, beq_iff_eq.mp harmless.1, any_number_iff.mp harmless.2⟩

/-- Where the iterator passes over nobody, the registrations ahead of it are the same, but for
the one that is given up. -/
theorem losesOnly_drop_takeOut (nodup : (entries.map (·.number)).Nodup)
    (known : ∀ own ∈ entries, own.number = registration → own.listener = listener)
    (place : Nat)
    (undisturbed : ∀ first, entries.find? (·.listener == listener) = some first →
      registration ∈ entries.map (·.number) ∧
        passesOver place entries listener registration = false) :
    LosesOnly registration (entries.drop place)
      ((takeOut listener registration entries).drop place) := by
  cases found : entries.find? (·.listener == listener) with
  | none =>
      rw [takeOut_of_absent found]
      exact LosesOnly.refl registration _
  | some first =>
      obtain ⟨member, harmless⟩ := undisturbed first found
      obtain ⟨others, rest, split, apart, equal, after⟩ := takeOut_split found registration
      subst split
      have elsewhere : others.any (·.number == registration) = false := by
        rw [List.any_eq_false]
        intro own within given
        exact apart own within
          (known own (List.mem_append_left _ within) (beq_iff_eq.mp given))
      have knownRest : ∀ own ∈ rest, own.number = registration → own.listener = listener :=
        fun own within => known own (List.mem_append_right _ (List.mem_cons_of_mem _ within))
      rw [List.any_append, elsewhere, Bool.false_or] at after
      change _ = others ++ handedDown listener registration first rest at after
      rw [after]
      -- the iterator is past the first entry of the function, or still before it
      rcases Nat.lt_or_ge others.length place with passed | ahead
      · obtain ⟨next, rfl⟩ := Nat.exists_eq_add_of_lt passed
        have nodupRest : (rest.map (·.number)).Nodup :=
          nodup.sublist (((List.sublist_cons_self _ _).trans
            (List.sublist_append_right _ _)).map _)
        rw [Nat.add_assoc, List.drop_length_add_append, List.drop_length_add_append,
          List.drop_succ_cons]
        exact losesOnly_drop_handedDown nodupRest knownRest (passesOver_eq_false equal harmless)
      · have present : registration ∈ (first :: rest).map (·.number) := by
          rw [List.map_append] at member
          refine (List.mem_append.mp member).resolve_left ?_
          intro early
          rw [any_number_iff.mpr early] at elsewhere
          cases elsewhere
        rw [List.drop_append_of_le_length ahead, List.drop_append_of_le_length ahead]
        exact (losesOnly_handedDown equal knownRest present).append _

end Removal

/-! ## Where a reload stands -/

/-- The `reload` with this number committed `next` in place of `previous`, and `ahead`
are the registrations that its iterator has not reached.  `audience` are those it owes
an invocation, and `gone` has those that were unsubscribed before their turn. -/
structure Owed (reload : Nat) (next previous : Config)
    (audience : List (Registration Listener)) (gone : Registration Listener → Prop)
    (log : List (Invocation Config Listener)) (current : Config)
    (ahead : List (Registration Listener)) : Prop where
  once : ∀ registration, told log reload registration ≤ 1
  later : ∀ registration ∈ ahead, ∀ invocation ∈ log, invocation.reload = reload →
    invocation.registration ≠ registration
  owed : ∀ registration ∈ audience, told log reload registration = 1 ∨ gone registration ∨
    registration ∈ ahead
  right : ∀ invocation ∈ log, invocation.reload = reload → invocation.registration ∈ audience →
    invocation.next = next ∧ invocation.previous = previous
  current : ∀ registration ∈ ahead, registration ∈ audience → current = next

section Standing

variable {reload : Nat} {next previous current : Config}
  {audience ahead : List (Registration Listener)} {gone : Registration Listener → Prop}
  {log : List (Invocation Config Listener)}

theorem Owed.fresh (owed : Owed reload next previous audience gone log current ahead)
    {registration : Registration Listener} (member : registration ∈ ahead) :
    told log reload registration = 0 :=
  told_eq_zero (owed.later registration member)

theorem Owed.invoke {registration : Registration Listener}
    (owed : Owed reload next previous audience gone log current (registration :: ahead))
    (first : registration ∉ ahead) :
    Owed reload next previous audience gone
      (log ++ [⟨reload, registration, current, previous⟩]) current ahead := by
  have counted : ∀ other, told (log ++ [⟨reload, registration, current, previous⟩]) reload other =
      told log reload other + if registration = other then 1 else 0 := by
    intro other
    rw [told_concat]
    simp
  refine ⟨?_, ?_, ?_, ?_, ?_⟩
  · intro other
    rw [counted]
    split
    · rename_i same
      rw [← same, owed.fresh List.mem_cons_self]
    · exact owed.once other
  · intro other member invocation within same
    rcases List.mem_append.mp within with earlier | now
    · exact owed.later other (List.mem_cons_of_mem _ member) invocation earlier same
    · rw [List.mem_singleton.mp now]
      rintro rfl
      exact first member
  · intro other listed
    rw [counted]
    rcases owed.owed other listed with done | left | still
    · refine .inl ?_
      rw [done, if_neg]
      rintro rfl
      rw [owed.fresh List.mem_cons_self] at done
      cases done
    · exact .inr (.inl left)
    · rcases List.mem_cons.mp still with rfl | later
      · refine .inl ?_
        rw [if_pos rfl, owed.fresh List.mem_cons_self]
      · exact .inr (.inr later)
  · intro invocation member same listed
    rcases List.mem_append.mp member with earlier | now
    · exact owed.right invocation earlier same listed
    · rw [List.mem_singleton.mp now] at listed ⊢
      exact ⟨owed.current registration List.mem_cons_self listed, rfl⟩
  · intro other member listed
    exact owed.current other (List.mem_cons_of_mem _ member) listed

theorem Owed.other (owed : Owed reload next previous audience gone log current ahead)
    {invocation : Invocation Config Listener} (different : invocation.reload ≠ reload) :
    Owed reload next previous audience gone (log ++ [invocation]) current ahead := by
  have counted : ∀ registration, told (log ++ [invocation]) reload registration =
      told log reload registration := by
    intro registration
    rw [told_concat, if_neg (fun both => different both.1), Nat.add_zero]
  refine ⟨?_, ?_, ?_, ?_, owed.current⟩
  · simpa only [counted] using owed.once
  · intro registration member own within same
    rcases List.mem_append.mp within with earlier | now
    · exact owed.later registration member own earlier same
    · rw [List.mem_singleton.mp now] at same
      exact absurd same different
  · simpa only [counted] using owed.owed
  · intro own member same listed
    rcases List.mem_append.mp member with earlier | now
    · exact owed.right own earlier same listed
    · rw [List.mem_singleton.mp now] at same
      exact absurd same different

theorem Owed.of_ahead {left : List (Registration Listener)} {going : Registration Listener → Prop}
    (owed : Owed reload next previous audience gone log current ahead)
    (out : ∀ registration ∈ ahead, registration ∈ left ∨ going registration)
    (still : ∀ registration, gone registration → going registration)
    (known : ∀ registration ∈ left, registration ∈ ahead ∨ registration ∉ audience ∧
      ∀ invocation ∈ log, invocation.registration ≠ registration) :
    Owed reload next previous audience going log current left := by
  refine ⟨owed.once, ?_, ?_, owed.right, ?_⟩
  · intro registration member invocation within same
    rcases known registration member with before | new
    · exact owed.later registration before invocation within same
    · exact new.2 invocation within
  · intro registration listed
    rcases owed.owed registration listed with done | gone | member
    · exact .inl done
    · exact .inr (.inl (still registration gone))
    · rcases out registration member with kept | going
      · exact .inr (.inr kept)
      · exact .inr (.inl going)
  · intro registration member listed
    rcases known registration member with before | new
    · exact owed.current registration before listed
    · exact absurd listed new.1

end Standing

inductive Standing (reload : Nat) (next previous : Config)
    (audience : List (Registration Listener)) (gone : Registration Listener → Prop)
    (manager : ConfigManager validator Listener) : Prop
  | notifying (notifying : Notifying Config) (member : notifying ∈ manager.stack)
      (number : notifying.reload = reload) (replaced : notifying.previous = previous)
      (owed : Owed reload next previous audience gone manager.log manager.current
        (manager.listeners.drop (notifying.position + 1)))
  | finished (ended : ∀ notifying ∈ manager.stack, notifying.reload ≠ reload)
      (owed : Owed reload next previous audience gone manager.log manager.current [])

section Steps

variable {reload : Nat} {next previous : Config} {audience : List (Registration Listener)}
  {gone : Registration Listener → Prop} {manager : ConfigManager validator Listener}

theorem Standing.mono {going : Registration Listener → Prop}
    (standing : Standing reload next previous audience gone manager)
    (still : ∀ registration, gone registration → going registration) :
    Standing reload next previous audience going manager := by
  cases standing with
  | finished ended owed =>
      exact .finished ended (owed.of_ahead (fun _ => .inl) still fun _ => .inl)
  | notifying notifying member number replaced owed =>
      exact .notifying notifying member number replaced
        (owed.of_ahead (fun _ => .inl) still fun _ => .inl)

theorem notify_standing (numbered : Numbered manager) {position : Nat}
    (ended : ∀ notifying ∈ manager.stack, notifying.reload ≠ reload)
    (owed : Owed reload next previous audience gone manager.log manager.current
      (manager.listeners.drop position)) :
    Standing reload next previous audience gone
      (manager.notify ⟨reload, previous, position⟩) := by
  by_cases inside : position < manager.listeners.length
  · rw [notify_of_getElem? manager ⟨reload, previous, position⟩ (List.getElem?_eq_getElem inside)]
    rw [List.drop_eq_getElem_cons inside] at owed
    refine .notifying ⟨reload, previous, position⟩ List.mem_cons_self rfl rfl (owed.invoke ?_)
    have nodup := (numbered.enrolled.subperm (List.drop_sublist position _).subperm).nodup
    rw [List.drop_eq_getElem_cons inside, List.map_cons, List.nodup_cons] at nodup
    exact fun again => nodup.1 (List.mem_map_of_mem again)
  · have past : manager.listeners.length ≤ position := Nat.le_of_not_lt inside
    rw [notify_of_length_le manager ⟨reload, previous, position⟩ past]
    rw [List.drop_of_length_le past] at owed
    exact .finished ended owed

theorem Standing.notify_other (standing : Standing reload next previous audience gone manager)
    {other : Notifying Config} (different : other.reload ≠ reload) :
    Standing reload next previous audience gone (manager.notify other) := by
  unfold ConfigManager.notify
  split
  · exact standing
  · cases standing with
    | notifying notifying member number replaced owed =>
        exact .notifying notifying (List.mem_cons_of_mem _ member) number replaced
          (owed.other different)
    | finished ended owed =>
        refine .finished ?_ (owed.other different)
        intro notifying member
        rcases List.mem_cons.mp member with rfl | earlier
        · exact different
        · exact ended notifying earlier

theorem Standing.returned (standing : Standing reload next previous audience gone manager)
    (numbered : Numbered manager) :
    Standing reload next previous audience gone manager.returned := by
  unfold ConfigManager.returned
  split
  · exact standing
  · rename_i top rest stack
    obtain ⟨popped, alone⟩ := numbered.pop stack
    by_cases own : top.reload = reload
    · have ended : ∀ notifying ∈ rest, notifying.reload ≠ reload := by
        intro notifying member same
        exact alone (own.trans same.symm ▸ List.mem_map_of_mem member)
      cases standing with
      | finished ended _ => exact absurd own (ended top (stack ▸ List.mem_cons_self))
      | notifying notifying member number replaced owed =>
          rw [stack] at member
          rcases List.mem_cons.mp member with rfl | below
          · rw [number, replaced]
            exact notify_standing popped ended owed
          · exact absurd number (ended notifying below)
    · refine Standing.notify_other ?_ own
      cases standing with
      | finished ended owed =>
          refine .finished ?_ owed
          intro notifying member
          exact ended notifying (stack ▸ List.mem_cons_of_mem _ member)
      | notifying notifying member number replaced owed =>
          rw [stack] at member
          rcases List.mem_cons.mp member with rfl | below
          · exact absurd number own
          · exact .notifying notifying below number replaced owed

theorem Standing.onChange (standing : Standing reload next previous audience gone manager)
    (numbered : Numbered manager)
    (early : ∀ registration ∈ audience, registration.number < manager.registered.length)
    (listener : Listener) :
    Standing reload next previous audience gone (manager.onChange listener) := by
  have unheard : ∀ registration : Registration Listener,
      registration = ⟨manager.registered.length, listener⟩ →
      registration ∉ audience ∧ ∀ invocation ∈ manager.log,
        invocation.registration ≠ registration := by
    rintro registration rfl
    refine ⟨fun listed => Nat.lt_irrefl _ (early _ listed), ?_⟩
    intro invocation member same
    exact Nat.ne_of_lt (numbered.log invocation member).2 (congrArg Registration.number same)
  cases standing with
  | finished ended owed => exact .finished ended owed
  | notifying notifying member number replaced owed =>
      refine .notifying notifying member number replaced (owed.of_ahead ?_ (fun _ => id) ?_)
      · intro registration ahead
        rw [ConfigManager.onChange, List.drop_append]
        exact .inl (List.mem_append_left _ ahead)
      · intro registration ahead
        rw [ConfigManager.onChange, List.drop_append] at ahead
        rcases List.mem_append.mp ahead with before | new
        · exact .inl before
        · exact .inr (unheard registration (List.mem_singleton.mp (List.mem_of_mem_drop new)))

/-- An unsubscribe function takes out its own registration, and no iterator passes over
another one. -/
theorem Standing.unsubscribe (standing : Standing reload next previous audience gone manager)
    (numbered : Numbered manager) {registration : Nat}
    (undisturbed : disturbs (manager, .unsubscribe registration) = false) :
    Standing reload next previous audience
      (fun own => gone own ∨ own.number = registration ∧ Awaits manager reload own)
      (manager.unsubscribe registration) := by
  unfold ConfigManager.unsubscribe
  split
  · exact standing.mono fun _ => .inl
  · rename_i listener known
    cases standing with
    | finished ended owed =>
        exact .finished ended (owed.of_ahead (fun _ => .inl) (fun _ => .inl) fun _ => .inl)
    | notifying notifying member number replaced owed =>
        have losesOnly := losesOnly_drop_takeOut numbered.enrolled.nodup
          (numbered.enrolled.listener_eq known) (notifying.position + 1) fun first found =>
            (undisturbed_unsubscribe known undisturbed found).imp_right (· notifying member)
        refine .notifying notifying member number replaced
          (owed.of_ahead ?_ (fun _ => .inl) fun own within =>
            .inl (losesOnly.among own within))
        intro own ahead
        by_cases given : own.number = registration
        · exact .inr (.inr ⟨given, notifying, member, number, ahead⟩)
        · exact .inl (losesOnly.kept own ahead given)

theorem Standing.commit (standing : Standing reload next previous audience gone manager)
    (begun : reload < manager.reloads) {candidate : Config}
    (undisturbed : disturbs (manager, .reload candidate) = false) :
    Standing reload next previous audience gone (manager.step (.reload candidate)) := by
  by_cases accepted : validator candidate = .valid
  · rw [reload_of_valid manager accepted]
    refine Standing.notify_other ?_ (Nat.ne_of_gt begun)
    cases standing with
    | finished ended owed =>
        exact .finished ended ⟨owed.once, nofun, owed.owed, owed.right, nofun⟩
    | notifying notifying member number replaced owed =>
        have nobody : manager.listeners.drop (notifying.position + 1) = [] :=
          List.drop_eq_nil_iff.mpr (undisturbed_reload accepted undisturbed notifying member)
        rw [nobody] at owed
        refine .notifying notifying member number replaced ?_
        dsimp only
        rw [nobody]
        exact ⟨owed.once, nofun, owed.owed, owed.right, nofun⟩
  · rw [reload_of_not_valid manager accepted]
    exact standing

end Steps

/-! ## Whole runs -/

theorem reloads_step (manager : ConfigManager validator Listener)
    (event : Event Config Listener) : manager.reloads ≤ (manager.step event).reloads := by
  cases event with
  | onChange listener => exact Nat.le_refl _
  | unsubscribe registration =>
      rw [ConfigManager.step, ConfigManager.unsubscribe]
      split
      · exact Nat.le_refl _
      · exact Nat.le_refl _
  | returns throws =>
      rw [ConfigManager.step, ConfigManager.returned]
      split
      · exact Nat.le_refl _
      · exact Nat.le_of_eq (by rw [notify_reloads])
  | reload candidate =>
      by_cases accepted : validator candidate = .valid
      · rw [reload_of_valid manager accepted, notify_reloads]
        exact Nat.le_succ _
      · exact Nat.le_of_eq (congrArg _ (reload_of_not_valid manager accepted).symm)

theorem registered_length_step (manager : ConfigManager validator Listener)
    (event : Event Config Listener) :
    manager.registered.length ≤ (manager.step event).registered.length := by
  rw [step_registered manager ⟨manager.registered, []⟩ rfl event]
  cases event with
  | onChange listener =>
      rw [Roster.step, List.length_append]
      exact Nat.le_add_right _ _
  | unsubscribe registration => exact Nat.le_refl _
  | reload candidate => exact Nat.le_refl _
  | returns throws => exact Nat.le_refl _

/-- The listener was unsubscribed in one of these steps, before its turn. -/
def Unsubscribed (reload : Nat) (registration : Registration Listener)
    (past : List (ConfigManager validator Listener × Event Config Listener)) : Prop :=
  ∃ visit ∈ past, visit.2 = .unsubscribe registration.number ∧
    Awaits visit.1 reload registration

structure Followed (reload : Nat) (next previous : Config)
    (audience : List (Registration Listener))
    (past : List (ConfigManager validator Listener × Event Config Listener))
    (manager : ConfigManager validator Listener) : Prop where
  numbered : Numbered manager
  begun : reload < manager.reloads
  early : ∀ registration ∈ audience, registration.number < manager.registered.length
  standing : Standing reload next previous audience (Unsubscribed reload · past) manager

theorem Followed.step {reload : Nat} {next previous : Config}
    {audience : List (Registration Listener)}
    {past : List (ConfigManager validator Listener × Event Config Listener)}
    {manager : ConfigManager validator Listener}
    (followed : Followed reload next previous audience past manager)
    {event : Event Config Listener} (undisturbed : disturbs (manager, event) = false) :
    Followed reload next previous audience (past ++ [(manager, event)])
      (manager.step event) := by
  refine ⟨followed.numbered.step event,
    Nat.lt_of_lt_of_le followed.begun (reloads_step manager event), ?_, ?_⟩
  · intro registration member
    exact Nat.lt_of_lt_of_le (followed.early registration member)
      (registered_length_step manager event)
  · have longer : ∀ own, Unsubscribed reload own past →
        Unsubscribed reload own (past ++ [(manager, event)]) := by
      rintro own ⟨visit, member, taken⟩
      exact ⟨visit, List.mem_append_left _ member, taken⟩
    cases event with
    | onChange listener =>
        exact (followed.standing.onChange followed.numbered followed.early listener).mono longer
    | reload candidate =>
        exact (followed.standing.commit followed.begun undisturbed).mono longer
    | returns throws => exact (followed.standing.returned followed.numbered).mono longer
    | unsubscribe registration =>
        refine (followed.standing.unsubscribe followed.numbered undisturbed).mono ?_
        rintro own (before | ⟨rfl, awaits⟩)
        · exact longer own before
        · exact ⟨_, List.mem_append_right _ (List.mem_singleton_self _), rfl, awaits⟩

theorem visits_concat (initial : Config) (valid : validator initial = .valid)
    (events : List (Event Config Listener)) (event : Event Config Listener) :
    visits initial valid (events ++ [event]) =
      visits initial valid events ++ [(ConfigManager.reached initial valid events, event)] :=
  Machine.visits_append ConfigManager.step _ events [event]

theorem live_mem_listeners (initial : Config) (valid : validator initial = .valid)
    (events : List (Event Config Listener))
    (undisturbed : ∀ visit ∈ visits initial valid events, disturbs visit = false) :
    ∀ registration ∈ (Roster.after events).live,
      registration ∈ (ConfigManager.reached initial valid events).listeners := by
  induction events using List.reverseRecOn with
  | nil => nofun
  | append_singleton events event ih =>
      rw [visits_concat] at undisturbed
      have earlier := ih fun visit member => undisturbed visit (List.mem_append_left _ member)
      have now := undisturbed _ (List.mem_append_right _ (List.mem_singleton_self _))
      rw [reached_concat, Roster.after_concat]
      intro registration member
      cases event with
      | returns throws =>
          rw [ConfigManager.step, returned_listeners]
          exact earlier registration member
      | reload candidate =>
          rw [step_reload_listeners]
          exact earlier registration member
      | onChange listener =>
          rw [ConfigManager.step, ConfigManager.onChange, registered_reached]
          rcases List.mem_append.mp member with before | new
          · exact List.mem_append_left _ (earlier registration before)
          · exact List.mem_append_right _ new
      | unsubscribe number =>
          obtain ⟨before, other⟩ := List.mem_filter.mp member
          have listed := earlier registration before
          have enrolled := (numbered_reached initial valid events).enrolled
          rw [ConfigManager.step, ConfigManager.unsubscribe]
          split
          · exact listed
          · rename_i listener known
            -- nothing is behind an iterator that is about to begin
            have losesOnly := losesOnly_drop_takeOut enrolled.nodup
              (enrolled.listener_eq known) 0 fun first found =>
                ⟨(undisturbed_unsubscribe known now found).1, rfl⟩
            exact losesOnly.kept registration listed (bne_iff_ne.mp other)

/-- How a `reload` from `start` should treat a registration: once it is over, it has
invoked the listener once, with the config it commits and the one it replaces, or the
listener was unsubscribed before its turn. -/
structure Served (start final : ConfigManager validator Listener) (candidate : Config)
    (registration : Registration Listener) (unsubscribed : Prop) : Prop where
  atMostOnce : told final.log start.reloads registration ≤ 1
  arguments : ∀ invocation ∈ final.log, invocation.reload = start.reloads →
    invocation.registration = registration →
    invocation.next = candidate ∧ invocation.previous = start.current
  once : (∀ notifying ∈ final.stack, notifying.reload ≠ start.reloads) →
    told final.log start.reloads registration = 1 ∨ unsubscribed

theorem Followed.served {start final : ConfigManager validator Listener} {candidate : Config}
    {audience : List (Registration Listener)}
    {past : List (ConfigManager validator Listener × Event Config Listener)}
    (followed : Followed start.reloads candidate start.current audience past final)
    {registration : Registration Listener} (listed : registration ∈ audience) :
    Served start final candidate registration
      (Unsubscribed start.reloads registration past) := by
  cases followed.standing with
  | notifying notifying member number replaced owed =>
      refine ⟨owed.once registration, ?_, ?_⟩
      · rintro invocation within same rfl
        exact owed.right invocation within same listed
      · intro ended
        exact absurd number (ended notifying member)
  | finished ended owed =>
      refine ⟨owed.once registration, ?_, ?_⟩
      · rintro invocation within same rfl
        exact owed.right invocation within same listed
      · intro _
        rcases owed.owed registration listed with done | gone | ahead
        · exact .inl done
        · exact .inr gone
        · cases ahead

theorem followed_reload {start : ConfigManager validator Listener} (numbered : Numbered start)
    {candidate : Config} (accepted : validator candidate = .valid)
    {audience : List (Registration Listener)}
    (present : ∀ registration ∈ audience, registration ∈ start.listeners) :
    Followed start.reloads candidate start.current audience []
      (start.step (.reload candidate)) := by
  have unlogged : ∀ invocation ∈ start.log, invocation.reload ≠ start.reloads :=
    fun invocation member => Nat.ne_of_lt (numbered.log invocation member).1
  refine ⟨numbered.step _, ?_, ?_, ?_⟩
  · rw [reload_of_valid start accepted, notify_reloads]
    exact Nat.lt_succ_self _
  · intro registration member
    rw [step_reload_registered]
    exact numbered.enrolled.lt (present registration member)
  · rw [reload_of_valid start accepted]
    refine notify_standing (numbered.commit accepted) ?_ ⟨?_, ?_, ?_, ?_, fun _ _ _ => rfl⟩
    · intro notifying member
      exact Nat.ne_of_lt (numbered.stack notifying member)
    · intro registration
      rw [told_eq_zero fun invocation member same => absurd same (unlogged invocation member)]
      exact Nat.zero_le _
    · intro registration _ invocation member same
      exact absurd same (unlogged invocation member)
    · intro registration member
      exact .inr (.inr (present registration member))
    · intro invocation member same
      exact absurd same (unlogged invocation member)

/-- In a run without disturbance a `reload` serves every registration that was not given
up before, whatever the listeners do. -/
theorem listeners_notified_once (initial : Config) (valid : validator initial = .valid)
    (before after : List (Event Config Listener)) (candidate : Config)
    (accepted : validator candidate = .valid)
    (undisturbed : ∀ visit ∈ visits initial valid (before ++ .reload candidate :: after),
      disturbs visit = false) :
    ∀ registration ∈ (Roster.after before).live,
      Served (ConfigManager.reached initial valid before)
        (ConfigManager.reached initial valid (before ++ .reload candidate :: after)) candidate
        registration
        (Unsubscribed (ConfigManager.reached initial valid before).reloads registration
          (Machine.visits ConfigManager.step
            (ConfigManager.reached initial valid (before ++ [.reload candidate])) after)) := by
  have early : ∀ visit ∈ visits initial valid before, disturbs visit = false := by
    intro visit member
    apply undisturbed
    rw [visits, Machine.visits_append]
    exact List.mem_append_left _ member
  have followed : Followed (ConfigManager.reached initial valid before).reloads candidate
      (ConfigManager.reached initial valid before).current (Roster.after before).live
      (Machine.visits ConfigManager.step
        (ConfigManager.reached initial valid (before ++ [.reload candidate])) after)
      (ConfigManager.reached initial valid (before ++ .reload candidate :: after)) := by
    induction after using List.reverseRecOn with
    | nil =>
        rw [reached_concat]
        exact followed_reload (numbered_reached initial valid before) accepted
          (live_mem_listeners initial valid before early)
    | append_singleton after event ih =>
        rw [← List.cons_append, ← List.append_assoc, visits_concat] at undisturbed
        have here : Machine.run ConfigManager.step
            (ConfigManager.reached initial valid (before ++ [.reload candidate])) after =
              ConfigManager.reached initial valid (before ++ .reload candidate :: after) := by
          rw [List.append_cons before (.reload candidate) after]
          exact (Machine.run_append ConfigManager.step _ _ after).symm
        rw [← List.cons_append, ← List.append_assoc, Machine.visits_append, here,
          reached_concat initial valid (before ++ .reload candidate :: after)]
        refine Followed.step (ih ?_) ?_
        · intro visit member
          exact undisturbed visit (List.mem_append_left _ member)
        · exact undisturbed _ (List.mem_append_right _ (List.mem_singleton_self _))
  intro registration listed
  exact followed.served listed

def threeListeners : List (Event Nat String) :=
  [.onChange "cache", .onChange "client", .onChange "metrics"]

/-- The first listener unsubscribes the second one and throws; the last one reloads. -/
def harmlessRun : List (Event Nat String) :=
  [.unsubscribe 1, .returns true, .reload 3, .returns false, .returns false, .returns false]

theorem harmlessRun_serves :
    told (ConfigManager.reached 1 positive_one
        (threeListeners ++ .reload 2 :: harmlessRun)).log 0 ⟨2, "metrics"⟩ = 1 := by
  have served := listeners_notified_once 1 positive_one threeListeners harmlessRun 2 rfl
    (by decide) ⟨2, "metrics"⟩ (by decide)
  refine (served.once (by decide)).resolve_right ?_
  rintro ⟨visit, member, taken, _⟩
  have others : ∀ visit ∈ Machine.visits ConfigManager.step
      (ConfigManager.reached 1 positive_one (threeListeners ++ [.reload 2])) harmlessRun,
      visit.2 ≠ .unsubscribe 2 := by
    decide
  exact others visit member taken

/-- A function that is registered twice gives up its second registration while the first is
running: the first entry goes, and the iterator passes over nobody else. -/
example : ∀ visit ∈ visits 1 positive_one
    [.onChange "cache", .onChange "cache", .onChange "client", .reload 2, .unsubscribe 1],
    disturbs visit = false := by
  decide

def leavingRun : List (Event Nat String) := [.unsubscribe 0, .returns false, .returns false]

def nestedRun : List (Event Nat String) := .reload 3 :: List.replicate 6 (.returns false)

/-- The second listener is passed over, or is told of a config that the `reload` did not
commit. -/
theorem leavingRun_skips_and_nestedRun_mixes :
    (⟨1, "client"⟩ ∈ (Roster.after threeListeners).live ∧
      (ConfigManager.reached 1 positive_one
        (threeListeners ++ .reload 2 :: leavingRun)).stack.isEmpty = true ∧
      told (ConfigManager.reached 1 positive_one
        (threeListeners ++ .reload 2 :: leavingRun)).log 0 ⟨1, "client"⟩ = 0 ∧
      .unsubscribe 1 ∉ leavingRun) ∧
      ((ConfigManager.reached 1 positive_one
        (threeListeners ++ .reload 2 :: nestedRun)).log.filter (·.reload == 0)).map
          (fun invocation => (invocation.registration.listener, invocation.next,
            invocation.previous)) =
        [("cache", 2, 1), ("client", 3, 1), ("metrics", 3, 1)] := by
  decide

end AnchorKit.Sdk.Config
