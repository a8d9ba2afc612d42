import AnchorKit.Sdk.StreamingSteps

/-!
# Which watchers the map tracks

The map holds active watchers under their own ids in every state a run reaches.  That
every active watcher is in the map fails after a `watch` for an id that is still
tracked: the watcher it replaces stays active and is found by no id.
-/

set_option autoImplicit false

namespace AnchorKit.Sdk.Streaming

open AnchorKit.Base

/-- The watcher whose id this step removes from the map. -/
def ends (service : Service) : Event → Option Nat
  | .call (.unsubscribe handle) => some handle
  | .returns none =>
      match service.calling with
      | some (.afterEvent number true _) => some number
      | _ => none
  | _ => none

/-- `watch` is called for an id that is still tracked, and does not throw. -/
def replaces (config : Config) (visit : Service × Event) : Bool :=
  match visit.2 with
  | .call (.watch transactionId _) =>
      !config.maxWatched.atMost visit.1.registry.watchers.entries.length &&
        (visit.1.registry.watchers.lookup transactionId).isSome
  | _ => false

inductive RegistryChange (config : Config) (service : Service) (after : Registry) :
    Event → Prop
  | kept {event : Event} (same : SameTracking service.registry after) :
      RegistryChange config service after event
  | added (transactionId : String) (hasOnError : Bool)
      (room : config.maxWatched.atMost service.registry.watchers.entries.length = false)
      (same : SameTracking (service.registry.add transactionId hasOnError) after) :
      RegistryChange config service after (.call (.watch transactionId hasOnError))
  | removed {event : Event} (number : Nat) (transactionId : String) (active : Bool)
      (ended : ends service event = some number)
      (known : service.registry.tag number = some (transactionId, active))
      (same : SameTracking (service.registry.remove transactionId) after) :
      RegistryChange config service after event
  | cleared {event : Event} (ended : event = .call .destroy ∨ event = .call .abort)
      (same : SameTracking service.registry.clear after) :
      RegistryChange config service after event

theorem step_registry (config : Config) (service : Service) (event : Event) :
    RegistryChange config service (service.step config event).registry event := by
  cases step_course config service event with
  | same course => exact .kept course.tracking
  | watched transactionId hasOnError room course =>
      exact .added transactionId hasOnError room course.tracking
  | unsubscribed handle transactionId active known course =>
      exact .removed handle transactionId active rfl known course.tracking
  | finished number transport transactionId active calling known course =>
      refine .removed number transactionId active ?_ known course.tracking
      rw [ends, calling]
  | destroyed course => exact .cleared (.inl rfl) course.tracking
  | aborted course => exact .cleared (.inr rfl) course.tracking
  | detected supportsSse detecting course => exact .kept course.tracking
  | resumed number supportsSse known waiting course => exact .kept course.tracking
  | timerFired timer armed course => exact .kept course.tracking
  | settled cycle number reply course => exact .kept course.tracking
  | completed cycle course => exact .kept course.tracking

/-! ## Watchers stay what they are -/

theorem Registry.tag_length (registry : Registry) :
    registry.tag registry.states.length = none := by
  rw [tag, List.getElem?_eq_none (Nat.le_refl _), Option.map_none]

theorem RegistryChange.tag_of_tag {config : Config} {service : Service} {after : Registry}
    {event : Event} (change : RegistryChange config service after event)
    {number : Nat} {transactionId : String} {active : Bool}
    (known : service.registry.tag number = some (transactionId, active)) :
    after.tag number = some (transactionId, active) ∨
      after.tag number = some (transactionId, false) := by
  cases change with
  | kept same => exact .inl ((same.tags number).trans known)
  | added addedId hasOnError room same =>
      rw [same.tags, Registry.tag_add, if_neg]
      · exact .inl known
      · intro new
        rw [new, Registry.tag_length] at known
        cases known
  | removed other otherId otherActive ended otherKnown same =>
      rw [same.tags, Registry.tag_remove]
      split
      · rw [known]
        exact .inr rfl
      · exact .inl known
  | cleared ended same =>
      rw [same.tags]
      rcases Registry.tag_clear service.registry number with kept | off
      · exact .inl (kept.trans known)
      · rw [known] at off
        exact .inr off

theorem step_tag_inactive (config : Config) (service : Service) (event : Event) {number : Nat}
    {transactionId : String} (known : service.registry.tag number = some (transactionId, false)) :
    (service.step config event).registry.tag number = some (transactionId, false) := by
  rcases (step_registry config service event).tag_of_tag known with same | same
  · exact same
  · exact same

/-! ## Tracked watchers are active -/

def WellTracked (registry : Registry) : Prop :=
  ∀ transactionId number, registry.watchers.lookup transactionId = some number →
    registry.tag number = some (transactionId, true)

theorem RegistryChange.wellTracked {config : Config} {service : Service} {after : Registry}
    {event : Event} (change : RegistryChange config service after event)
    (well : WellTracked service.registry) : WellTracked after := by
  intro transactionId number found
  cases change with
  | kept same =>
      rw [same.watchers] at found
      rw [same.tags]
      exact well transactionId number found
  | added addedId hasOnError room same =>
      rw [same.watchers, Registry.lookup_add] at found
      rw [same.tags, Registry.tag_add]
      split at found
      · rename_i sameId
        rw [if_pos (Option.some.inj found).symm, sameId]
      · have old := well transactionId number found
        rw [if_neg, old]
        intro new
        rw [new, Registry.tag_length] at old
        cases old
  | removed other otherId otherActive ended known same =>
      rw [same.watchers, Registry.lookup_remove] at found
      rw [same.tags, Registry.tag_remove]
      split at found
      · cases found
      · rename_i different
        have old := well transactionId number found
        rw [if_neg, old]
        intro tracked
        rw [well otherId number tracked] at old
        cases old
        exact different rfl
  | cleared ended same =>
      rw [same.watchers, Registry.lookup_clear] at found
      cases found

/-! ## Active watchers are tracked -/

def AllTracked (registry : Registry) : Prop :=
  ∀ transactionId number, registry.tag number = some (transactionId, true) →
    registry.watchers.lookup transactionId = some number

theorem RegistryChange.allTracked {config : Config} {service : Service} {after : Registry}
    {event : Event} (change : RegistryChange config service after event)
    (single : replaces config (service, event) = false)
    (all : AllTracked service.registry) : AllTracked after := by
  intro transactionId number active
  cases change with
  | kept same =>
      rw [same.tags] at active
      rw [same.watchers]
      exact all transactionId number active
  | added addedId hasOnError room same =>
      rw [same.tags, Registry.tag_add] at active
      rw [same.watchers, Registry.lookup_add]
      split at active
      · rename_i new
        cases active
        rw [if_pos rfl, new]
      · have tracked := all transactionId number active
        rw [if_neg, tracked]
        intro sameId
        rw [sameId] at tracked
        simp [replaces, room, tracked] at single
  | removed other otherId otherActive ended known same =>
      rw [same.tags, Registry.tag_remove] at active
      rw [same.watchers, Registry.lookup_remove]
      split at active
      · cases tagged : service.registry.tag number with
        | none => simp [deactivated, tagged] at active
        | some own => simp [deactivated, tagged] at active
      · rename_i elsewhere
        have tracked := all transactionId number active
        rw [if_neg, tracked]
        intro sameId
        rw [sameId] at tracked
        exact elsewhere tracked
  | cleared ended same =>
      rw [same.tags] at active
      have before : service.registry.tag number = some (transactionId, true) := by
        rcases Registry.tag_clear service.registry number with kept | off
        · exact kept.symm.trans active
        · cases tagged : service.registry.tag number with
          | none => simp [off, deactivated, tagged] at active
          | some own => simp [off, deactivated, tagged] at active
      rw [Registry.tag_clear_of_tracked (all transactionId number before), before] at active
      simp [deactivated] at active

/-! ## Whole runs -/

theorem wellTracked_reached (config : Config) (events : List Event) :
    WellTracked (Service.reached config events).registry := by
  refine Machine.run_invariant (Service.step config)
    (fun service => WellTracked service.registry) ?_ events Service.create ?_
  · intro service event well
    exact (step_registry config service event).wellTracked well
  · intro transactionId number found
    cases found

theorem allTracked_reached (config : Config) (events : List Event)
    (single : ∀ visit ∈ visits config events, replaces config visit = false) :
    AllTracked (Service.reached config events).registry := by
  refine Machine.run_invariant_of_visits (Service.step config)
    (fun service => AllTracked service.registry) events Service.create ?_ ?_
  · intro visit member all
    exact (step_registry config visit.1 visit.2).allTracked (single visit member) all
  · intro transactionId number active
    cases active

end AnchorKit.Sdk.Streaming
