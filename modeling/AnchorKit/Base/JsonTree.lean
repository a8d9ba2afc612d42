import Mathlib.Data.List.Basic

/-!
# JSON values and their leaves

A JSON value is a tree whose leaves are its scalars.  A leaf is found by the steps
that lead to it, the last one first: the key of an object's member or the position of
an array's item.  A value is determined by its shape, which is the value with every
scalar forgotten, and by its leaves in order.

The numbers are of any type.  The members of an object are listed in the order of the
map that holds them.
-/

set_option autoImplicit false

namespace AnchorKit.Base

inductive JsonTree (Num : Type) where
  | null
  | bool (value : Bool)
  | number (value : Num)
  | string (text : String)
  | array (items : List (JsonTree Num))
  | object (members : List (String × JsonTree Num))

namespace JsonTree

inductive Step where
  | key (name : String)
  | index (position : Nat)
  deriving DecidableEq, Repr

variable {Num Other Third : Type}

def isScalar : JsonTree Num → Bool
  | .array _ => false
  | .object _ => false
  | _ => true

theorem induct {motive : JsonTree Num → Prop}
    (scalar : ∀ leaf, leaf.isScalar = true → motive leaf)
    (array : ∀ items, (∀ item ∈ items, motive item) → motive (.array items))
    (object : ∀ members, (∀ member ∈ members, motive member.2) → motive (.object members))
    (value : JsonTree Num) : motive value := by
  refine @JsonTree.rec Num motive (fun items => ∀ item ∈ items, motive item)
    (fun members => ∀ member ∈ members, motive member.2) (fun member => motive member.2)
    (scalar _ rfl) (fun _ => scalar _ rfl) (fun _ => scalar _ rfl) (fun _ => scalar _ rfl)
    array object nofun ?_ nofun ?_ (fun _ _ => id) value
  · intro first rest ofFirst ofRest
    exact List.forall_mem_cons.mpr ⟨ofFirst, ofRest⟩
  · intro first rest ofFirst ofRest
    exact List.forall_mem_cons.mpr ⟨ofFirst, ofRest⟩

/-! ## Keys -/

/-- The keys of an object differ, in the value and everywhere inside it. -/
inductive DistinctKeys : JsonTree Num → Prop
  | scalar {leaf : JsonTree Num} (scalar : leaf.isScalar = true) : DistinctKeys leaf
  | array {items : List (JsonTree Num)} (inside : ∀ item ∈ items, DistinctKeys item) :
      DistinctKeys (.array items)
  | object {members : List (String × JsonTree Num)} (distinct : (members.map Prod.fst).Nodup)
      (inside : ∀ member ∈ members, DistinctKeys member.2) : DistinctKeys (.object members)

/-- An object of the value has the key. -/
inductive OwnsKey (key : String) : JsonTree Num → Prop
  | here {members : List (String × JsonTree Num)} (own : key ∈ members.map Prod.fst) :
      OwnsKey key (.object members)
  | item {items : List (JsonTree Num)} {item : JsonTree Num} (member : item ∈ items)
      (inside : OwnsKey key item) : OwnsKey key (.array items)
  | member {members : List (String × JsonTree Num)} {entry : String × JsonTree Num}
      (member : entry ∈ members) (inside : OwnsKey key entry.2) :
      OwnsKey key (.object members)

/-- The second value stands inside the first, or is it, and each key on the way passes. -/
inductive Reached (passes : String → Bool) : JsonTree Num → JsonTree Num → Prop
  | self (value : JsonTree Num) : Reached passes value value
  | item {items : List (JsonTree Num)} {item inner : JsonTree Num} (member : item ∈ items)
      (inside : Reached passes item inner) : Reached passes (.array items) inner
  | member {members : List (String × JsonTree Num)} {entry : String × JsonTree Num}
      {inner : JsonTree Num} (member : entry ∈ members) (pass : passes entry.1 = true)
      (inside : Reached passes entry.2 inner) : Reached passes (.object members) inner

/-- The text is a string or a key of the value. -/
def HasText (text : String) (value : JsonTree Num) : Prop :=
  Reached (fun _ => true) value (.string text) ∨
    ∃ members, Reached (fun _ => true) value (.object members) ∧ text ∈ members.map Prod.fst

theorem Reached.mono {passes allows : String → Bool} {value inner : JsonTree Num}
    (weaker : ∀ key, passes key = true → allows key = true)
    (reached : Reached passes value inner) : Reached allows value inner := by
  induction reached with
  | self value => exact .self value
  | item member inside ofInside => exact .item member ofInside
  | member member pass inside ofInside => exact .member member (weaker _ pass) ofInside

theorem Reached.eq_of_isScalar {passes : String → Bool} {leaf inner : JsonTree Num}
    (scalar : leaf.isScalar = true) (reached : Reached passes leaf inner) : inner = leaf := by
  cases reached with
  | self => rfl
  | item member inside => cases scalar
  | member member pass inside => cases scalar

theorem DistinctKeys.of_reached {passes : String → Bool} {value inner : JsonTree Num}
    (distinct : value.DistinctKeys) (reached : Reached passes value inner) :
    inner.DistinctKeys := by
  induction reached with
  | self value => exact distinct
  | item member inside ofInside =>
      cases distinct with
      | scalar isScalar => cases isScalar
      | array ofItems => exact ofInside (ofItems _ member)
  | member member pass inside ofInside =>
      cases distinct with
      | scalar isScalar => cases isScalar
      | object distinct ofMembers => exact ofInside (ofMembers _ member)

/-! ## Leaves -/

mutual

/-- The leaves of a value that is found by the steps `above`, in order. -/
def leaves (above : List Step) : JsonTree Num → List (List Step × JsonTree Num)
  | .array items => itemLeaves above 0 items
  | .object members => memberLeaves above members
  | .null => [(above, .null)]
  | .bool value => [(above, .bool value)]
  | .number value => [(above, .number value)]
  | .string text => [(above, .string text)]

def itemLeaves (above : List Step) (position : Nat) :
    List (JsonTree Num) → List (List Step × JsonTree Num)
  | [] => []
  | first :: rest =>
      leaves (.index position :: above) first ++ itemLeaves above (position + 1) rest

def memberLeaves (above : List Step) :
    List (String × JsonTree Num) → List (List Step × JsonTree Num)
  | [] => []
  | (name, value) :: rest => leaves (.key name :: above) value ++ memberLeaves above rest

end

mutual

def mapLeaves (change : List Step → JsonTree Num → JsonTree Other) (above : List Step) :
    JsonTree Num → JsonTree Other
  | .array items => .array (mapItems change above 0 items)
  | .object members => .object (mapMembers change above members)
  | .null => change above .null
  | .bool value => change above (.bool value)
  | .number value => change above (.number value)
  | .string text => change above (.string text)

def mapItems (change : List Step → JsonTree Num → JsonTree Other) (above : List Step)
    (position : Nat) : List (JsonTree Num) → List (JsonTree Other)
  | [] => []
  | first :: rest =>
      mapLeaves change (.index position :: above) first ::
        mapItems change above (position + 1) rest

def mapMembers (change : List Step → JsonTree Num → JsonTree Other) (above : List Step) :
    List (String × JsonTree Num) → List (String × JsonTree Other)
  | [] => []
  | (name, value) :: rest =>
      (name, mapLeaves change (.key name :: above) value) :: mapMembers change above rest

end

def forget : List Step → JsonTree Num → JsonTree Unit :=
  fun _ _ => .null

def shape (value : JsonTree Num) : JsonTree Unit :=
  value.mapLeaves forget []

def KeepsScalars (change : List Step → JsonTree Num → JsonTree Other) : Prop :=
  ∀ path leaf, leaf.isScalar = true → (change path leaf).isScalar = true

theorem leaves_of_isScalar {leaf : JsonTree Num} (scalar : leaf.isScalar = true)
    (above : List Step) : leaf.leaves above = [(above, leaf)] := by
  cases leaf with
  | array items => cases scalar
  | object members => cases scalar
  | _ => rfl

theorem mapLeaves_of_isScalar (change : List Step → JsonTree Num → JsonTree Other)
    {leaf : JsonTree Num} (scalar : leaf.isScalar = true) (above : List Step) :
    leaf.mapLeaves change above = change above leaf := by
  cases leaf with
  | array items => cases scalar
  | object members => cases scalar
  | _ => rfl

section Map

variable {change : List Step → JsonTree Num → JsonTree Other}

theorem leaves_mapLeaves (keeps : KeepsScalars change) (value : JsonTree Num) :
    ∀ above, (value.mapLeaves change above).leaves above =
      (value.leaves above).map fun leaf => (leaf.1, change leaf.1 leaf.2) := by
  induction value using induct with
  | scalar leaf scalar =>
      intro above
      rw [mapLeaves_of_isScalar change scalar, leaves_of_isScalar scalar,
        leaves_of_isScalar (keeps above leaf scalar)]
      rfl
  | array items ih =>
      intro above
      simp only [mapLeaves, leaves]
      generalize 0 = position
      induction items generalizing position with
      | nil => rfl
      | cons first rest rest_ih =>
          simp only [mapItems, itemLeaves, List.map_append]
          rw [ih first List.mem_cons_self,
            rest_ih (fun item member => ih item (List.mem_cons_of_mem _ member))]
  | object members ih =>
      intro above
      simp only [mapLeaves, leaves]
      induction members with
      | nil => rfl
      | cons first rest rest_ih =>
          simp only [mapMembers, memberLeaves, List.map_append]
          rw [ih first List.mem_cons_self,
            rest_ih (fun member found => ih member (List.mem_cons_of_mem _ found))]

theorem mapLeaves_mapLeaves (keeps : KeepsScalars change)
    (next : List Step → JsonTree Other → JsonTree Third) (value : JsonTree Num) :
    ∀ above, (value.mapLeaves change above).mapLeaves next above =
      value.mapLeaves (fun path leaf => next path (change path leaf)) above := by
  induction value using induct with
  | scalar leaf scalar =>
      intro above
      rw [mapLeaves_of_isScalar change scalar, mapLeaves_of_isScalar _ scalar,
        mapLeaves_of_isScalar next (keeps above leaf scalar)]
  | array items ih =>
      intro above
      simp only [mapLeaves, array.injEq]
      generalize 0 = position
      induction items generalizing position with
      | nil => rfl
      | cons first rest rest_ih =>
          simp only [mapItems]
          rw [ih first List.mem_cons_self,
            rest_ih (fun item member => ih item (List.mem_cons_of_mem _ member))]
  | object members ih =>
      intro above
      simp only [mapLeaves, object.injEq]
      induction members with
      | nil => rfl
      | cons first rest rest_ih =>
          simp only [mapMembers]
          rw [ih first List.mem_cons_self,
            rest_ih (fun member found => ih member (List.mem_cons_of_mem _ found))]

theorem shape_mapLeaves (keeps : KeepsScalars change) (value : JsonTree Num) :
    (value.mapLeaves change []).shape = value.shape :=
  mapLeaves_mapLeaves keeps _ value []

end Map

/-! ## Shape and leaves determine the value -/

theorem leaves_length_eq {left right : JsonTree Num} {above : List Step}
    (alike : left.mapLeaves forget above = right.mapLeaves forget above) :
    (left.leaves above).length = (right.leaves above).length := by
  have scalars : KeepsScalars (forget : List Step → JsonTree Num → JsonTree Unit) :=
    fun _ _ _ => rfl
  have ofLeft := congrArg List.length (leaves_mapLeaves scalars left above)
  have ofRight := congrArg List.length (leaves_mapLeaves scalars right above)
  rw [List.length_map] at ofLeft ofRight
  rw [← ofLeft, ← ofRight, alike]

def Determined (left : JsonTree Num) : Prop :=
  ∀ (right : JsonTree Num) (above : List Step),
    left.mapLeaves forget above = right.mapLeaves forget above →
      left.leaves above = right.leaves above → left = right

theorem items_eq_of_leaves (items : List (JsonTree Num))
    (determined : ∀ item ∈ items, Determined item) (others : List (JsonTree Num))
    (above : List Step) (position : Nat)
    (alike : mapItems forget above position items = mapItems forget above position others)
    (same : itemLeaves above position items = itemLeaves above position others) :
    items = others := by
  induction items generalizing others position with
  | nil =>
      cases others with
      | nil => rfl
      | cons other more => cases alike
  | cons first rest ih =>
      cases others with
      | nil => cases alike
      | cons other more =>
          simp only [mapItems, List.cons.injEq] at alike
          simp only [itemLeaves] at same
          obtain ⟨ofFirst, ofRest⟩ := List.append_inj same (leaves_length_eq alike.1)
          rw [determined first List.mem_cons_self other _ alike.1 ofFirst,
            ih (fun item member => determined item (List.mem_cons_of_mem _ member)) more _
              alike.2 ofRest]

theorem members_eq_of_leaves (members : List (String × JsonTree Num))
    (determined : ∀ member ∈ members, Determined member.2)
    (others : List (String × JsonTree Num)) (above : List Step)
    (alike : mapMembers forget above members = mapMembers forget above others)
    (same : memberLeaves above members = memberLeaves above others) : members = others := by
  induction members generalizing others with
  | nil =>
      cases others with
      | nil => rfl
      | cons other more => cases alike
  | cons first rest ih =>
      cases others with
      | nil => cases alike
      | cons other more =>
          simp only [mapMembers, List.cons.injEq, Prod.mk.injEq] at alike
          simp only [memberLeaves] at same
          obtain ⟨⟨name, ofValue⟩, ofMore⟩ := alike
          rw [name] at ofValue same
          obtain ⟨ofFirst, ofRest⟩ := List.append_inj same (leaves_length_eq ofValue)
          have values := determined first List.mem_cons_self other.2 _ ofValue ofFirst
          rw [ih (fun member found => determined member (List.mem_cons_of_mem _ found)) more
            ofMore ofRest, Prod.ext name values]

theorem determined (left : JsonTree Num) : Determined left := by
  induction left using induct with
  | scalar leaf scalar =>
      intro right above alike same
      rw [mapLeaves_of_isScalar forget scalar] at alike
      cases right with
      | array items => cases alike
      | object members => cases alike
      | _ =>
          rw [leaves_of_isScalar scalar, leaves_of_isScalar rfl] at same
          exact (Prod.mk.inj (List.singleton_inj.mp same)).2
  | array items ih =>
      intro right above alike same
      cases right with
      | array others =>
          simp only [mapLeaves, array.injEq] at alike
          rw [items_eq_of_leaves items ih others above 0 alike same]
      | _ => cases alike
  | object members ih =>
      intro right above alike same
      cases right with
      | object others =>
          simp only [mapLeaves, object.injEq] at alike
          rw [members_eq_of_leaves members ih others above alike same]
      | _ => cases alike

theorem eq_of_shape_of_leaves {left right : JsonTree Num} (shape : left.shape = right.shape)
    (leaves : left.leaves [] = right.leaves []) : left = right :=
  determined left right [] shape leaves

end JsonTree

end AnchorKit.Base
