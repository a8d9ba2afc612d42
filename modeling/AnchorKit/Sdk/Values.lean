import Mathlib.Data.Rat.Defs
import Mathlib.Algebra.Order.Ring.Unbundled.Rat

/-!
# JavaScript values

Numbers that a configuration may hold, and values that `JSON.parse` may return, with
the operators the SDK applies to them.
-/

set_option autoImplicit false

namespace AnchorKit.Sdk

inductive Number where
  | finite (value : ℚ)
  | infinity (negative : Bool)
  | nan
  deriving DecidableEq

def Number.atMost : Number → ℚ → Bool
  | .finite own, value => decide (own ≤ value)
  | .infinity negative, _ => negative
  | .nan, _ => false

theorem Number.atMost_mono {number : Number} {least value : ℚ} (le : least ≤ value)
    (atMost : number.atMost least = true) : number.atMost value = true := by
  cases number with
  | finite own => exact decide_eq_true ((of_decide_eq_true atMost).trans le)
  | infinity negative => exact atMost
  | nan => exact atMost

def Number.atLeast : Number → ℚ → Bool
  | .finite own, value => decide (value ≤ own)
  | .infinity negative, _ => !negative
  | .nan, _ => false

def Number.above : Number → ℚ → Bool
  | .finite own, value => decide (value < own)
  | .infinity negative, _ => !negative
  | .nan, _ => false

/-! ## JSON -/

inductive Json where
  | null
  | bool (value : Bool)
  | number (value : ℚ)
  | string (value : String)
  | array (items : List Json)
  | object (members : List (String × Json))

/-- What reading a property yields; `none` is `undefined`. -/
abbrev Value : Type := Option Json

def Json.truthy : Json → Bool
  | .null => false
  | .bool value => value
  | .number value => value != 0
  | .string value => value != ""
  | .array _ => true
  | .object _ => true

/-- `value.name` for a value other than `null` and a name that no prototype has. -/
def Json.get (name : String) : Json → Value
  | .object members => members.lookup name
  | _ => none

/-- `left === right`; arrays and objects are never the same one. -/
def strictEq : Value → Value → Bool
  | none, none => true
  | some .null, some .null => true
  | some (.bool left), some (.bool right) => left == right
  | some (.number left), some (.number right) => left == right
  | some (.string left), some (.string right) => left == right
  | _, _ => false

/-- `left ?? right`. -/
def coalesce : Value → Value → Value
  | none, right => right
  | some .null, right => right
  | left, _ => left

/-- `'name' in value && value.name ? value.name : value`, where `in` throws on a
value that is not an object. -/
def Json.unwrap (name : String) : Json → Option Json
  | .object members =>
      match members.lookup name with
      | some inner => if inner.truthy then some inner else some (.object members)
      | none => some (.object members)
  | .array items => some (.array items)
  | _ => none

end AnchorKit.Sdk
