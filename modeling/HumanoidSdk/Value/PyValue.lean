import HumanoidSdk.Value.Float

namespace HumanoidSdk

/-- A Python value, as far as the checks of the SDK tell values apart. The index constructor stands
for an integer-like object that is no `int`, such as a NumPy integer, and the real constructor for an
object with `__float__` that is no `float`, such as a `Decimal`. -/
inductive PyValue where
  | none
  | bool (value : Bool)
  | int (value : ℤ)
  | float (value : FloatValue)
  | index (value : ℤ)
  | real (value : FloatValue)
  | other (truthy : Bool)
  deriving DecidableEq

namespace PyValue

def truthy : PyValue → Bool
  | .none => false
  | .bool value => value
  | .int value | .index value => value ≠ 0
  | .float (.finite value) | .real (.finite value) => value ≠ 0
  | .float _ | .real _ => true
  | .other truthy => truthy

/-- The Python expression `value or fallback` keeps every truthy value. -/
def orElse (value fallback : PyValue) : PyValue := if value.truthy then value else fallback

/-- `operator.index` accepts booleans and refuses floats. -/
def asIndex : PyValue → Option ℤ
  | .bool value => some (if value then 1 else 0)
  | .int value | .index value => some value
  | _ => Option.none

/-- Python compares numbers of all kinds by value. -/
def equalsInt (value : PyValue) (number : ℤ) : Bool :=
  match value with
  | .bool value => (if value then 1 else 0) = number
  | .int value | .index value => value = number
  | .float (.finite value) | .real (.finite value) => value = number
  | _ => false

/-- The test `isinstance(value, (int, float))` after booleans are excluded. -/
def isNumber : PyValue → Bool
  | .int _ | .float _ => true
  | _ => false

/-- An `int` that rounds to two to the power 1024 or beyond has no double. -/
def doubleOverflows (value : ℤ) : Bool := 2 ^ 1024 - 2 ^ 970 ≤ value.natAbs

/-- `math.isfinite` converts an integer to a double first, which raises OverflowError when it cannot. -/
def isfinite : PyValue → Except String Bool
  | .bool _ => .ok true
  | .int value | .index value => if doubleOverflows value then .error "int too large to convert to float" else .ok true
  | .float value | .real value => .ok value.isFinite
  | _ => .error "must be real number"

def isPositive : PyValue → Bool
  | .int value => 0 < value
  | .float (.finite value) | .real (.finite value) => 0 < value
  | .float (.infinity negative) | .real (.infinity negative) => !negative
  | _ => false

end PyValue

end HumanoidSdk
