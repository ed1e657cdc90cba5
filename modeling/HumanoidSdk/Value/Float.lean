import Mathlib.Data.Rat.Floor
import Mathlib.Data.Int.Log

namespace HumanoidSdk

/-- A binary floating-point datum is a number, an infinity or a NaN. -/
inductive FloatValue where
  | nan
  | infinity (negative : Bool)
  | finite (value : ℚ)
  deriving DecidableEq

namespace FloatValue

/-- The C and Python predicates agree on this test. -/
def isFinite : FloatValue → Bool
  | .finite _ => true
  | _ => false

/-- The comparison is false as soon as one operand is NaN. -/
def le : FloatValue → FloatValue → Bool
  | .nan, _ | _, .nan => false
  | .infinity true, _ | _, .infinity false => true
  | .finite first, .finite second => first ≤ second
  | _, _ => false

end FloatValue

end HumanoidSdk
