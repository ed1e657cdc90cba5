import HumanoidSdk.Codec.MotorPlan
import HumanoidSdk.Message.BodyState

/-
This file translates _vector_field_data and the unpackers over it from
python/locomotion_aorta/_body_codec.py.
-/

namespace HumanoidSdk.Codec
open Foundation

def bounds (start length : ℤ) (size : ℕ) : Except Fault Unit :=
  if start < 0 ∨ start + length > size then .error (.valueError "body vector outside buffer") else .ok ()

end HumanoidSdk.Codec
