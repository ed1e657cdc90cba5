import HumanoidSdk.Message.Body

/-
This file translates the feedback messages of python/locomotion_aorta/body_types.py. The fields keep
the order of the source, which passes them by position, and the floats keep the type of their source.
-/

namespace HumanoidSdk

structure BodyJointState (F : Type*) where
  tsAcquiredHwUs : ℤ
  tsIngestedUs : ℤ
  tsAssembledUs : ℤ
  q : F
  dq : F
  tauEst : F
  errorCode : ℤ
  deriving DecidableEq

structure BodyImuState (F : Type*) where
  quaternion : List F
  gyroscope : List F
  accelerometer : List F
  rpy : List F
  deriving DecidableEq

structure BodyImuSample (F : Type*) where
  location : ℤ
  state : Option (BodyImuState F)
  status : ℤ
  tsSampledUs : ℤ
  tsAcquiredHwUs : ℤ
  tsIngestedUs : ℤ
  tsAssembledUs : ℤ
  deriving DecidableEq

structure BodyState (F : Type*) where
  stateId : ℤ
  joints : List (BodyJointState F)
  protocolVersion : ℤ
  rosterVersion : ℤ
  tsStateRealUs : ℤ
  tsStatePubUs : ℤ
  tsConsumedUs : ℤ
  attitudeValid : Bool
  imuStates : List (BodyImuSample F)
  appliedSessionId : ℤ
  appliedSequence : ℤ
  tsFirstOutputUs : ℤ
  deriving DecidableEq

end HumanoidSdk
