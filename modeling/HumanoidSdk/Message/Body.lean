import HumanoidSdk.Value.PyValue

/-
This file translates the body messages of python/locomotion_aorta/body_types.py that the
controller reads or builds.
-/

namespace HumanoidSdk

def BODY_SLOTS : Nat := 31

def BODY_PROTOCOL_VERSION : ℤ := 2

/-- `BodyCmdAction.EXTERNAL` has this number on the wire. -/
def EXTERNAL_ACTION : ℤ := 18

/-- The fields are whatever the caller put there. -/
structure BodyJointCmd where
  q : PyValue := .float (.finite 0)
  dq : PyValue := .float (.finite 0)
  tau : PyValue := .float (.finite 0)
  kp : PyValue := .float (.finite 0)
  kd : PyValue := .float (.finite 0)
  deriving DecidableEq

/-- The joints are none when the caller passed no tuple, and a slot is none when it holds no
`BodyJointCmd`. -/
structure BodyCmd where
  joints : Option (List (Option BodyJointCmd))
  action : PyValue := .int EXTERNAL_ACTION
  protocolVersion : ℤ := BODY_PROTOCOL_VERSION
  sessionId : ℤ := 0
  sequence : ℤ := 0
  inputStateId : PyValue := .int 0
  inputStateTsRealUs : PyValue := .int 0
  tsClientCreatedUs : PyValue := .int 0
  tsClientSendUs : PyValue := .int 0
  rootQuat : Option (PyValue × PyValue × PyValue × PyValue) := none
  deriving DecidableEq

/-- Discovery tells which slots hold a joint. -/
structure BodyJointCapability where
  populated : Bool
  deriving DecidableEq

structure BodyInfo where
  joints : List BodyJointCapability
  deriving DecidableEq

/-- The part of a discovery that the controller keeps. -/
structure RobotInfo where
  body : Option BodyInfo
  deriving DecidableEq

end HumanoidSdk
