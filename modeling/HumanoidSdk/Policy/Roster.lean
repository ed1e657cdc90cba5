import HumanoidSdk.Message.Body
import HumanoidSdk.Policy.Contract

/-
This file translates body_joint_order of python/locomotion_aorta/_policy_state.py.
-/

namespace HumanoidSdk.Policy

/-- The part of discovery that names the slots. -/
structure RosterInfo extends BodyInfo where
  slotCount : ℤ
  jointNames : List String

def ASAMPLE_BODY_JOINT_NAMES : List String := [
  "left_hip_pitch_joint", "left_hip_roll_joint", "left_hip_yaw_joint", "left_knee_joint",
  "left_ankle_pitch_joint", "left_ankle_roll_joint", "right_hip_pitch_joint", "right_hip_roll_joint",
  "right_hip_yaw_joint", "right_knee_joint", "right_ankle_pitch_joint", "right_ankle_roll_joint",
  "waist_yaw_joint", "waist_pitch_joint", "waist_roll_joint", "left_shoulder_pitch_joint",
  "left_shoulder_roll_joint", "left_shoulder_yaw_joint", "left_elbow_joint", "left_wrist_roll_joint",
  "left_wrist_yaw_joint", "left_wrist_pitch_joint", "right_shoulder_pitch_joint",
  "right_shoulder_roll_joint", "right_shoulder_yaw_joint", "right_elbow_joint", "right_wrist_roll_joint",
  "right_wrist_yaw_joint", "right_wrist_pitch_joint", "neck_pitch_joint", "neck_yaw_joint"]

/-- The method `index` of a tuple of names. -/
def indexOf (names : List String) (name : String) : Except Raised ℕ :=
  if name ∈ names then .ok (names.idxOf name) else .error (.valueError "tuple.index(x): x not in tuple")

/-- The slot of a name is populated, where every slot has a capability. -/
def populated (info : RosterInfo) (name : String) : Bool :=
  match info.joints[info.jointNames.idxOf name]? with
  | some joint => joint.populated
  | none => false

/-- Every required name must have a populated slot among 31 names. -/
def bodyJointOrder (info : Option RosterInfo) (required : List String) : Except Raised (List String) := do
  let names := match info with
    | some info => info.jointNames
    | none => ASAMPLE_BODY_JOINT_NAMES
  let required := required.eraseDups
  let missing := required.filter (· ∉ names)
  if missing ≠ [] then
    .error (.valueError ("get_robot_info roster is missing joints: " ++ ", ".intercalate missing))
  if names.length ≠ 31 ∨ ¬names.Nodup then .error (.valueError "expected 31 unique public body joint names")
  match info with
  | none => return names
  | some info => do
      if required = [] then return names
      if info.joints.length ≠ names.length then
        .error (.valueError "get_robot_info capability count differs from roster")
      let missing := required.filter fun name => !populated info name
      if missing ≠ [] then
        .error (.valueError ("policy joints are unpopulated: " ++ ", ".intercalate missing))
      return names

end HumanoidSdk.Policy
