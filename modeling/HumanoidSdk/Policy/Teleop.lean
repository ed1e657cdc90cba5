import HumanoidSdk.Foundation.Window
import HumanoidSdk.Policy.Feedback
import HumanoidSdk.Policy.Roster

/-
This file translates Policy.observation of examples/teleop_policy/teleop_policy.py with joint_columns
of examples/policy_support.py.
-/

namespace HumanoidSdk.Teleop
open Arithmetic Feedback Foundation HumanoidSdk.Policy

variable {S D : Type} [Arithmetic S D]

/-- A number of a column is a NumPy single or a Python float. -/
inductive Number (S D : Type) where
  | single (value : S)
  | double (value : D)

/-- The conversion `float`. -/
def Number.float : Number S D → D
  | .single value => widen value
  | .double value => value

structure Columns (S D : Type) where
  positions : List (Number S D)
  velocities : List (Number S D)
  errors : List ℤ

def jointColumns : BodyFeedback S D → Columns S D
  | .arrays state =>
      ⟨state.q.map .single, state.dq.map .single, state.errorCode.map fun code => (code.toNat : ℤ)⟩
  | .objects state =>
      ⟨state.joints.map fun joint => .double joint.q, state.joints.map fun joint => .double joint.dq,
        state.joints.map BodyJointState.errorCode⟩

/-- The part of the policy that an observation reads or changes. -/
structure Policy (D : Type) where
  names : List String
  default : List D
  previousActions : List D
  history : List (List D)

/-- The number of `BodySampleStatus.OK`. -/
def OK : ℤ := 1

/-- The number of `JointError.NONE`. -/
def NONE : ℤ := 0

/-- A conversion to single precision and back, which raises beyond the range. -/
def f32 (value : D) : Except Raised D := do
  return widen (← Json.orRaise .overflowError (pack value))

def checkFinite (values : List D) : Except Raised Unit :=
  if values.all isFinite then .ok ()
  else .error (.valueError "policy input/output contains a nonfinite value")

/-- The slots of the names, which are those of the model and one unpopulated joint. -/
def roster (names : List String) (body : RosterInfo) : Except Raised (List String) := do
  if body.slotCount ≠ 31 ∨ body.jointNames.length ≠ 31 ∨ ¬body.jointNames.Nodup then
    .error (.valueError "get_robot_info must provide 31 unique public joint names")
  let expected := names ++ ["waist_roll_joint"]
  if !(body.jointNames.all (· ∈ expected) && expected.all (· ∈ body.jointNames)) then
    .error (.valueError "get_robot_info roster differs from model plus unpopulated roll")
  if body.joints.length ≠ 31 then
    .error (.valueError "get_robot_info capability count differs from roster")
  names.forM fun name => do
    let joint ← element body.joints (← indexOf body.jointNames name)
    if !joint.populated then .error (.valueError ("policy joint is unpopulated: " ++ name))
  return body.jointNames

def ambiguous : Raised := .valueError "BodyState lacks one unambiguous HIP IMU sample"

def invalid : Raised := .valueError "HIP attitude/gyro feedback is invalid"

/-- The quaternion and the angular velocity of the one sample at the hip. -/
def hipSample (hip : ℤ) : BodyFeedback S D → Except Raised (List D × List D)
  | .arrays state =>
      match samplesAt state.imuLocation hip with
      | [i] => do
          let present ← element state.imuStatePresent i
          if present = 0 then .error ambiguous
          else if !state.attitudeValid then .error invalid
          else do
            let status ← element state.imuStatus i
            if (status.toNat : ℤ) ≠ OK then .error invalid
            else do
              let values ← element state.imuValues.rows i
              return ((values.take 4).map widen, ((values.take 7).drop 4).map widen)
      | _ => .error ambiguous
  | .objects state =>
      match state.imuStates.filter fun sample => sample.location = hip with
      | [sample] =>
          match sample.state with
          | none => .error ambiguous
          | some imu =>
              if !state.attitudeValid then .error invalid
              else if sample.status ≠ OK then .error invalid
              else .ok (imu.quaternion, imu.gyroscope)
      | _ => .error ambiguous

/-- The feedback of one named joint. -/
def jointRow (columns : Columns S D) (names : List String) (name : String) : Except Raised (D × D) := do
  let i ← indexOf names name
  let error ← element columns.errors i
  if error ≠ NONE then .error (.valueError ("policy joint feedback is invalid: " ++ name))
  return ((← element columns.positions i).float, (← element columns.velocities i).float)

/-- The direction of gravity in the frame of the body. -/
def projectedGravity (quat : Vector D 4) : List D :=
  let (w, x, y, z) := (quat.get 0, neg (quat.get 1), neg (quat.get 2), neg (quat.get 3))
  let (a, b, c) := (neg y, x, neg w)
  [mul (literal 2) (sub (mul y c) (mul z b)), mul (literal 2) (sub (mul z a) (mul x c)),
    add (literal (-1)) (mul (literal 2) (sub (mul x b) (mul y a)))]

namespace Policy

variable (policy : Policy D)

/-- The new frame of an observation, computed before the history changes. -/
def frame (feedback : BodyFeedback S D) (body : RosterInfo) (command : List D) (hip : ℤ) :
    Except Raised (List D) := do
  let names ← roster policy.names body
  let columns := jointColumns feedback
  if columns.positions.length ≠ 31 then .error (.valueError "BodyState must contain the 31 public joints")
  let (quat, gyro) ← hipSample hip feedback
  match sized 4 quat, sized 3 gyro, sized 4 command with
  | some attitude, some _, some _ => do
      let rows ← policy.names.mapM (jointRow columns names)
      let (q, dq) := (rows.map Prod.fst, rows.map Prod.snd)
      checkFinite (command ++ quat ++ gyro ++ q ++ dq)
      (command ++ gyro ++ projectedGravity attitude ++ List.zipWith sub q policy.default ++ dq ++
        policy.previousActions).mapM f32
  | _, _, _ => .error (.valueError "invalid quaternion/gyro/velocity-height dimensions")

/-- A call that raises leaves the policy as it was. -/
def observation (feedback : BodyFeedback S D) (body : RosterInfo) (command : List D) (hip : ℤ) :
    Except Raised (List D) × Policy D :=
  match policy.frame feedback body command hip with
  | .error raised => (.error raised, policy)
  | .ok frame =>
      let history := fill 6 policy.history frame
      (.ok history.flatten, { policy with history })

end Policy

end HumanoidSdk.Teleop
