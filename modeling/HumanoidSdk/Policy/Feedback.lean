import HumanoidSdk.Feedback.StateDecoder
import HumanoidSdk.Policy.Motion

/-
This file translates how WbcTrackingPolicy.state of python/locomotion_aorta/wbc_tracking_policy.py
selects its input from array and from object feedback.
-/

namespace HumanoidSdk.Policy
open Arithmetic Feedback

variable {S D : Type} [Arithmetic S D]

def HIP : ℤ := 0

def SAMPLE_OK : ℤ := 1

/-- Feedback comes as arrays or as objects. -/
inductive BodyFeedback (S D : Type) where
  | arrays (state : BodyStateArrays S)
  | objects (state : BodyState D)

/-- The rows whose location is the given one. -/
def samplesAt (locations : List UInt8) (location : ℤ) : List ℕ :=
  (locations.zipIdx.filter fun entry => (entry.1.toNat : ℤ) = location).map Prod.snd

/-- What the policies select from feedback. -/
structure Selected (D : Type) where
  q : NdArray D
  dq : NdArray D
  quat : Vector D 4
  gyro : NdArray D

def unhealthy : Raised := .valueError "one healthy HIP IMU is required; TRUNK is not a fallback"

def noFeedback : Raised := .valueError "expected 31-slot feedback with valid HIP attitude"

/-- Both branches end with these four conversions. -/
def gather (quat gyro : NdArray D) (q dq : Except Raised (List D)) : Except Raised (Selected D) := do
  let quat ← quaternion quat
  let gyro ← finite gyro "HIP gyroscope"
  let q ← finite (.ofList (← q)) "joint position"
  let dq ← finite (.ofList (← dq)) "joint velocity"
  return ⟨q, dq, quat, gyro⟩

/-- The conversion of an array selection to double precision. -/
def column (values : List S) (mapping : List ℕ) : Except Raised (List D) :=
  (mapping.mapM (element values)).map (List.map widen)

def selectArrays (mapping : List ℕ) (state : BodyStateArrays S) : Except Raised (Selected D) :=
  if state.q.length ≠ 31 ∨ !state.attitudeValid then .error noFeedback
  else
    match samplesAt state.imuLocation HIP with
    | [i] => do
        let status ← element state.imuStatus i
        if (status.toNat : ℤ) ≠ SAMPLE_OK then .error unhealthy
        else do
          let present ← element state.imuStatePresent i
          if present = 0 then .error unhealthy
          else do
            let values ← element state.imuValues.rows i
            gather (.ofList ((values.take 4).map widen)) (.ofList (((values.take 7).drop 4).map widen))
              (column state.q mapping) (column state.dq mapping)
    | _ => .error unhealthy

def selectObjects (mapping : List ℕ) (state : BodyState D) : Except Raised (Selected D) :=
  if state.joints.length ≠ 31 ∨ !state.attitudeValid then .error noFeedback
  else
    match state.imuStates.filter fun sample => sample.location = HIP with
    | [hip] =>
        if hip.status ≠ SAMPLE_OK then .error unhealthy
        else
          match hip.state with
          | none => .error unhealthy
          | some imu =>
              gather (.ofList imu.quaternion) (.ofList imu.gyroscope)
                (mapping.mapM fun i => do return (← element state.joints i).q)
                (mapping.mapM fun i => do return (← element state.joints i).dq)
    | _ => .error unhealthy

def select (mapping : List ℕ) : BodyFeedback S D → Except Raised (Selected D)
  | .arrays state => selectArrays mapping state
  | .objects state => selectObjects mapping state

/-- The joint columns, the attitude and the angular velocity of one feedback. -/
structure Measured (D : Type) where
  q : NdArray D
  dq : NdArray D
  quat : Vector D 4
  gyro : Vector D 3

/-- The body must not tilt beyond the limit of the profile. -/
def measure (mapping : List ℕ) (tiltLimit : D) (feedback : BodyFeedback S D) : Except Raised (Measured D) := do
  let selected ← select mapping feedback
  match vectorOf 3 selected.gyro with
  | none => .error (.valueError "expected three body-frame angular velocities")
  | some gyro => do
      let gravity ← gravityOf selected.quat
      let tilt := acos (clip (neg (partZ gravity)) (literal (-1)) (literal 1))
      if lt tiltLimit tilt then
        .error (.valueError ("body tilt " ++ fixed3 tilt ++ " rad exceeds tracking profile limit"))
      return ⟨selected.q, selected.dq, selected.quat, gyro⟩

end HumanoidSdk.Policy
