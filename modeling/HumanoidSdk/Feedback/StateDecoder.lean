import HumanoidSdk.Codec.MotorState
import HumanoidSdk.Foundation.Table
import HumanoidSdk.Message.BodyState

/-
This file translates demo_onnx/cpp/body_state_decoder.cpp and python/locomotion_aorta/state_arrays.py.
The verifier of the FlatBuffers runtime with the accessors of the generated schema is a parameter, and
so is the conversion of a C++ or NumPy single to a Python float.
-/

namespace HumanoidSdk.Lowlevel

/-- The structs and tables of the generated schema, as its accessors read them. -/
structure BodyJointState (S : Type*) where
  tsAcquiredHwUs : UInt64
  tsIngestedUs : UInt64
  tsAssembledUs : UInt64
  q : S
  dq : S
  tauEst : S
  errorCode : UInt32

structure BodyImuState (S : Type*) where
  quaternion : Vector S 4
  gyroscope : Vector S 3
  accelerometer : Vector S 3
  rpy : Vector S 3

structure BodyImuSample (S : Type*) where
  tsSampledUs : UInt64
  tsAcquiredHwUs : UInt64
  tsIngestedUs : UInt64
  tsAssembledUs : UInt64
  location : UInt8
  state : Option (BodyImuState S)
  status : UInt8

structure BodyState (S : Type*) where
  protocolVersion : UInt32
  rosterVersion : UInt32
  stateId : UInt64
  tsStateRealUs : UInt64
  tsStatePubUs : UInt64
  tsConsumedUs : UInt64
  attitudeValid : Bool
  imuStates : Option (List (BodyImuSample S))
  joints : Option (List (BodyJointState S))
  appliedSessionId : UInt64
  appliedSequence : UInt64
  tsFirstOutputUs : UInt64

end HumanoidSdk.Lowlevel

namespace HumanoidSdk.Feedback
open Foundation Codec

variable {S D : Type}

structure Imu (S : Type*) where
  location : UInt8
  status : UInt8
  sampled : UInt64
  acquired : UInt64
  ingested : UInt64
  assembled : UInt64
  state : Option (Lowlevel.BodyImuState S)

structure State (S : Type*) where
  protocol : UInt32
  roster : UInt32
  id : UInt64
  real : UInt64
  pub : UInt64
  consumed : UInt64
  session : UInt64
  sequence : UInt64
  output : UInt64
  attitude : Bool
  joints : List (Lowlevel.BodyJointState S)
  imus : List (Imu S)

/-- `FLATBUFFERS_MAX_BUFFER_SIZE` is the greatest signed offset. -/
def MAX_BUFFER_SIZE : ℕ := 2 ^ 31 - 1

/-- The offset zero stands for the root that the first four bytes name. -/
def rootOffset (data : List UInt8) (offset : ℕ) : Except Fault ℕ :=
  if offset ≠ 0 then .ok offset
  else if data.length < 4 ∨ unsignedAt data 0 4 = 0 then .error (.valueError "invalid BodyState root offset")
  else .ok (unsignedAt data 0 4)

/-- An absent vector has no joints. -/
def readJoints : Option (List (Lowlevel.BodyJointState S)) → Except Fault (List (Lowlevel.BodyJointState S))
  | none => .ok []
  | some joints =>
      if joints.length ≠ BODY_SLOTS then .error (.valueError "body vector requires exactly 31 joint slots")
      else .ok joints

def readImu (sample : Lowlevel.BodyImuSample S) : Imu S where
  location := sample.location
  status := sample.status
  sampled := sample.tsSampledUs
  acquired := sample.tsAcquiredHwUs
  ingested := sample.tsIngestedUs
  assembled := sample.tsAssembledUs
  state := sample.state

/-- The offset is checked, then the table is verified, then its fields are copied. -/
def readState (verifyTable : List UInt8 → ℕ → Option (Lowlevel.BodyState S)) (data : List UInt8) (offset : ℕ) :
    Except Fault (State S) := do
  let offset ← rootOffset data offset
  if data.length ≥ MAX_BUFFER_SIZE ∨ offset > data.length ∨ data.length - offset < 4 ∨ offset % 4 ≠ 0 then
    .error (.valueError "invalid BodyState table offset")
  match verifyTable data offset with
  | none => .error (.valueError "invalid BodyState FlatBuffer")
  | some view => do
      if view.protocolVersion ≠ 2 then
        .error (.valueError "incompatible BodyState protocol_version; expected BODY 2")
      let joints ← readJoints view.joints
      return {
        protocol := view.protocolVersion
        roster := view.rosterVersion
        id := view.stateId
        real := view.tsStateRealUs
        pub := view.tsStatePubUs
        consumed := view.tsConsumedUs
        session := view.appliedSessionId
        sequence := view.appliedSequence
        output := view.tsFirstOutputUs
        attitude := view.attitudeValid
        joints := joints
        imus := (view.imuStates.getD []).map readImu }

section Decode

variable (float : S → D)

def decodeJoint (joint : Lowlevel.BodyJointState S) : BodyJointState D where
  tsAcquiredHwUs := joint.tsAcquiredHwUs.toNat
  tsIngestedUs := joint.tsIngestedUs.toNat
  tsAssembledUs := joint.tsAssembledUs.toNat
  q := float joint.q
  dq := float joint.dq
  tauEst := float joint.tauEst
  errorCode := joint.errorCode.toNat

/-- A tuple of Python floats. -/
def floats {count : ℕ} (values : Vector S count) : List D := values.toList.map float

def decodeImuState (state : Lowlevel.BodyImuState S) : BodyImuState D where
  quaternion := floats float state.quaternion
  gyroscope := floats float state.gyroscope
  accelerometer := floats float state.accelerometer
  rpy := floats float state.rpy

def decodeImu (imu : Imu S) : BodyImuSample D where
  location := imu.location.toNat
  state := imu.state.map (decodeImuState float)
  status := imu.status.toNat
  tsSampledUs := imu.sampled.toNat
  tsAcquiredHwUs := imu.acquired.toNat
  tsIngestedUs := imu.ingested.toNat
  tsAssembledUs := imu.assembled.toNat

def stateDto (state : State S) : BodyState D where
  stateId := state.id.toNat
  joints := state.joints.map (decodeJoint float)
  protocolVersion := state.protocol.toNat
  rosterVersion := state.roster.toNat
  tsStateRealUs := state.real.toNat
  tsStatePubUs := state.pub.toNat
  tsConsumedUs := state.consumed.toNat
  attitudeValid := state.attitude
  imuStates := state.imus.map (decodeImu float)
  appliedSessionId := state.session.toNat
  appliedSequence := state.sequence.toNat
  tsFirstOutputUs := state.output.toNat

/-- `decode_state` builds the objects of the public types. -/
def decode (verifyTable : List UInt8 → ℕ → Option (Lowlevel.BodyState S)) (data : List UInt8) (offset : ℕ) :
    Except Fault (BodyState D) := do
  return stateDto float (← readState verifyTable data offset)

end Decode

/-- The vectors that the native arrays own. -/
structure Arrays (S : Type*) where
  q : List S := []
  dq : List S := []
  tau : List S := []
  imu : List S := []
  jointStamps : List UInt64 := []
  imuStamps : List UInt64 := []
  errors : List UInt32 := []
  locations : List UInt8 := []
  status : List UInt8 := []
  present : List UInt8 := []

/-- One turn of the loop over the joints. -/
def Arrays.pushJoint (arrays : Arrays S) (joint : Lowlevel.BodyJointState S) : Arrays S :=
  { arrays with
    q := arrays.q ++ [joint.q]
    dq := arrays.dq ++ [joint.dq]
    tau := arrays.tau ++ [joint.tauEst]
    jointStamps := arrays.jointStamps ++ [joint.tsAcquiredHwUs, joint.tsIngestedUs, joint.tsAssembledUs]
    errors := arrays.errors ++ [joint.errorCode] }

/-- The thirteen values of a sample, which are zero without a state. -/
def imuRow [Zero S] : Option (Lowlevel.BodyImuState S) → List S
  | some state => state.quaternion.toList ++ state.gyroscope.toList ++ state.accelerometer.toList ++
      state.rpy.toList
  | none => List.replicate 13 0

/-- One turn of the loop over the samples. -/
def Arrays.pushImu [Zero S] (arrays : Arrays S) (imu : Imu S) : Arrays S :=
  { arrays with
    locations := arrays.locations ++ [imu.location]
    status := arrays.status ++ [imu.status]
    present := arrays.present ++ [if imu.state.isSome then 1 else 0]
    imuStamps := arrays.imuStamps ++ [imu.sampled, imu.acquired, imu.ingested, imu.assembled]
    imu := arrays.imu ++ imuRow imu.state }

/-- `BodyStateArrays` holds NumPy arrays in the width of the wire. -/
structure BodyStateArrays (S : Type*) where
  stateId : ℤ
  q : List S
  dq : List S
  tauEst : List S
  jointStampsUs : Table UInt64 3
  errorCode : List UInt32
  imuValues : Table S 13
  imuStampsUs : Table UInt64 4
  imuLocation : List UInt8
  imuStatus : List UInt8
  imuStatePresent : List UInt8
  protocolVersion : ℤ
  rosterVersion : ℤ
  tsStateRealUs : ℤ
  tsStatePubUs : ℤ
  tsConsumedUs : ℤ
  attitudeValid : Bool
  appliedSessionId : ℤ
  appliedSequence : ℤ
  tsFirstOutputUs : ℤ

/-- The dictionary of views becomes the keyword arguments. -/
def stateArrays [Zero S] (state : State S) : BodyStateArrays S :=
  let arrays := state.imus.foldl Arrays.pushImu (state.joints.foldl Arrays.pushJoint {})
  { stateId := state.id.toNat
    q := arrays.q
    dq := arrays.dq
    tauEst := arrays.tau
    jointStampsUs := Table.ofFlat 3 arrays.jointStamps
    errorCode := arrays.errors
    imuValues := Table.ofFlat 13 arrays.imu
    imuStampsUs := Table.ofFlat 4 arrays.imuStamps
    imuLocation := arrays.locations
    imuStatus := arrays.status
    imuStatePresent := arrays.present
    protocolVersion := state.protocol.toNat
    rosterVersion := state.roster.toNat
    tsStateRealUs := state.real.toNat
    tsStatePubUs := state.pub.toNat
    tsConsumedUs := state.consumed.toNat
    attitudeValid := state.attitude
    appliedSessionId := state.session.toNat
    appliedSequence := state.sequence.toNat
    tsFirstOutputUs := state.output.toNat }

def decodeArrays [Zero S] (verifyTable : List UInt8 → ℕ → Option (Lowlevel.BodyState S)) (data : List UInt8)
    (offset : ℕ) : Except Fault (BodyStateArrays S) := do
  return stateArrays (← readState verifyTable data offset)

namespace BodyStateArrays

variable (float : S → D)

/-- The call takes three stamps, three floats and the error code by position. -/
def jointOf (q dq tauEst : S) (errorCode : UInt32) : List UInt64 → Except Fault (BodyJointState D)
  | [acquired, ingested, assembled] =>
      .ok ⟨acquired.toNat, ingested.toNat, assembled.toNat, float q, float dq, float tauEst, errorCode.toNat⟩
  | _ => .error .typeError

/-- One element of the tuple `joints`. -/
def joint (arrays : BodyStateArrays S) (index : ℕ) : Except Fault (BodyJointState D) := do
  let stamps ← item arrays.jointStampsUs.rows index
  let q ← item arrays.q index
  let dq ← item arrays.dq index
  let tauEst ← item arrays.tauEst index
  let errorCode ← item arrays.errorCode index
  jointOf float q dq tauEst errorCode stamps

def joints (arrays : BodyStateArrays S) : Except Fault (List (BodyJointState D)) :=
  (List.range arrays.q.length).mapM (joint float arrays)

/-- The columns of a row from one index up to another. -/
def columns (row : List S) (first last : ℕ) : List D := ((row.take last).drop first).map float

/-- The row holds quaternion, gyroscope, accelerometer and roll, pitch and yaw. -/
def imuState (row : List S) : BodyImuState D :=
  ⟨columns float row 0 4, columns float row 4 7, columns float row 7 10, columns float row 10 13⟩

def imuOf (location status : UInt8) (state : Option (BodyImuState D)) :
    List UInt64 → Except Fault (BodyImuSample D)
  | [sampled, acquired, ingested, assembled] =>
      .ok ⟨location.toNat, state, status.toNat, sampled.toNat, acquired.toNat, ingested.toNat,
        assembled.toNat⟩
  | _ => .error .typeError

/-- One turn of the loop over the rows of `imu_values`. -/
def imu (arrays : BodyStateArrays S) (index : ℕ) (values : List S) : Except Fault (BodyImuSample D) := do
  let present ← item arrays.imuStatePresent index
  let state := if present ≠ 0 then some (imuState float values) else none
  let location ← item arrays.imuLocation index
  let status ← item arrays.imuStatus index
  let stamps ← item arrays.imuStampsUs.rows index
  imuOf location status state stamps

def imuStates (arrays : BodyStateArrays S) : Except Fault (List (BodyImuSample D)) :=
  arrays.imuValues.rows.zipIdx.mapM fun row => imu float arrays row.2 row.1

def bodyState (arrays : BodyStateArrays S) : Except Fault (BodyState D) := do
  let joints ← joints float arrays
  let imuStates ← imuStates float arrays
  return ⟨arrays.stateId, joints, arrays.protocolVersion, arrays.rosterVersion, arrays.tsStateRealUs,
    arrays.tsStatePubUs, arrays.tsConsumedUs, arrays.attitudeValid, imuStates, arrays.appliedSessionId,
    arrays.appliedSequence, arrays.tsFirstOutputUs⟩

end BodyStateArrays

end HumanoidSdk.Feedback
