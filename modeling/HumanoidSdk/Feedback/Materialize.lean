import HumanoidSdk.Feedback.StateDecoder
import Mathlib.Data.BitVec

/-
This file shows that the arrays hold the same feedback as the objects.
-/

namespace HumanoidSdk.Feedback
open Foundation Codec

variable {S D : Type}

/-- The stamps of a joint in the order of their columns. -/
def jointRow (joint : Lowlevel.BodyJointState S) : List UInt64 :=
  [joint.tsAcquiredHwUs, joint.tsIngestedUs, joint.tsAssembledUs]

/-- The stamps of a sample in the order of their columns. -/
def stampRow (imu : Imu S) : List UInt64 := [imu.sampled, imu.acquired, imu.ingested, imu.assembled]

def presence (imu : Imu S) : UInt8 := if imu.state.isSome then 1 else 0

theorem foldl_pushJoint (joints : List (Lowlevel.BodyJointState S)) (arrays : Arrays S) :
    joints.foldl Arrays.pushJoint arrays = { arrays with
      q := arrays.q ++ joints.map Lowlevel.BodyJointState.q
      dq := arrays.dq ++ joints.map Lowlevel.BodyJointState.dq
      tau := arrays.tau ++ joints.map Lowlevel.BodyJointState.tauEst
      jointStamps := arrays.jointStamps ++ joints.flatMap jointRow
      errors := arrays.errors ++ joints.map Lowlevel.BodyJointState.errorCode } := by
  induction joints generalizing arrays with
  | nil => simp only [List.foldl_nil, List.map_nil, List.flatMap_nil, List.append_nil]
  | cons joint rest ih =>
      rw [List.foldl_cons, ih]
      simp only [Arrays.pushJoint, jointRow, List.append_assoc, List.map_cons, List.flatMap_cons,
        List.cons_append, List.nil_append]

theorem foldl_pushImu [Zero S] (imus : List (Imu S)) (arrays : Arrays S) :
    imus.foldl Arrays.pushImu arrays = { arrays with
      locations := arrays.locations ++ imus.map Imu.location
      status := arrays.status ++ imus.map Imu.status
      present := arrays.present ++ imus.map presence
      imuStamps := arrays.imuStamps ++ imus.flatMap stampRow
      imu := arrays.imu ++ imus.flatMap fun imu => imuRow imu.state } := by
  induction imus generalizing arrays with
  | nil => simp only [List.foldl_nil, List.map_nil, List.flatMap_nil, List.append_nil]
  | cons imu rest ih =>
      rw [List.foldl_cons, ih]
      simp only [Arrays.pushImu, stampRow, presence, List.append_assoc, List.map_cons, List.flatMap_cons,
        List.cons_append, List.nil_append]

theorem imuRow_length [Zero S] (state : Option (Lowlevel.BodyImuState S)) : (imuRow state).length = 13 := by
  cases state with
  | none => simp only [imuRow, List.length_replicate]
  | some state => simp only [imuRow, List.length_append, Vector.length_toList]

section Columns

variable [Zero S] (state : State S)

/-- Every array has one row for each joint or for each sample, in the order of the wire. -/
theorem stateArrays_q : (stateArrays state).q = state.joints.map Lowlevel.BodyJointState.q := by
  simp [stateArrays, foldl_pushJoint, foldl_pushImu]

theorem stateArrays_dq : (stateArrays state).dq = state.joints.map Lowlevel.BodyJointState.dq := by
  simp [stateArrays, foldl_pushJoint, foldl_pushImu]

theorem stateArrays_tauEst : (stateArrays state).tauEst = state.joints.map Lowlevel.BodyJointState.tauEst := by
  simp [stateArrays, foldl_pushJoint, foldl_pushImu]

theorem stateArrays_errorCode :
    (stateArrays state).errorCode = state.joints.map Lowlevel.BodyJointState.errorCode := by
  simp [stateArrays, foldl_pushJoint, foldl_pushImu]

theorem stateArrays_jointStampsUs : (stateArrays state).jointStampsUs.rows = state.joints.map jointRow := by
  simp only [stateArrays, foldl_pushJoint, foldl_pushImu, List.nil_append]
  exact Table.ofFlat_flatMap (by decide) fun _ _ => rfl

theorem stateArrays_imuLocation : (stateArrays state).imuLocation = state.imus.map Imu.location := by
  simp [stateArrays, foldl_pushJoint, foldl_pushImu]

theorem stateArrays_imuStatus : (stateArrays state).imuStatus = state.imus.map Imu.status := by
  simp [stateArrays, foldl_pushJoint, foldl_pushImu]

theorem stateArrays_imuStatePresent : (stateArrays state).imuStatePresent = state.imus.map presence := by
  simp [stateArrays, foldl_pushJoint, foldl_pushImu]

theorem stateArrays_imuStampsUs : (stateArrays state).imuStampsUs.rows = state.imus.map stampRow := by
  simp only [stateArrays, foldl_pushJoint, foldl_pushImu, List.nil_append]
  exact Table.ofFlat_flatMap (by decide) fun _ _ => rfl

theorem stateArrays_imuValues :
    (stateArrays state).imuValues.rows = state.imus.map fun imu => imuRow imu.state := by
  simp only [stateArrays, foldl_pushJoint, foldl_pushImu, List.nil_append]
  exact Table.ofFlat_flatMap (by decide) fun imu _ => imuRow_length imu.state

end Columns

@[simp] theorem item_map {Item Value : Type} {items : List Item} {index : ℕ} (inside : index < items.length)
    (field : Item → Value) : item (items.map field) index = .ok (field items[index]) := by
  rw [item, List.getElem?_map, List.getElem?_eq_getElem inside]
  rfl

/-- A column range takes the part of the row that stands there. -/
theorem columns_middle {float : S → D} {first last : ℕ} (front middle rest : List S)
    (start : front.length = first) (stop : first + middle.length = last) :
    BodyStateArrays.columns float (front ++ middle ++ rest) first last = middle.map float := by
  have ends : (front ++ middle).length = last := by rw [List.length_append, start, stop]
  rw [BodyStateArrays.columns, ← ends, List.take_left, ← start, List.drop_left]

/-- The column ranges of four lists behind each other. -/
theorem imuState_append (float : S → D) {quaternion gyroscope accelerometer rpy : List S}
    (four : quaternion.length = 4) (angular : gyroscope.length = 3) (linear : accelerometer.length = 3)
    (angles : rpy.length = 3) :
    BodyStateArrays.imuState float (quaternion ++ gyroscope ++ accelerometer ++ rpy) =
      ⟨quaternion.map float, gyroscope.map float, accelerometer.map float, rpy.map float⟩ := by
  have first := @columns_middle S D float 0 4 [] quaternion (gyroscope ++ accelerometer ++ rpy) rfl
    (by rw [four])
  have second := @columns_middle S D float 4 7 quaternion gyroscope (accelerometer ++ rpy) four
    (by rw [angular])
  have third := @columns_middle S D float 7 10 (quaternion ++ gyroscope) accelerometer rpy
    (by rw [List.length_append, four, angular]) (by rw [linear])
  have fourth := @columns_middle S D float 10 13 (quaternion ++ gyroscope ++ accelerometer) rpy []
    (by rw [List.length_append, List.length_append, four, angular, linear]) (by rw [angles])
  simp only [List.nil_append, List.append_nil, List.append_assoc] at first second third fourth
  simp only [BodyStateArrays.imuState, List.append_assoc, first, second, third, fourth]

/-- The column ranges of a row give back the four vectors of its state. -/
theorem imuState_row [Zero S] (float : S → D) (state : Lowlevel.BodyImuState S) :
    BodyStateArrays.imuState float (imuRow (some state)) = decodeImuState float state :=
  imuState_append float state.quaternion.length_toList state.gyroscope.length_toList
    state.accelerometer.length_toList state.rpy.length_toList

section Materialize

variable [Zero S] (float : S → D) (state : State S)

theorem joint_stateArrays {index : ℕ} (inside : index < state.joints.length) :
    BodyStateArrays.joint float (stateArrays state) index = .ok (decodeJoint float state.joints[index]) := by
  rw [BodyStateArrays.joint, stateArrays_jointStampsUs, stateArrays_q, stateArrays_dq, stateArrays_tauEst,
    stateArrays_errorCode]
  simp only [item_map inside]
  rfl

theorem joints_stateArrays :
    BodyStateArrays.joints float (stateArrays state) = .ok (state.joints.map (decodeJoint float)) := by
  refine mapM_ok_iff.mpr (List.forall₂_iff_get.mpr ⟨?_, fun index inside _ => ?_⟩)
  · rw [stateArrays_q, List.length_range, List.length_map, List.length_map]
  · rw [stateArrays_q, List.length_range, List.length_map] at inside
    simpa using joint_stateArrays float state inside

theorem imu_stateArrays {index : ℕ} (inside : index < state.imus.length) :
    BodyStateArrays.imu float (stateArrays state) index (imuRow state.imus[index].state) =
      .ok (decodeImu float state.imus[index]) := by
  rw [BodyStateArrays.imu, stateArrays_imuStatePresent, stateArrays_imuLocation, stateArrays_imuStatus,
    stateArrays_imuStampsUs]
  simp only [item_map inside]
  have shown : (if presence state.imus[index] ≠ 0 then
      some (BodyStateArrays.imuState float (imuRow state.imus[index].state)) else none) =
        state.imus[index].state.map (decodeImuState float) := by
    unfold presence
    cases state.imus[index].state with
    | none => rfl
    | some values => exact congrArg some (imuState_row float values)
  change BodyStateArrays.imuOf state.imus[index].location state.imus[index].status (if _ then _ else _)
    (stampRow state.imus[index]) = _
  rw [shown]
  rfl

theorem imuStates_stateArrays :
    BodyStateArrays.imuStates float (stateArrays state) = .ok (state.imus.map (decodeImu float)) := by
  refine mapM_ok_iff.mpr (List.forall₂_iff_get.mpr ⟨?_, fun index inside _ => ?_⟩)
  · rw [List.length_zipIdx, stateArrays_imuValues, List.length_map, List.length_map]
  · rw [List.length_zipIdx, stateArrays_imuValues, List.length_map] at inside
    simpa [stateArrays_imuValues] using imu_stateArrays float state inside

theorem bodyState_stateArrays :
    BodyStateArrays.bodyState float (stateArrays state) = .ok (stateDto float state) := by
  rw [BodyStateArrays.bodyState, joints_stateArrays]
  change (BodyStateArrays.imuStates float (stateArrays state) >>= _) = _
  rw [imuStates_stateArrays]
  rfl

end Materialize

/-- The offset leads to a table that the verifier accepts, of protocol 2 and without joints or with all of them. -/
structure Verified (verifyTable : List UInt8 → ℕ → Option (Lowlevel.BodyState S)) (data : List UInt8) (offset : ℕ)
    (view : Lowlevel.BodyState S) : Prop where
  table : ∃ place, rootOffset data offset = .ok place ∧
    ¬ (data.length ≥ MAX_BUFFER_SIZE ∨ place > data.length ∨ data.length - place < 4 ∨ place % 4 ≠ 0) ∧
    verifyTable data place = some view
  protocol : view.protocolVersion = 2
  joints : ∀ joints, view.joints = some joints → joints.length = BODY_SLOTS

/-- The object of a joint has the values of the wire. -/
structure ShowsJoint (float : S → D) (wire : Lowlevel.BodyJointState S) (joint : BodyJointState D) : Prop where
  acquired : joint.tsAcquiredHwUs = wire.tsAcquiredHwUs.toNat
  ingested : joint.tsIngestedUs = wire.tsIngestedUs.toNat
  assembled : joint.tsAssembledUs = wire.tsAssembledUs.toNat
  q : joint.q = float wire.q
  dq : joint.dq = float wire.dq
  tauEst : joint.tauEst = float wire.tauEst
  errorCode : joint.errorCode = wire.errorCode.toNat

/-- The object of a sample has the values of the wire. It has no state exactly when the wire has none. -/
structure ShowsImu (float : S → D) (wire : Lowlevel.BodyImuSample S) (sample : BodyImuSample D) : Prop where
  location : sample.location = wire.location.toNat
  status : sample.status = wire.status.toNat
  sampled : sample.tsSampledUs = wire.tsSampledUs.toNat
  acquired : sample.tsAcquiredHwUs = wire.tsAcquiredHwUs.toNat
  ingested : sample.tsIngestedUs = wire.tsIngestedUs.toNat
  assembled : sample.tsAssembledUs = wire.tsAssembledUs.toNat
  absent : sample.state = none ↔ wire.state = none
  present : ∀ state, wire.state = some state → ∃ shown, sample.state = some shown ∧
    shown.quaternion = state.quaternion.toList.map float ∧ shown.gyroscope = state.gyroscope.toList.map float ∧
    shown.accelerometer = state.accelerometer.toList.map float ∧ shown.rpy = state.rpy.toList.map float

/-- The object of a state has the values of the wire in the order of the wire. -/
structure Shows (float : S → D) (view : Lowlevel.BodyState S) (state : BodyState D) : Prop where
  stateId : state.stateId = view.stateId.toNat
  protocolVersion : state.protocolVersion = view.protocolVersion.toNat
  rosterVersion : state.rosterVersion = view.rosterVersion.toNat
  tsStateRealUs : state.tsStateRealUs = view.tsStateRealUs.toNat
  tsStatePubUs : state.tsStatePubUs = view.tsStatePubUs.toNat
  tsConsumedUs : state.tsConsumedUs = view.tsConsumedUs.toNat
  attitudeValid : state.attitudeValid = view.attitudeValid
  appliedSessionId : state.appliedSessionId = view.appliedSessionId.toNat
  appliedSequence : state.appliedSequence = view.appliedSequence.toNat
  tsFirstOutputUs : state.tsFirstOutputUs = view.tsFirstOutputUs.toNat
  joints : List.Forall₂ (ShowsJoint float) (view.joints.getD []) state.joints
  imuStates : List.Forall₂ (ShowsImu float) (view.imuStates.getD []) state.imuStates

/-- The arrays have one row for each joint and for each sample of the wire, with one column for each stamp and
the thirteen values of a state, or zeros without one. -/
structure Fills [Zero S] (view : Lowlevel.BodyState S) (arrays : BodyStateArrays S) : Prop where
  q : arrays.q = (view.joints.getD []).map (·.q)
  dq : arrays.dq = (view.joints.getD []).map (·.dq)
  tauEst : arrays.tauEst = (view.joints.getD []).map (·.tauEst)
  errorCode : arrays.errorCode = (view.joints.getD []).map (·.errorCode)
  jointStampsUs : arrays.jointStampsUs.rows = (view.joints.getD []).map jointRow
  imuLocation : arrays.imuLocation = (view.imuStates.getD []).map (·.location)
  imuStatus : arrays.imuStatus = (view.imuStates.getD []).map (·.status)
  imuStampsUs : arrays.imuStampsUs.rows = (view.imuStates.getD []).map fun wire =>
    [wire.tsSampledUs, wire.tsAcquiredHwUs, wire.tsIngestedUs, wire.tsAssembledUs]
  imuStatePresent : arrays.imuStatePresent = (view.imuStates.getD []).map fun wire =>
    if wire.state.isSome then 1 else 0
  imuValues : arrays.imuValues.rows = (view.imuStates.getD []).map fun wire => imuRow wire.state

section Views

variable {view : Lowlevel.BodyState S} {verifyTable : List UInt8 → ℕ → Option (Lowlevel.BodyState S)}
  {data : List UInt8} {offset : ℕ}

/-- What `readState` copies of a table. -/
def copied (view : Lowlevel.BodyState S) : State S where
  protocol := view.protocolVersion
  roster := view.rosterVersion
  id := view.stateId
  real := view.tsStateRealUs
  pub := view.tsStatePubUs
  consumed := view.tsConsumedUs
  session := view.appliedSessionId
  sequence := view.appliedSequence
  output := view.tsFirstOutputUs
  attitude := view.attitudeValid
  joints := view.joints.getD []
  imus := (view.imuStates.getD []).map readImu

theorem readJoints_eq_ok {found : Option (List (Lowlevel.BodyJointState S))}
    {joints : List (Lowlevel.BodyJointState S)} : readJoints found = .ok joints ↔
      joints = found.getD [] ∧ ∀ wire, found = some wire → wire.length = BODY_SLOTS := by
  cases found with
  | none =>
      rw [readJoints, Except.ok.injEq, Option.getD_none]
      exact ⟨fun same => ⟨same.symm, nofun⟩, fun held => held.1.symm⟩
  | some wire =>
      rw [readJoints, Option.getD_some]
      by_cases full : wire.length = BODY_SLOTS
      · rw [if_neg (not_not.mpr full), Except.ok.injEq]
        refine ⟨fun same => ⟨same.symm, ?_⟩, fun held => held.1.symm⟩
        rintro _ ⟨⟩
        exact full
      · rw [if_pos full]
        constructor
        · rintro ⟨⟩
        · exact fun held => absurd (held.2 wire rfl) full

/-- A buffer is read exactly when its table is verified, and then the fields of the table are copied. -/
theorem readState_eq_ok {state : State S} : readState verifyTable data offset = .ok state ↔
    ∃ view, Verified verifyTable data offset view ∧ state = copied view := by
  unfold readState
  constructor
  · intro done
    obtain ⟨place, isPlace, rest⟩ := bind_eq_ok.mp done
    dsimp only at rest
    by_cases inside :
        data.length ≥ MAX_BUFFER_SIZE ∨ place > data.length ∨ data.length - place < 4 ∨ place % 4 ≠ 0
    · rw [if_pos inside] at rest
      cases rest
    · rw [if_neg inside] at rest
      cases known : verifyTable data place with
      | none =>
          rw [known] at rest
          cases rest
      | some view =>
          rw [known] at rest
          by_cases protocol : view.protocolVersion ≠ 2
          · dsimp only at rest
            rw [if_pos protocol] at rest
            cases rest
          · dsimp only at rest
            rw [if_neg protocol] at rest
            obtain ⟨joints, isJoints, last⟩ := bind_eq_ok.mp rest
            obtain ⟨rfl, full⟩ := readJoints_eq_ok.mp isJoints
            exact ⟨view, ⟨⟨place, isPlace, inside, known⟩, not_not.mp protocol, full⟩, (Except.ok.inj last).symm⟩
  · rintro ⟨view, ⟨⟨place, isPlace, inside, known⟩, protocol, full⟩, rfl⟩
    refine bind_eq_ok.mpr ⟨place, isPlace, ?_⟩
    dsimp only
    rw [if_neg inside, known]
    dsimp only
    rw [if_neg (not_not.mpr protocol)]
    exact bind_eq_ok.mpr ⟨_, readJoints_eq_ok.mpr ⟨rfl, full⟩, rfl⟩

/-- The objects of the copied fields show the table. -/
theorem shows_copied (float : S → D) (view : Lowlevel.BodyState S) : Shows float view (stateDto float (copied view)) := by
  refine ⟨rfl, rfl, rfl, rfl, rfl, rfl, rfl, rfl, rfl, rfl, ?_, ?_⟩
  · change List.Forall₂ _ _ ((view.joints.getD []).map (decodeJoint float))
    rw [List.forall₂_map_right_iff, List.forall₂_same]
    exact fun joint _ => ⟨rfl, rfl, rfl, rfl, rfl, rfl, rfl⟩
  · change List.Forall₂ _ _ (((view.imuStates.getD []).map readImu).map (decodeImu float))
    rw [List.map_map, List.forall₂_map_right_iff, List.forall₂_same]
    refine fun wire _ => ⟨rfl, rfl, rfl, rfl, rfl, rfl, Option.map_eq_none_iff, fun state isState => ?_⟩
    refine ⟨decodeImuState float state, ?_, rfl, rfl, rfl, rfl⟩
    change wire.state.map (decodeImuState float) = _
    rw [isState]
    rfl

theorem fills_copied [Zero S] (view : Lowlevel.BodyState S) : Fills view (stateArrays (copied view)) := by
  refine ⟨stateArrays_q _, stateArrays_dq _, stateArrays_tauEst _, stateArrays_errorCode _,
    stateArrays_jointStampsUs _, ?_, ?_, ?_, ?_, ?_⟩
  · rw [stateArrays_imuLocation]
    exact List.map_map
  · rw [stateArrays_imuStatus]
    exact List.map_map
  · rw [stateArrays_imuStampsUs]
    exact List.map_map
  · rw [stateArrays_imuStatePresent]
    exact List.map_map
  · rw [stateArrays_imuValues]
    exact List.map_map

end Views

/-- The arrays of a buffer materialize to the objects of the native decoder, or both decoders raise the same error.
Neither raises on a verified table. Then the objects have the values of the wire in its order, a sample without a
state included, and every value stands in its own column of the row of its joint or sample. -/
theorem decodeArrays_bodyState [Zero S] (float : S → D)
    (verifyTable : List UInt8 → ℕ → Option (Lowlevel.BodyState S)) (data : List UInt8) (offset : ℕ) :
    decodeArrays verifyTable data offset >>= BodyStateArrays.bodyState float =
      decode float verifyTable data offset ∧
    (∀ view, Verified verifyTable data offset view → ∃ arrays state,
      decodeArrays verifyTable data offset = .ok arrays ∧ Fills view arrays ∧
      BodyStateArrays.bodyState float arrays = .ok state ∧
      decode float verifyTable data offset = .ok state ∧ Shows float view state) ∧
    ∀ state, decode float verifyTable data offset = .ok state →
      ∃ view, Verified verifyTable data offset view ∧ Shows float view state := by
  refine ⟨?_, fun view verified => ?_, fun state decoded => ?_⟩
  · unfold decodeArrays decode
    cases readState verifyTable data offset with
    | error fault => rfl
    | ok state => exact bodyState_stateArrays float state
  · have read := readState_eq_ok.mpr ⟨view, verified, rfl⟩
    refine ⟨stateArrays (copied view), stateDto float (copied view), ?_, fills_copied view,
      bodyState_stateArrays float (copied view), ?_, shows_copied float view⟩
    · rw [decodeArrays, read]
      rfl
    · rw [decode, read]
      rfl
  · obtain ⟨copy, read, same⟩ := bind_eq_ok.mp decoded
    obtain ⟨view, verified, rfl⟩ := readState_eq_ok.mp read
    obtain rfl := Except.ok.inj same
    exact ⟨view, verified, shows_copied float view⟩

section Buffers

/-- A number in little-endian order. -/
def word (size value : ℕ) : List UInt8 := (List.range size).map fun place => UInt8.ofNat (value / 256 ^ place)

def words (size : ℕ) (values : List ℕ) : List UInt8 := values.flatMap (word size)

/-- One in single precision. -/
def ONE : BitVec 32 := 0x3f800000

/-- A buffer without joints and with two samples. The second one has no state. -/
def sampleBuffer : List UInt8 :=
  word 4 28 ++ words 2 [22, 25, 0, 12, 16, 4, 0, 0, 0, 24, 20, 0] ++
  word 4 24 ++ word 8 9 ++ words 4 [2, 7, 8, 1] ++
  words 4 [2, 32, 140] ++
  words 2 [18, 90, 4, 12, 20, 28, 88, 36, 89, 0, 0, 0] ++
  word 4 24 ++ words 8 [5, 6, 7, 2 ^ 64 - 1] ++ words 4 (0x3f800000 :: List.replicate 12 0) ++ [1, 0] ++
  words 2 [18, 38, 4, 12, 20, 28, 36, 0, 37, 0, 0] ++
  word 4 22 ++ words 8 [8, 9, 10, 11] ++ [2, 255, 0, 0]

def sampleView : Lowlevel.BodyState (BitVec 32) where
  protocolVersion := 2
  rosterVersion := 7
  stateId := 9
  tsStateRealUs := 0
  tsStatePubUs := 0
  tsConsumedUs := 0
  attitudeValid := true
  imuStates := some [
    ⟨5, 6, 7, 18446744073709551615, 1,
      some ⟨#v[ONE, 0, 0, 0], Vector.replicate 3 0, Vector.replicate 3 0, Vector.replicate 3 0⟩, 0⟩,
    ⟨8, 9, 10, 11, 2, none, 255⟩]
  joints := none
  appliedSessionId := 0
  appliedSequence := 0
  tsFirstOutputUs := 0

/-- The verifier with the accessors at the table of the buffer. -/
def sampleTable (data : List UInt8) (place : ℕ) : Option (Lowlevel.BodyState (BitVec 32)) :=
  if data = sampleBuffer ∧ place = 28 then some sampleView else none

/-- The root of the buffer is decoded both ways, the present state and the absent one. -/
theorem decodeArrays_bodyState_samples : ∃ arrays state,
    decodeArrays sampleTable sampleBuffer 0 = .ok arrays ∧
      BodyStateArrays.bodyState singleValue arrays = .ok state ∧
      decode singleValue sampleTable sampleBuffer 0 = .ok state ∧ Shows singleValue sampleView state ∧
      arrays.imuStatePresent = [1, 0] ∧ arrays.imuStampsUs.rows = [[5, 6, 7, 18446744073709551615], [8, 9, 10, 11]] := by
  have placed : rootOffset sampleBuffer 0 = .ok 28 := by decide +kernel
  have long : sampleBuffer.length = 244 := by decide +kernel
  have verified : Verified sampleTable sampleBuffer 0 sampleView := by
    refine ⟨⟨28, placed, ?_, if_pos ⟨rfl, rfl⟩⟩, rfl, nofun⟩
    rw [long]
    decide
  obtain ⟨arrays, state, made, fills, materialized, decoded, shows⟩ :=
    (decodeArrays_bodyState singleValue sampleTable sampleBuffer 0).2.1 sampleView verified
  exact ⟨arrays, state, made, materialized, decoded, shows, fills.imuStatePresent, fills.imuStampsUs⟩

end Buffers

end HumanoidSdk.Feedback
