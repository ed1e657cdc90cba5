import HumanoidSdk.Feedback.Materialize

/-
This file shows which objects any well-shaped arrays materialize to.
-/

namespace HumanoidSdk.Feedback
open Foundation Codec

variable {S D : Type}

/-- The arrays of one frame have a row for each joint and a row for each sample. -/
structure Frame (arrays : BodyStateArrays S) : Prop where
  dq : arrays.dq.length = arrays.q.length
  tauEst : arrays.tauEst.length = arrays.q.length
  jointStampsUs : arrays.jointStampsUs.rows.length = arrays.q.length
  errorCode : arrays.errorCode.length = arrays.q.length
  imuStampsUs : arrays.imuStampsUs.rows.length = arrays.imuValues.rows.length
  imuLocation : arrays.imuLocation.length = arrays.imuValues.rows.length
  imuStatus : arrays.imuStatus.length = arrays.imuValues.rows.length
  imuStatePresent : arrays.imuStatePresent.length = arrays.imuValues.rows.length

/-- The native decoder makes only frames. -/
theorem stateArrays_frame [Zero S] (state : State S) : Frame (stateArrays state) := by
  constructor
  all_goals simp [stateArrays_q, stateArrays_dq, stateArrays_tauEst, stateArrays_jointStampsUs,
    stateArrays_errorCode, stateArrays_imuStampsUs, stateArrays_imuLocation, stateArrays_imuStatus,
    stateArrays_imuStatePresent, stateArrays_imuValues]

/-- The state of a sample as its row and its presence flag give it. -/
def rowState (float : S → D) (present : UInt8) (values : List S) : Option (BodyImuState D) :=
  if present ≠ 0 then some (BodyStateArrays.imuState float values) else none

/-- The columns of the objects are the arrays. -/
structure Matches (float : S → D) (arrays : BodyStateArrays S) (state : BodyState D) : Prop where
  attitudeValid : state.attitudeValid = arrays.attitudeValid
  q : state.joints.map BodyJointState.q = arrays.q.map float
  dq : state.joints.map BodyJointState.dq = arrays.dq.map float
  errorCode : state.joints.map BodyJointState.errorCode = arrays.errorCode.map fun code => (code.toNat : ℤ)
  location : state.imuStates.map BodyImuSample.location =
    arrays.imuLocation.map fun location => (location.toNat : ℤ)
  status : state.imuStates.map BodyImuSample.status = arrays.imuStatus.map fun status => (status.toNat : ℤ)
  states : state.imuStates.map BodyImuSample.state =
    List.zipWith (rowState float) arrays.imuStatePresent arrays.imuValues.rows

variable {arrays : BodyStateArrays S} (float : S → D)

theorem item_eq {Value : Type} {values : List Value} {index : ℕ} (inside : index < values.length) :
    item values index = .ok values[index] := by
  rw [item, List.getElem?_eq_getElem inside]

/-- A row of three stamps fits the call. -/
theorem jointOf_ok {q dq tauEst : S} {errorCode : UInt32} {stamps : List UInt64}
    (three : stamps.length = 3) : ∃ joint, BodyStateArrays.jointOf float q dq tauEst errorCode stamps = .ok joint ∧
      joint.q = float q ∧ joint.dq = float dq ∧ joint.errorCode = errorCode.toNat := by
  obtain ⟨acquired, ingested, assembled, rfl⟩ := List.length_eq_three.mp three
  exact ⟨_, rfl, rfl, rfl, rfl⟩

/-- A row of four stamps fits the call. -/
theorem imuOf_ok {location status : UInt8} {state : Option (BodyImuState D)} {stamps : List UInt64}
    (four : stamps.length = 4) : ∃ sample, BodyStateArrays.imuOf location status state stamps = .ok sample ∧
      sample.location = location.toNat ∧ sample.status = status.toNat ∧ sample.state = state := by
  match stamps, four with
  | [_, _, _, _], _ => exact ⟨_, rfl, rfl, rfl, rfl⟩

/-- What one joint takes from the columns. -/
structure JointRow (arrays : BodyStateArrays S) (index : ℕ) (joint : BodyJointState D) : Prop where
  q : arrays.q[index]?.map float = some joint.q
  dq : arrays.dq[index]?.map float = some joint.dq
  errorCode : arrays.errorCode[index]?.map (fun code => (code.toNat : ℤ)) = some joint.errorCode

theorem joint_frame (frame : Frame arrays) {index : ℕ} (inside : index < arrays.q.length) :
    ∃ joint, BodyStateArrays.joint float arrays index = .ok joint ∧ JointRow float arrays index joint := by
  have stamps : index < arrays.jointStampsUs.rows.length := frame.jointStampsUs ▸ inside
  have dq : index < arrays.dq.length := frame.dq ▸ inside
  have tauEst : index < arrays.tauEst.length := frame.tauEst ▸ inside
  have errorCode : index < arrays.errorCode.length := frame.errorCode ▸ inside
  obtain ⟨joint, made, position, velocity, error⟩ := @jointOf_ok S D float arrays.q[index] arrays.dq[index]
    arrays.tauEst[index] arrays.errorCode[index] arrays.jointStampsUs.rows[index]
    (arrays.jointStampsUs.rectangular _ (List.getElem_mem stamps))
  refine ⟨joint, ?_, ⟨?_, ?_, ?_⟩⟩
  · rw [BodyStateArrays.joint, item_eq stamps, item_eq inside, item_eq dq, item_eq tauEst, item_eq errorCode]
    exact made
  · rw [List.getElem?_eq_getElem inside, position]
    rfl
  · rw [List.getElem?_eq_getElem dq, velocity]
    rfl
  · rw [List.getElem?_eq_getElem errorCode, error]
    rfl

/-- What one sample takes from the columns. -/
structure ImuRow (arrays : BodyStateArrays S) (row : List S × ℕ) (sample : BodyImuSample D) : Prop where
  location : arrays.imuLocation[row.2]?.map (fun location => (location.toNat : ℤ)) = some sample.location
  status : arrays.imuStatus[row.2]?.map (fun status => (status.toNat : ℤ)) = some sample.status
  state : arrays.imuStatePresent[row.2]?.map (fun present => rowState float present row.1) = some sample.state

theorem imu_frame (frame : Frame arrays) {values : List S} {index : ℕ}
    (inside : index < arrays.imuValues.rows.length) : ∃ sample,
      BodyStateArrays.imu float arrays index values = .ok sample ∧ ImuRow float arrays (values, index) sample := by
  have stamps : index < arrays.imuStampsUs.rows.length := frame.imuStampsUs ▸ inside
  have location : index < arrays.imuLocation.length := frame.imuLocation ▸ inside
  have status : index < arrays.imuStatus.length := frame.imuStatus ▸ inside
  have present : index < arrays.imuStatePresent.length := frame.imuStatePresent ▸ inside
  obtain ⟨sample, made, place, healthy, state⟩ := @imuOf_ok D arrays.imuLocation[index] arrays.imuStatus[index]
    (rowState float arrays.imuStatePresent[index] values) arrays.imuStampsUs.rows[index]
    (arrays.imuStampsUs.rectangular _ (List.getElem_mem stamps))
  refine ⟨sample, ?_, ⟨?_, ?_, ?_⟩⟩
  · rw [BodyStateArrays.imu, item_eq present, item_eq location, item_eq status, item_eq stamps]
    exact made
  · rw [List.getElem?_eq_getElem location, place]
    rfl
  · rw [List.getElem?_eq_getElem status, healthy]
    rfl
  · rw [List.getElem?_eq_getElem present, state]
    rfl

section Column

variable {Value Cell : Type} {column : List Value} {read : Value → Cell}

/-- A cell of every joint gives a column of the joints. -/
theorem joint_column {joints : List (BodyJointState D)} {field : BodyJointState D → Cell}
    (rows : List.Forall₂ (JointRow float arrays) (List.range arrays.q.length) joints)
    (count : column.length = arrays.q.length)
    (cell : ∀ index joint, JointRow float arrays index joint → column[index]?.map read = some (field joint)) :
    joints.map field = column.map read := by
  refine column_of_rows rows (by rw [List.length_map, count, List.length_range]) ?_
  intro index item joint found row
  obtain ⟨inside, rfl⟩ := List.getElem?_eq_some_iff.mp found
  rw [List.getElem_range] at row
  rw [List.getElem?_map, cell index joint row]

/-- A cell of every sample gives a column of the samples. -/
theorem imu_column {samples : List (BodyImuSample D)} {field : BodyImuSample D → Cell}
    (rows : List.Forall₂ (ImuRow float arrays) arrays.imuValues.rows.zipIdx samples)
    (count : column.length = arrays.imuValues.rows.length)
    (cell : ∀ row sample, ImuRow float arrays row sample → column[row.2]?.map read = some (field sample)) :
    samples.map field = column.map read := by
  refine column_of_rows rows (by rw [List.length_map, count, List.length_zipIdx]) ?_
  intro index item sample found row
  obtain ⟨inside, rfl⟩ := List.getElem?_eq_some_iff.mp found
  have here := cell _ sample row
  rw [List.getElem_zipIdx, Nat.zero_add] at here
  rw [List.getElem?_map, here]

end Column

/-- The states of the samples follow the rows and their presence flags. -/
theorem imu_states {samples : List (BodyImuSample D)} (frame : Frame arrays)
    (rows : List.Forall₂ (ImuRow float arrays) arrays.imuValues.rows.zipIdx samples) :
    samples.map BodyImuSample.state =
      List.zipWith (rowState float) arrays.imuStatePresent arrays.imuValues.rows := by
  have flags := frame.imuStatePresent
  refine column_of_rows rows (by rw [List.length_zipWith, flags, Nat.min_self, List.length_zipIdx]) ?_
  intro index item sample found row
  obtain ⟨inside, rfl⟩ := List.getElem?_eq_some_iff.mp found
  rw [List.length_zipIdx] at inside
  have here := row.state
  rw [List.getElem_zipIdx, Nat.zero_add] at here
  rw [List.getElem?_zipWith, List.getElem?_eq_getElem inside]
  rw [List.getElem?_eq_getElem (by omega)] at here ⊢
  exact here

/-- Every frame materializes to objects with its columns. -/
theorem bodyState_frame (frame : Frame arrays) :
    ∃ state, BodyStateArrays.bodyState float arrays = .ok state ∧ Matches float arrays state := by
  obtain ⟨joints, made, rows⟩ := @mapM_exists _ _ _ (BodyStateArrays.joint float arrays)
    (JointRow float arrays) (List.range arrays.q.length) fun index member =>
      joint_frame float frame (List.mem_range.mp member)
  obtain ⟨imuStates, sampled, samples⟩ := @mapM_exists _ _ _
    (fun row => BodyStateArrays.imu float arrays row.2 row.1) (ImuRow float arrays)
    arrays.imuValues.rows.zipIdx fun row member =>
      imu_frame float frame (List.snd_lt_of_mem_zipIdx member)
  refine ⟨⟨arrays.stateId, joints, arrays.protocolVersion, arrays.rosterVersion, arrays.tsStateRealUs,
    arrays.tsStatePubUs, arrays.tsConsumedUs, arrays.attitudeValid, imuStates, arrays.appliedSessionId,
    arrays.appliedSequence, arrays.tsFirstOutputUs⟩, ?_, ⟨rfl, ?_, ?_, ?_, ?_, ?_, ?_⟩⟩
  · rw [BodyStateArrays.bodyState, BodyStateArrays.joints, made]
    change (BodyStateArrays.imuStates float arrays >>= _) = _
    rw [BodyStateArrays.imuStates, sampled]
    rfl
  · exact joint_column float rows rfl fun _ _ row => row.q
  · exact joint_column float rows frame.dq fun _ _ row => row.dq
  · exact joint_column float rows frame.errorCode fun _ _ row => row.errorCode
  · exact imu_column float samples frame.imuLocation fun _ _ row => row.location
  · exact imu_column float samples frame.imuStatus fun _ _ row => row.status
  · exact imu_states float frame samples

end HumanoidSdk.Feedback
