import HumanoidSdk.Feedback.Frame
import HumanoidSdk.Policy.Observation
import HumanoidSdk.Policy.Teleop

/-
This file shows that the policies do not tell array feedback from the objects it materializes to.
-/

namespace HumanoidSdk.Policy
open Arithmetic Feedback Foundation

section Columns

variable {First Second Cell : Type} {first : List First} {second : List Second} {read : First → Cell}
  {other : Second → Cell}

/-- An element of a mapped list. -/
theorem element_map (values : List First) (read : First → Cell) (index : ℕ) :
    (element values index).map read = element (values.map read) index := by
  rw [element, element, List.getElem?_map]
  cases values[index]? with
  | none => rfl
  | some value => rfl

theorem element_eq {Value : Type} {values : List Value} {index : ℕ} (inside : index < values.length) :
    element values index = .ok values[index] := by
  rw [element, List.getElem?_eq_getElem inside]

/-- Equal columns have equal elements and raise together. -/
theorem element_same (same : first.map read = second.map other) (index : ℕ) :
    (element first index).map read = (element second index).map other := by
  rw [element_map, element_map, same]

/-- Equal columns give equal selections and raise together. -/
theorem mapM_element_same (same : first.map read = second.map other) (indices : List ℕ) :
    (indices.mapM fun index => do return read (← element first index)) =
      (indices.mapM (element second)).map (List.map other) := by
  have each : (fun index => do return read (← element first index)) =
      fun index => (element second index).map other := by
    funext index
    rw [← element_same same]
    cases element first index with
    | error raised => rfl
    | ok value => rfl
  rw [each, mapM_map_values]

end Columns

variable {S D : Type} [Arithmetic S D] {arrays : BodyStateArrays S} {state : BodyState D}

/-- The samples of one location, with their rows. -/
theorem samples_agree (held : Matches widen arrays state) (location : ℤ) :
    ∃ entries : List (BodyImuSample D × ℕ),
      (state.imuStates.filter fun sample => sample.location = location) = entries.map Prod.fst ∧
      samplesAt arrays.imuLocation location = entries.map Prod.snd ∧
      ∀ entry ∈ entries, state.imuStates[entry.2]? = some entry.1 := by
  refine ⟨state.imuStates.zipIdx.filter fun entry => entry.1.location = location, ?_, ?_, fun entry member => ?_⟩
  · conv_lhs => rw [← List.zipIdx_map_fst 0 state.imuStates, List.filter_map]
    rfl
  · have tagged := congrArg List.zipIdx held.location
    rw [List.zipIdx_map, List.zipIdx_map] at tagged
    have kept := congrArg (fun entries => (entries.filter fun entry => entry.1 = location).map Prod.snd) tagged
    simp only [List.filter_map, List.map_map] at kept
    exact kept.symm
  · exact List.mem_zipIdx_iff_getElem?.mp (List.mem_filter.mp member).1

/-- The cells of the row of a sample. -/
theorem sample_cells (frame : Frame arrays) (held : Matches widen arrays state) {index : ℕ}
    {sample : BodyImuSample D} (found : state.imuStates[index]? = some sample) :
    ∃ status present values, element arrays.imuStatus index = .ok status ∧
      element arrays.imuStatePresent index = .ok present ∧ element arrays.imuValues.rows index = .ok values ∧
      sample.status = status.toNat ∧ sample.state = rowState widen present values := by
  have count := congrArg List.length held.location
  rw [List.length_map, List.length_map, frame.imuLocation] at count
  have inside : index < arrays.imuValues.rows.length := count ▸ (List.getElem?_eq_some_iff.mp found).1
  have healthy : index < arrays.imuStatus.length := frame.imuStatus ▸ inside
  have flagged : index < arrays.imuStatePresent.length := frame.imuStatePresent ▸ inside
  have statuses := congrArg (·[index]?) held.status
  have states := congrArg (·[index]?) held.states
  simp only [List.getElem?_map, List.getElem?_zipWith, found, List.getElem?_eq_getElem inside,
    List.getElem?_eq_getElem healthy, List.getElem?_eq_getElem flagged, Option.map_some,
    Option.some.injEq] at statuses states
  exact ⟨_, _, _, element_eq healthy, element_eq flagged, element_eq inside, statuses, states⟩

/-- The column ranges of a row are those that the policies take. -/
theorem imuState_ranges (values : List S) :
    (BodyStateArrays.imuState (widen : S → D) values).quaternion = (values.take 4).map widen ∧
    (BodyStateArrays.imuState (widen : S → D) values).gyroscope = ((values.take 7).drop 4).map widen := by
  constructor
  · rw [BodyStateArrays.imuState, BodyStateArrays.columns, List.drop_zero]
  · rfl

/-- The two branches select the same feedback or raise the same error. -/
theorem select_same (frame : Frame arrays) (held : Matches widen arrays state) (mapping : List ℕ) :
    select mapping (.arrays arrays) = select mapping (.objects state) := by
  have count := congrArg List.length held.q
  rw [List.length_map, List.length_map] at count
  obtain ⟨entries, objects, rows, found⟩ := samples_agree held HIP
  change selectArrays mapping arrays = selectObjects mapping state
  unfold selectArrays selectObjects
  rw [objects, rows, count, held.attitudeValid, mapM_element_same held.q, mapM_element_same held.dq]
  match entries with
  | [] => rfl
  | _ :: _ :: _ => rfl
  | [(sample, index)] =>
      have here : state.imuStates[index]? = some sample := found (sample, index) List.mem_cons_self
      obtain ⟨status, present, values, healthy, flagged, row, same, shown⟩ := sample_cells frame held here
      have ranges := @imuState_ranges S D _ values
      simp only [List.map_cons, List.map_nil, healthy, flagged, row, same, shown, rowState]
      refine ite_congr rfl (fun _ => rfl) fun _ => ?_
      change (if _ then _ else if present = 0 then _ else gather _ _ _ _) = _
      refine ite_congr rfl (fun _ => rfl) fun _ => ?_
      by_cases absent : present = 0
      · rw [if_pos absent, if_neg (not_not.mpr absent)]
      · rw [if_neg absent, if_pos absent]
        simp only [ranges.1, ranges.2]
        rfl

/-- The row of a joint takes its numbers from the converted columns. -/
theorem jointRow_eq (columns : Teleop.Columns S D) (names : List String) (name : String) :
    Teleop.jointRow columns names name = (do
      let i ← indexOf names name
      let error ← element columns.errors i
      if error ≠ Teleop.NONE then
        .error (.valueError ("policy joint feedback is invalid: " ++ name))
      return (← element (columns.positions.map Teleop.Number.float) i,
        ← element (columns.velocities.map Teleop.Number.float) i)) := by
  unfold Teleop.jointRow
  simp only [← element_map]
  congr 1
  funext i
  congr 1
  funext error
  cases element columns.positions i with
  | error raised => rfl
  | ok position =>
      cases element columns.velocities i with
      | error raised => rfl
      | ok velocity => rfl

/-- The two kinds of feedback give the same row for every joint, or raise the same error. -/
theorem jointRow_same (held : Matches widen arrays state) (names : List String) (name : String) :
    Teleop.jointRow (Teleop.jointColumns (.arrays arrays)) names name =
      Teleop.jointRow (Teleop.jointColumns (.objects state)) names name := by
  have positions : (Teleop.jointColumns (.arrays arrays)).positions.map Teleop.Number.float =
      (Teleop.jointColumns (.objects state)).positions.map Teleop.Number.float := by
    rw [Teleop.jointColumns, Teleop.jointColumns, List.map_map, List.map_map]
    exact held.q.symm
  have velocities : (Teleop.jointColumns (.arrays arrays)).velocities.map Teleop.Number.float =
      (Teleop.jointColumns (.objects state)).velocities.map Teleop.Number.float := by
    rw [Teleop.jointColumns, Teleop.jointColumns, List.map_map, List.map_map]
    exact held.dq.symm
  have errors : (Teleop.jointColumns (.arrays arrays : BodyFeedback S D)).errors =
      (Teleop.jointColumns (.objects state : BodyFeedback S D)).errors := held.errorCode.symm
  rw [jointRow_eq, jointRow_eq, positions, velocities, errors]

/-- The two kinds of feedback give the same sample of the hip or raise the same error. -/
theorem hipSample_same (frame : Frame arrays) (held : Matches widen arrays state) (hip : ℤ) :
    Teleop.hipSample hip (.arrays arrays) = Teleop.hipSample hip (.objects state) := by
  obtain ⟨entries, objects, rows, found⟩ := samples_agree held hip
  unfold Teleop.hipSample
  simp only [objects, rows, held.attitudeValid]
  match entries with
  | [] => rfl
  | _ :: _ :: _ => rfl
  | [(sample, index)] =>
      have here : state.imuStates[index]? = some sample := found (sample, index) List.mem_cons_self
      obtain ⟨status, present, values, healthy, flagged, row, same, shown⟩ := sample_cells frame held here
      have ranges := @imuState_ranges S D _ values
      simp only [List.map_cons, List.map_nil, healthy, flagged, row, same, shown, rowState]
      change (if present = 0 then _ else if _ then _ else if _ then _ else _) = _
      by_cases absent : present = 0
      · rw [if_pos absent, if_neg (not_not.mpr absent)]
      · rw [if_neg absent, if_pos absent]
        simp only [ranges.1, ranges.2]
        rfl

/-- The two kinds of feedback give the same frame or raise the same error. -/
theorem frame_same (frame : Frame arrays) (held : Matches widen arrays state) (policy : Teleop.Policy D)
    (body : RosterInfo) (command : List D) (hip : ℤ) :
    policy.frame (.arrays arrays) body command hip = policy.frame (.objects state) body command hip := by
  have count := congrArg List.length held.q
  rw [List.length_map, List.length_map] at count
  have positions : (Teleop.jointColumns (.arrays arrays : BodyFeedback S D)).positions.length =
      (Teleop.jointColumns (.objects state : BodyFeedback S D)).positions.length := by
    rw [Teleop.jointColumns, Teleop.jointColumns, List.length_map, List.length_map, count]
  have rows (names : List String) : Teleop.jointRow (Teleop.jointColumns (.arrays arrays)) names =
      Teleop.jointRow (Teleop.jointColumns (.objects state)) names := by
    funext name
    exact jointRow_same held names name
  unfold Teleop.Policy.frame
  simp only [positions, rows, hipSample_same frame held]

/-- Every frame of arrays and the objects it materializes to give the same outcome of both policies, and
an observation that raises leaves the history as it was. -/
theorem feedback_alike (arrays : BodyStateArrays S) (frame : Frame arrays) :
    ∃ state : BodyState D, BodyStateArrays.bodyState widen arrays = .ok state ∧
      (∀ policy : WbcTrackingPolicy S D, policy.state (.arrays arrays) = policy.state (.objects state)) ∧
      ∀ (policy : Teleop.Policy D) (body : RosterInfo) (command : List D) (hip : ℤ),
        policy.observation (.arrays arrays) body command hip =
          policy.observation (.objects state) body command hip ∧
        ∀ raised, (policy.observation (.arrays arrays) body command hip).1 = .error raised →
          (policy.observation (.arrays arrays) body command hip).2.history = policy.history := by
  obtain ⟨state, made, held⟩ := bodyState_frame (widen : S → D) frame
  refine ⟨state, made, fun policy => ?_, fun policy body command hip => ⟨?_, fun raised failed => ?_⟩⟩
  · rw [WbcTrackingPolicy.state, WbcTrackingPolicy.state, measure, measure, select_same frame held]
  · rw [Teleop.Policy.observation, Teleop.Policy.observation, frame_same frame held]
  · unfold Teleop.Policy.observation at failed ⊢
    cases known : policy.frame (.arrays arrays) body command hip with
    | error raised' => rfl
    | ok frame' =>
        rw [known] at failed
        cases failed

/-- Every joint at zero and one upright sample at the hip. -/
def upright : BodyStateArrays ℚ where
  stateId := 1
  q := List.replicate 31 0
  dq := List.replicate 31 0
  tauEst := List.replicate 31 0
  jointStampsUs := ⟨List.replicate 31 [1, 2, 3], by decide⟩
  errorCode := List.replicate 31 0
  imuValues := ⟨[[1, 0, 0, 0, 0, 0, 0, 0, 0, 0, 0, 0, 0]], by decide⟩
  imuStampsUs := ⟨[[1, 2, 3, 4]], by decide⟩
  imuLocation := [0]
  imuStatus := [1]
  imuStatePresent := [1]
  protocolVersion := 2
  rosterVersion := 1
  tsStateRealUs := 5
  tsStatePubUs := 6
  tsConsumedUs := 7
  attitudeValid := true
  appliedSessionId := 0
  appliedSequence := 0
  tsFirstOutputUs := 0

/-- The tracking policy reads the arrays of an upright body. -/
def trackingUpright : Except Raised (WbcTrackingPolicy ℚ ℚ × Measured ℚ) := do
  let policy ← @WbcTrackingPolicy.new ℚ ℚ exact (← @Contract.ofRaw ℚ ℚ exact sampleRaw) sampleProfile
  return (policy, ← @WbcTrackingPolicy.state ℚ ℚ exact policy (.arrays upright))

/-- A teleop policy of 30 joints. -/
def teleopNames : List String := (List.range 30).map fun index => "joint_" ++ toString index

def teleopSample : Teleop.Policy ℚ where
  names := teleopNames
  default := List.replicate 30 0
  previousActions := List.replicate 30 0
  history := []

def teleopBody : RosterInfo where
  joints := List.replicate 31 ⟨true⟩
  slotCount := 31
  jointNames := teleopNames ++ ["waist_roll_joint"]

/-- The teleop policy observes the arrays of an upright body. -/
def teleopUpright : Except Raised (List ℚ) :=
  (@Teleop.Policy.observation ℚ ℚ exact teleopSample (.arrays upright) teleopBody [0, 0, 0, 1] HIP).1

/-- Both policies read an upright body, and read the same from its objects. -/
theorem feedback_alike_upright : ∃ state : BodyState ℚ,
    BodyStateArrays.bodyState (@widen ℚ ℚ exact) upright = .ok state ∧
    (∃ policy measured, trackingUpright = .ok (policy, measured) ∧
      @WbcTrackingPolicy.state ℚ ℚ exact policy (.objects state) = .ok measured) ∧
    ∃ observed, teleopUpright = .ok observed ∧
      (@Teleop.Policy.observation ℚ ℚ exact teleopSample (.objects state) teleopBody [0, 0, 0, 1] HIP).1 =
        .ok observed := by
  have frame : Frame upright := ⟨rfl, rfl, rfl, rfl, rfl, rfl, rfl, rfl⟩
  have tracks : trackingUpright.isOk = true := by decide +kernel
  have observes : teleopUpright.isOk = true := by decide +kernel
  obtain ⟨state, made, tracking, teleop⟩ := @feedback_alike ℚ ℚ exact upright frame
  refine ⟨state, made, ?_, ?_⟩
  · cases read : trackingUpright with
    | error raised =>
        rw [read] at tracks
        cases tracks
    | ok result =>
        obtain ⟨contract, accepted, rest⟩ := bind_eq_ok.mp read
        obtain ⟨policy, constructed, rest⟩ := bind_eq_ok.mp rest
        obtain ⟨measured, measures, same⟩ := bind_eq_ok.mp rest
        exact ⟨policy, measured, same.symm, (tracking policy).symm.trans measures⟩
  · cases seen : teleopUpright with
    | error raised =>
        rw [seen] at observes
        cases observes
    | ok observed =>
        have same := congrArg Prod.fst (teleop teleopSample teleopBody [0, 0, 0, 1] HIP).1
        exact ⟨observed, rfl, same.symm.trans seen⟩

end HumanoidSdk.Policy
