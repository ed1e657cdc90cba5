import Mathlib.Tactic.FieldSimp
import HumanoidSdk.Demo.ExternalMotion

/-
This file translates FixedStandPose of examples/fixed_stand_pose/fixed_stand_pose.py with the profile beside it.
It shows that each of its poses on the way from a measured state to zero is in range, and how fast a joint moves.
Numbers are exact.
-/

namespace HumanoidSdk.Demo
open Foundation

/-- A name of the roster with the fields of its joint that the pose reads. -/
structure StandJoint where
  name : String
  populated : Bool
  validLimits : ℕ
  qMin : Reading
  qMax : Reading

/-- The names and the joints of a body that `require_body_info` accepts. -/
structure StandInfo where
  joints : List StandJoint
  slots : joints.length = COMMAND_SLOTS

/-- The entries `joint_gains` of the profile. -/
def jointGains : List (String × ℚ × ℚ) :=
  [("left_hip_pitch_joint", 100, 3), ("left_hip_roll_joint", 100, 3), ("left_hip_yaw_joint", 60, 2),
    ("left_knee_joint", 150, 4), ("left_ankle_pitch_joint", 80, 2), ("left_ankle_roll_joint", 40, 1),
    ("right_hip_pitch_joint", 100, 3), ("right_hip_roll_joint", 100, 3), ("right_hip_yaw_joint", 60, 2),
    ("right_knee_joint", 150, 4), ("right_ankle_pitch_joint", 80, 2), ("right_ankle_roll_joint", 40, 1),
    ("left_shoulder_pitch_joint", 60, 2), ("left_shoulder_roll_joint", 40, 1), ("left_shoulder_yaw_joint", 40, 1),
    ("left_elbow_joint", 40, 1), ("left_wrist_roll_joint", 60, 3), ("left_wrist_yaw_joint", 60, 3),
    ("left_wrist_pitch_joint", 80, 4), ("right_shoulder_pitch_joint", 60, 2), ("right_shoulder_roll_joint", 40, 1),
    ("right_shoulder_yaw_joint", 40, 1), ("right_elbow_joint", 40, 1), ("right_wrist_roll_joint", 60, 3),
    ("right_wrist_yaw_joint", 60, 3), ("right_wrist_pitch_joint", 80, 4), ("waist_yaw_joint", 80, 2),
    ("waist_pitch_joint", 80, 2), ("neck_pitch_joint", 20, 1), ("neck_yaw_joint", 20, 1)]

/-- The entry `transition` of the profile. -/
structure StandTransition where
  speedQPerS : ℚ
  minDurationS : ℚ
  maxDurationS : ℚ
  smallDeltaSkipThresholdQ : ℚ

def standTransition : StandTransition := ⟨1.2, 0.05, 3, 0.05⟩

/-- How a message writes a number. -/
abbrev Written : Type := Reading → String

section Problems

variable (text : Written) (joint : StandJoint)

/-- The joint tells a range. -/
def StandJoint.ranged : Bool :=
  joint.validLimits.testBit 0 && joint.qMin.isFinite && joint.qMax.isFinite && joint.qMin.value ≤ joint.qMax.value

def StandJoint.range : String := "[" ++ text joint.qMin ++ ", " ++ text joint.qMax ++ "]"

def gainProblem : List String :=
  if (jointGains.lookup joint.name).isSome then [] else [joint.name ++ ": no frozen FIXED_STAND gain mapping"]

def rangeProblem : List String :=
  if !joint.ranged then [joint.name ++ ": valid q range unavailable"]
  else if joint.qMin.value ≤ 0 ∧ 0 ≤ joint.qMax.value then []
  else [joint.name ++ ": zero outside " ++ joint.range text]

/-- What a pass of the constructor's loop appends. -/
def standProblems : List String := if !joint.populated then [] else gainProblem joint ++ rangeProblem text joint

end Problems

/-- A constructed pose has found no problem. -/
structure FixedStandPose (text : Written) where
  info : StandInfo
  unique : (info.joints.map StandJoint.name).Nodup
  clear : info.joints.flatMap (standProblems text) = []

/-- The constructor. -/
def fixedStandPose (text : Written) (info : StandInfo) : Except Failure (FixedStandPose text) :=
  if unique : (info.joints.map StandJoint.name).Nodup then
    if clear : info.joints.flatMap (standProblems text) = [] then .ok ⟨info, unique, clear⟩
    else .error (.valueError ("; ".intercalate (info.joints.flatMap (standProblems text))))
  else .error (.valueError "FIXED_STAND requires the unique public 31 roster")

/-- The reading is a number in the range. -/
def StandJoint.admits (joint : StandJoint) : Reading → Bool
  | .finite q => joint.qMin.value ≤ q && q ≤ joint.qMax.value
  | _ => false

theorem StandJoint.admits_iff {joint : StandJoint} {reading : Reading} : joint.admits reading = true ↔
    ∃ q, reading = .finite q ∧ joint.qMin.value ≤ q ∧ q ≤ joint.qMax.value := by
  cases reading with
  | finite q => rw [admits, Bool.and_eq_true, decide_eq_true_eq, decide_eq_true_eq]; simp
  | infinite | nan => simp [admits]

theorem foldr_max_nonneg (values : List ℚ) : 0 ≤ values.foldr max 0 := by
  induction values with
  | nil => exact le_refl 0
  | cons value rest ih => exact ih.trans (le_max_right _ _)

namespace FixedStandPose

variable {text : Written} (plan : FixedStandPose text)

def checkSlot (text : Written) (slot : StandJoint × Reading) : Except Failure Unit :=
  if slot.1.populated && !slot.1.admits slot.2 then
    .error (.valueError (slot.1.name ++ ": q=" ++ text slot.2 ++ " outside " ++ slot.1.range text))
  else .ok ()

def check (values : List Reading) : Except Failure Unit :=
  if values.length ≠ plan.info.joints.length then .error (.valueError "target must have 31 slots")
  else (plan.info.joints.zip values).forM (checkSlot text)

def measured (state : BodyState) : Except Failure (List ℚ) := do
  if state.q.length ≠ plan.info.joints.length then .error (.valueError "BodyState differs from Info roster")
  let values := List.zipWith (fun joint q => if joint.populated then q else .finite 0) plan.info.joints state.q
  plan.check values
  return values.map Reading.value

/-- The largest value of a populated joint. -/
def delta (start : List ℚ) : ℚ :=
  (List.zipWith (fun joint q => if joint.populated then |q| else 0) plan.info.joints start).foldr max 0

/-- The duration of a way that is not small. -/
def seconds (start : List ℚ) : ℚ :=
  min standTransition.maxDurationS (max standTransition.minDurationS (plan.delta start / standTransition.speedQPerS))

def duration (start : List ℚ) : Except Failure ℚ := do
  plan.check (start.map .finite)
  return if plan.delta start ≤ standTransition.smallDeltaSkipThresholdQ then 0 else plan.seconds start

/-- The local variable `alpha`. -/
def alpha (elapsed duration : ℚ) : ℚ := if duration = 0 then 1 else min 1 (max 0 (elapsed / duration))

def blend (start : List ℚ) (part : ℚ) : List ℚ :=
  List.zipWith (fun q joint => if joint.populated then q * (1 - part) else 0) start plan.info.joints

def position (start : List ℚ) (elapsed duration : ℚ) : Except Failure (List ℚ) := do
  plan.check ((plan.blend start (alpha elapsed duration)).map .finite)
  return plan.blend start (alpha elapsed duration)

/-- The command of a joint. The gains of a populated joint are known. -/
def jointCommand (joint : StandJoint) (q : ℚ) : PositionTarget :=
  match joint.populated, jointGains.lookup joint.name with
  | true, some (kp, kd) => ⟨q, kp, kd⟩
  | _, _ => ⟨0, 0, 0⟩

def command (q : List ℚ) : Except Failure (List PositionTarget) := do
  plan.check (q.map .finite)
  return List.zipWith jointCommand plan.info.joints q

/-- A target of the pose is in range, and it leaves slots without a motor at zero. -/
structure Fits (q : List ℚ) : Prop where
  full : q.length = COMMAND_SLOTS
  ranged : ∀ (slot : ℕ) (joint : StandJoint) (value : ℚ), plan.info.joints[slot]? = some joint →
    q[slot]? = some value → if joint.populated then joint.qMin.value ≤ value ∧ value ≤ joint.qMax.value else value = 0

variable {plan} {start q : List ℚ}

/-- A populated joint of a constructed pose has a gain and a range around zero. -/
theorem sound {joint : StandJoint} (member : joint ∈ plan.info.joints) (populated : joint.populated = true) :
    (jointGains.lookup joint.name).isSome = true ∧ joint.qMin.value ≤ 0 ∧ 0 ≤ joint.qMax.value := by
  have silent := List.flatMap_eq_nil_iff.mp plan.clear joint member
  rw [standProblems, populated, Bool.not_true, if_neg Bool.false_ne_true, List.append_eq_nil_iff] at silent
  obtain ⟨gain, range⟩ := silent
  constructor
  · unfold gainProblem at gain
    split at gain
    · assumption
    · cases gain
  · unfold rangeProblem at range
    split at range
    · cases range
    · split at range
      · assumption
      · cases range

theorem checkSlot_ok {slot : StandJoint × Reading} :
    checkSlot text slot = .ok () ↔ (slot.1.populated = true → slot.1.admits slot.2 = true) := by
  unfold checkSlot
  cases slot.1.populated <;> cases slot.1.admits slot.2 <;> simp

theorem forM_checks {items : List (StandJoint × Reading)} :
    items.forM (checkSlot text) = .ok () ↔ ∀ slot ∈ items, checkSlot text slot = .ok () := by
  constructor
  · exact forM_ok
  · intro passed
    rw [List.forM_eq_forM]
    induction items with
    | nil => rfl
    | cons slot rest ih =>
        rw [List.forM_cons, passed slot List.mem_cons_self]
        exact ih fun other member => passed other (List.mem_cons_of_mem _ member)

/-- The check passes on the targets in range. -/
theorem check_finite (vacant : ∀ (slot : ℕ) (joint : StandJoint) (value : ℚ), plan.info.joints[slot]? = some joint →
    q[slot]? = some value → joint.populated = false → value = 0) :
    plan.check (q.map .finite) = .ok () ↔ plan.Fits q := by
  unfold check
  rw [List.length_map]
  constructor
  · intro passed
    split at passed
    · cases passed
    · rename_i full
      refine ⟨(not_not.mp full).trans plan.info.slots, fun slot joint value isJoint isValue => ?_⟩
      split
      · rename_i populated
        have member : (joint, Reading.finite value) ∈ plan.info.joints.zip (q.map .finite) := by
          apply List.mem_of_getElem? (i := slot)
          rw [List.getElem?_zip_eq_some, List.getElem?_map, isValue]
          exact ⟨isJoint, rfl⟩
        have admitted := checkSlot_ok.mp (forM_checks.mp passed _ member) populated
        obtain ⟨_, same, ranged⟩ := StandJoint.admits_iff.mp admitted
        cases same
        exact ranged
      · rename_i absent
        exact vacant slot joint value isJoint isValue (Bool.eq_false_iff.mpr absent)
  · intro fits
    rw [if_neg (not_not.mpr (fits.full.trans plan.info.slots.symm)), forM_checks]
    rintro ⟨joint, reading⟩ member
    obtain ⟨slot, found⟩ := List.mem_iff_getElem?.mp member
    obtain ⟨isJoint, isReading⟩ := List.getElem?_zip_eq_some.mp found
    rw [List.getElem?_map, Option.map_eq_some_iff] at isReading
    obtain ⟨value, isValue, rfl⟩ := isReading
    refine checkSlot_ok.mpr fun populated => ?_
    have ranged := fits.ranged slot joint value isJoint isValue
    rw [if_pos populated] at ranged
    exact StandJoint.admits_iff.mpr ⟨value, rfl, ranged⟩

theorem Fits.vacant (fits : plan.Fits q) {slot : ℕ} {joint : StandJoint} {value : ℚ}
    (isJoint : plan.info.joints[slot]? = some joint) (isValue : q[slot]? = some value)
    (absent : joint.populated = false) : value = 0 := by
  have ranged := fits.ranged slot joint value isJoint isValue
  rwa [absent, if_neg Bool.false_ne_true] at ranged

/-- A target in range passes the check. -/
theorem Fits.check (fits : plan.Fits q) : plan.check (q.map .finite) = .ok () :=
  (check_finite fun _ _ _ isJoint isValue => fits.vacant isJoint isValue).mpr fits

/-- A part of the way from a target in range to zero is in range. -/
theorem Fits.blend (fits : plan.Fits start) {part : ℚ} (lower : 0 ≤ part) (upper : part ≤ 1) :
    plan.Fits (plan.blend start part) := by
  constructor
  · rw [FixedStandPose.blend, List.length_zipWith, fits.full, plan.info.slots, min_self]
  · intro slot joint value isJoint isValue
    rw [FixedStandPose.blend, List.getElem?_zipWith, isJoint] at isValue
    cases isStart : start[slot]? with
    | none =>
        rw [isStart] at isValue
        cases isValue
    | some q =>
        rw [isStart] at isValue
        obtain rfl := Option.some.inj isValue
        have ranged := fits.ranged slot joint q isJoint isStart
        cases populated : joint.populated with
        | false => simp
        | true =>
            rw [populated, if_pos rfl] at ranged
            obtain ⟨-, below, above⟩ := sound (List.mem_of_getElem? isJoint) populated
            rw [if_pos rfl, if_pos rfl]
            have rest : 0 ≤ 1 - part := by linarith
            constructor
            · nlinarith [mul_nonneg rest (sub_nonneg.mpr ranged.1), mul_nonneg lower (neg_nonneg.mpr below)]
            · nlinarith [mul_nonneg rest (sub_nonneg.mpr ranged.2), mul_nonneg lower above]

/-- A measured state that passes is a target in range. -/
theorem measured_fits {state : BodyState} (passed : plan.measured state = .ok q) : plan.Fits q := by
  unfold measured at passed
  split at passed
  · cases passed
  · rename_i full
    obtain ⟨_, checked, same⟩ := bind_eq_ok.mp passed
    cases same
    have long : (List.zipWith (fun (joint : StandJoint) q => if joint.populated then q else .finite 0)
        plan.info.joints state.q).length = COMMAND_SLOTS := by
      rw [List.length_zipWith, not_not.mp full, min_self, plan.info.slots]
    unfold FixedStandPose.check at checked
    rw [if_neg (not_not.mpr (long.trans plan.info.slots.symm)), forM_checks] at checked
    refine ⟨by rw [List.length_map, long], fun slot joint value isJoint isValue => ?_⟩
    rw [List.getElem?_map, Option.map_eq_some_iff] at isValue
    obtain ⟨reading, isReading, rfl⟩ := isValue
    have member : (joint, reading) ∈ plan.info.joints.zip _ :=
      List.mem_of_getElem? (List.getElem?_zip_eq_some.mpr ⟨isJoint, isReading⟩)
    have admitted := checkSlot_ok.mp (checked _ member)
    rw [List.getElem?_zipWith, isJoint] at isReading
    cases populated : joint.populated with
    | true =>
        obtain ⟨value, rfl, ranged⟩ := StandJoint.admits_iff.mp (admitted populated)
        rw [if_pos rfl]
        exact ranged
    | false =>
        rw [if_neg Bool.false_ne_true]
        cases isRaw : state.q[slot]? with
        | none =>
            rw [isRaw] at isReading
            cases isReading
        | some raw =>
            rw [isRaw] at isReading
            obtain rfl := Option.some.inj isReading
            rw [populated]
            rfl

section Alpha

variable {elapsed later duration : ℚ}

theorem alpha_mem (elapsed duration : ℚ) : 0 ≤ alpha elapsed duration ∧ alpha elapsed duration ≤ 1 := by
  unfold alpha
  split
  · exact ⟨zero_le_one, le_refl 1⟩
  · exact ⟨le_min zero_le_one (le_max_left _ _), min_le_left _ _⟩

/-- Before the begin the pose is the start, from the duration on it is zero. -/
theorem alpha_begun (positive : 0 < duration) : alpha 0 duration = 0 := by
  rw [alpha, if_neg positive.ne', zero_div, max_self]
  exact min_eq_right zero_le_one

theorem alpha_done (positive : 0 ≤ duration) (done : duration ≤ elapsed) : alpha elapsed duration = 1 := by
  unfold alpha
  split
  · rfl
  · rename_i nonzero
    have share : 1 ≤ elapsed / duration := by
      rw [one_le_div (positive.lt_of_ne' nonzero)]
      exact done
    rw [max_eq_right (zero_le_one.trans share), min_eq_left share]

theorem alpha_grows (positive : 0 < duration) (forward : elapsed ≤ later) :
    0 ≤ alpha later duration - alpha elapsed duration ∧
      alpha later duration - alpha elapsed duration ≤ (later - elapsed) / duration := by
  have steeper : elapsed / duration ≤ later / duration := div_le_div_of_nonneg_right forward positive.le
  have share : (later - elapsed) / duration = later / duration - elapsed / duration := sub_div _ _ _
  unfold alpha
  rw [if_neg positive.ne', if_neg positive.ne', share]
  grind

end Alpha

section Moves

/-- Every slot of a target in range is a slot of the roster. -/
theorem Fits.joint (fits : plan.Fits start) {slot : ℕ} {value : ℚ} (isValue : start[slot]? = some value) :
    ∃ joint, plan.info.joints[slot]? = some joint := by
  have inside := (List.getElem?_eq_some_iff.mp isValue).1
  rw [fits.full, ← plan.info.slots] at inside
  exact ⟨_, List.getElem?_eq_getElem inside⟩

theorem delta_nonneg (start : List ℚ) : 0 ≤ plan.delta start := foldr_max_nonneg _

/-- No slot is farther from zero than `delta`. -/
theorem Fits.abs_le (fits : plan.Fits start) (slot : ℕ) : |start.getD slot 0| ≤ plan.delta start := by
  rw [List.getD_eq_getElem?_getD]
  cases isValue : start[slot]? with
  | none =>
      rw [Option.getD_none, abs_zero]
      exact delta_nonneg start
  | some value =>
      obtain ⟨joint, isJoint⟩ := fits.joint isValue
      have listed : (if joint.populated then |value| else 0) ∈
          List.zipWith (fun (joint : StandJoint) q => if joint.populated then |q| else 0) plan.info.joints start := by
        apply List.mem_of_getElem? (i := slot)
        rw [List.getElem?_zipWith, isJoint, isValue]
      rw [Option.getD_some]
      cases populated : joint.populated with
      | true =>
          rw [populated, if_pos rfl] at listed
          exact List.le_max_of_le' _ listed (le_refl _)
      | false =>
          rw [fits.vacant isJoint isValue populated, abs_zero]
          exact delta_nonneg start

theorem blend_getElem? (fits : plan.Fits start) (part : ℚ) (slot : ℕ) :
    (plan.blend start part)[slot]? = start[slot]?.map fun q => q * (1 - part) := by
  rw [blend, List.getElem?_zipWith]
  cases isValue : start[slot]? with
  | none => rfl
  | some value =>
      obtain ⟨joint, isJoint⟩ := fits.joint isValue
      rw [isJoint]
      cases populated : joint.populated with
      | true => simp [populated]
      | false => simp [populated, fits.vacant isJoint isValue populated]

theorem blend_getD (fits : plan.Fits start) (part : ℚ) (slot : ℕ) :
    (plan.blend start part).getD slot 0 = start.getD slot 0 * (1 - part) := by
  rw [List.getD_eq_getElem?_getD, List.getD_eq_getElem?_getD, blend_getElem? fits]
  cases start[slot]? with
  | none => exact (zero_mul _).symm
  | some value => rfl

theorem blend_begun (fits : plan.Fits start) : plan.blend start 0 = start := by
  apply List.ext_getElem?
  intro slot
  rw [blend_getElem? fits, sub_zero]
  simp

theorem blend_done (fits : plan.Fits start) : plan.blend start 1 = zeroPose := by
  apply List.ext_getElem?
  intro slot
  rw [blend_getElem? fits, sub_self, zeroPose, List.getElem?_replicate]
  by_cases inside : slot < start.length
  · rw [List.getElem?_eq_getElem inside, if_pos (fits.full ▸ inside), Option.map_some, mul_zero]
  · rw [List.getElem?_eq_none (not_lt.mp inside), if_neg (fits.full ▸ inside)]
    rfl

/-- Two parts of the way are as near as their shares. -/
theorem blend_near (fits : plan.Fits start) (early late : ℚ) :
    NearBy (plan.delta start * |late - early|) (plan.blend start early) (plan.blend start late) := by
  intro slot
  have shape : (plan.blend start late).getD slot 0 - (plan.blend start early).getD slot 0 =
      start.getD slot 0 * (early - late) := by
    rw [blend_getD fits, blend_getD fits]
    ring
  rw [shape, abs_mul, abs_sub_comm early late]
  exact mul_le_mul_of_nonneg_right (fits.abs_le slot) (abs_nonneg _)

end Moves

section Durations

/-- The speed that a joint does not exceed on its way to zero. -/
def topSpeed (plan : FixedStandPose text) (start : List ℚ) : ℚ :=
  max standTransition.speedQPerS (plan.delta start / standTransition.maxDurationS)

theorem seconds_pos (plan : FixedStandPose text) (start : List ℚ) : 0 < plan.seconds start := by
  have short : (0 : ℚ) < standTransition.minDurationS := by decide +kernel
  exact lt_min (by decide +kernel) (short.trans_le (le_max_left _ _))

theorem delta_le_seconds (plan : FixedStandPose text) (start : List ℚ) :
    plan.delta start ≤ plan.topSpeed start * plan.seconds start := by
  have speed : (0 : ℚ) < standTransition.speedQPerS := by decide +kernel
  have long : (0 : ℚ) < standTransition.maxDurationS := by decide +kernel
  have fast : standTransition.speedQPerS ≤ plan.topSpeed start := le_max_left _ _
  rw [seconds, mul_min_of_nonneg _ _ (speed.le.trans fast)]
  apply le_min
  · rw [← div_le_iff₀ long]
    exact le_max_right _ _
  · calc plan.delta start = standTransition.speedQPerS * (plan.delta start / standTransition.speedQPerS) :=
          (mul_div_cancel₀ _ speed.ne').symm
      _ ≤ plan.topSpeed start * (plan.delta start / standTransition.speedQPerS) :=
          mul_le_mul_of_nonneg_right fast (div_nonneg (delta_nonneg start) speed.le)
      _ ≤ _ := mul_le_mul_of_nonneg_left (le_max_right _ _) (speed.le.trans fast)

/-- A duration is zero for a small way, and else long enough for the speed. -/
theorem duration_ok (fits : plan.Fits start) : ∃ span, plan.duration start = .ok span ∧
    (span = 0 ∧ plan.delta start ≤ standTransition.smallDeltaSkipThresholdQ ∨
      0 < span ∧ plan.delta start ≤ plan.topSpeed start * span) := by
  refine ⟨_, by rw [duration, fits.check]; rfl, ?_⟩
  by_cases small : plan.delta start ≤ standTransition.smallDeltaSkipThresholdQ
  · rw [if_pos small]
    exact .inl ⟨rfl, small⟩
  · rw [if_neg small]
    exact .inr ⟨seconds_pos plan start, delta_le_seconds plan start⟩

/-- Every pose of the way can be computed and is in range. -/
theorem position_ok (fits : plan.Fits start) (elapsed duration : ℚ) :
    plan.position start elapsed duration = .ok (plan.blend start (alpha elapsed duration)) ∧
      plan.Fits (plan.blend start (alpha elapsed duration)) := by
  obtain ⟨lower, upper⟩ := alpha_mem elapsed duration
  have inside := fits.blend lower upper
  unfold position
  rw [inside.check]
  exact ⟨rfl, inside⟩

/-- The command of a target in range holds the target. -/
theorem command_ok (fits : plan.Fits q) :
    ∃ joints, plan.command q = .ok joints ∧ joints.map PositionTarget.q = q := by
  refine ⟨_, by rw [command, fits.check]; rfl, ?_⟩
  rw [List.map_zipWith]
  apply List.ext_getElem?
  intro slot
  rw [List.getElem?_zipWith]
  cases isValue : q[slot]? with
  | none => cases plan.info.joints[slot]? <;> rfl
  | some value =>
      obtain ⟨joint, isJoint⟩ := fits.joint isValue
      rw [isJoint]
      apply congrArg some
      unfold jointCommand
      cases populated : joint.populated with
      | false => exact (fits.vacant isJoint isValue populated).symm
      | true =>
          obtain ⟨gain, -⟩ := sound (List.mem_of_getElem? isJoint) populated
          obtain ⟨gains, isGain⟩ := Option.isSome_iff_exists.mp gain
          rw [isGain]

end Durations

section Ramps

theorem position_done (fits : plan.Fits start) {elapsed span : ℚ} (positive : 0 ≤ span) (done : span ≤ elapsed) :
    plan.position start elapsed span = .ok zeroPose := by
  rw [(position_ok fits elapsed span).1, alpha_done positive done, blend_done fits]

theorem position_begun (fits : plan.Fits start) {span : ℚ} (positive : 0 < span) :
    plan.position start 0 span = .ok start := by
  rw [(position_ok fits 0 span).1, alpha_begun positive, blend_begun fits]

/-- A small way is a small step of each slot. -/
theorem start_near (fits : plan.Fits start) : NearBy (plan.delta start) start zeroPose := by
  intro slot
  rw [zeroPose_getD, zero_sub, abs_neg]
  exact fits.abs_le slot

theorem topSpeed_pos (plan : FixedStandPose text) (start : List ℚ) : 0 < plan.topSpeed start := by
  have speed : (0 : ℚ) < standTransition.speedQPerS := by decide +kernel
  exact speed.trans_le (le_max_left _ _)

/-- No slot moves faster than the top speed. -/
theorem position_near (fits : plan.Fits start) {span early late : ℚ} {first second : List ℚ} (positive : 0 < span)
    (enough : plan.delta start ≤ plan.topSpeed start * span) (forward : early ≤ late)
    (isFirst : plan.position start early span = .ok first) (isSecond : plan.position start late span = .ok second) :
    NearBy (plan.topSpeed start * (late - early)) first second := by
  rw [(position_ok fits early span).1, Except.ok.injEq] at isFirst
  rw [(position_ok fits late span).1, Except.ok.injEq] at isSecond
  subst isFirst isSecond
  obtain ⟨grows, share⟩ := alpha_grows positive forward
  have travel : plan.delta start * |alpha late span - alpha early span| ≤ plan.topSpeed start * (late - early) := by
    rw [abs_of_nonneg grows]
    calc plan.delta start * (alpha late span - alpha early span)
        ≤ plan.topSpeed start * span * ((late - early) / span) :=
          mul_le_mul enough share grows (mul_nonneg (topSpeed_pos plan start).le positive.le)
      _ = plan.topSpeed start * (late - early) := by field_simp
  exact fun slot => (blend_near fits (alpha early span) (alpha late span) slot).trans travel

end Ramps

end FixedStandPose

section Results

variable {text : Written} {plan : FixedStandPose text} {state : BodyState} {start : List ℚ}

/-- A constructed pose is safe from every state that it measures. Its duration can be computed, and each of its
poses can be computed, is in range and has a command that holds it. The poses end at zero, and they begin at the
measured pose and do not exceed the top speed, or no slot is farther from zero than the skip threshold. -/
theorem stand_pose_safe (measured : plan.measured state = .ok start) :
    ∃ span, plan.duration start = .ok span ∧
      (∀ elapsed, ∃ q joints, plan.position start elapsed span = .ok q ∧ plan.Fits q ∧
        plan.command q = .ok joints ∧ joints.map PositionTarget.q = q) ∧
      (∀ elapsed, span ≤ elapsed → plan.position start elapsed span = .ok zeroPose) ∧
      (span = 0 ∧ NearBy standTransition.smallDeltaSkipThresholdQ start zeroPose ∨
        0 < span ∧ plan.position start 0 span = .ok start ∧
          ∀ early late first second, early ≤ late → plan.position start early span = .ok first →
            plan.position start late span = .ok second →
            NearBy (plan.topSpeed start * (late - early)) first second) := by
  have fits := FixedStandPose.measured_fits measured
  obtain ⟨span, isSpan, lengths⟩ := FixedStandPose.duration_ok fits
  have positive : 0 ≤ span := by
    rcases lengths with ⟨none, -⟩ | ⟨some, -⟩
    · exact none.ge
    · exact some.le
  refine ⟨span, isSpan, fun elapsed => ?_, fun elapsed => FixedStandPose.position_done fits positive, ?_⟩
  · obtain ⟨position, inside⟩ := FixedStandPose.position_ok fits elapsed span
    obtain ⟨joints, command, holds⟩ := FixedStandPose.command_ok inside
    exact ⟨_, joints, position, inside, command, holds⟩
  · rcases lengths with ⟨none, small⟩ | ⟨some, enough⟩
    · exact .inl ⟨none, fun slot => (FixedStandPose.start_near fits slot).trans small⟩
    · exact .inr ⟨some, FixedStandPose.position_begun fits some,
        fun early late first second => FixedStandPose.position_near fits some enough⟩

def standInfo : StandInfo where
  joints := jointGains.map (fun entry => ⟨entry.1, true, 1, .finite (-1), .finite 1⟩) ++
    [⟨"waist_roll_joint", false, 0, .nan, .nan⟩]
  slots := by decide

def standPlan : FixedStandPose fun _ => "" where
  info := standInfo
  unique := by decide +kernel
  clear := by decide +kernel

def standState : BodyState where
  stateId := 1
  attitudeValid := true
  q := List.replicate 31 (.finite (1 / 2))
  dq := List.replicate 31 (.finite 0)
  errorCode := List.replicate 31 0
  velocities := by rw [List.length_replicate, List.length_replicate]
  errors := by rw [List.length_replicate, List.length_replicate]

/-- A body with half a radian on each of its thirty motors ramps to zero. -/
theorem stand_pose_safe_half : ∃ start span, standPlan.measured standState = .ok start ∧
    standPlan.duration start = .ok span ∧ standPlan.position start span span = .ok zeroPose := by
  have measured : standPlan.measured standState = .ok (List.replicate 30 (1 / 2) ++ [0]) := by decide +kernel
  obtain ⟨span, isSpan, -, done, -⟩ := stand_pose_safe measured
  exact ⟨_, span, measured, isSpan, done span (le_refl span)⟩

end Results

end HumanoidSdk.Demo
