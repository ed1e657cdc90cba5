import Mathlib.Algebra.Order.Floor.Defs
import Mathlib.Data.List.MinMax
import Mathlib.Data.Rat.Floor
import Mathlib.Tactic.FieldSimp
import Mathlib.Tactic.Linarith
import Mathlib.Tactic.NormNum
import HumanoidSdk.Demo.Body
import HumanoidSdk.Foundation.Slew

/-
This file translates the trajectory of examples/external_control/external_control.py: from the measured
pose to zero and from there to a return pose. Numbers are exact.
-/

namespace HumanoidSdk.Demo
open Foundation

def MAX_PEAK_SPEED_RAD_S : ℚ := 0.10

def MIN_SEGMENT_DURATION_S : ℚ := 2

def ENDPOINT_SETTLE_S : ℚ := 0.5

def ZERO_ENDPOINT_POSITION_TOLERANCE_RAD : ℚ := 0.08

def RETURN_ENDPOINT_POSITION_TOLERANCE_RAD : ℚ := 0.05

/-- The single `math.radians(10.0)` of the source. -/
def ELBOW_RETURN_OFFSET_RAD : ℚ := 0.17453292519943295

def DEMO_KP : List ℚ :=
  [100, 100, 60, 150, 80, 40, 100, 100, 60, 150, 80, 40, 80, 80, 0, 80, 40, 40, 80, 60, 60, 80, 80, 40, 40, 80, 60,
    60, 80, 20, 20]

def FIXED_STAND_KD : List ℚ :=
  [3, 3, 2, 4, 2, 1, 3, 3, 2, 4, 2, 1, 2, 2, 0, 2, 1, 1, 1, 3, 3, 4, 2, 1, 1, 1, 3, 3, 4, 1, 1]

/-- A joint command of the demo, with no speed and no torque. -/
structure PositionTarget where
  q : ℚ
  kp : ℚ
  kd : ℚ
  deriving DecidableEq

/-- What `_position_command` puts into its command. -/
def positionCommand (q : List ℚ) : Except Failure (List PositionTarget) :=
  if q.length ≠ COMMAND_SLOTS then .error (.valueError "position command must contain 31 slots")
  else .ok (List.zipWith (fun position gains => ⟨position, gains.1, gains.2⟩) q (DEMO_KP.zip FIXED_STAND_KD))

/-- The value of a reading that a check has found finite. -/
def Reading.value : Reading → ℚ
  | .finite value => value
  | _ => 0

/-- The variable `start_q`. -/
def startPose (info : BodyInfo) (state : BodyState) : List ℚ :=
  List.zipWith (fun reading populated => if populated then reading.value else 0) state.q info.populated

def zeroPose : List ℚ := List.replicate COMMAND_SLOTS 0

/-- The return target of an elbow, ten degrees closer to zero. -/
def elbowReturn (q : ℚ) : ℚ :=
  let size := max (|q| - ELBOW_RETURN_OFFSET_RAD) 0
  if q < 0 then -size else size

/-- The variable `return_q`. -/
def returnPose (start : List ℚ) : List ℚ :=
  start.mapIdx fun slot q => if slot = 18 ∨ slot = 25 then elbowReturn q else q

/-- The longest way of a slot. -/
def displacement (start : List ℚ) : ℚ := (start.map abs).foldr max 0

def segmentSteps (start : List ℚ) : ℕ :=
  ⌈max MIN_SEGMENT_DURATION_S (1.5 * displacement start / MAX_PEAK_SPEED_RAD_S) / PERIOD_S⌉.toNat

/-- One pose of a segment. -/
def segmentPose (start target : List ℚ) (steps step : ℕ) : List ℚ :=
  List.zipWith (fun start target => ease start target (step / steps)) start target

def segment (start target : List ℚ) (steps : ℕ) : List (List ℚ) :=
  (List.range steps).map fun step => segmentPose start target steps (step + 1)

def dwellSamples : ℕ := ⌈DWELL_S / PERIOD_S⌉.toNat

/-- All poses that the demo wants to publish. -/
def poses (start : List ℚ) : List (List ℚ) :=
  start :: (segment start zeroPose (segmentSteps start) ++ List.replicate dwellSamples zeroPose ++
    (segment zeroPose (returnPose start) (segmentSteps start) ++ List.replicate dwellSamples (returnPose start)))

section Segments

variable {start target : List ℚ} {steps : ℕ}

/-- One slot of a pose of a segment. -/
theorem segmentPose_getD (same : start.length = target.length) (step slot : ℕ) :
    (segmentPose start target steps step).getD slot 0 =
      ease (start.getD slot 0) (target.getD slot 0) (step / steps) := by
  simp only [segmentPose, List.getD_eq_getElem?_getD, List.getElem?_zipWith]
  by_cases inside : slot < start.length
  · rw [List.getElem?_eq_getElem inside, List.getElem?_eq_getElem (same ▸ inside)]
    rfl
  · rw [List.getElem?_eq_none (not_lt.mp inside), List.getElem?_eq_none (same ▸ not_lt.mp inside)]
    show (0 : ℚ) = ease 0 0 _
    rw [ease, sub_zero, zero_mul, add_zero]

theorem segmentPose_zero (same : start.length = target.length) : segmentPose start target steps 0 = start := by
  rw [segmentPose, Nat.cast_zero, zero_div]
  apply List.ext_getElem
  · rw [List.length_zipWith, same, min_self]
  · intro slot inside _
    rw [List.getElem_zipWith, ease_zero]

theorem segmentPose_last (same : start.length = target.length) (positive : 0 < steps) :
    segmentPose start target steps steps = target := by
  have one : (steps : ℚ) / steps = 1 := div_self (Nat.cast_ne_zero.mpr positive.ne')
  rw [segmentPose, one]
  apply List.ext_getElem
  · rw [List.length_zipWith, same, min_self]
  · intro slot inside _
    rw [List.getElem_zipWith, ease_one]

/-- Neighbouring poses of a segment with enough steps. -/
theorem segmentPose_near {bound : ℚ} (same : start.length = target.length)
    (enough : ∀ slot, |target.getD slot 0 - start.getD slot 0| * (3 / 2) ≤ steps * bound) {step : ℕ}
    (inside : step < steps) :
    NearBy bound (segmentPose start target steps step) (segmentPose start target steps (step + 1)) := by
  intro slot
  have positive : (0 : ℚ) < steps := by exact_mod_cast (Nat.zero_le step).trans_lt inside
  have lower : (0 : ℚ) ≤ step / steps := div_nonneg (Nat.cast_nonneg _) positive.le
  have upper : (step : ℚ) / steps ≤ (step + 1 : ℕ) / steps := by
    apply div_le_div_of_nonneg_right _ positive.le
    exact_mod_cast Nat.le_succ step
  have top : ((step + 1 : ℕ) : ℚ) / steps ≤ 1 := by
    rw [div_le_one positive]
    exact_mod_cast inside
  have share : ((step + 1 : ℕ) : ℚ) / steps - step / steps = 1 / steps := by
    push_cast
    ring
  rw [segmentPose_getD same, segmentPose_getD same]
  calc |ease (start.getD slot 0) (target.getD slot 0) ((step + 1 : ℕ) / steps) -
        ease (start.getD slot 0) (target.getD slot 0) (step / steps)|
      ≤ |target.getD slot 0 - start.getD slot 0| * (3 / 2 * (1 / steps)) := by
        rw [← share]
        exact ease_moves _ _ lower upper top
    _ = |target.getD slot 0 - start.getD slot 0| * (3 / 2) / steps := by ring
    _ ≤ bound := by
        rw [div_le_iff₀ positive, mul_comm bound]
        exact enough slot

/-- A segment leads from its start to its target. -/
theorem segment_leads {bound : ℚ} (same : start.length = target.length) (positive : 0 < steps)
    (enough : ∀ slot, |target.getD slot 0 - start.getD slot 0| * (3 / 2) ≤ steps * bound) :
    Leads (NearBy bound) start (segment start target steps) target := by
  have leads : Leads (NearBy bound) (segmentPose start target steps 0) (segment start target steps)
      (segmentPose start target steps steps) :=
    leads_range _ fun step inside => segmentPose_near same enough inside
  rw [segmentPose_zero same, segmentPose_last same positive] at leads
  exact leads

end Segments

section Poses

variable {start : List ℚ}

theorem zeroPose_getD (slot : ℕ) : zeroPose.getD slot 0 = 0 := by
  rw [zeroPose, List.getD_eq_getElem?_getD, List.getElem?_replicate]
  split
  · rfl
  · rfl

theorem zeroPose_length : zeroPose.length = COMMAND_SLOTS := List.length_replicate

theorem returnPose_length : (returnPose start).length = start.length := List.length_mapIdx

theorem displacement_nonneg (start : List ℚ) : 0 ≤ displacement start := by
  unfold displacement
  induction start with
  | nil => exact le_refl 0
  | cons q rest ih => exact ih.trans (le_max_right _ _)

/-- No slot is farther from zero than the displacement. -/
theorem abs_le_displacement (start : List ℚ) (slot : ℕ) : |start.getD slot 0| ≤ displacement start := by
  rw [List.getD_eq_getElem?_getD]
  cases found : start[slot]? with
  | none =>
      rw [Option.getD_none, abs_zero]
      exact displacement_nonneg start
  | some q =>
      apply List.le_max_of_le' _ _ (le_refl _)
      exact List.mem_map_of_mem (List.mem_of_getElem? found)

theorem duration_le_steps (start : List ℚ) :
    max MIN_SEGMENT_DURATION_S (1.5 * displacement start / MAX_PEAK_SPEED_RAD_S) ≤ segmentSteps start * PERIOD_S := by
  have period : (0 : ℚ) < PERIOD_S := by decide +kernel
  rw [← div_le_iff₀ period]
  refine (Int.le_ceil _).trans ?_
  exact_mod_cast Int.self_le_toNat _

/-- The steps of a segment are enough for the peak speed. -/
theorem segmentSteps_enough (start : List ℚ) :
    displacement start * (3 / 2) ≤ segmentSteps start * (MAX_PEAK_SPEED_RAD_S * PERIOD_S) := by
  have speed : (0 : ℚ) < MAX_PEAK_SPEED_RAD_S := by decide +kernel
  have enough := (le_max_right _ _).trans (duration_le_steps start)
  rw [div_le_iff₀ speed] at enough
  linarith

theorem segmentSteps_pos (start : List ℚ) : 0 < segmentSteps start := by
  have long : MIN_SEGMENT_DURATION_S ≤ segmentSteps start * PERIOD_S :=
    (le_max_left _ _).trans (duration_le_steps start)
  rcases Nat.eq_zero_or_pos (segmentSteps start) with none | positive
  · rw [none, Nat.cast_zero, zero_mul] at long
    exact absurd long (by decide +kernel)
  · exact positive

/-- The return target of an elbow is on the way from zero to where the elbow was. -/
theorem elbowReturn_part (q : ℚ) : ∃ part, 0 ≤ part ∧ part ≤ 1 ∧ elbowReturn q = part * q := by
  have offset : (0 : ℚ) ≤ ELBOW_RETURN_OFFSET_RAD := by decide +kernel
  have small : max (|q| - ELBOW_RETURN_OFFSET_RAD) 0 ≤ |q| := max_le (by linarith) (abs_nonneg q)
  refine ⟨max (|q| - ELBOW_RETURN_OFFSET_RAD) 0 / |q|, div_nonneg (le_max_right _ _) (abs_nonneg q),
    div_le_one_of_le₀ small (abs_nonneg q), ?_⟩
  unfold elbowReturn
  dsimp only
  split
  · rename_i negative
    have nonzero := negative.ne
    rw [abs_of_neg negative]
    field_simp
  · rename_i nonneg
    rcases (not_lt.mp nonneg).eq_or_lt with rfl | positive
    · rw [mul_zero, abs_zero, zero_sub]
      exact max_eq_right (neg_nonpos.mpr offset)
    · have nonzero := positive.ne'
      rw [abs_of_pos positive]
      field_simp

/-- Every slot is a part of the way from zero to the start. -/
def Within (start q : List ℚ) : Prop :=
  ∀ slot : ℕ, ∃ part, 0 ≤ part ∧ part ≤ 1 ∧ q.getD slot 0 = part * start.getD slot 0

theorem returnPose_within (start : List ℚ) : Within start (returnPose start) := by
  intro slot
  simp only [returnPose, List.getD_eq_getElem?_getD, List.getElem?_mapIdx]
  cases found : start[slot]? with
  | none => exact ⟨0, le_refl 0, zero_le_one, by simp⟩
  | some q =>
      show ∃ part, 0 ≤ part ∧ part ≤ 1 ∧ (if slot = 18 ∨ slot = 25 then elbowReturn q else q) = part * q
      split
      · exact elbowReturn_part q
      · exact ⟨1, zero_le_one, le_refl 1, (one_mul q).symm⟩

theorem Within.abs_le {start q : List ℚ} (within : Within start q) (slot : ℕ) :
    |q.getD slot 0| ≤ displacement start := by
  obtain ⟨part, lower, upper, same⟩ := within slot
  calc |q.getD slot 0| = part * |start.getD slot 0| := by rw [same, abs_mul, abs_of_nonneg lower]
    _ ≤ |start.getD slot 0| := mul_le_of_le_one_left (abs_nonneg _) upper
    _ ≤ displacement start := abs_le_displacement start slot

theorem within_start (start : List ℚ) : Within start start := by
  intro slot
  exact ⟨1, zero_le_one, le_refl 1, (one_mul _).symm⟩

theorem within_zero (start : List ℚ) : Within start zeroPose := by
  intro slot
  exact ⟨0, le_refl 0, zero_le_one, by rw [zeroPose_getD, zero_mul]⟩

/-- The share of a step of a segment. -/
theorem smoothstep_share {step steps : ℕ} (inside : step < steps) :
    0 ≤ smoothstep ((step + 1 : ℕ) / steps : ℚ) ∧ smoothstep ((step + 1 : ℕ) / steps : ℚ) ≤ 1 := by
  have positive : (0 : ℚ) < steps := by exact_mod_cast (Nat.zero_le step).trans_lt inside
  apply smoothstep_mem
  · exact div_nonneg (Nat.cast_nonneg _) positive.le
  · rw [div_le_one positive]
    exact_mod_cast inside

/-- Every pose is, slot by slot, on the way between zero and the start. -/
theorem poses_within (full : start.length = COMMAND_SLOTS) {q : List ℚ} (planned : q ∈ poses start) : Within start q := by
  have first : start.length = zeroPose.length := full.trans zeroPose_length.symm
  have second : zeroPose.length = (returnPose start).length := by rw [returnPose_length, first]
  simp only [poses, segment, List.mem_cons, List.mem_append, List.mem_map, List.mem_range,
    List.mem_replicate] at planned
  rcases planned with rfl | (⟨step, inside, rfl⟩ | ⟨-, rfl⟩) | ⟨step, inside, rfl⟩ | ⟨-, rfl⟩
  · exact within_start q
  · intro slot
    obtain ⟨lower, upper⟩ := smoothstep_share inside
    refine ⟨1 - smoothstep ((step + 1 : ℕ) / segmentSteps start : ℚ), by linarith, by linarith, ?_⟩
    rw [segmentPose_getD first, zeroPose_getD, ease]
    ring
  · exact within_zero start
  · intro slot
    obtain ⟨lower, upper⟩ := smoothstep_share inside
    obtain ⟨part, above, below, same⟩ := returnPose_within start slot
    refine ⟨smoothstep ((step + 1 : ℕ) / segmentSteps start : ℚ) * part, mul_nonneg lower above,
      mul_le_one₀ upper above below, ?_⟩
    rw [segmentPose_getD second, zeroPose_getD, same, ease]
    ring
  · exact returnPose_within start

/-- Neighbouring poses are near each other. -/
theorem poses_near (full : start.length = COMMAND_SLOTS) :
    (poses start).IsChain (NearBy (MAX_PEAK_SPEED_RAD_S * PERIOD_S)) := by
  have first : start.length = zeroPose.length := full.trans zeroPose_length.symm
  have second : zeroPose.length = (returnPose start).length := by rw [returnPose_length, first]
  have resting (q : List ℚ) : NearBy (MAX_PEAK_SPEED_RAD_S * PERIOD_S) q q := by
    intro slot
    rw [sub_self, abs_zero]
    decide +kernel
  have enough (way : ℚ) (short : |way| ≤ displacement start) :
      |way| * (3 / 2) ≤ segmentSteps start * (MAX_PEAK_SPEED_RAD_S * PERIOD_S) := by
    calc |way| * (3 / 2) ≤ displacement start * (3 / 2) := mul_le_mul_of_nonneg_right short (by norm_num)
      _ ≤ segmentSteps start * (MAX_PEAK_SPEED_RAD_S * PERIOD_S) := segmentSteps_enough start
  have down : Leads (NearBy (MAX_PEAK_SPEED_RAD_S * PERIOD_S)) start
      (segment start zeroPose (segmentSteps start)) zeroPose := by
    apply segment_leads first (segmentSteps_pos start)
    intro slot
    apply enough
    rw [zeroPose_getD, zero_sub, abs_neg]
    exact abs_le_displacement start slot
  have up : Leads (NearBy (MAX_PEAK_SPEED_RAD_S * PERIOD_S)) zeroPose
      (segment zeroPose (returnPose start) (segmentSteps start)) (returnPose start) := by
    apply segment_leads second (segmentSteps_pos start)
    intro slot
    apply enough
    rw [zeroPose_getD, sub_zero]
    exact (returnPose_within start).abs_le slot
  have whole := (down.append (leads_replicate (resting zeroPose) dwellSamples)).append
    (up.append (leads_replicate (resting (returnPose start)) dwellSamples))
  exact whole.1

end Poses

end HumanoidSdk.Demo
