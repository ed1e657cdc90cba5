import Mathlib.Data.List.Induction
import Mathlib.Algebra.Order.Group.Pointwise.Interval
import HumanoidSdk.Foundation.Approach
import HumanoidSdk.Value.Arithmetic

/-
This file translates JoyCommand of examples/teleop_policy/teleop_policy.py over an ordered field, whose
arithmetic is exact.
-/

namespace HumanoidSdk.Demo
open Foundation

/-- The three velocities by their keys. -/
inductive Axis where
  | vx
  | vy
  | wz
  deriving DecidableEq

def Axis.isYaw : Axis → Bool
  | .wz => true
  | _ => false

structure Smoothing (R : Type) where
  enabled : Bool
  accelLimitXy : R
  decelLimitXy : R
  accelLimitWz : R
  decelLimitWz : R
  lpfAlpha : R

structure HeightSmoothing (R : Type) where
  enabled : Bool
  downRateMS : R
  upRateMS : R
  lpfAlpha : R

/-- The entry `command` of a contract. -/
structure CommandConfig (R : Type) where
  joyAxis : Axis → ℤ
  joyAxisHeight : ℤ
  range : Axis → R × R
  heightRange : R × R
  heightDefault : R
  deadband : R
  smoothing : Smoothing R
  heightSmoothing : HeightSmoothing R

structure JoyContract (R : Type) where
  command : CommandConfig R
  inferenceFrequencyHz : R

structure JoyCommand (R : Type) where
  config : CommandConfig R
  dt : R
  velocity : Axis → R
  height : Option R

variable {R : Type} [Field R] [LinearOrder R]

/-- A number that is not finite has no value. -/
def finite (values : List (Option R)) : Except Raised (List R) :=
  match values.mapM id with
  | some values => .ok values
  | none => .error (.valueError "policy input/output contains a nonfinite value")

namespace CommandConfig

variable (config : CommandConfig R) (axes : List R) (axis : Axis)

/-- The expression `axes[i] if 0 <= i < len(axes)`. -/
def axisAt (i : ℤ) : Option R := if 0 ≤ i then axes[i.toNat]? else none

/-- The velocity that the axes ask for. -/
def target : R :=
  let v := (axisAt axes (config.joyAxis axis)).getD 0
  let (lo, hi) := config.range axis
  clamp (if |v| < config.deadband then 0 else v * (if 0 ≤ v then hi else -lo)) lo hi

/-- The limit of one velocity on its way from an old value to a target. -/
def limitOf (old target : R) : R :=
  let s := config.smoothing
  if |target| < |old| ∨ target * old < 0 then if axis.isYaw then s.decelLimitWz else s.decelLimitXy
  else if axis.isYaw then s.accelLimitWz else s.accelLimitXy

/-- The height that the axes ask for. -/
def heightTarget : R :=
  let (lo, hi) := config.heightRange
  clamp ((axisAt axes config.joyAxisHeight).elim config.heightDefault fun v => lo + (v * (1 / 2) + 1 / 2) * (hi - lo))
    lo hi

def rateOf (old target : R) : R :=
  if target < old then config.heightSmoothing.downRateMS else config.heightSmoothing.upRateMS

end CommandConfig

namespace JoyCommand

/-- The constructor divides by the frequency. -/
def new (contract : JoyContract R) : Option (JoyCommand R) :=
  if contract.inferenceFrequencyHz = 0 then none
  else some ⟨contract.command, 1 / contract.inferenceFrequencyHz, fun _ => 0, none⟩

variable (joy : JoyCommand R)

def nextVelocity (axes : List R) (axis : Axis) : R :=
  let target := joy.config.target axes axis
  let old := joy.velocity axis
  if joy.config.smoothing.enabled then
    approach old target joy.config.smoothing.lpfAlpha (joy.config.limitOf axis old target * joy.dt)
  else target

def nextHeight (axes : List R) : R :=
  let target := joy.config.heightTarget axes
  match joy.height with
  | none => target
  | some old =>
      if joy.config.heightSmoothing.enabled then
        approach old target joy.config.heightSmoothing.lpfAlpha (joy.config.rateOf old target * joy.dt)
      else target

/-- The command after one step. -/
def moved (axes : List R) : JoyCommand R :=
  { joy with velocity := joy.nextVelocity axes, height := some (joy.nextHeight axes) }

/-- A step that raises leaves the command as it was. -/
def step (axes : List (Option R)) : Except Raised (List R) × JoyCommand R :=
  match finite axes with
  | .error raised => (.error raised, joy)
  | .ok axes =>
      let next := joy.moved axes
      (.ok [next.velocity .vx, next.velocity .vy, next.velocity .wz, joy.nextHeight axes], next)

/-- The command after steps with finite axes. -/
def feed (inputs : List (List R)) : JoyCommand R :=
  inputs.foldl (fun joy axes => (joy.step (axes.map some)).2) joy

end JoyCommand

/-- A contract with smoothing, filters that do not overshoot, and ranges around rest. -/
structure Limited (contract : JoyContract R) : Prop where
  smoothed : contract.command.smoothing.enabled = true
  heightSmoothed : contract.command.heightSmoothing.enabled = true
  filtered : 0 < contract.command.smoothing.lpfAlpha ∧ contract.command.smoothing.lpfAlpha ≤ 1
  heightFiltered : 0 < contract.command.heightSmoothing.lpfAlpha ∧ contract.command.heightSmoothing.lpfAlpha ≤ 1
  accelXy : 0 ≤ contract.command.smoothing.accelLimitXy
  decelXy : 0 ≤ contract.command.smoothing.decelLimitXy
  accelWz : 0 ≤ contract.command.smoothing.accelLimitWz
  decelWz : 0 ≤ contract.command.smoothing.decelLimitWz
  downRate : 0 ≤ contract.command.heightSmoothing.downRateMS
  upRate : 0 ≤ contract.command.heightSmoothing.upRateMS
  rest : ∀ axis, (contract.command.range axis).1 ≤ 0 ∧ 0 ≤ (contract.command.range axis).2
  heights : contract.command.heightRange.1 ≤ contract.command.heightDefault ∧
    contract.command.heightDefault ≤ contract.command.heightRange.2

omit [Field R] [LinearOrder R] in
theorem finite_some (axes : List R) : finite (axes.map some) = .ok axes := by
  have whole : (axes.map some).mapM id = some axes := by
    induction axes with
    | nil => rfl
    | cons value rest ih =>
        rw [List.map_cons, List.mapM_cons, ih]
        rfl
  rw [finite, whole]

section Limits

variable {contract : JoyContract R} (limited : Limited contract) (axes : List R) (axis : Axis)
include limited

theorem Limited.target_mem : (contract.command.range axis).1 ≤ contract.command.target axes axis ∧
    contract.command.target axes axis ≤ (contract.command.range axis).2 :=
  clamp_mem ((limited.rest axis).1.trans (limited.rest axis).2)

theorem Limited.heightTarget_mem : contract.command.heightRange.1 ≤ contract.command.heightTarget axes ∧
    contract.command.heightTarget axes ≤ contract.command.heightRange.2 :=
  clamp_mem (limited.heights.1.trans limited.heights.2)

theorem Limited.limit_nonneg (old target : R) : 0 ≤ contract.command.limitOf axis old target := by
  unfold CommandConfig.limitOf
  dsimp only
  split
  · split
    · exact limited.decelWz
    · exact limited.decelXy
  · split
    · exact limited.accelWz
    · exact limited.accelXy

theorem Limited.rate_nonneg (old target : R) : 0 ≤ contract.command.rateOf old target := by
  unfold CommandConfig.rateOf
  split
  · exact limited.downRate
  · exact limited.upRate

end Limits

/-- What every step keeps of a command. -/
structure Inside (contract : JoyContract R) (joy : JoyCommand R) : Prop where
  config : joy.config = contract.command
  dt : joy.dt = 1 / contract.inferenceFrequencyHz
  velocity : ∀ axis, (contract.command.range axis).1 ≤ joy.velocity axis ∧
    joy.velocity axis ≤ (contract.command.range axis).2
  height : ∀ old, joy.height = some old →
    contract.command.heightRange.1 ≤ old ∧ old ≤ contract.command.heightRange.2

/-- A new value is near the old one and between it and the target. -/
structure Follows (old target bound new : R) : Prop where
  near : |new - old| ≤ bound
  between : new ∈ Set.uIcc old target

section Steps

variable {contract : JoyContract R} {joy : JoyCommand R} {axes : List R}

theorem new_inside (limited : Limited contract) (made : JoyCommand.new contract = some joy) : Inside contract joy := by
  unfold JoyCommand.new at made
  split at made
  · cases made
  · cases made
    exact ⟨rfl, rfl, limited.rest, by rintro old ⟨⟩⟩

theorem step_some (joy : JoyCommand R) (axes : List R) : joy.step (axes.map some) =
    (.ok [(joy.moved axes).velocity .vx, (joy.moved axes).velocity .vy, (joy.moved axes).velocity .wz,
      joy.nextHeight axes], joy.moved axes) := by
  rw [JoyCommand.step, finite_some]

theorem feed_snoc (joy : JoyCommand R) (inputs : List (List R)) (axes : List R) :
    joy.feed (inputs ++ [axes]) = (joy.feed inputs).moved axes := by
  rw [JoyCommand.feed, List.foldl_append, List.foldl_cons, List.foldl_nil, step_some]
  rfl

theorem height_first (inside : Inside contract joy) (axes : List R) (unknown : joy.height = none) :
    joy.nextHeight axes = contract.command.heightTarget axes := by
  rw [JoyCommand.nextHeight, inside.config, unknown]

variable [IsStrictOrderedRing R]

theorem velocity_follows (limited : Limited contract) (frequency : 0 ≤ contract.inferenceFrequencyHz)
    (inside : Inside contract joy) (axes : List R) (axis : Axis) :
    Follows (joy.velocity axis) (contract.command.target axes axis)
      (contract.command.limitOf axis (joy.velocity axis) (contract.command.target axes axis) *
        (1 / contract.inferenceFrequencyHz)) ((joy.moved axes).velocity axis) := by
  have bound := mul_nonneg (limited.limit_nonneg axis (joy.velocity axis) (contract.command.target axes axis))
    (one_div_nonneg.mpr frequency)
  have same : (joy.moved axes).velocity axis = approach (joy.velocity axis) (contract.command.target axes axis)
      contract.command.smoothing.lpfAlpha (contract.command.limitOf axis (joy.velocity axis)
        (contract.command.target axes axis) * (1 / contract.inferenceFrequencyHz)) := by
    show joy.nextVelocity axes axis = _
    rw [JoyCommand.nextVelocity, inside.config, inside.dt, limited.smoothed]
    rfl
  rw [same]
  exact ⟨approach_limited bound, approach_between limited.filtered.1.le limited.filtered.2 bound⟩

theorem height_follows (limited : Limited contract) (frequency : 0 ≤ contract.inferenceFrequencyHz)
    (inside : Inside contract joy) (axes : List R) {old : R} (known : joy.height = some old) :
    Follows old (contract.command.heightTarget axes)
      (contract.command.rateOf old (contract.command.heightTarget axes) * (1 / contract.inferenceFrequencyHz))
      (joy.nextHeight axes) := by
  have bound := mul_nonneg (limited.rate_nonneg old (contract.command.heightTarget axes))
    (one_div_nonneg.mpr frequency)
  rw [JoyCommand.nextHeight, inside.config, inside.dt, known]
  dsimp only
  rw [if_pos limited.heightSmoothed]
  exact ⟨approach_limited bound, approach_between limited.heightFiltered.1.le limited.heightFiltered.2 bound⟩

/-- One step keeps every value in its range. -/
theorem Inside.moved (limited : Limited contract) (frequency : 0 ≤ contract.inferenceFrequencyHz)
    (inside : Inside contract joy) (axes : List R) : Inside contract (joy.moved axes) := by
  refine ⟨inside.config, inside.dt, fun axis => ?_, fun height known => ?_⟩
  · exact between_mem (velocity_follows limited frequency inside axes axis).between (inside.velocity axis)
      (limited.target_mem axes axis)
  · obtain rfl := Option.some.inj known
    cases old : joy.height with
    | none =>
        rw [height_first inside axes old]
        exact limited.heightTarget_mem axes
    | some old' =>
        exact between_mem (height_follows limited frequency inside axes old).between (inside.height old' old)
          (limited.heightTarget_mem axes)

/-- Every sequence of steps keeps every value in its range. -/
theorem Inside.feed (limited : Limited contract) (frequency : 0 ≤ contract.inferenceFrequencyHz)
    (inside : Inside contract joy) (inputs : List (List R)) : Inside contract (joy.feed inputs) := by
  induction inputs using List.reverseRecOn with
  | nil => exact inside
  | append_singleton inputs axes ih =>
      rw [feed_snoc]
      exact ih.moved limited frequency axes

theorem Follows.distance {old target bound new : R} (follows : Follows old target bound new) :
    |target - new| ≤ |target - old| := Set.abs_sub_right_of_mem_uIcc follows.between

/-- On every sequence of steps each value stays in its range, changes by no more than its limit and moves
toward the target of its step without passing it, and equal axes bring it no further from the target. -/
theorem joy_limited (limited : Limited contract) (frequency : 0 ≤ contract.inferenceFrequencyHz)
    (made : JoyCommand.new contract = some joy) (inputs : List (List R)) (axes : List R) :
    ∃ height, (joy.feed inputs).step (axes.map some) =
        (.ok [(joy.feed (inputs ++ [axes])).velocity .vx, (joy.feed (inputs ++ [axes])).velocity .vy,
          (joy.feed (inputs ++ [axes])).velocity .wz, height], joy.feed (inputs ++ [axes])) ∧
      (joy.feed (inputs ++ [axes])).height = some height ∧
      (∀ axis, (contract.command.range axis).1 ≤ (joy.feed (inputs ++ [axes])).velocity axis ∧
        (joy.feed (inputs ++ [axes])).velocity axis ≤ (contract.command.range axis).2) ∧
      (contract.command.heightRange.1 ≤ height ∧ height ≤ contract.command.heightRange.2) ∧
      (∀ axis, Follows ((joy.feed inputs).velocity axis) (contract.command.target axes axis)
        (contract.command.limitOf axis ((joy.feed inputs).velocity axis) (contract.command.target axes axis) *
          (1 / contract.inferenceFrequencyHz)) ((joy.feed (inputs ++ [axes])).velocity axis)) ∧
      ((joy.feed inputs).height = none → height = contract.command.heightTarget axes) ∧
      (∀ old, (joy.feed inputs).height = some old → Follows old (contract.command.heightTarget axes)
        (contract.command.rateOf old (contract.command.heightTarget axes) *
          (1 / contract.inferenceFrequencyHz)) height) ∧
      (∀ axis, Antitone fun count => |contract.command.target axes axis -
        (joy.feed (inputs ++ List.replicate count axes)).velocity axis|) ∧
      Antitone fun count => |contract.command.heightTarget axes -
        ((joy.feed (inputs ++ List.replicate (count + 1) axes)).height).getD 0| := by
  have inside (inputs : List (List R)) : Inside contract (joy.feed inputs) :=
    (new_inside limited made).feed limited frequency inputs
  have again (count : ℕ) : joy.feed (inputs ++ List.replicate (count + 1) axes) =
      (joy.feed (inputs ++ List.replicate count axes)).moved axes := by
    rw [List.replicate_succ', ← List.append_assoc, feed_snoc]
  refine ⟨(joy.feed inputs).nextHeight axes, ?_, ?_, (inside _).velocity, ?_, fun axis => ?_, ?_, ?_, ?_, ?_⟩
  · rw [step_some, feed_snoc]
  · rw [feed_snoc]
    rfl
  · refine (inside (inputs ++ [axes])).height _ ?_
    rw [feed_snoc]
    rfl
  · rw [feed_snoc]
    exact velocity_follows limited frequency (inside inputs) axes axis
  · exact height_first (inside inputs) axes
  · intro old known
    exact height_follows limited frequency (inside inputs) axes known
  · intro axis
    refine antitone_nat_of_succ_le fun count => ?_
    rw [again]
    exact (velocity_follows limited frequency (inside _) axes axis).distance
  · refine antitone_nat_of_succ_le fun count => ?_
    have known : (joy.feed (inputs ++ List.replicate (count + 1) axes)).height =
        some ((joy.feed (inputs ++ List.replicate count axes)).nextHeight axes) := by
      rw [again]
      rfl
    rw [again (count + 1), known]
    exact (height_follows limited frequency (inside _) axes known).distance

end Steps

/-- The entry `command` of the example's contract. -/
def action17Command : CommandConfig ℚ where
  joyAxis
    | .vx => 1
    | .vy => 0
    | .wz => 3
  joyAxisHeight := -1
  range
    | .vx => (-0.4, 0.6)
    | .vy => (-0.5, 0.5)
    | .wz => (-0.8, 0.8)
  heightRange := (0.375, 0.855)
  heightDefault := 0.855
  deadband := 0.05
  smoothing := ⟨true, 1, 2, 1.3, 2.6, 0.4⟩
  heightSmoothing := ⟨true, 0.25, 0.15, 1⟩

theorem action17_limited (frequency : ℚ) : Limited ⟨action17Command, frequency⟩ where
  smoothed := rfl
  heightSmoothed := rfl
  filtered := show 0 < action17Command.smoothing.lpfAlpha ∧ action17Command.smoothing.lpfAlpha ≤ 1 by decide +kernel
  heightFiltered := show 0 < action17Command.heightSmoothing.lpfAlpha ∧
    action17Command.heightSmoothing.lpfAlpha ≤ 1 by decide +kernel
  accelXy := show 0 ≤ action17Command.smoothing.accelLimitXy by decide +kernel
  decelXy := show 0 ≤ action17Command.smoothing.decelLimitXy by decide +kernel
  accelWz := show 0 ≤ action17Command.smoothing.accelLimitWz by decide +kernel
  decelWz := show 0 ≤ action17Command.smoothing.decelLimitWz by decide +kernel
  downRate := show 0 ≤ action17Command.heightSmoothing.downRateMS by decide +kernel
  upRate := show 0 ≤ action17Command.heightSmoothing.upRateMS by decide +kernel
  rest axis := by
    show (action17Command.range axis).1 ≤ 0 ∧ 0 ≤ (action17Command.range axis).2
    cases axis <;> decide +kernel
  heights := show action17Command.heightRange.1 ≤ action17Command.heightDefault ∧
    action17Command.heightDefault ≤ action17Command.heightRange.2 by decide +kernel

/-- A push forward, a turn with it, a released stick and a push back to the side. -/
def stickMoves : List (List ℚ) := [[0, 1], [0, 1, 0, -1], [], [-1, -1]]

/-- At 50 Hz the robot gathers speed, brakes and goes backward, and the next push to the other side keeps to
its limits. -/
theorem joy_limited_action17 : ∃ joy, JoyCommand.new ⟨action17Command, 50⟩ = some joy ∧
    (List.range 5).map (fun count => (joy.feed (stickMoves.take count)).velocity .vx) =
      [0, 1 / 50, 1 / 25, 3 / 125, -2 / 125] ∧
    (∀ axis, (action17Command.range axis).1 ≤ (joy.feed (stickMoves ++ [[0.5]])).velocity axis ∧
      (joy.feed (stickMoves ++ [[0.5]])).velocity axis ≤ (action17Command.range axis).2) ∧
    |(joy.feed (stickMoves ++ [[0.5]])).velocity .vy - (joy.feed stickMoves).velocity .vy| ≤ 2 * (1 / 50) ∧
    Antitone fun count => |action17Command.target [0.5] .vy -
      (joy.feed (stickMoves ++ List.replicate count [0.5])).velocity .vy| := by
  have made : JoyCommand.new ⟨action17Command, 50⟩ = some ⟨action17Command, 1 / 50, fun _ => 0, none⟩ := rfl
  obtain ⟨height, _, _, inside, _, follows, _, _, nearer, _⟩ :=
    joy_limited (action17_limited 50) (by decide +kernel) made stickMoves [0.5]
  exact ⟨_, made, by decide +kernel, inside, (follows .vy).near.trans (by decide +kernel), nearer .vy⟩

/-- A contract with a negative frequency passes, and its commands run away from their target. -/
theorem joy_unlimited_backward : Limited ⟨action17Command, -50⟩ ∧
    ∃ joy, JoyCommand.new ⟨action17Command, -50⟩ = some joy ∧
      action17Command.target [0, 1] .vx = 0.6 ∧
      (joy.feed [[0, 1]]).velocity .vx = -0.02 ∧ (joy.feed (List.replicate 12 [0, 1])).velocity .vx < -0.4 := by
  refine ⟨action17_limited (-50), _, rfl, ?_, ?_, ?_⟩
  · decide +kernel
  · decide +kernel
  · decide +kernel

end HumanoidSdk.Demo
