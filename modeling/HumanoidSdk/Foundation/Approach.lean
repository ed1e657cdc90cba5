import Mathlib.Algebra.Order.Field.Basic
import Mathlib.Algebra.Order.Group.MinMax
import Mathlib.Order.Interval.Set.UnorderedInterval
import Mathlib.Tactic.Linarith

namespace HumanoidSdk.Foundation

/-- The value of an interval that is nearest to a given one. -/
def clamp {R : Type*} [LinearOrder R] (value low high : R) : R := min high (max low value)

section Clamp

variable {R : Type*} [LinearOrder R] {value low high : R}

theorem clamp_mem (ordered : low ≤ high) : low ≤ clamp value low high ∧ clamp value low high ≤ high :=
  ⟨le_min ordered (le_max_left low value), min_le_left high _⟩

/-- A value inside of the interval stays. -/
theorem clamp_eq (above : low ≤ value) (below : value ≤ high) : clamp value low high = value := by
  rw [clamp, max_eq_right above, min_eq_right below]

/-- What lies between two values of an interval is in the interval. -/
theorem between_mem {old target : R} (between : value ∈ Set.uIcc old target)
    (oldInside : low ≤ old ∧ old ≤ high) (targetInside : low ≤ target ∧ target ≤ high) :
    low ≤ value ∧ value ≤ high := by
  obtain ⟨lower, upper⟩ := between
  exact ⟨(le_min oldInside.1 targetInside.1).trans lower, upper.trans (max_le oldInside.2 targetInside.2)⟩

/-- Clamping brings no two values further apart. -/
theorem clamp_nonexpansive {R : Type*} [AddCommGroup R] [LinearOrder R] [IsOrderedAddMonoid R]
    (first second low high : R) : |clamp first low high - clamp second low high| ≤ |first - second| := by
  calc |clamp first low high - clamp second low high|
      ≤ max |high - high| |max low first - max low second| := abs_min_sub_min_le_max _ _ _ _
    _ = |max low first - max low second| := by
      rw [sub_self, abs_zero, max_eq_right (abs_nonneg _)]
    _ ≤ max |low - low| |first - second| := abs_max_sub_max_le_max _ _ _ _
    _ = |first - second| := by
      rw [sub_self, abs_zero, max_eq_right (abs_nonneg _)]

end Clamp

section Approach

variable {R : Type*} [Field R] [LinearOrder R] [IsStrictOrderedRing R] {old target gain limit : R}

/-- A part of the way to a target, cut off at a limit. -/
def approach (old target gain limit : R) : R := old + clamp (gain * (target - old)) (-limit) limit

/-- The step is no longer than the limit. -/
theorem approach_limited (nonneg : 0 ≤ limit) : |approach old target gain limit - old| ≤ limit := by
  rw [approach, add_sub_cancel_left]
  exact abs_le.mpr (clamp_mem (by linarith))

/-- A step up ends between the old value and the target. -/
theorem approach_up (positive : 0 ≤ gain) (portion : gain ≤ 1) (nonneg : 0 ≤ limit) (up : old ≤ target) :
    old ≤ approach old target gain limit ∧ approach old target gain limit ≤ target := by
  have rise : 0 ≤ target - old := sub_nonneg.mpr up
  have forward : 0 ≤ gain * (target - old) := mul_nonneg positive rise
  have short : gain * (target - old) ≤ target - old := mul_le_of_le_one_left rise portion
  have lower : 0 ≤ clamp (gain * (target - old)) (-limit) limit :=
    le_min nonneg (le_max_of_le_right forward)
  have upper : clamp (gain * (target - old)) (-limit) limit ≤ target - old :=
    (min_le_right _ _).trans (max_le (by linarith) short)
  constructor
  · exact le_add_of_nonneg_right lower
  · rw [approach]
    linarith

/-- A step down ends between the target and the old value. -/
theorem approach_down (positive : 0 ≤ gain) (portion : gain ≤ 1) (nonneg : 0 ≤ limit) (down : target ≤ old) :
    target ≤ approach old target gain limit ∧ approach old target gain limit ≤ old := by
  have drop : target - old ≤ 0 := sub_nonpos.mpr down
  have backward : gain * (target - old) ≤ 0 := mul_nonpos_of_nonneg_of_nonpos positive drop
  have short : target - old ≤ gain * (target - old) := by nlinarith
  have upper : clamp (gain * (target - old)) (-limit) limit ≤ 0 :=
    (min_le_right _ _).trans (max_le (by linarith) backward)
  have lower : target - old ≤ clamp (gain * (target - old)) (-limit) limit :=
    le_min (by linarith) (short.trans (le_max_right _ _))
  constructor
  · rw [approach]
    linarith
  · exact add_le_of_nonpos_right upper

/-- A step moves toward the target and does not pass it. -/
theorem approach_between (positive : 0 ≤ gain) (portion : gain ≤ 1) (nonneg : 0 ≤ limit) :
    approach old target gain limit ∈ Set.uIcc old target := by
  rcases le_total old target with up | down
  · exact Set.mem_uIcc_of_le (approach_up positive portion nonneg up).1
      (approach_up positive portion nonneg up).2
  · exact Set.mem_uIcc_of_ge (approach_down positive portion nonneg down).1
      (approach_down positive portion nonneg down).2

end Approach

end HumanoidSdk.Foundation
