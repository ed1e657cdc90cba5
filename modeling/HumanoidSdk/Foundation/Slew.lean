import Mathlib.Algebra.Order.Field.Basic
import Mathlib.Data.List.Chain
import Mathlib.Tactic.Linarith
import Mathlib.Tactic.Ring

namespace HumanoidSdk.Foundation

section Smoothstep

variable {R : Type*} [Field R] {u v : R}

/-- The cubic that starts and ends at rest. -/
def smoothstep (u : R) : R := u * u * (3 - 2 • u)

@[simp] theorem smoothstep_zero : smoothstep (0 : R) = 0 := by
  rw [smoothstep, zero_mul, zero_mul]

@[simp] theorem smoothstep_one : smoothstep (1 : R) = 1 := by
  unfold smoothstep
  ring

/-- A point on the way between two positions. -/
def ease (start target u : R) : R := start + (target - start) * smoothstep u

theorem ease_zero (start target : R) : ease start target 0 = start := by
  rw [ease, smoothstep_zero, mul_zero, add_zero]

theorem ease_one (start target : R) : ease start target 1 = target := by
  rw [ease, smoothstep_one, mul_one, add_sub_cancel]

variable [LinearOrder R] [IsStrictOrderedRing R]

theorem smoothstep_mem (lower : 0 ≤ u) (upper : u ≤ 1) : 0 ≤ smoothstep u ∧ smoothstep u ≤ 1 := by
  constructor
  · have room : 0 ≤ 3 - 2 • u := by
      rw [two_nsmul]
      linarith
    exact mul_nonneg (mul_nonneg lower lower) room
  · have gap : 1 - smoothstep u = (1 - u) * (1 - u) * (1 + 2 * u) := by
      unfold smoothstep
      ring
    have nonneg : 0 ≤ (1 - u) * (1 - u) * (1 + 2 * u) :=
      mul_nonneg (mul_self_nonneg _) (by linarith)
    linarith

/-- The cubic is nowhere steeper than three halves. -/
theorem smoothstep_lipschitz (lower : 0 ≤ u) (upper : u ≤ v) (top : v ≤ 1) :
    |smoothstep v - smoothstep u| ≤ 3 / 2 * (v - u) := by
  have factor : smoothstep v - smoothstep u = (v - u) * (3 * (u + v) - 2 * (u * u + u * v + v * v)) := by
    unfold smoothstep
    ring
  have low : 0 ≤ 3 * (u + v) - 2 * (u * u + u * v + v * v) := by
    have first : 0 ≤ u * (3 - 2 * u - v) := mul_nonneg lower (by linarith)
    have second : 0 ≤ v * (3 - 2 * v - u) := mul_nonneg (lower.trans upper) (by linarith)
    linarith
  have high : 3 * (u + v) - 2 * (u * u + u * v + v * v) ≤ 3 / 2 := by
    have middle : 0 ≤ (u + v - 1) * (u + v - 1) := mul_self_nonneg _
    have apart : 0 ≤ (u - v) * (u - v) := mul_self_nonneg _
    linarith
  have rise : 0 ≤ v - u := by linarith
  rw [factor, abs_of_nonneg (mul_nonneg rise low), mul_comm]
  exact mul_le_mul_of_nonneg_right high rise

/-- A part of the way moves a position by no more than its share of a half more. -/
theorem ease_moves (start target : R) (lower : 0 ≤ u) (upper : u ≤ v) (top : v ≤ 1) :
    |ease start target v - ease start target u| ≤ |target - start| * (3 / 2 * (v - u)) := by
  have shape : ease start target v - ease start target u =
      (target - start) * (smoothstep v - smoothstep u) := by
    unfold ease
    ring
  rw [shape, abs_mul]
  exact mul_le_mul_of_nonneg_left (smoothstep_lipschitz lower upper top) (abs_nonneg _)

end Smoothstep

section Leads

/-- A chain that follows one entry and ends with another one. -/
def Leads {Entry : Type*} (related : Entry → Entry → Prop) (first : Entry) (rest : List Entry) (last : Entry) : Prop :=
  (first :: rest).IsChain related ∧ (first :: rest).getLast? = some last

variable {Entry : Type*} {related : Entry → Entry → Prop} {first middle last : Entry} {one two : List Entry}

/-- A chain that goes on where another one ends. -/
theorem Leads.append (head : Leads related first one middle) (tail : Leads related middle two last) :
    Leads related first (one ++ two) last := by
  obtain ⟨chain, reached⟩ := head
  obtain ⟨further, ended⟩ := tail
  obtain ⟨joined, further⟩ := List.isChain_cons.mp further
  rw [List.getLast?_cons] at ended
  constructor
  · rw [← List.cons_append]
    apply chain.append further
    intro before isLast
    obtain rfl : middle = before := Option.some.inj (reached.symm.trans isLast)
    exact joined
  · rw [← List.cons_append, List.getLast?_append, reached]
    cases final : two.getLast? with
    | none =>
        rw [final] at ended
        exact ended
    | some entry =>
        rw [final] at ended
        exact ended

theorem leads_replicate (reflexive : related first first) (count : ℕ) :
    Leads related first (List.replicate count first) first := by
  induction count with
  | zero => exact ⟨List.isChain_singleton first, rfl⟩
  | succ count ih =>
      rw [List.replicate_succ']
      exact ih.append ⟨List.isChain_pair.mpr reflexive, rfl⟩

/-- The values of a function at the numbers after zero. -/
theorem leads_range (value : ℕ → Entry) {count : ℕ}
    (step : ∀ index < count, related (value index) (value (index + 1))) :
    Leads related (value 0) ((List.range count).map fun index => value (index + 1)) (value count) := by
  induction count with
  | zero => exact ⟨List.isChain_singleton _, rfl⟩
  | succ count ih =>
      rw [List.range_succ, List.map_append]
      apply (ih fun index inside => step index (by omega)).append
      exact ⟨List.isChain_pair.mpr (step count (by omega)), rfl⟩

end Leads

section Slew

variable {R : Type*} [Field R] [LinearOrder R] [IsStrictOrderedRing R]

/-- Two lists of positions differ by no more than a bound, slot by slot. -/
def NearBy (bound : R) (before after : List R) : Prop :=
  ∀ slot : ℕ, |after.getD slot 0 - before.getD slot 0| ≤ bound

/-- No slot moves faster than a rate between two timed positions. -/
def Slew (rate : R) (before after : R × List R) : Prop := NearBy (rate * (after.1 - before.1)) before.2 after.2

variable {rate period : R} {first second third : R × List R}

theorem Slew.trans (earlier : Slew rate first second) (later : Slew rate second third) : Slew rate first third := by
  intro slot
  have one := earlier slot
  have two := later slot
  calc |third.2.getD slot 0 - first.2.getD slot 0|
      = |(third.2.getD slot 0 - second.2.getD slot 0) + (second.2.getD slot 0 - first.2.getD slot 0)| := by
        congr 1
        ring
    _ ≤ |third.2.getD slot 0 - second.2.getD slot 0| + |second.2.getD slot 0 - first.2.getD slot 0| :=
        abs_add_le _ _
    _ ≤ rate * (third.1 - second.1) + rate * (second.1 - first.1) := add_le_add two one
    _ = rate * (third.1 - first.1) := by ring

/-- Positions near each other that are a period apart at least. -/
theorem Slew.of_near (forward : 0 ≤ rate) (spaced : first.1 + period ≤ second.1)
    (near : NearBy (rate * period) first.2 second.2) : Slew rate first second := by
  intro slot
  calc |second.2.getD slot 0 - first.2.getD slot 0| ≤ rate * period := near slot
    _ ≤ rate * (second.1 - first.1) := mul_le_mul_of_nonneg_left (by linarith) forward

/-- A stream whose neighbours are slow is slow between any two of its points. -/
theorem Slew.pairwise {samples : List (R × List R)} (chain : samples.IsChain (Slew rate)) :
    samples.Pairwise (Slew rate) := by
  have transitive : Trans (Slew rate) (Slew rate) (Slew rate) := ⟨Slew.trans⟩
  exact chain.pairwise

/-- A stream is slow when its times are spaced and its positions are near each other. -/
theorem Slew.isChain {samples : List (R × List R)} (forward : 0 ≤ rate)
    (spaced : (samples.map Prod.fst).IsChain fun before after => before + period ≤ after)
    (near : (samples.map Prod.snd).IsChain (NearBy (rate * period))) : samples.IsChain (Slew rate) := by
  rw [List.isChain_map] at spaced near
  rw [List.isChain_iff_getElem] at spaced near ⊢
  intro index inside
  exact Slew.of_near forward (spaced index inside) (near index inside)

end Slew

end HumanoidSdk.Foundation
