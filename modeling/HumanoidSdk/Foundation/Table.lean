import Mathlib.Data.List.Basic
import Mathlib.Tactic.Linarith

namespace HumanoidSdk.Foundation

universe u v

variable {Value : Type u} {Item : Type v}

/-- A two-dimensional array has rows of one length. -/
structure Table (Value : Type u) (columns : ℕ) where
  rows : List (List Value)
  rectangular : ∀ row ∈ rows, row.length = columns

namespace Table

/-- The flat data in row-major order, without the values after the last full row. -/
def ofFlat (columns : ℕ) (data : List Value) : Table Value columns where
  rows := (List.range (data.length / columns)).map fun row => (data.drop (row * columns)).take columns
  rectangular := by
    intro values member
    obtain ⟨row, below, rfl⟩ := List.mem_map.mp member
    have room := Nat.mul_le_mul_right columns (Nat.succ_le_of_lt (List.mem_range.mp below))
    have fits := Nat.div_mul_le_self data.length columns
    rw [Nat.succ_mul] at room
    rw [List.length_take, List.length_drop]
    omega

/-- The first row of flat data comes off its front. -/
theorem ofFlat_append {columns : ℕ} (positive : 0 < columns) {row rest : List Value}
    (full : row.length = columns) :
    (ofFlat columns (row ++ rest)).rows = row :: (ofFlat columns rest).rows := by
  have count : (row ++ rest).length / columns = rest.length / columns + 1 := by
    rw [List.length_append, full, Nat.add_comm, Nat.add_div_right _ positive]
  simp only [ofFlat, count, List.range_succ_eq_map, List.map_cons, List.map_map]
  refine congrArg₂ List.cons ?_ (List.map_congr_left fun index _ => ?_)
  · rw [Nat.zero_mul, List.drop_zero, ← full, List.take_left]
  · have place : (index + 1) * columns = row.length + index * columns := by
      rw [full, Nat.succ_mul, Nat.add_comm]
    rw [Function.comp_apply, place, List.drop_append, List.drop_eq_nil_of_le (by omega), List.nil_append,
      Nat.add_sub_cancel_left]

/-- Items that are flattened to full rows come back one row for each item. -/
theorem ofFlat_flatMap {columns : ℕ} (positive : 0 < columns) {items : List Item} {row : Item → List Value}
    (full : ∀ item ∈ items, (row item).length = columns) :
    (ofFlat columns (items.flatMap row)).rows = items.map row := by
  induction items with
  | nil => simp [ofFlat]
  | cons item rest ih =>
      rw [List.flatMap_cons, ofFlat_append positive (full item List.mem_cons_self),
        ih fun other member => full other (List.mem_cons_of_mem _ member), List.map_cons]

end Table

end HumanoidSdk.Foundation
