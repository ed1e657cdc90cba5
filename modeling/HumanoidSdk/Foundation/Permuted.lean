import HumanoidSdk.Foundation.Table
import Mathlib.Data.List.FinRange
import Mathlib.Data.List.Nodup
import Mathlib.Data.Fintype.Perm

/-
This file moves the entries of a list between its slots and writes entries to slots.
-/

namespace HumanoidSdk.Foundation

universe u v

variable {Value : Type u} {Other : Type v} {count : ℕ}

/-- Each slot takes the value of the slot that the permutation names. A list of another length has
other slots and stays. -/
def permuted (perm : Equiv.Perm (Fin count)) (values : List Value) : List Value :=
  if full : values.length = count then List.ofFn fun slot => values.get ((perm slot).cast full.symm)
  else values

/-- The slot that takes the value of the given slot. -/
def move (perm : Equiv.Perm (Fin count)) (slot : ℕ) : ℕ :=
  if inside : slot < count then (perm.symm ⟨slot, inside⟩).val else slot

section Permuted

variable (perm : Equiv.Perm (Fin count)) {values : List Value} {slot other : ℕ}

@[simp] theorem permuted_length : (permuted perm values).length = values.length := by
  unfold permuted
  split
  case isTrue full => rw [List.length_ofFn, full]
  case isFalse => rfl

theorem permuted_perm : (permuted perm values).Perm values := by
  unfold permuted
  split
  case isTrue full =>
    have reordered := Equiv.Perm.ofFn_comp_perm perm fun slot => values.get (slot.cast full.symm)
    have same : List.ofFn (fun slot => values.get (slot.cast full.symm)) = values := by
      subst full
      exact List.ofFn_get values
    rw [same] at reordered
    exact reordered
  case isFalse => exact List.Perm.refl values

@[simp] theorem mem_permuted {value : Value} : value ∈ permuted perm values ↔ value ∈ values :=
  (permuted_perm perm).mem_iff

theorem permuted_nodup (distinct : values.Nodup) : (permuted perm values).Nodup :=
  (permuted_perm perm).nodup_iff.mpr distinct

theorem move_lt (inside : slot < count) : move perm slot < count := by
  rw [move, dif_pos inside]
  exact Fin.isLt _

theorem move_outside (outside : ¬slot < count) : move perm slot = slot := by
  rw [move, dif_neg outside]

theorem move_perm (slot : Fin count) : move perm (perm slot) = slot := by
  rw [move, dif_pos (perm slot).isLt]
  simp

theorem move_inj (same : move perm slot = move perm other) : slot = other := by
  by_cases inside : slot < count
  · by_cases near : other < count
    · rw [move, move, dif_pos inside, dif_pos near] at same
      exact congrArg Fin.val (perm.symm.injective (Fin.val_injective same))
    · have bound := move_lt perm inside
      rw [same, move_outside perm near] at bound
      exact absurd bound near
  · by_cases near : other < count
    · have bound := move_lt perm near
      rw [← same, move_outside perm inside] at bound
      exact absurd bound inside
    · rw [move_outside perm inside, move_outside perm near] at same
      exact same

/-- A value is found where it has moved to. -/
theorem permuted_move (full : values.length = count) (slot : ℕ) :
    (permuted perm values)[move perm slot]? = values[slot]? := by
  by_cases inside : slot < count
  · have moved := move_lt perm inside
    rw [permuted, dif_pos full, List.getElem?_ofFn, dif_pos moved, List.getElem?_eq_getElem (by omega)]
    have place : (⟨move perm slot, moved⟩ : Fin count) = perm.symm ⟨slot, inside⟩ := by
      refine Fin.ext ?_
      change move perm slot = _
      rw [move, dif_pos inside]
    have back : perm ⟨move perm slot, moved⟩ = ⟨slot, inside⟩ := by
      rw [place, Equiv.apply_symm_apply]
    rw [back]
    rfl
  · rw [move_outside perm inside, List.getElem?_eq_none (by rw [permuted_length]; omega),
      List.getElem?_eq_none (by omega)]

/-- Every slot is the new place of some slot. -/
theorem move_surjective (slot : ℕ) : ∃ origin, move perm origin = slot := by
  by_cases inside : slot < count
  · exact ⟨perm ⟨slot, inside⟩, move_perm perm ⟨slot, inside⟩⟩
  · exact ⟨slot, move_outside perm inside⟩

/-- Two lists are the same when they agree on the moved slots. -/
theorem eq_of_move {first second : List Value}
    (same : ∀ slot, first[move perm slot]? = second[move perm slot]?) : first = second := by
  refine List.ext_getElem? fun slot => ?_
  obtain ⟨origin, rfl⟩ := move_surjective perm slot
  exact same origin

/-- The place of a value moves with it. -/
theorem idxOf_permuted [DecidableEq Value] {value : Value} (full : values.length = count)
    (distinct : values.Nodup) (member : value ∈ values) :
    (permuted perm values).idxOf value = move perm (values.idxOf value) := by
  have inside := List.idxOf_lt_length_of_mem member
  have found := permuted_move perm full (values.idxOf value)
  rw [List.getElem?_eq_getElem inside, List.getElem_idxOf] at found
  obtain ⟨moved, here⟩ := List.getElem?_eq_some_iff.mp found
  have place := (permuted_nodup perm distinct).idxOf_getElem (move perm (values.idxOf value)) moved
  rw [here] at place
  exact place

/-- A write moves with its slot. -/
theorem permuted_set (full : values.length = count) (slot : ℕ) (value : Value) :
    permuted perm (values.set slot value) = (permuted perm values).set (move perm slot) value := by
  refine eq_of_move perm fun place => ?_
  rw [permuted_move perm (by rw [List.length_set, full]), List.getElem?_set, List.getElem?_set,
    permuted_length, permuted_move perm full]
  by_cases same : slot = place
  · subst same
    rw [if_pos rfl, if_pos rfl]
    by_cases inside : slot < count
    · rw [if_pos (by omega), if_pos (by rw [full]; exact move_lt perm inside)]
    · rw [if_neg (by omega), if_neg (by rw [full, move_outside perm inside]; exact inside)]
  · rw [if_neg same, if_neg fun moved => same (move_inj perm moved)]

@[simp] theorem permuted_replicate (size : ℕ) (value : Value) :
    permuted perm (List.replicate size value) = List.replicate size value := by
  refine List.eq_replicate_iff.mpr ⟨by rw [permuted_length, List.length_replicate], fun other member => ?_⟩
  exact List.eq_of_mem_replicate ((mem_permuted perm).mp member)

/-- The rows of an array move. -/
def Table.permuted {columns : ℕ} (table : Table Value columns) : Table Value columns where
  rows := Foundation.permuted perm table.rows
  rectangular := fun row member => table.rectangular row ((mem_permuted perm).mp member)

end Permuted

/-- Writes to slots one after the other. -/
def scatter (values : List Value) (writes : List (ℕ × Value)) : List Value :=
  writes.foldl (fun values write => values.set write.1 write.2) values

section Scatter

variable {values : List Value} {writes : List (ℕ × Value)}

@[simp] theorem scatter_length : (scatter values writes).length = values.length := by
  unfold scatter
  induction writes generalizing values with
  | nil => rfl
  | cons write rest ih => rw [List.foldl_cons, ih, List.length_set]

/-- A slot without a write keeps its value. -/
theorem scatter_untouched {slot : ℕ} (apart : slot ∉ writes.map Prod.fst) :
    (scatter values writes)[slot]? = values[slot]? := by
  unfold scatter
  induction writes generalizing values with
  | nil => rfl
  | cons write rest ih =>
      rw [List.map_cons, List.mem_cons, not_or] at apart
      rw [List.foldl_cons, ih apart.2, List.getElem?_set_ne fun same => apart.1 same.symm]

/-- Writes to different slots leave in each slot what was written there. -/
theorem scatter_lookup (distinct : (writes.map Prod.fst).Nodup) {slot : ℕ} (inside : slot < values.length) :
    (scatter values writes)[slot]? = some ((writes.lookup slot).getD values[slot]) := by
  unfold scatter
  induction writes generalizing values with
  | nil =>
      rw [List.foldl_nil, List.getElem?_eq_getElem inside]
      rfl
  | cons write rest ih =>
      obtain ⟨place, value⟩ := write
      rw [List.map_cons, List.nodup_cons] at distinct
      rw [List.foldl_cons, List.lookup_cons]
      by_cases same : slot = place
      · subst same
        have kept := @scatter_untouched _ (values.set slot value) rest slot distinct.1
        unfold scatter at kept
        rw [kept, List.getElem?_set_self inside]
        simp
      · rw [ih distinct.2 (by rw [List.length_set]; exact inside)]
        have other : (slot == place) = false := beq_eq_false_iff_ne.mpr same
        rw [other, List.getElem_set_ne fun back => same back.symm]

/-- Writes move with their slots. -/
theorem permuted_scatter (perm : Equiv.Perm (Fin count)) (full : values.length = count) :
    permuted perm (scatter values writes) =
      scatter (permuted perm values) (writes.map (Prod.map (move perm) id)) := by
  unfold scatter
  induction writes generalizing values with
  | nil => rfl
  | cons write rest ih =>
      rw [List.foldl_cons, ih (by rw [List.length_set, full]), List.map_cons, List.foldl_cons,
        permuted_set perm full]
      rfl

end Scatter

end HumanoidSdk.Foundation
