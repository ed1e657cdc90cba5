import Mathlib.Data.List.Basic
import Mathlib.Tactic.Linarith

/-
This file describes a bounded queue that its first entry fills completely.
-/

namespace HumanoidSdk.Foundation

universe u

variable {Entry : Type u}

/-- A bounded queue drops its oldest entries. -/
def bounded (capacity : ℕ) (entries : List Entry) : List Entry := entries.drop (entries.length - capacity)

/-- An empty queue is filled with its first entry, and every later entry is appended. -/
def fill (capacity : ℕ) (entries : List Entry) (entry : Entry) : List Entry :=
  bounded capacity (if entries.isEmpty then List.replicate capacity entry else entries ++ [entry])

/-- The queue holds nothing but its old entries and the new one. -/
theorem mem_fill {capacity : ℕ} {entries : List Entry} {entry found : Entry}
    (member : found ∈ fill capacity entries entry) : found ∈ entries ∨ found = entry := by
  have kept := List.mem_of_mem_drop member
  by_cases empty : entries.isEmpty
  · rw [if_pos empty] at kept
    exact Or.inr (List.eq_of_mem_replicate kept)
  · rw [if_neg empty, List.mem_append, List.mem_singleton] at kept
    exact kept

/-- A change of every entry changes the queue. -/
theorem fill_map {Changed : Type*} (change : Entry → Changed) (capacity : ℕ) (entries : List Entry)
    (entry : Entry) :
    (fill capacity entries entry).map change = fill capacity (entries.map change) (change entry) := by
  simp only [fill, bounded, List.map_drop, List.isEmpty_map]
  by_cases empty : entries.isEmpty
  · simp only [if_pos empty, List.map_replicate, List.length_replicate]
  · simp only [if_neg empty, List.map_append, List.map_cons, List.map_nil, List.length_append,
      List.length_map]
    rfl

/-- A queue is a window over a stream: every slot looks back from the last entry of the stream, but not
beyond its first. -/
structure Window (capacity : ℕ) (stream entries : List Entry) : Prop where
  empty : stream = [] → entries = []
  full : stream ≠ [] → entries.length = capacity
  slots : ∀ slot < capacity, entries[slot]? = stream[stream.length + slot - capacity]?

theorem Window.nil (capacity : ℕ) : Window capacity ([] : List Entry) [] :=
  ⟨fun _ => rfl, fun started => absurd rfl started, fun _ _ => rfl⟩

/-- A pass over the queue is a pass over the slots of the stream. -/
theorem Window.flatMap {capacity : ℕ} {stream entries : List Entry} {Value : Type*}
    (held : Window capacity stream entries) (started : stream ≠ []) (values : Entry → List Value) :
    entries.flatMap values = (List.range capacity).flatMap fun slot =>
      (stream[stream.length + slot - capacity]?).elim [] values := by
  have count := held.full started
  rw [List.flatMap_def, List.flatMap_def]
  refine congrArg List.flatten (List.ext_getElem ?_ fun slot inside _ => ?_)
  · rw [List.length_map, List.length_map, count, List.length_range]
  · rw [List.length_map, count] at inside
    rw [List.getElem_map, List.getElem_map, List.getElem_range, ← held.slots slot inside,
      List.getElem?_eq_getElem (by omega)]
    rfl

/-- The first entry backfills every slot. -/
theorem fill_first (capacity : ℕ) (entry : Entry) : Window capacity [entry] (fill capacity [] entry) := by
  have all : fill capacity [] entry = List.replicate capacity entry := by
    simp only [fill, bounded, List.isEmpty_nil, if_true, List.length_replicate, Nat.sub_self, List.drop_zero]
  refine ⟨fun absent => absurd absent (List.cons_ne_nil _ _), fun _ => ?_, fun slot inside => ?_⟩
  · rw [all, List.length_replicate]
  · have first : [entry].length + slot - capacity = 0 := by
      rw [List.length_singleton]
      omega
    rw [all, List.getElem?_replicate, if_pos inside, first]
    rfl

/-- A later entry moves every slot by one. -/
theorem fill_next {capacity : ℕ} {stream entries : List Entry} {entry : Entry} (positive : 0 < capacity)
    (started : stream ≠ []) (held : Window capacity stream entries) :
    Window capacity (stream ++ [entry]) (fill capacity entries entry) := by
  have count := held.full started
  have some' : entries.isEmpty = false := by
    rw [List.isEmpty_eq_false_iff, ← List.length_pos_iff]
    omega
  have long := List.length_pos_iff.mpr started
  have moved : fill capacity entries entry = (entries ++ [entry]).drop 1 := by
    have one : (entries ++ [entry]).length - capacity = 1 := by
      rw [List.length_append, count, List.length_singleton]
      omega
    simp only [fill, bounded, some', Bool.false_eq_true, if_false, one]
  refine ⟨fun absent => absurd absent (List.append_ne_nil_of_right_ne_nil _ (List.cons_ne_nil _ _)),
    fun _ => ?_, fun slot inside => ?_⟩
  · rw [moved, List.length_drop, List.length_append, count, List.length_singleton]
    omega
  · rw [moved, List.getElem?_drop, List.length_append, List.length_singleton]
    rcases Nat.lt_or_ge (1 + slot) capacity with before | last
    · rw [List.getElem?_append_left (by omega), held.slots (1 + slot) before,
        List.getElem?_append_left (by omega)]
      congr 1
      omega
    · have here : stream.length + 1 + slot - capacity = stream.length := by omega
      have final : 1 + slot = entries.length := by omega
      rw [here, final, List.getElem?_append_right (Nat.le_refl _), List.getElem?_append_right (Nat.le_refl _),
        Nat.sub_self, Nat.sub_self]

/-- The queue stays a window over the stream of its entries. -/
theorem Window.fill {capacity : ℕ} {stream entries : List Entry} (entry : Entry) (positive : 0 < capacity)
    (held : Window capacity stream entries) :
    Window capacity (stream ++ [entry]) (fill capacity entries entry) := by
  cases stream with
  | nil =>
      rw [held.empty rfl]
      exact fill_first capacity entry
  | cons first rest => exact fill_next positive (List.cons_ne_nil _ _) held

end HumanoidSdk.Foundation
