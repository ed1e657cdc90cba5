import Mathlib.Order.WithBot
import Mathlib.Order.MinMax
import Mathlib.Data.List.Induction

namespace HumanoidSdk.Foundation

variable {Value Key : Type*} (key : Value → Key)

/-- An empty register lies below every key. -/
def rank (held : Option Value) : WithBot Key := held.elim ⊥ fun value => (key value : WithBot Key)

@[simp] theorem rank_none : rank key (none : Option Value) = ⊥ := rfl

@[simp] theorem rank_some (value : Value) : rank key (some value) = key value := rfl

variable [LinearOrder Key]

/-- A register gives way only to a value with a greater key. -/
def offer (held : Option Value) (value : Value) : Option Value :=
  match held with
  | none => some value
  | some old => if key old < key value then some value else some old

theorem offer_choice (held : Option Value) (value : Value) :
    offer key held value = held ∨ offer key held value = some value := by
  cases held with
  | none => exact Or.inr rfl
  | some old =>
      by_cases newer : key old < key value
      · exact Or.inr (if_pos newer)
      · exact Or.inl (if_neg newer)

theorem rank_offer (held : Option Value) (value : Value) :
    rank key (offer key held value) = max (rank key held) (key value) := by
  cases held with
  | none => simp [offer]
  | some old =>
      by_cases newer : key old < key value
      · have below : (key old : WithBot Key) ≤ key value := WithBot.coe_le_coe.mpr newer.le
        simp [offer, newer, max_eq_right below]
      · have above : (key value : WithBot Key) ≤ key old := WithBot.coe_le_coe.mpr (not_lt.mp newer)
        simp [offer, newer, max_eq_left above]

/-- The register after a whole list of values. -/
def newest (held : Option Value) (values : List Value) : Option Value := values.foldl (offer key) held

@[simp] theorem newest_nil (held : Option Value) : newest key held [] = held := rfl

@[simp] theorem newest_append (held : Option Value) (first second : List Value) :
    newest key held (first ++ second) = newest key (newest key held first) second := List.foldl_append

theorem newest_snoc (held : Option Value) (values : List Value) (value : Value) :
    newest key held (values ++ [value]) = offer key (newest key held values) value := by
  rw [newest_append]
  rfl

/-- The register holds what it held at first or one of the values. -/
theorem newest_origin {held : Option Value} {values : List Value} {value : Value}
    (holds : newest key held values = some value) : held = some value ∨ value ∈ values := by
  induction values using List.reverseRecOn with
  | nil => exact Or.inl holds
  | append_singleton values last ih =>
      rw [newest_snoc] at holds
      rcases offer_choice key (newest key held values) last with kept | taken
      · exact (ih (kept ▸ holds)).imp id (List.mem_append_left _)
      · obtain rfl := Option.some.inj (taken.symm.trans holds)
        exact Or.inr (by simp)

/-- The rank of the register is the least bound of its first rank and of all keys. -/
theorem rank_newest_le_iff (held : Option Value) (values : List Value) (bound : WithBot Key) :
    rank key (newest key held values) ≤ bound ↔
      rank key held ≤ bound ∧ ∀ value ∈ values, (key value : WithBot Key) ≤ bound := by
  induction values using List.reverseRecOn with
  | nil => simp
  | append_singleton values last ih =>
      rw [newest_snoc, rank_offer, max_le_iff, ih]
      simp only [List.mem_append, List.mem_singleton, or_imp, forall_and, forall_eq]
      exact and_assoc

theorem rank_le_newest (held : Option Value) (values : List Value) :
    rank key held ≤ rank key (newest key held values) :=
  ((rank_newest_le_iff key held values _).mp le_rfl).1

/-- The same values in any order and number give the same rank. -/
theorem rank_newest_congr (held : Option Value) {first second : List Value}
    (same : ∀ value, value ∈ first ↔ value ∈ second) :
    rank key (newest key held first) = rank key (newest key held second) :=
  eq_of_forall_ge_iff fun bound => by simp only [rank_newest_le_iff, same]

/-- When keys tell the values apart, the register itself does not depend on the order. -/
theorem newest_congr {held : Option Value} {first second : List Value}
    (same : ∀ value, value ∈ first ↔ value ∈ second)
    (distinct : ∀ value other, (held = some value ∨ value ∈ first) → (held = some other ∨ other ∈ first) →
      key value = key other → value = other) :
    newest key held first = newest key held second := by
  have ranks := rank_newest_congr key held same
  cases left : newest key held first with
  | none =>
      cases right : newest key held second with
      | none => rfl
      | some other => simp [left, right] at ranks
  | some value =>
      cases right : newest key held second with
      | none => simp [left, right] at ranks
      | some other =>
          have equal : key value = key other := by simpa [left, right] using ranks
          have fromSecond := (newest_origin key right).imp id (same other).mpr
          rw [distinct value other (newest_origin key left) fromSecond equal]

end HumanoidSdk.Foundation
