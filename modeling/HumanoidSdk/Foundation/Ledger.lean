import Mathlib.Data.List.Nodup
import Mathlib.Order.Lattice

namespace HumanoidSdk.Foundation

/-- A ledger lists its entries by strictly increasing keys up to a counter. -/
structure Ledger {Key Value : Type*} [LinearOrder Key] (entries : List (Key × Value))
    (counter : Key) : Prop where
  increasing : entries.Pairwise fun first second => first.1 < second.1
  reached : ∀ entry ∈ entries, entry.1 ≤ counter

namespace Ledger

variable {Key Value : Type*} [LinearOrder Key] {entries : List (Key × Value)} {counter key : Key}

theorem empty : Ledger ([] : List (Key × Value)) counter := ⟨.nil, by simp⟩

/-- A key above the counter extends the ledger and becomes the counter. -/
theorem issue (ledger : Ledger entries counter) (above : counter < key) (value : Value) :
    Ledger (entries ++ [(key, value)]) key where
  increasing := by
    refine List.pairwise_append.mpr ⟨ledger.increasing, List.pairwise_singleton _ _, ?_⟩
    intro entry member last isLast
    obtain rfl := List.mem_singleton.mp isLast
    exact lt_of_le_of_lt (ledger.reached entry member) above
  reached entry member := by
    rcases List.mem_append.mp member with old | new
    · exact le_of_lt (lt_of_le_of_lt (ledger.reached entry old) above)
    · obtain rfl := List.mem_singleton.mp new
      exact le_refl _

theorem keys_increasing (ledger : Ledger entries counter) :
    (entries.map Prod.fst).Pairwise (· < ·) := List.pairwise_map.mpr ledger.increasing

/-- One key names one value. -/
theorem unique (ledger : Ledger entries counter) {first second : Value}
    (isFirst : (key, first) ∈ entries) (isSecond : (key, second) ∈ entries) : first = second := by
  have distinct : (entries.map Prod.fst).Nodup := ledger.keys_increasing.imp ne_of_lt
  exact congrArg Prod.snd (List.inj_on_of_nodup_map distinct isFirst isSecond rfl)

end Ledger

end HumanoidSdk.Foundation
