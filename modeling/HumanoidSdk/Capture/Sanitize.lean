import HumanoidSdk.Foundation.Document
import HumanoidSdk.Value.Float

/-
This file translates `_json_feedback` of python/locomotion_aorta/brainco_capture.py and shows that it only
takes floats away that JSON cannot write.
-/

namespace HumanoidSdk.Capture
open Foundation

/-- The scalars that `asdict` leaves in a record. -/
inductive Scalar where
  | null
  | bool (value : Bool)
  | int (value : ℤ)
  | float (value : FloatValue)
  | str (value : String)
  deriving DecidableEq

/-- A record by its fields. Tuples are lists. -/
abbrev Fields := List (String × Document Scalar)

/-- An infinity or a NaN. -/
def Scalar.nonfinite : Scalar → Bool
  | .float value => !value.isFinite
  | _ => false

mutual

/-- The inner function `value` with the variable that it shares with `_json_feedback`. -/
def value : Document Scalar → Bool → Document Scalar × Bool
  | .leaf scalar, nonfinite => if scalar.nonfinite then (.leaf .null, true) else (.leaf scalar, nonfinite)
  | .list items, nonfinite =>
      let (items, nonfinite) := valueOfItems items nonfinite
      (.list items, nonfinite)
  | .dict entries, nonfinite =>
      let (entries, nonfinite) := valueOfEntries entries nonfinite
      (.dict entries, nonfinite)

def valueOfItems : List (Document Scalar) → Bool → List (Document Scalar) × Bool
  | [], nonfinite => ([], nonfinite)
  | item :: rest, nonfinite =>
      let (item, nonfinite) := value item nonfinite
      let (rest, nonfinite) := valueOfItems rest nonfinite
      (item :: rest, nonfinite)

def valueOfEntries : Fields → Bool → Fields × Bool
  | [], nonfinite => ([], nonfinite)
  | (key, item) :: rest, nonfinite =>
      let (item, nonfinite) := value item nonfinite
      let (rest, nonfinite) := valueOfEntries rest nonfinite
      ((key, item) :: rest, nonfinite)

end

def NONFINITE_FEEDBACK : String := "nonfinite_feedback"

def jsonFeedback (result : Fields) : Fields :=
  let (result, nonfinite) := valueOfEntries result false
  Document.assign NONFINITE_FEEDBACK (.leaf (.bool nonfinite)) result

/-- What `json.dumps` writes without `allow_nan`. -/
def dumpable (document : Document Scalar) : Bool := !document.leaves.any Scalar.nonfinite

/-- A float that JSON cannot write becomes null. -/
def Scalar.finite (scalar : Scalar) : Scalar := if scalar.nonfinite then .null else scalar

theorem Scalar.nonfinite_finite (scalar : Scalar) : scalar.finite.nonfinite = false := by
  unfold Scalar.finite
  split
  · rfl
  · rename_i held
    exact Bool.eq_false_iff.mpr held

theorem Scalar.finite_eq_self_iff (scalar : Scalar) : scalar.finite = scalar ↔ scalar.nonfinite = false := by
  constructor
  · intro same
    rw [← same]
    exact scalar.nonfinite_finite
  · intro finite
    rw [Scalar.finite, finite]
    rfl

theorem valueOfItems_eq {items : List (Document Scalar)}
    (known : ∀ item ∈ items, ∀ nonfinite,
      value item nonfinite = (item.map Scalar.finite, nonfinite || item.leaves.any Scalar.nonfinite))
    (nonfinite : Bool) :
    valueOfItems items nonfinite =
      (Document.mapItems Scalar.finite items, nonfinite || (Document.leavesOfItems items).any Scalar.nonfinite) := by
  induction items generalizing nonfinite with
  | nil => rw [valueOfItems, Document.mapItems, Document.leavesOfItems, List.any_nil, Bool.or_false]
  | cons item rest ih =>
      have head := known item List.mem_cons_self nonfinite
      have tail := ih (fun other member => known other (List.mem_cons_of_mem item member))
      rw [valueOfItems, head]
      dsimp only
      rw [tail, Document.mapItems, Document.leavesOfItems, List.any_append, Bool.or_assoc]

theorem valueOfEntries_eq {entries : Fields}
    (known : ∀ entry ∈ entries, ∀ nonfinite,
      value entry.2 nonfinite = (entry.2.map Scalar.finite, nonfinite || entry.2.leaves.any Scalar.nonfinite))
    (nonfinite : Bool) :
    valueOfEntries entries nonfinite =
      (Document.mapEntries Scalar.finite entries,
        nonfinite || (Document.leavesOfEntries entries).any Scalar.nonfinite) := by
  induction entries generalizing nonfinite with
  | nil => rw [valueOfEntries, Document.mapEntries, Document.leavesOfEntries, List.any_nil, Bool.or_false]
  | cons entry rest ih =>
      obtain ⟨key, item⟩ := entry
      have head := known (key, item) List.mem_cons_self nonfinite
      have tail := ih (fun other member => known other (List.mem_cons_of_mem _ member))
      rw [valueOfEntries, head]
      dsimp only
      rw [tail, Document.mapEntries, Document.leavesOfEntries, List.any_append, Bool.or_assoc]

/-- The recursion changes the leaves, and its variable tells whether one was changed. -/
theorem value_eq (document : Document Scalar) (nonfinite : Bool) :
    value document nonfinite = (document.map Scalar.finite, nonfinite || document.leaves.any Scalar.nonfinite) := by
  induction document generalizing nonfinite with
  | leaf scalar =>
      rw [value, Document.map, Document.leaves, Scalar.finite, List.any_cons, List.any_nil, Bool.or_false]
      split
      · rename_i lost
        rw [lost, Bool.or_true]
      · rename_i kept
        rw [Bool.eq_false_iff.mpr kept, Bool.or_false]
  | list items ih => rw [value, valueOfItems_eq ih, Document.map, Document.leaves]
  | dict entries ih => rw [value, valueOfEntries_eq ih, Document.map, Document.leaves]

theorem jsonFeedback_eq (record : Fields) :
    jsonFeedback record = Document.assign NONFINITE_FEEDBACK
      (.leaf (.bool ((Document.dict record).leaves.any Scalar.nonfinite)))
      (Document.mapEntries Scalar.finite record) := by
  rw [jsonFeedback, valueOfEntries_eq (fun entry _ => value_eq entry.2), Bool.false_or, Document.leaves]

theorem dumpable_dict {entries : Fields} (held : ∀ entry ∈ entries, dumpable entry.2 = true) :
    dumpable (.dict entries) = true := by
  simp only [dumpable, Bool.not_eq_true', List.any_eq_false] at held ⊢
  intro scalar inside
  rw [Document.leaves, Document.leavesOfEntries_eq] at inside
  obtain ⟨entry, member, leaf⟩ := List.mem_flatMap.mp inside
  exact held entry member scalar leaf

theorem dumpable_entry {entries : Fields} (held : dumpable (.dict entries) = true) {entry : String × Document Scalar}
    (member : entry ∈ entries) : dumpable entry.2 = true := by
  simp only [dumpable, Bool.not_eq_true', List.any_eq_false] at held ⊢
  intro scalar inside
  apply held scalar
  rw [Document.leaves, Document.leavesOfEntries_eq]
  exact List.mem_flatMap.mpr ⟨entry, member, inside⟩

theorem dumpable_assign {entries : Fields} {name : String} {item : Document Scalar}
    (held : dumpable (.dict entries) = true) (new : dumpable item = true) :
    dumpable (.dict (Document.assign name item entries)) = true := by
  apply dumpable_dict
  intro entry member
  rcases Document.mem_assign member with rfl | kept
  · exact new
  · exact dumpable_entry held kept

theorem dumpable_map (document : Document Scalar) : dumpable (document.map Scalar.finite) = true := by
  rw [dumpable, Document.leaves_map, Bool.not_eq_true', List.any_eq_false]
  intro scalar member
  obtain ⟨old, -, rfl⟩ := List.mem_map.mp member
  rw [old.nonfinite_finite]
  exact Bool.false_ne_true

theorem jsonFeedback_dumpable (record : Fields) : dumpable (.dict (jsonFeedback record)) = true := by
  rw [jsonFeedback_eq]
  exact dumpable_assign (dumpable_map (.dict record)) rfl

/-- A sanitized record can be written, tells whether it lost a float, has every other part of the record at its
place with null for the lost floats, and keeps the other fields as they are if and only if it lost none. -/
theorem jsonFeedback_faithful (record : Fields) :
    dumpable (.dict (jsonFeedback record)) = true ∧
      (jsonFeedback record).lookup NONFINITE_FEEDBACK = some (.leaf (.bool (!dumpable (.dict record)))) ∧
        (∀ key path, key ≠ NONFINITE_FEEDBACK →
          (Document.dict (jsonFeedback record)).part (.key key :: path) =
            ((Document.dict record).part (.key key :: path)).map (Document.map Scalar.finite)) ∧
          (dumpable (.dict record) = true ↔ Document.mapEntries Scalar.finite record = record) := by
  refine ⟨jsonFeedback_dumpable record, ?_, ?_, ?_⟩
  · rw [jsonFeedback_eq, Document.lookup_assign_same, dumpable, Bool.not_not]
  · intro key path other
    rw [← Document.part_map, jsonFeedback_eq, Document.map, Document.part, Document.part,
      Document.lookup_assign_other other]
  · have same := Document.map_eq_self_iff Scalar.finite (.dict record)
    rw [Document.map, Document.dict.injEq] at same
    rw [same, dumpable, Bool.not_eq_true', List.any_eq_false]
    exact forall₂_congr fun scalar _ => (Bool.not_eq_true _).to_iff.trans scalar.finite_eq_self_iff.symm

end HumanoidSdk.Capture
