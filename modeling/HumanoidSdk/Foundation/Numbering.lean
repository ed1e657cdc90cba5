import Mathlib.Data.List.Nodup
import Mathlib.Data.Int.Notation

namespace HumanoidSdk.Foundation

variable {Key : Type*} [DecidableEq Key]

/-- The numbers that a list of numbered entries gives to one key. -/
def numbersOf (key : Key) (entries : List (Key × ℤ)) : List ℤ :=
  entries.filterMap fun entry => if entry.1 = key then some entry.2 else none

@[simp] theorem numbersOf_append (key : Key) (first second : List (Key × ℤ)) :
    numbersOf key (first ++ second) = numbersOf key first ++ numbersOf key second :=
  List.filterMap_append

theorem numbersOf_cons (key : Key) (entry : Key × ℤ) (rest : List (Key × ℤ)) :
    numbersOf key (entry :: rest) =
      if entry.1 = key then entry.2 :: numbersOf key rest else numbersOf key rest := by
  by_cases same : entry.1 = key
  · simp [numbersOf, same]
  · simp [numbersOf, same]

theorem mem_numbersOf {key : Key} {entries : List (Key × ℤ)} {number : ℤ} :
    number ∈ numbersOf key entries ↔ (key, number) ∈ entries := by
  simp only [numbersOf, List.mem_filterMap]
  constructor
  · rintro ⟨⟨other, value⟩, member, same⟩
    split at same
    · rename_i equal
      obtain rfl := Option.some.inj same
      exact equal ▸ member
    · cases same
  · exact fun member => ⟨_, member, by simp⟩

/-- Every key is numbered 1, 2, 3, … in the order of the entries. -/
def Contiguous (entries : List (Key × ℤ)) : Prop :=
  ∀ key, numbersOf key entries = (List.range (numbersOf key entries).length).map fun index : Nat => (index : ℤ) + 1

namespace Contiguous

variable {entries : List (Key × ℤ)}

theorem empty : Contiguous ([] : List (Key × ℤ)) := fun _ => rfl

/-- The next number of a key is one more than its count. -/
theorem issue (contiguous : Contiguous entries) {key : Key} {number : ℤ}
    (next : number = (numbersOf key entries).length + 1) : Contiguous (entries ++ [(key, number)]) := by
  intro asked
  by_cases same : key = asked
  · subst same
    have last : numbersOf key [(key, number)] = [number] := by simp [numbersOf]
    rw [numbersOf_append, last, List.length_append, List.length_singleton, List.range_succ, List.map_append,
      ← contiguous key, next]
    rfl
  · have none : numbersOf asked [(key, number)] = [] := by simp [numbersOf, same]
    rw [numbersOf_append, none, List.append_nil]
    exact contiguous asked

/-- No number is given to a key twice. -/
theorem nodup (contiguous : Contiguous entries) : entries.Nodup := by
  have each (key : Key) : (numbersOf key entries).Nodup := by
    rw [contiguous key]
    refine List.Nodup.map (fun first second same => ?_) List.nodup_range
    have equal : (first : ℤ) + 1 = second + 1 := same
    omega
  clear contiguous
  induction entries with
  | nil => exact List.nodup_nil
  | cons entry rest ih =>
      refine List.nodup_cons.mpr ⟨fun member => ?_, ih fun key => ?_⟩
      · have own := each entry.1
        simp only [numbersOf, List.filterMap_cons, if_true, List.nodup_cons] at own
        exact own.1 (mem_numbersOf.mpr member)
      · exact (each key).sublist (List.Sublist.filterMap _ (List.sublist_cons_self entry rest))

end Contiguous

/-- A sublist that does not end with the last value extends by it. -/
theorem sublist_extend {Value : Type*} {values : List Value} (part : List Value) {first last : Value}
    (inside : (part ++ [first]).Sublist values) (ends : values.getLast? = some last)
    (other : first ≠ last) : (part ++ [first, last]).Sublist values := by
  obtain ⟨init, rfl⟩ := List.getLast?_eq_some_iff.mp ends
  obtain ⟨front, back, split, head, tail⟩ := List.sublist_append_iff.mp inside
  rcases List.eq_nil_or_concat back with rfl | ⟨rest, end', rfl⟩
  · rw [List.append_nil] at split
    have grown := (split ▸ head).append (List.Sublist.refl [last])
    simpa using grown
  · rw [List.concat_eq_append, ← List.append_assoc] at split
    have same := List.append_inj_right' split rfl
    have member := tail.subset (show end' ∈ _ by simp)
    rw [List.mem_singleton] at member
    exact absurd ((List.singleton_inj.mp same).trans member) other

end HumanoidSdk.Foundation
