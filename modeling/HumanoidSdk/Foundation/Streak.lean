import Mathlib.Algebra.Order.Group.Defs
import Mathlib.Data.List.DropRight

namespace HumanoidSdk.Foundation

section Streak

variable {Reading : Type*}

/-- The readings at the end of a list that are all good. -/
def streak (good : Reading → Bool) (readings : List Reading) : List Reading := readings.rtakeWhile good

variable {good : Reading → Bool} {readings : List Reading} {next : Reading}

theorem streak_good (isGood : good next = true) : streak good (readings ++ [next]) = streak good readings ++ [next] :=
  List.rtakeWhile_concat_pos _ _ _ isGood

end Streak

section Tracks

variable {Reading Key Time : Type*} [DecidableEq Key] [PartialOrder Time]

/-- The readings with a key. -/
def alike (key : Reading → Key) (latest : Key) (reading : Reading) : Bool := decide (key reading = latest)

/-- A program knows the key of the last reading and a time that no reading of the last streak precedes. -/
structure Tracks (key : Reading → Key) (time : Reading → Time) (readings : List Reading) (latest : Key)
    (since : Time) : Prop where
  last : ∀ reading ∈ readings.getLast?, key reading = latest
  since_le : ∀ reading ∈ streak (alike key latest) readings, since ≤ time reading

variable {key : Reading → Key} {time : Reading → Time} {readings : List Reading} {latest : Key} {since : Time}
  {next : Reading}

/-- A reading with the same key continues the streak. -/
theorem Tracks.same (tracks : Tracks key time readings latest since) (same : key next = latest)
    (later : since ≤ time next) : Tracks key time (readings ++ [next]) latest since := by
  constructor
  · intro reading isLast
    rw [List.getLast?_concat] at isLast
    obtain rfl := Option.some.inj isLast
    exact same
  · rw [streak_good (show alike key latest next = true from decide_eq_true same)]
    intro reading member
    rcases List.mem_append.mp member with old | new
    · exact tracks.since_le reading old
    · rw [List.mem_singleton.mp new]
      exact later

/-- A reading with another key begins a streak. -/
theorem Tracks.changed (tracks : Tracks key time readings latest since) (changed : key next ≠ latest) :
    Tracks key time (readings ++ [next]) (key next) (time next) := by
  have ended : streak (alike key (key next)) readings = [] := by
    apply List.rtakeWhile_eq_nil_iff.mpr
    intro nonempty same
    have known := tracks.last _ (List.getLast_mem_getLast? nonempty)
    exact changed ((of_decide_eq_true same).symm.trans known)
  constructor
  · intro reading isLast
    rw [List.getLast?_concat] at isLast
    obtain rfl := Option.some.inj isLast
    rfl
  · rw [streak_good (show alike key (key next) next = true from decide_eq_true rfl), ended]
    intro reading member
    obtain rfl := List.mem_singleton.mp member
    exact le_refl _

theorem tracks_single (key : Reading → Key) (time : Reading → Time) (next : Reading) :
    Tracks key time [next] (key next) (time next) := by
  constructor
  · intro reading isLast
    obtain rfl := Option.some.inj isLast
    rfl
  · intro reading member
    have inside : reading ∈ [next] := (List.rtakeWhile_suffix _ _).subset member
    rw [List.mem_singleton.mp inside]

end Tracks

section Held

variable {Reading Time : Type*} [LinearOrder Time] [AddCommGroup Time]

/-- A program knows when a streak began and whether it has lasted long enough. -/
structure Held (good : Reading → Bool) (time : Reading → Time) (patience : Time) (readings : List Reading)
    (since : Option Time) (settled : Bool) : Prop where
  origin : ∀ begun ∈ since, ∃ first ∈ streak good readings, time first = begun
  broken : since = none → settled = false
  spans : settled = true → ∃ first ∈ streak good readings, ∃ last ∈ readings.getLast?,
    patience ≤ time last - time first

variable {good : Reading → Bool} {time : Reading → Time} {patience : Time} {readings : List Reading}
  {since : Option Time} {settled : Bool} {next : Reading}

theorem held_nothing (good : Reading → Bool) (time : Reading → Time) (patience : Time) (readings : List Reading) :
    Held good time patience readings none false := by
  constructor
  · rintro begun ⟨⟩
  · exact fun _ => rfl
  · rintro ⟨⟩

/-- A good reading begins a streak when none is known. -/
theorem held_first (isGood : good next = true) (patience : Time) :
    Held good time patience (readings ++ [next]) (some (time next)) false := by
  constructor
  · rintro begun ⟨⟩
    refine ⟨next, ?_, rfl⟩
    rw [streak_good isGood]
    exact List.mem_append_right _ (List.mem_singleton_self next)
  · rintro ⟨⟩
  · rintro ⟨⟩

/-- A streak that has lasted long enough. -/
theorem Held.settle {begun : Time} (held : Held good time patience readings (some begun) settled)
    (isGood : good next = true) (long : patience ≤ time next - begun) :
    Held good time patience (readings ++ [next]) (some begun) true := by
  obtain ⟨first, member, began⟩ := held.origin begun rfl
  have keeps : first ∈ streak good (readings ++ [next]) := by
    rw [streak_good isGood]
    exact List.mem_append_left _ member
  constructor
  · intro known same
    obtain rfl := Option.some.inj same
    exact ⟨first, keeps, began⟩
  · rintro ⟨⟩
  · intro _
    exact ⟨first, keeps, next, List.getLast?_concat, by rwa [began]⟩

variable [IsOrderedAddMonoid Time]

/-- A good reading continues a streak. -/
theorem Held.resume {begun : Time} (held : Held good time patience readings (some begun) settled)
    (isGood : good next = true) (later : ∀ last ∈ readings.getLast?, time last ≤ time next) :
    Held good time patience (readings ++ [next]) (some begun) settled := by
  have keeps {reading : Reading} (member : reading ∈ streak good readings) :
      reading ∈ streak good (readings ++ [next]) := by
    rw [streak_good isGood]
    exact List.mem_append_left _ member
  constructor
  · intro known same
    obtain ⟨first, member, began⟩ := held.origin known same
    exact ⟨first, keeps member, began⟩
  · rintro ⟨⟩
  · intro long
    obtain ⟨first, member, last, isLast, spans⟩ := held.spans long
    refine ⟨first, keeps member, next, List.getLast?_concat, ?_⟩
    exact spans.trans (sub_le_sub_right (later last isLast) _)

end Held

end HumanoidSdk.Foundation
