import Mathlib.Data.List.Basic
import Mathlib.Order.Defs.LinearOrder
import Mathlib.Algebra.Order.Monoid.Defs

namespace HumanoidSdk.Foundation

/-- A sender submits numbered commands, and the highest number that it has seen come back moves on. -/
inductive Mark (Time : Type*) where
  | submitted (number : ℕ) (time : Time)
  | echoed (number : ℕ) (time : Time)
  deriving DecidableEq

/-- The last number on each side, and the submission that ended the last idle period. -/
structure Waiting (Time : Type*) where
  submitted : ℕ
  echoed : ℕ
  since : Option Time

variable {Time : Type*}

def Mark.time : Mark Time → Time
  | .submitted _ time => time
  | .echoed _ time => time

/-- A sender is idle while everything has come back. -/
def Waiting.mark (waiting : Waiting Time) : Mark Time → Waiting Time
  | .submitted number time =>
      ⟨number, waiting.echoed, if waiting.echoed < waiting.submitted then waiting.since else some time⟩
  | .echoed number _ => ⟨waiting.submitted, number, if number < waiting.submitted then waiting.since else none⟩

def waiting (marks : List (Mark Time)) : Waiting Time := marks.foldl Waiting.mark ⟨0, 0, none⟩

@[simp] theorem waiting_nil : waiting ([] : List (Mark Time)) = ⟨0, 0, none⟩ := rfl

@[simp] theorem waiting_snoc (marks : List (Mark Time)) (mark : Mark Time) :
    waiting (marks ++ [mark]) = (waiting marks).mark mark := by
  rw [waiting, List.foldl_append]
  rfl

variable [LinearOrder Time]

/-- Numbers rise on both sides, nothing comes back that was not submitted, and time does not run back. -/
inductive Noted : List (Mark Time) → Prop
  | nil : Noted []
  | submitted {marks : List (Mark Time)} {number : ℕ} {time : Time} (noted : Noted marks)
      (higher : (waiting marks).submitted < number) (later : ∀ mark ∈ marks, mark.time ≤ time) :
      Noted (marks ++ [.submitted number time])
  | echoed {marks : List (Mark Time)} {number : ℕ} {time : Time} (noted : Noted marks)
      (higher : (waiting marks).echoed < number) (known : number ≤ (waiting marks).submitted)
      (later : ∀ mark ∈ marks, mark.time ≤ time) : Noted (marks ++ [.echoed number time])

/-- What the two numbers say about the marks. -/
structure Counted (marks : List (Mark Time)) : Prop where
  below : (waiting marks).echoed ≤ (waiting marks).submitted
  submitted : ∀ number time, .submitted number time ∈ marks → 0 < number ∧ number ≤ (waiting marks).submitted
  last : 0 < (waiting marks).submitted → ∃ time, .submitted (waiting marks).submitted time ∈ marks
  echoed : ∀ number time, .echoed number time ∈ marks → number ≤ (waiting marks).echoed
  reached : 0 < (waiting marks).echoed → ∃ time, .echoed (waiting marks).echoed time ∈ marks

theorem Noted.counted {marks : List (Mark Time)} (noted : Noted marks) : Counted marks := by
  induction noted with
  | nil => exact ⟨le_refl 0, by rintro _ _ ⟨⟩, fun none => absurd none (lt_irrefl 0), by rintro _ _ ⟨⟩,
      fun none => absurd none (lt_irrefl 0)⟩
  | @submitted marks number time noted higher later ih =>
      refine ⟨?_, fun other moment member => ?_, fun _ => ⟨time, ?_⟩, fun other moment member => ?_, fun positive => ?_⟩
      · rw [waiting_snoc]
        exact ih.below.trans higher.le
      · rw [waiting_snoc]
        rcases List.mem_append.mp member with old | new
        · exact ⟨(ih.submitted other moment old).1, (ih.submitted other moment old).2.trans higher.le⟩
        · cases List.mem_singleton.mp new
          exact ⟨lt_of_le_of_lt (Nat.zero_le _) higher, le_refl _⟩
      · rw [waiting_snoc]
        exact List.mem_append_right marks List.mem_cons_self
      · rw [waiting_snoc]
        rcases List.mem_append.mp member with old | new
        · exact ih.echoed other moment old
        · cases List.mem_singleton.mp new
      · rw [waiting_snoc] at positive ⊢
        obtain ⟨moment, member⟩ := ih.reached positive
        exact ⟨moment, List.mem_append_left _ member⟩
  | @echoed marks number time noted higher known later ih =>
      refine ⟨?_, fun other moment member => ?_, fun positive => ?_, fun other moment member => ?_, fun _ => ⟨time, ?_⟩⟩
      · rw [waiting_snoc]
        exact known
      · rw [waiting_snoc]
        rcases List.mem_append.mp member with old | new
        · exact ih.submitted other moment old
        · cases List.mem_singleton.mp new
      · rw [waiting_snoc] at positive ⊢
        obtain ⟨moment, member⟩ := ih.last positive
        exact ⟨moment, List.mem_append_left _ member⟩
      · rw [waiting_snoc]
        rcases List.mem_append.mp member with old | new
        · exact (ih.echoed other moment old).trans higher.le
        · cases List.mem_singleton.mp new
          exact le_refl _
      · rw [waiting_snoc]
        exact List.mem_append_right marks List.mem_cons_self

/-- The end of the last idle period is known exactly while a command is outstanding. -/
theorem Noted.since_some_iff {marks : List (Mark Time)} (noted : Noted marks) :
    (∃ begun, (waiting marks).since = some begun) ↔ (waiting marks).echoed < (waiting marks).submitted := by
  induction noted with
  | nil => simp
  | @submitted marks number time noted higher later ih =>
      rw [waiting_snoc]
      refine ⟨fun _ => lt_of_le_of_lt noted.counted.below higher, fun _ => ?_⟩
      by_cases open' : (waiting marks).echoed < (waiting marks).submitted
      · obtain ⟨begun, known⟩ := ih.mpr open'
        exact ⟨begun, (if_pos open').trans known⟩
      · exact ⟨time, if_neg open'⟩
  | @echoed marks number time noted higher known later ih =>
      rw [waiting_snoc]
      by_cases open' : number < (waiting marks).submitted
      · obtain ⟨begun, known⟩ := ih.mpr (higher.trans open')
        exact ⟨fun _ => open', fun _ => ⟨begun, (if_pos open').trans known⟩⟩
      · refine ⟨fun ⟨begun, known⟩ => ?_, fun short => absurd short open'⟩
        rw [Waiting.mark, if_neg open'] at known
        cases known

/-- Every outstanding command was submitted after the end of the last idle period. -/
theorem Noted.since_le {marks : List (Mark Time)} (noted : Noted marks) {begun : Time}
    (since : (waiting marks).since = some begun) {number : ℕ} {time : Time}
    (member : .submitted number time ∈ marks) (outstanding : (waiting marks).echoed < number) : begun ≤ time := by
  induction noted generalizing begun number time with
  | nil => cases since
  | @submitted marks last moment noted higher later ih =>
      rw [waiting_snoc] at since outstanding
      have before (old : .submitted number time ∈ marks) :
          (waiting marks).echoed < (waiting marks).submitted :=
        lt_of_lt_of_le outstanding (noted.counted.submitted number time old).2
      by_cases open' : (waiting marks).echoed < (waiting marks).submitted
      · rw [Waiting.mark, if_pos open'] at since
        rcases List.mem_append.mp member with old | new
        · exact ih since old outstanding
        · cases List.mem_singleton.mp new
          obtain ⟨first, isFirst⟩ := noted.counted.last (lt_of_le_of_lt (Nat.zero_le _) open')
          exact (ih since isFirst open').trans (later _ isFirst)
      · rw [Waiting.mark, if_neg open'] at since
        cases since
        rcases List.mem_append.mp member with old | new
        · exact absurd (before old) open'
        · cases List.mem_singleton.mp new
          exact le_refl _
  | @echoed marks last moment noted higher known later ih =>
      rw [waiting_snoc] at since outstanding
      have old : .submitted number time ∈ marks := by
        rcases List.mem_append.mp member with old | new
        · exact old
        · cases List.mem_singleton.mp new
      by_cases open' : last < (waiting marks).submitted
      · rw [Waiting.mark, if_pos open'] at since
        exact ih since old (higher.trans outstanding)
      · rw [Waiting.mark, if_neg open'] at since
        cases since

/-- Some outstanding command was submitted at the end of the last idle period or before an echo. -/
theorem Noted.since_witness {marks : List (Mark Time)} (noted : Noted marks) {begun : Time}
    (since : (waiting marks).since = some begun) :
    ∃ number time, .submitted number time ∈ marks ∧ (waiting marks).echoed < number ∧
      (time = begun ∨ ∃ echo moment, .echoed echo moment ∈ marks ∧ time ≤ moment) := by
  induction noted generalizing begun with
  | nil => cases since
  | @submitted marks last moment noted higher later ih =>
      rw [waiting_snoc] at since ⊢
      by_cases open' : (waiting marks).echoed < (waiting marks).submitted
      · rw [Waiting.mark, if_pos open'] at since
        obtain ⟨number, time, member, outstanding, place⟩ := ih since
        refine ⟨number, time, List.mem_append_left _ member, outstanding, ?_⟩
        rcases place with same | ⟨echo, moment, seen, before⟩
        · exact .inl same
        · exact .inr ⟨echo, moment, List.mem_append_left _ seen, before⟩
      · rw [Waiting.mark, if_neg open'] at since
        exact ⟨last, moment, List.mem_append_right _ List.mem_cons_self,
          lt_of_le_of_lt noted.counted.below higher, .inl (Option.some.inj since)⟩
  | @echoed marks last moment noted higher known later ih =>
      rw [waiting_snoc] at since ⊢
      by_cases open' : last < (waiting marks).submitted
      · obtain ⟨time, member⟩ := noted.counted.last (lt_of_le_of_lt (Nat.zero_le _) open')
        exact ⟨_, time, List.mem_append_left _ member, open', .inr ⟨last, moment,
          List.mem_append_right _ List.mem_cons_self, later _ member⟩⟩
      · rw [Waiting.mark, if_neg open'] at since
        cases since

/-- A watcher knows the highest number that has come back, and a time after which nothing has. -/
structure Watched (marks : List (Mark Time)) (echoed : ℕ) (progress now : Time) : Prop where
  noted : Noted marks
  past : ∀ mark ∈ marks, mark.time ≤ now
  echoed : (waiting marks).echoed = echoed
  quiet : ∀ number time, .echoed number time ∈ marks → time ≤ progress

namespace Watched

variable {marks : List (Mark Time)} {echoed : ℕ} {progress now time : Time}

theorem start (progress now : Time) : Watched [] 0 progress now := by
  constructor
  · exact .nil
  · simp
  · rfl
  · simp

theorem later (watched : Watched marks echoed progress now) (forward : now ≤ time) :
    Watched marks echoed progress time :=
  ⟨watched.noted, fun mark member => (watched.past mark member).trans forward, watched.echoed, watched.quiet⟩

/-- The watcher may start its clock anew. -/
theorem restart (watched : Watched marks echoed progress now) : Watched marks echoed now now :=
  ⟨watched.noted, watched.past, watched.echoed, fun _ _ member => watched.past _ member⟩

/-- A submission leaves the watcher as it is. -/
theorem submit (watched : Watched marks echoed progress now) {number : ℕ}
    (higher : (waiting marks).submitted < number) :
    Watched (marks ++ [.submitted number now]) echoed progress now := by
  constructor
  · exact watched.noted.submitted higher watched.past
  · intro mark member
    rcases List.mem_append.mp member with old | new
    · exact watched.past mark old
    · cases List.mem_singleton.mp new
      exact le_refl now
  · rw [waiting_snoc]
    exact watched.echoed
  · intro other moment member
    rcases List.mem_append.mp member with old | new
    · exact watched.quiet other moment old
    · cases List.mem_singleton.mp new

/-- The watcher follows a higher number. -/
theorem echo (watched : Watched marks echoed progress now) {number : ℕ} (higher : echoed < number)
    (known : number ≤ (waiting marks).submitted) : Watched (marks ++ [.echoed number now]) number now now := by
  have past : ∀ mark ∈ marks ++ [.echoed number now], mark.time ≤ now := by
    intro mark member
    rcases List.mem_append.mp member with old | new
    · exact watched.past mark old
    · cases List.mem_singleton.mp new
      exact le_refl now
  constructor
  · exact watched.noted.echoed (watched.echoed.trans_lt higher) known watched.past
  · exact past
  · rw [waiting_snoc]
    rfl
  · intro other moment member
    exact past _ member

end Watched

variable [AddCommMonoid Time]

/-- For a whole timeout one command was outstanding and nothing came back. -/
def Waited (timeout now : Time) (marks : List (Mark Time)) : Prop :=
  ∃ number time, .submitted number time ∈ marks ∧ time + timeout ≤ now ∧
    ∀ echo moment, .echoed echo moment ∈ marks → echo < number ∧ moment + timeout ≤ now

/-- An echo that came a timeout ago and did not reach a number. -/
def Mark.Misses (timeout now : Time) (number : ℕ) : Mark Time → Prop
  | .submitted _ _ => True
  | .echoed echo moment => echo < number ∧ moment + timeout ≤ now

instance (timeout now : Time) (number : ℕ) (mark : Mark Time) : Decidable (mark.Misses timeout now number) :=
  match mark with
  | .submitted _ _ => .isTrue trivial
  | .echoed _ _ => inferInstanceAs (Decidable (_ ∧ _))

/-- A command that was submitted a timeout ago and that every echo misses. -/
def Mark.Waits (timeout now : Time) (marks : List (Mark Time)) : Mark Time → Prop
  | .submitted number time => time + timeout ≤ now ∧ ∀ mark ∈ marks, mark.Misses timeout now number
  | .echoed _ _ => False

instance (timeout now : Time) (marks : List (Mark Time)) (mark : Mark Time) :
    Decidable (mark.Waits timeout now marks) :=
  match mark with
  | .submitted _ _ => inferInstanceAs (Decidable (_ ∧ _))
  | .echoed _ _ => .isFalse id

theorem waited_iff_mark {timeout now : Time} {marks : List (Mark Time)} :
    Waited timeout now marks ↔ ∃ mark ∈ marks, mark.Waits timeout now marks := by
  constructor
  · rintro ⟨number, time, member, passed, above⟩
    refine ⟨_, member, passed, fun mark seen => ?_⟩
    cases mark with
    | submitted => trivial
    | echoed echo moment => exact above echo moment seen
  · rintro ⟨mark, member, waits⟩
    cases mark with
    | submitted number time => exact ⟨number, time, member, waits.1, fun echo moment seen => waits.2 _ seen⟩
    | echoed => exact absurd waits id

instance (timeout now : Time) (marks : List (Mark Time)) : Decidable (Waited timeout now marks) :=
  decidable_of_iff _ waited_iff_mark.symm

variable [IsOrderedAddMonoid Time]

/-- After a timeout without an echo, a command has waited exactly if the last idle period ended a timeout ago. -/
theorem Noted.waited_iff {marks : List (Mark Time)} (noted : Noted marks) {timeout now : Time}
    (quiet : ∀ echo moment, .echoed echo moment ∈ marks → moment + timeout ≤ now) :
    Waited timeout now marks ↔ ∃ begun, (waiting marks).since = some begun ∧ begun + timeout ≤ now := by
  have counted := noted.counted
  constructor
  · rintro ⟨number, time, member, passed, above⟩
    have outstanding : (waiting marks).echoed < number := by
      rcases Nat.eq_zero_or_pos (waiting marks).echoed with none | positive
      · rw [none]
        exact (counted.submitted number time member).1
      · obtain ⟨moment, reached⟩ := counted.reached positive
        exact (above _ moment reached).1
    obtain ⟨begun, since⟩ := noted.since_some_iff.mpr
      (lt_of_lt_of_le outstanding (counted.submitted number time member).2)
    have earlier := noted.since_le since member outstanding
    exact ⟨begun, since, (add_le_add earlier (le_refl timeout)).trans passed⟩
  · rintro ⟨begun, since, passed⟩
    obtain ⟨number, time, member, outstanding, place⟩ := noted.since_witness since
    refine ⟨number, time, member, ?_, fun echo moment seen =>
      ⟨lt_of_le_of_lt (counted.echoed echo moment seen) outstanding, quiet echo moment seen⟩⟩
    rcases place with rfl | ⟨echo, moment, seen, before⟩
    · exact passed
    · exact (add_le_add before (le_refl timeout)).trans (quiet echo moment seen)

/-- An alarm of the watcher is true exactly if the last idle period ended a timeout ago. -/
theorem Watched.waited_iff {marks : List (Mark Time)} {echoed : ℕ} {progress now timeout : Time}
    (watched : Watched marks echoed progress now) (passed : progress + timeout ≤ now) :
    Waited timeout now marks ↔ ∃ begun, (waiting marks).since = some begun ∧ begun + timeout ≤ now := by
  apply watched.noted.waited_iff
  intro echo moment member
  exact (add_le_add (watched.quiet echo moment member) (le_refl timeout)).trans passed

end HumanoidSdk.Foundation
