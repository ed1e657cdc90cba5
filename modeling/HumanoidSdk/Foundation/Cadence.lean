import HumanoidSdk.Foundation.Clocked
import Mathlib.Algebra.Order.Group.Basic
import Mathlib.Algebra.Order.Group.Nat
import Mathlib.Data.List.Basic
import Mathlib.Order.Lattice

namespace HumanoidSdk.Foundation

variable {Time : Type*} [AddCommGroup Time] [LinearOrder Time]

/-- Every beat waits for a deadline. The next deadline is after the beat and at least a period later. -/
inductive Paced (period : Time) : List Time → Time → Prop
  | start (deadline : Time) : Paced period [] deadline
  | beat {beats : List Time} {deadline beat next : Time} (paced : Paced period beats deadline)
      (waited : deadline ≤ beat) (after : beat < next) (later : deadline + period ≤ next) :
      Paced period (beats ++ [beat]) next

/-- The beats of a half-open window of a number of periods. -/
def beatsWithin (beats : List Time) (start period : Time) (periods : ℕ) : List Time :=
  beats.filter fun beat => start ≤ beat ∧ beat < start + periods • period

/-- The deadline after a beat. An overrun starts a new count at the present time. -/
def nextDeadline (deadline period now : Time) : Time :=
  if now < deadline + period then deadline + period else now + period

variable {period start deadline beat now mark : Time} {beats : List Time}

/-- A deadline may be put off. -/
theorem Paced.delay (paced : Paced period beats deadline) {next : Time} (later : deadline ≤ next) :
    Paced period beats next := by
  cases paced with
  | start => exact .start next
  | beat paced waited after shift => exact paced.beat waited (after.trans_le later) (shift.trans later)

/-- A beat has come by a mark and the next deadline is not set. -/
def Beaten (period : Time) (beats : List Time) (deadline mark : Time) : Prop :=
  ∃ earlier beat, beats = earlier ++ [beat] ∧ Paced period earlier deadline ∧ deadline ≤ beat ∧ beat ≤ mark

theorem Paced.beaten (paced : Paced period beats deadline) (waited : deadline ≤ now) :
    Beaten period (beats ++ [now]) deadline now :=
  ⟨beats, now, rfl, paced, waited, le_refl now⟩

theorem Beaten.later (beaten : Beaten period beats deadline mark) (forward : mark ≤ now) :
    Beaten period beats deadline now := by
  obtain ⟨earlier, beat, cut, paced, waited, before⟩ := beaten
  exact ⟨earlier, beat, cut, paced, waited, before.trans forward⟩

/-- Where a loop stands between two beats. -/
inductive Tempo (Time : Type*)
  | idle
  | waiting (deadline : Time)
  | due (deadline : Time)
  | beaten (deadline : Time)
  | ended

namespace Tempo

/-- What a step of a paced loop does at a clock reading, with the beats of the step. -/
inductive Step (period now : Time) : Tempo Time → List Time → Tempo Time → Prop
  | stay (tempo : Tempo Time) : Step period now tempo [] tempo
  | arm (deadline : Time) : Step period now .idle [] (.waiting deadline)
  | start : Step period now .idle [] (.due now)
  | wake {deadline : Time} (reached : deadline ≤ now) : Step period now (.waiting deadline) [] (.due deadline)
  | beat (deadline : Time) : Step period now (.due deadline) [now] (.beaten deadline)
  | skip (deadline : Time) : Step period now (.due deadline) [] (.waiting (nextDeadline deadline period now))
  | schedule (deadline : Time) :
      Step period now (.beaten deadline) [] (.waiting (nextDeadline deadline period now))
  | stop (tempo : Tempo Time) : Step period now tempo [] .ended

/-- The beats so far with the place of the loop. -/
def Holds (period : Time) (beats : List Time) (now : Time) : Tempo Time → Prop
  | .idle => beats = []
  | .waiting deadline => Paced period beats deadline
  | .due deadline => Paced period beats deadline ∧ deadline ≤ now
  | .beaten deadline => Beaten period beats deadline now
  | .ended => ∃ deadline, Paced period beats deadline

variable {tempo : Tempo Time} {time : Time}

theorem Holds.later (held : tempo.Holds period beats time) (forward : time ≤ now) :
    tempo.Holds period beats now := by
  cases tempo with
  | idle => exact held
  | waiting deadline => exact held
  | due deadline => exact ⟨held.1, held.2.trans forward⟩
  | beaten deadline => exact Beaten.later held forward
  | ended => exact held

end Tempo

variable [IsOrderedAddMonoid Time]

/-- Each beat from a start on moves the deadline by a period. -/
theorem Paced.count_lt (paced : Paced period beats deadline) {count : ℕ}
    (counted : (beats.filter (start ≤ ·)).length = count + 1) : start + count • period < deadline := by
  induction paced generalizing count with
  | start => cases counted
  | @beat beats deadline beat next _ waited after later ih =>
      rw [List.filter_append, List.length_append] at counted
      by_cases inside : start ≤ beat
      · rw [List.filter_cons_of_pos (by simpa using inside), List.filter_nil, List.length_singleton] at counted
        cases count with
        | zero =>
            rw [zero_nsmul, add_zero]
            exact inside.trans_lt after
        | succ count =>
            have earlier := ih (Nat.succ.inj counted)
            calc start + (count + 1) • period
                = start + count • period + period := by rw [succ_nsmul, add_assoc]
              _ < deadline + period := add_lt_add_left earlier period
              _ ≤ next := later
      · rw [List.filter_cons_of_neg (by simpa using inside), List.filter_nil, List.length_nil] at counted
        exact (ih counted).trans (waited.trans_lt after)

/-- There is no burst: a window of some periods holds one beat more at most. -/
theorem Paced.within (paced : Paced period beats deadline) (start : Time) (periods : ℕ) :
    (beatsWithin beats start period periods).length ≤ periods + 1 := by
  induction paced with
  | start => exact Nat.zero_le _
  | @beat beats deadline beat next paced waited after later ih =>
      rw [beatsWithin, List.filter_append, List.length_append]
      by_cases inside : start ≤ beat ∧ beat < start + periods • period
      · rw [List.filter_cons_of_pos (by simpa using inside), List.filter_nil, List.length_singleton]
        by_contra many
        have subset : (beatsWithin beats start period periods).length ≤ (beats.filter (start ≤ ·)).length := by
          rw [beatsWithin]
          apply List.Sublist.length_le
          apply List.monotone_filter_right
          intro other
          simp only [Bool.decide_and, Bool.and_eq_true, decide_eq_true_eq]
          exact And.left
        obtain ⟨count, counted⟩ : ∃ count, (beats.filter (start ≤ ·)).length = count + 1 := by
          apply Nat.exists_eq_succ_of_ne_zero
          rw [beatsWithin] at subset
          omega
        have enough : periods ≤ count := by
          rw [beatsWithin] at subset
          omega
        have forward : 0 ≤ period := by
          by_contra backward
          have shrinks : periods • period ≤ 0 := nsmul_nonpos (not_le.mp backward).le periods
          have short : start + periods • period ≤ start := add_le_of_nonpos_right shrinks
          exact absurd (inside.2.trans_le short) (not_lt.mpr inside.1)
        have reached := paced.count_lt counted
        have beyond : start + periods • period ≤ start + count • period :=
          add_le_add_right (nsmul_le_nsmul_left forward enough) start
        exact absurd (inside.2.trans_le beyond) (not_lt.mpr (reached.le.trans waited))
      · rw [List.filter_cons_of_neg (by simpa using inside), List.filter_nil, List.length_nil]
        exact ih

/-- The next deadline paces the beat. -/
theorem Beaten.paced (beaten : Beaten period beats deadline now) (positive : 0 < period) :
    Paced period beats (nextDeadline deadline period now) := by
  obtain ⟨earlier, beat, rfl, paced, waited, before⟩ := beaten
  unfold nextDeadline
  split
  · rename_i intime
    exact paced.beat waited (before.trans_lt intime) (le_refl _)
  · rename_i overrun
    apply paced.beat waited
    · exact before.trans_lt (lt_add_of_pos_right now positive)
    · exact (not_lt.mp overrun).trans (le_add_of_nonneg_right positive.le)

/-- A deadline that no beat has missed moves on as well. -/
theorem le_nextDeadline (positive : 0 < period) : deadline ≤ nextDeadline deadline period now := by
  unfold nextDeadline
  split
  · exact le_add_of_nonneg_right positive.le
  · rename_i overrun
    calc deadline ≤ deadline + period := le_add_of_nonneg_right positive.le
      _ ≤ now := not_lt.mp overrun
      _ ≤ now + period := le_add_of_nonneg_right positive.le

/-- Without a positive period the windows are empty. -/
theorem beatsWithin_eq_nil (nonpos : ¬0 < period) (periods : ℕ) : beatsWithin beats start period periods = [] := by
  rw [beatsWithin, List.filter_eq_nil_iff]
  intro beat _
  rw [decide_eq_true_eq]
  rintro ⟨after, before⟩
  have shrinks : periods • period ≤ 0 := nsmul_nonpos (not_lt.mp nonpos) periods
  exact absurd (before.trans_le (add_le_of_nonpos_right shrinks)) (not_lt.mpr after)

namespace Tempo

variable {tempo next : Tempo Time} {fresh : List Time} {time : Time}

theorem Holds.paced (held : tempo.Holds period beats now) (positive : 0 < period) :
    ∃ deadline, Paced period beats deadline := by
  cases tempo with
  | idle =>
      obtain rfl : beats = [] := held
      exact ⟨now, .start now⟩
  | waiting deadline => exact ⟨deadline, held⟩
  | due deadline => exact ⟨deadline, held.1⟩
  | beaten deadline => exact ⟨_, Beaten.paced held positive⟩
  | ended => exact held

/-- A step keeps the beats paced. -/
theorem Step.holds (step : Step period now tempo fresh next) (positive : 0 < period)
    (held : tempo.Holds period beats now) : next.Holds period (beats ++ fresh) now := by
  cases step with
  | stay =>
      rw [List.append_nil]
      exact held
  | arm deadline =>
      obtain rfl : beats = [] := held
      exact Paced.start deadline
  | start =>
      obtain rfl : beats = [] := held
      exact ⟨.start now, le_refl now⟩
  | wake reached =>
      rw [List.append_nil]
      exact ⟨held, reached⟩
  | beat deadline => exact held.1.beaten held.2
  | skip deadline =>
      rw [List.append_nil]
      exact held.1.delay (le_nextDeadline positive)
  | schedule deadline =>
      rw [List.append_nil]
      exact Beaten.paced held positive
  | stop =>
      rw [List.append_nil]
      exact held.paced positive

/-- A machine whose steps are those of a paced loop never bursts. -/
theorem within_of_run {State Input Event : Type*} {advance : State → Time → Input → Option (State × List Event)}
    (tempo : State → Tempo Time) (beat : Event → Option Time)
    (refines : ∀ state now input next events, advance state now input = some (next, events) →
      Step period now (tempo state) (events.filterMap beat) (tempo next))
    {start final : Timed Time State} {moves : List (Move (Timed Time State) (Time × Input) Event)}
    (idle : tempo start.state = .idle) (run : (clocked advance).Run start moves final) (first : Time) (periods : ℕ) :
    (beatsWithin ((trace moves).filterMap beat) first period periods).length ≤ periods + 1 := by
  by_cases positive : 0 < period
  · have held : (tempo final.state).Holds period ((trace moves).filterMap beat) final.time := by
      apply clocked_invariant (fun log time state => (tempo state).Holds period (log.filterMap beat) time) _ _ run
      · rw [idle]
        rfl
      · intro log time state now input next events held forward advanced
        rw [List.filterMap_append]
        exact (refines state now input next events advanced).holds positive (held.later forward)
    obtain ⟨deadline, paced⟩ := held.paced positive
    exact paced.within first periods
  · rw [beatsWithin_eq_nil positive]
    exact Nat.zero_le _

end Tempo

end HumanoidSdk.Foundation
