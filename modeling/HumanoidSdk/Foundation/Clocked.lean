import HumanoidSdk.Foundation.Run
import Mathlib.Order.Lattice

namespace HumanoidSdk.Foundation

/-- A state with the clock reading of its last step. -/
structure Timed (Time State : Type*) where
  time : Time
  state : State

variable {Time State Input Event : Type*} [LinearOrder Time]

/-- Every input carries the clock reading at its end, and the clock does not run backwards. -/
def clocked (advance : State → Time → Input → Option (State × List Event)) :
    Machine (Timed Time State) (Time × Input) Event where
  step timed input :=
    if timed.time ≤ input.1 then
      (advance timed.state input.1 input.2).map fun next => (⟨input.1, next.1⟩, next.2)
    else none

variable {advance : State → Time → Input → Option (State × List Event)}

theorem clocked_cases {timed next : Timed Time State} {input : Time × Input} {events : List Event}
    (accepted : (clocked advance).step timed input = some (next, events)) :
    timed.time ≤ input.1 ∧ next.time = input.1 ∧
      advance timed.state input.1 input.2 = some (next.state, events) := by
  obtain ⟨forward, accepted⟩ := Option.ite_none_right_eq_some.mp accepted
  obtain ⟨⟨state, emitted⟩, advanced, only⟩ := Option.map_eq_some_iff.mp accepted
  cases only
  exact ⟨forward, rfl, advanced⟩

/-- A property of the trace, the clock and the state holds on runs when every step keeps it. -/
theorem clocked_invariant {start final : Timed Time State}
    {moves : List (Move (Timed Time State) (Time × Input) Event)}
    (holds : List Event → Time → State → Prop) (initial : holds [] start.time start.state)
    (preserved : ∀ log time state now input next events, holds log time state → time ≤ now →
      advance state now input = some (next, events) → holds (log ++ events) now next)
    (run : (clocked advance).Run start moves final) : holds (trace moves) final.time final.state := by
  refine run.traceInvariant (fun log timed => holds log timed.time timed.state) initial ?_
  intro log timed input next events held accepted
  obtain ⟨forward, clock, advanced⟩ := clocked_cases accepted
  rw [clock]
  exact preserved log timed.time timed.state input.1 input.2 next.state events held forward advanced

end HumanoidSdk.Foundation
