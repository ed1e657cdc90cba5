import Mathlib.Data.List.Basic

namespace HumanoidSdk.Foundation

section Statements

variable {Statement State : Type*} (next : Statement → State → State → Prop)
  (certain : Statement → State → Prop)

/-- What a state needs so that every run of the statements that does not fail ends in the goal. -/
def needs (goal : State → Prop) : List Statement → State → Prop
  | [], state => goal state
  | statement :: rest, state => ∀ after, next statement state after → needs goal rest after

/-- What a state needs so that the statements do not fail and end in the goal. -/
def ensures (goal : State → Prop) : List Statement → State → Prop
  | [], state => goal state
  | statement :: rest, state =>
      certain statement state ∧ ∀ after, next statement state after → ensures goal rest after

variable {next certain} {goal weaker : State → Prop}

/-- Two lists in a row need what the first needs for the second. -/
theorem needs_append (first second : List Statement) (state : State) :
    needs next goal (first ++ second) state ↔ needs next (needs next goal second) first state := by
  induction first generalizing state with
  | nil => rfl
  | cons statement rest ih => exact forall₂_congr fun after _ => ih after

theorem needs_imp (implies : ∀ state, goal state → weaker state) {statements : List Statement} {state : State}
    (need : needs next goal statements state) : needs next weaker statements state := by
  induction statements generalizing state with
  | nil => exact implies state need
  | cons statement rest ih =>
      intro after reached
      exact ih (need after reached)

theorem needs_always (always : ∀ state, goal state) (statements : List Statement) (state : State) :
    needs next goal statements state := by
  induction statements generalizing state with
  | nil => exact always state
  | cons statement rest ih => exact fun after _ => ih after

end Statements

section Justified

variable {Event : Type*} {holds : List Event → Event → Prop} {log : List Event}

/-- Every event of a log stands in a given relation to the events before it. -/
def Justified (holds : List Event → Event → Prop) (log : List Event) : Prop :=
  ∀ before event after, log = before ++ event :: after → holds before event

theorem Justified.empty : Justified holds [] := by
  intro before event after cut
  simp at cut

/-- A log with one more event is justified by its past. -/
theorem Justified.snoc (justified : Justified holds log) {event : Event} (last : holds log event) :
    Justified holds (log ++ [event]) := by
  intro before other after cut
  rcases List.eq_nil_or_concat after with rfl | ⟨rest, final, rfl⟩
  · obtain ⟨rfl, same⟩ := List.append_inj' cut rfl
    obtain rfl := List.singleton_inj.mp same
    exact last
  · rw [List.concat_eq_append, ← List.cons_append, ← List.append_assoc] at cut
    exact justified before other rest (List.append_inj' cut rfl).1

/-- Two parts of a log are justified when the second is after the first. -/
theorem Justified.append (justified : Justified holds log) {events : List Event}
    (later : ∀ before event after, events = before ++ event :: after → holds (log ++ before) event) :
    Justified holds (log ++ events) := by
  induction events generalizing log with
  | nil => rwa [List.append_nil]
  | cons event rest ih =>
      have first : holds log event := by simpa using later [] event rest rfl
      rw [← List.singleton_append, ← List.append_assoc]
      refine ih (justified.snoc first) fun before other after cut => ?_
      rw [List.append_assoc]
      exact later (event :: before) other after (by rw [cut, List.cons_append])

end Justified

end HumanoidSdk.Foundation
