import Mathlib.Data.List.Basic
import Mathlib.Data.List.Infix

namespace HumanoidSdk.Foundation

/-- A machine answers one input with its next state and the events it emits. -/
structure Machine (State Input Event : Type*) where
  step : State → Input → Option (State × List Event)

/-- A move records one accepted input together with the states around it. -/
structure Move (State Input Event : Type*) where
  before : State
  input : Input
  after : State
  events : List Event

variable {State Input Event : Type*}

/-- A run lists the moves that lead from the start state to the present one. -/
inductive Machine.Run (machine : Machine State Input Event) (start : State) :
    List (Move State Input Event) → State → Prop
  | nil : machine.Run start [] start
  | snoc {moves : List (Move State Input Event)} {state next : State} {input : Input}
      {events : List Event} (earlier : machine.Run start moves state)
      (accepted : machine.step state input = some (next, events)) :
      machine.Run start (moves ++ [⟨state, input, next, events⟩]) next

/-- The trace is the concatenation of all emitted events. -/
def trace (moves : List (Move State Input Event)) : List Event := moves.flatMap Move.events

@[simp] theorem trace_nil : trace ([] : List (Move State Input Event)) = [] := rfl

@[simp] theorem trace_append (first second : List (Move State Input Event)) :
    trace (first ++ second) = trace first ++ trace second := List.flatMap_append

@[simp] theorem trace_cons (move : Move State Input Event) (rest : List (Move State Input Event)) :
    trace (move :: rest) = move.events ++ trace rest := rfl

theorem mem_trace {moves : List (Move State Input Event)} {event : Event} :
    event ∈ trace moves ↔ ∃ move ∈ moves, event ∈ move.events := List.mem_flatMap

namespace Machine.Run

variable {machine : Machine State Input Event} {start middle final : State}
  {first second moves : List (Move State Input Event)}

/-- Two consecutive runs form one run. -/
theorem append (head : machine.Run start first middle) (tail : machine.Run middle second final) :
    machine.Run start (first ++ second) final := by
  induction tail with
  | nil => simpa using head
  | snoc _ accepted ih =>
      rw [← List.append_assoc]
      exact ih.snoc accepted

/-- A run can be cut after any of its prefixes. -/
theorem split (run : machine.Run start moves final) (first second : List (Move State Input Event))
    (cut : moves = first ++ second) :
    ∃ middle, machine.Run start first middle ∧ machine.Run middle second final := by
  induction run generalizing second with
  | nil =>
      obtain ⟨rfl, rfl⟩ := List.append_eq_nil_iff.mp cut.symm
      exact ⟨start, .nil, .nil⟩
  | @snoc moves state next input events earlier accepted ih =>
      rcases List.eq_nil_or_concat second with rfl | ⟨rest, last, rfl⟩
      · rw [List.append_nil] at cut
        exact ⟨next, cut ▸ earlier.snoc accepted, .nil⟩
      · rw [List.concat_eq_append, ← List.append_assoc] at cut
        obtain ⟨sameMoves, sameLast⟩ := List.append_inj' cut rfl
        obtain ⟨middle, head, tail⟩ := ih rest sameMoves
        rw [List.concat_eq_append, ← List.singleton_inj.mp sameLast]
        exact ⟨middle, head, tail.snoc accepted⟩

/-- The machine accepts the input of a one-move run. -/
theorem single {move : Move State Input Event} (run : machine.Run start [move] final) :
    start = move.before ∧ final = move.after ∧
      machine.step move.before move.input = some (move.after, move.events) := by
  generalize same : [move] = moves at run
  cases run with
  | nil => exact absurd same (by simp)
  | @snoc moves state _ input events earlier accepted =>
      obtain ⟨empty, only⟩ := List.append_inj' (show [] ++ [move] = _ from same) rfl
      obtain rfl := List.singleton_inj.mp only
      subst empty
      generalize none : [] = before at earlier
      cases earlier with
      | nil => exact ⟨rfl, rfl, accepted⟩
      | snoc _ _ => exact absurd none (by simp)

/-- Every move of a run is a machine step between two runs. -/
theorem at_move (run : machine.Run start moves final)
    {earlier later : List (Move State Input Event)} {move : Move State Input Event}
    (cut : moves = earlier ++ move :: later) :
    machine.Run start earlier move.before ∧
      machine.step move.before move.input = some (move.after, move.events) ∧
      machine.Run move.after later final := by
  obtain ⟨middle, head, tail⟩ := run.split earlier (move :: later) cut
  obtain ⟨next, one, rest⟩ := tail.split [move] later rfl
  obtain ⟨rfl, rfl, accepted⟩ := one.single
  exact ⟨head, accepted, rest⟩

/-- A property of the moves and the state holds on runs when every move keeps it. -/
theorem invariant (holds : List (Move State Input Event) → State → Prop) (initial : holds [] start)
    (preserved : ∀ moves state input next events, machine.Run start moves state → holds moves state →
      machine.step state input = some (next, events) →
      holds (moves ++ [⟨state, input, next, events⟩]) next)
    (run : machine.Run start moves final) : holds moves final := by
  induction run with
  | nil => exact initial
  | snoc earlier accepted ih => exact preserved _ _ _ _ _ earlier ih accepted

/-- A property of the trace and the state holds on runs when every step keeps it. -/
theorem traceInvariant (holds : List Event → State → Prop) (initial : holds [] start)
    (preserved : ∀ log state input next events, holds log state →
      machine.step state input = some (next, events) → holds (log ++ events) next)
    (run : machine.Run start moves final) : holds (trace moves) final := by
  refine run.invariant (fun moves state => holds (trace moves) state) initial ?_
  intro moves state input next events _ held accepted
  simpa using preserved _ _ _ _ _ held accepted

/-- A property of the state alone holds on runs when every step keeps it. -/
theorem stateInvariant (holds : State → Prop) (initial : holds start)
    (preserved : ∀ state input next events, holds state →
      machine.step state input = some (next, events) → holds next)
    (run : machine.Run start moves final) : holds final :=
  run.traceInvariant (fun _ state => holds state) initial
    fun _ state input next events held accepted => preserved state input next events held accepted

end Machine.Run

/-- Replay executes a list of inputs and records its moves. -/
def Machine.replay (machine : Machine State Input Event) :
    State → List Input → Option (List (Move State Input Event) × State)
  | state, [] => some ([], state)
  | state, input :: rest =>
      match machine.step state input with
      | none => none
      | some (next, events) =>
          (machine.replay next rest).map fun tail => (⟨state, input, next, events⟩ :: tail.1, tail.2)

/-- A successful replay is a run over its inputs. -/
theorem Machine.run_of_replay (machine : Machine State Input Event) {inputs : List Input}
    {start final : State} {moves : List (Move State Input Event)}
    (replayed : machine.replay start inputs = some (moves, final)) :
    machine.Run start moves final ∧ moves.map Move.input = inputs := by
  induction inputs generalizing start moves with
  | nil =>
      cases replayed
      exact ⟨.nil, rfl⟩
  | cons input rest ih =>
      rw [replay] at replayed
      cases accepted : machine.step start input with
      | none => simp [accepted] at replayed
      | some answer =>
          simp only [accepted, Option.map_eq_some_iff, Prod.mk.injEq] at replayed
          obtain ⟨tail, ran, rfl, rfl⟩ := replayed
          obtain ⟨run, same⟩ := ih ran
          exact ⟨(Machine.Run.nil.snoc accepted).append run, congrArg (input :: ·) same⟩

/-- A replay that ends with the wanted property gives a run with it. -/
theorem Machine.exists_run (machine : Machine State Input Event) (start : State) (inputs : List Input)
    (wanted : List (Move State Input Event) → State → Prop)
    (reached : ∃ answer ∈ machine.replay start inputs, wanted answer.1 answer.2) :
    ∃ moves final, machine.Run start moves final ∧ moves.map Move.input = inputs ∧ wanted moves final := by
  obtain ⟨⟨moves, final⟩, member, holds⟩ := reached
  obtain ⟨run, same⟩ := machine.run_of_replay member
  exact ⟨moves, final, run, same, holds⟩

/-- Two replays in a row give a run to a middle state and a run from there. -/
theorem Machine.exists_runs (machine : Machine State Input Event) (start : State) (first second : List Input)
    (wanted : State → List (Move State Input Event) → State → Prop)
    (reached : ∃ past ∈ machine.replay start first, ∃ answer ∈ machine.replay past.2 second,
      wanted past.2 answer.1 answer.2) :
    ∃ before middle moves final, machine.Run start before middle ∧ machine.Run middle moves final ∧
      moves.map Move.input = second ∧ wanted middle moves final := by
  obtain ⟨⟨before, middle⟩, past, ⟨moves, final⟩, member, holds⟩ := reached
  obtain ⟨run, same⟩ := machine.run_of_replay member
  exact ⟨before, middle, moves, final, (machine.run_of_replay past).1, run, same, holds⟩

/-- A test of every value together with the values before it. -/
def everyCut {Value : Type*} (test : List Value → Value → Bool) (values : List Value) : Bool :=
  (List.range values.length).all fun index => values[index]?.all (test (values.take index))

theorem everyCut_at {Value : Type*} {test : List Value → Value → Bool} {earlier later : List Value} {value : Value}
    (passed : everyCut test (earlier ++ value :: later) = true) : test earlier value = true := by
  have inside := List.all_eq_true.mp passed earlier.length (by simp)
  rwa [List.getElem?_append_right (le_refl _), Nat.sub_self, List.take_left] at inside

/-- A list is cut at one position and at a later one. -/
theorem cut_twice {Value : Type*} (values : List Value) (first gap : Nat)
    (inside : first + 1 + gap < values.length) :
    values = values.take first ++ values[first] :: ((values.drop (first + 1)).take gap ++
      values[first + 1 + gap] :: values.drop (first + 1 + gap + 1)) := by
  have last : values[first + 1 + gap] :: values.drop (first + 1 + gap + 1) =
      (values.drop (first + 1)).drop gap := by rw [List.drop_drop, List.getElem_cons_drop]
  have head : values[first] :: values.drop (first + 1) = values.drop first := List.getElem_cons_drop _
  rw [last, List.take_append_drop, head, List.take_append_drop]

end HumanoidSdk.Foundation
