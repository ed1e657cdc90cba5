import Mathlib.Data.List.Chain
import Mathlib.Tactic.Linarith
import HumanoidSdk.Demo.Body
import HumanoidSdk.Foundation.Clocked

/-
This file translates _wait_for_stationary_body_state of examples/external_control/external_control.py.
Each step is one statement, with the clock reading at its end and what `wait_state` answers.
-/

namespace HumanoidSdk.Demo
open Foundation

/-- The next statement of the loop. -/
inductive GatePhase where
  | starting
  | arming
  | testing
  | asking
  | waiting (timeout : ℚ)
  | measuring (latest : BodyState)
  | sleeping (wake : ℚ)
  | returned (state : BodyState)
  | raised (failure : Failure)
  deriving DecidableEq

namespace GatePhase

/-- The statements that neither hold a state nor have returned one. -/
def unsettled : GatePhase → Bool
  | .measuring _ => false
  | .returned _ => false
  | _ => true

theorem unsettled_iff {phase : GatePhase} : phase.unsettled = true ↔
    (∀ state, phase ≠ .returned state) ∧ ∀ latest, phase ≠ .measuring latest := by
  cases phase <;> simp [unsettled]

end GatePhase

/-- The local variables of the function. -/
structure Gate where
  phase : GatePhase := .starting
  deadline : ℚ := 0
  stationarySince : Option ℚ := none
  lastNewTime : ℚ := 0
  lastStateId : Option ℤ := none

/-- A statement ends by itself, or `wait_state` returns or raises. -/
inductive GateInput where
  | clock
  | state (latest : BodyState)
  | raises (failure : Failure)

/-- A state that the loop took for new, with the clock reading behind it. -/
structure Observation where
  state : BodyState
  time : ℚ
  deriving DecidableEq

namespace Gate

variable (info : BodyInfo) (timeout : ℚ) (gate : Gate) (now : ℚ)

/-- A pass of the loop ends with a sleep. -/
def rest : Gate := { gate with phase := .sleeping (now + min PERIOD_S (max 0 (gate.deadline - now))) }

/-- A new state moves, starts a stationary window, continues it or completes it. -/
def settle (latest : BodyState) : Gate :=
  if moving info latest then { gate with stationarySince := none }.rest now
  else
    match gate.stationarySince with
    | none => { gate with stationarySince := some now }.rest now
    | some since => if LOWSTATE_WINDOW_S ≤ now - since then { gate with phase := .returned latest } else gate.rest now

/-- What the loop makes of a valid state. -/
def judge (latest : BodyState) : Gate × List Observation :=
  if some latest.stateId ≠ gate.lastStateId then
    ({ gate with lastStateId := some latest.stateId, lastNewTime := now }.settle info now latest, [⟨latest, now⟩])
  else if LOWSTATE_WINDOW_S ≤ now - gate.lastNewTime then
    ({ gate with phase := .raised (.runtimeError "body state is stale during the preflight window") }, [])
  else (gate.rest now, [])

/-- The next statement. -/
def advance (input : GateInput) : Option (Gate × List Observation) :=
  match gate.phase, input with
  | .starting, .clock => some ({ gate with deadline := now + timeout, phase := .arming }, [])
  | .arming, .clock => some ({ gate with lastNewTime := now, phase := .testing }, [])
  | .testing, .clock =>
      if now < gate.deadline then some ({ gate with phase := .asking }, [])
      else some ({ gate with
        phase := .raised (.runtimeError "timed out waiting for 200 ms of fresh stationary body state") }, [])
  | .asking, .clock => some ({ gate with phase := .waiting (max (gate.deadline - now) 0.001) }, [])
  | .waiting _, .state latest =>
      match validateBodyState info latest with
      | .error failure => some ({ gate with phase := .raised failure }, [])
      | .ok () => some ({ gate with phase := .measuring latest }, [])
  | .waiting _, .raises failure => some ({ gate with phase := .raised failure }, [])
  | .measuring latest, .clock => some (gate.judge info now latest)
  | .sleeping wake, .clock => if wake ≤ now then some ({ gate with phase := .testing }, []) else none
  | _, _ => none

end Gate

/-- The function `_wait_for_stationary_body_state`. -/
def waitForStationary (info : BodyInfo) (timeout : ℚ) : Machine (Timed ℚ Gate) (ℚ × GateInput) Observation :=
  clocked fun gate now input => gate.advance info timeout now input

variable (info : BodyInfo)

/-- A run of fresh stationary states ends in a state and spans the window. -/
def Evidence (observed : List Observation) (state : BodyState) : Prop :=
  ∃ earlier first middle last, observed = earlier ++ (first :: middle ++ [last]) ∧ last.state = state ∧
    LOWSTATE_WINDOW_S ≤ last.time - first.time ∧
    (∀ observation ∈ first :: middle ++ [last],
      validateBodyState info observation.state = .ok () ∧ Still info observation.state) ∧
    (first :: middle ++ [last]).IsChain fun before after => after.time - before.time < LOWSTATE_WINDOW_S

/-- No two still states in a row are a whole window apart. -/
def Steady (observed : List Observation) : Prop :=
  observed.IsChain fun before after =>
    Still info before.state → Still info after.state → after.time - before.time < LOWSTATE_WINDOW_S

/-- The last states are still, from one that was seen at a given time on, and span less than the window. -/
def Standing (observed : List Observation) (since : ℚ) : Prop :=
  ∃ earlier first middle, observed = earlier ++ first :: middle ∧ first.time = since ∧
    (∀ observation ∈ first :: middle, Still info observation.state) ∧
    ∀ observation ∈ middle, observation.time - since < LOWSTATE_WINDOW_S

/-- The stationary window that a loop remembers is there. -/
def Remembered (observed : List Observation) : Option ℚ → Prop
  | none => ∀ last ∈ observed.getLast?, ¬Still info last.state
  | some since => Standing info observed since

/-- The observations of a loop that has returned. -/
def Completed (observed : List Observation) (state : BodyState) : Prop :=
  ∃ before last since, observed = before ++ [last] ∧ last.state = state ∧ Still info state ∧
    Standing info before since ∧ Steady info before ∧ LOWSTATE_WINDOW_S ≤ last.time - since

/-- What every statement keeps. -/
structure Watch (observed : List Observation) (time : ℚ) (gate : Gate) : Prop where
  valid : ∀ observation ∈ observed, validateBodyState info observation.state = .ok ()
  sorted : observed.Pairwise fun before after => before.time ≤ after.time
  past : ∀ observation ∈ observed, observation.time ≤ time
  latest : ∀ latest, gate.phase = .measuring latest → validateBodyState info latest = .ok ()
  open' : (∀ state, gate.phase ≠ .returned state) → Remembered info observed gate.stationarySince ∧
    Steady info observed
  returned : ∀ state, gate.phase = .returned state → Completed info observed state

section Observations

variable {info} {observed : List Observation} {next : Observation} {since : ℚ}

/-- A still state opens a window. -/
theorem standing_single (still : Still info next.state) : Standing info (observed ++ [next]) next.time := by
  refine ⟨observed, next, [], rfl, rfl, fun observation member => ?_, fun observation member => ?_⟩
  · rwa [List.mem_singleton.mp member]
  · exact absurd member List.not_mem_nil

/-- A still state within the window continues it. -/
theorem Standing.snoc (standing : Standing info observed since) (still : Still info next.state)
    (within : next.time - since < LOWSTATE_WINDOW_S) : Standing info (observed ++ [next]) since := by
  obtain ⟨earlier, first, middle, rfl, begun, allStill, short⟩ := standing
  refine ⟨earlier, first, middle ++ [next], ?_, begun, fun observation member => ?_, fun observation member => ?_⟩
  · rw [List.append_assoc, List.cons_append]
  · rw [← List.cons_append, List.mem_append, List.mem_singleton] at member
    rcases member with old | rfl
    · exact allStill observation old
    · exact still
  · rw [List.mem_append, List.mem_singleton] at member
    rcases member with old | rfl
    · exact short observation old
    · exact within

/-- A window begins no later than its last state. -/
theorem Standing.since_le (standing : Standing info observed since)
    (sorted : observed.Pairwise fun before after => before.time ≤ after.time) :
    ∀ last ∈ observed.getLast?, since ≤ last.time := by
  obtain ⟨earlier, first, middle, rfl, rfl, -, -⟩ := standing
  intro last isLast
  rw [List.getLast?_append_of_ne_nil _ (List.cons_ne_nil first middle)] at isLast
  have inside : last ∈ first :: middle := List.mem_of_mem_getLast? isLast
  rcases List.mem_cons.mp inside with rfl | later
  · exact le_refl _
  · exact (List.pairwise_cons.mp (List.pairwise_append.mp sorted).2.1).1 last later

/-- A state that is close to the last still one keeps the observations steady. -/
theorem Steady.snoc (steady : Steady info observed)
    (close : ∀ last ∈ observed.getLast?, Still info last.state → Still info next.state →
      next.time - last.time < LOWSTATE_WINDOW_S) : Steady info (observed ++ [next]) := by
  refine List.isChain_append.mpr ⟨steady, List.isChain_singleton next, fun last isLast first isFirst => ?_⟩
  obtain rfl := Option.some.inj isFirst
  exact close last isLast

/-- A completed window is evidence exactly when its last gap is short. -/
theorem completed_iff {state : BodyState} (valid : ∀ observation ∈ observed, validateBodyState info observation.state = .ok ())
    (completed : Completed info observed state) : Evidence info observed state ↔ Steady info observed := by
  obtain ⟨before, last, since, rfl, rfl, still, standing, steady, long⟩ := completed
  constructor
  · rintro ⟨earlier, first, middle, final, cut, -, spans, all, chain⟩
    rw [← List.append_assoc] at cut
    obtain ⟨rfl, same⟩ := List.append_inj' cut rfl
    obtain rfl := List.singleton_inj.mp same
    refine steady.snoc fun previous isPrevious _ _ => ?_
    rw [List.getLast?_append_of_ne_nil _ (List.cons_ne_nil first middle)] at isPrevious
    exact (List.isChain_append.mp chain).2.2 previous isPrevious last rfl
  · intro whole
    obtain ⟨earlier, first, middle, rfl, rfl, allStill, -⟩ := standing
    have inside {observation : Observation} (member : observation ∈ first :: middle ++ [last]) :
        observation ∈ earlier ++ first :: middle ++ [last] := by
      rw [List.append_assoc]
      exact List.mem_append_right earlier member
    have resting (observation : Observation) (member : observation ∈ first :: middle ++ [last]) :
        Still info observation.state := by
      rcases List.mem_append.mp member with old | new
      · exact allStill observation old
      · rwa [List.mem_singleton.mp new]
    refine ⟨earlier, first, middle, last, List.append_assoc _ _ _, rfl, long,
      fun observation member => ⟨valid observation (inside member), resting observation member⟩, ?_⟩
    rw [Steady, List.append_assoc] at whole
    exact whole.right_of_append.imp_of_mem_imp fun one two isOne isTwo close =>
      close (resting one isOne) (resting two isTwo)

end Observations

section Statements

variable {info} {observed : List Observation} {time now timeout : ℚ} {gate after : Gate} {latest : BodyState}

/-- A statement without a new observation. -/
theorem Watch.go (watch : Watch info observed time gate) (going : ∀ state, gate.phase ≠ .returned state)
    (forward : time ≤ now) (same : after.stationarySince = gate.stationarySince)
    (goes : ∀ state, after.phase ≠ .returned state)
    (latest : ∀ latest, after.phase = .measuring latest → validateBodyState info latest = .ok ()) :
    Watch info (observed ++ []) now after := by
  rw [List.append_nil]
  refine ⟨watch.valid, watch.sorted, fun observation member => (watch.past observation member).trans forward, latest,
    fun _ => ?_, fun state returned => absurd returned (goes state)⟩
  rw [same]
  exact watch.open' going

/-- A statement with a new observation. -/
theorem Watch.observe (watch : Watch info observed time gate) (measuring : gate.phase = .measuring latest)
    (forward : time ≤ now) (settled : ∀ latest, after.phase ≠ .measuring latest)
    (open' : (∀ state, after.phase ≠ .returned state) →
      Remembered info (observed ++ [⟨latest, now⟩]) after.stationarySince ∧
        Steady info (observed ++ [⟨latest, now⟩]))
    (returned : ∀ state, after.phase = .returned state → Completed info (observed ++ [⟨latest, now⟩]) state) :
    Watch info (observed ++ [⟨latest, now⟩]) now after := by
  refine ⟨fun observation member => ?_, ?_, fun observation member => ?_,
    fun latest again => absurd again (settled latest), open', returned⟩
  · rcases List.mem_append.mp member with old | new
    · exact watch.valid observation old
    · rw [List.mem_singleton.mp new]
      exact watch.latest latest measuring
  · refine List.pairwise_append.mpr ⟨watch.sorted, List.pairwise_singleton _ _, fun before old last isLast => ?_⟩
    rw [List.mem_singleton.mp isLast]
    exact (watch.past before old).trans forward
  · rcases List.mem_append.mp member with old | new
    · exact (watch.past observation old).trans forward
    · rw [List.mem_singleton.mp new]

/-- A new state keeps what the loop remembers true. -/
theorem Watch.settle (watch : Watch info observed time gate) (measuring : gate.phase = .measuring latest)
    (forward : time ≤ now) (same : after.stationarySince = gate.stationarySince) :
    Watch info (observed ++ [⟨latest, now⟩]) now (after.settle info now latest) := by
  have going (state : BodyState) : gate.phase ≠ .returned state := by
    rw [measuring]
    rintro ⟨⟩
  obtain ⟨remembered, steady⟩ := watch.open' going
  have resting := still_iff (watch.latest latest measuring)
  unfold Gate.settle
  by_cases fast : moving info latest = true
  · have moved : ¬Still info latest := fun still => by
      rw [resting.mp still] at fast
      cases fast
    rw [if_pos fast]
    refine watch.observe measuring forward (by rintro latest ⟨⟩) (fun _ => ⟨?_, ?_⟩) (by rintro state ⟨⟩)
    · intro last isLast
      rw [List.getLast?_concat] at isLast
      obtain rfl := Option.some.inj isLast
      exact moved
    · exact steady.snoc fun _ _ _ still => absurd still moved
  · have still : Still info latest := resting.mpr (Bool.eq_false_iff.mpr fast)
    rw [if_neg fast, same]
    cases known : gate.stationarySince with
    | none =>
        rw [known] at remembered
        refine watch.observe measuring forward (by rintro latest ⟨⟩) (fun _ => ⟨?_, ?_⟩) (by rintro state ⟨⟩)
        · exact standing_single still
        · exact steady.snoc fun last isLast lastStill _ => absurd lastStill (remembered last isLast)
    | some since =>
        rw [known] at remembered
        dsimp only
        split
        · rename_i long
          refine watch.observe measuring forward (by rintro latest ⟨⟩) (fun going => absurd rfl (going latest)) ?_
          rintro state ⟨⟩
          exact ⟨observed, ⟨latest, now⟩, since, rfl, rfl, still, remembered, steady, long⟩
        · rename_i short
          refine watch.observe measuring forward (by rintro latest ⟨⟩) (fun _ => ⟨?_, ?_⟩) (by rintro state ⟨⟩)
          · show Remembered info _ after.stationarySince
            rw [same, known]
            exact remembered.snoc still (not_le.mp short)
          · refine steady.snoc fun last isLast _ _ => ?_
            have begun := remembered.since_le watch.sorted last isLast
            have within := not_le.mp short
            show now - last.time < LOWSTATE_WINDOW_S
            linarith

/-- Every statement keeps the watch. -/
theorem Watch.advance (watch : Watch info observed time gate) (forward : time ≤ now) {input : GateInput}
    {events : List Observation} (stepped : gate.advance info timeout now input = some (after, events)) :
    Watch info (observed ++ events) now after := by
  have plain {next : Gate} (only : some (next, []) = some (after, events))
      (going : ∀ state, gate.phase ≠ .returned state) (same : next.stationarySince = gate.stationarySince)
      (unsettled : next.phase.unsettled = true) : Watch info (observed ++ events) now after := by
    cases only
    exact watch.go going forward same (GatePhase.unsettled_iff.mp unsettled).1
      fun latest measuring => absurd measuring ((GatePhase.unsettled_iff.mp unsettled).2 latest)
  unfold Gate.advance at stepped
  split at stepped
  case h_1 place | h_2 place | h_4 place | h_6 place => exact plain stepped (by simp [place]) rfl rfl
  case h_3 place =>
    split at stepped
    · exact plain stepped (by simp [place]) rfl rfl
    · exact plain stepped (by simp [place]) rfl rfl
  case h_5 place =>
    split at stepped
    · exact plain stepped (by simp [place]) rfl rfl
    · rename_i valid
      cases stepped
      refine watch.go (by simp [place]) forward rfl (by rintro state ⟨⟩) ?_
      rintro latest ⟨⟩
      exact valid
  case h_7 latest place =>
    unfold Gate.judge at stepped
    split at stepped
    · cases stepped
      exact watch.settle place forward rfl
    · split at stepped
      · exact plain stepped (by simp [place]) rfl rfl
      · exact plain stepped (by simp [place]) rfl rfl
  case h_8 place =>
    split at stepped
    · exact plain stepped (by simp [place]) rfl rfl
    · cases stepped
  case h_9 => cases stepped

end Statements

section Run

variable {timeout : ℚ} {moves : List (Move (Timed ℚ Gate) (ℚ × GateInput) Observation)} {start : ℚ}
  {final : Timed ℚ Gate}

/-- The loop returns a state only on evidence that the body is stationary, exactly when no two still states
in a row are a whole window apart. -/
theorem stationary_gate_iff (info : BodyInfo)
    (run : (waitForStationary info timeout).Run ⟨start, {}⟩ moves final) :
    (∀ state, final.state.phase = .returned state → Evidence info (trace moves) state) ↔
      Steady info (trace moves) := by
  have watch : Watch info (trace moves) final.time final.state := by
    refine clocked_invariant (Watch info) ?_ ?_ run
    · refine ⟨by rintro observation ⟨⟩, .nil, by rintro observation ⟨⟩, by rintro latest ⟨⟩, fun _ => ⟨?_, .nil⟩,
        by rintro state ⟨⟩⟩
      rintro last ⟨⟩
    · intro log time state now input next events held forward stepped
      exact held.advance forward stepped
  constructor
  · intro sound
    by_cases done : ∃ state, final.state.phase = .returned state
    · obtain ⟨state, returned⟩ := done
      exact (completed_iff watch.valid (watch.returned state returned)).mp (sound state returned)
    · exact (watch.open' fun state returned => done ⟨state, returned⟩).2
  · intro steady state returned
    exact (completed_iff watch.valid (watch.returned state returned)).mpr steady

end Run

def fullBody : BodyInfo := ⟨List.replicate COMMAND_SLOTS true, List.length_replicate⟩

/-- A body at rest in the zero pose. -/
def restingState (stateId : ℤ) : BodyState where
  stateId := stateId
  attitudeValid := true
  q := List.replicate COMMAND_SLOTS (.finite 0)
  dq := List.replicate COMMAND_SLOTS (.finite 0)
  errorCode := List.replicate COMMAND_SLOTS NONE
  velocities := rfl
  errors := rfl

/-- One pass of the loop that asks at one time and gets a state at another. -/
def poll (asked answered : ℚ) (stateId : ℤ) : List (ℚ × GateInput) :=
  [(asked, .clock), (asked, .clock), (answered, .state (restingState stateId)), (answered, .clock)]

/-- Three states 100 ms apart let the loop return. -/
theorem stationary_gate_fresh : ∃ moves final, (waitForStationary fullBody 5).Run ⟨0, {}⟩ moves final ∧
    final.state.phase = .returned (restingState 3) ∧ Evidence fullBody (trace moves) (restingState 3) := by
  obtain ⟨moves, final, run, _, chain, returned⟩ := (waitForStationary fullBody 5).exists_run ⟨0, {}⟩
    ([(0, .clock), (0, .clock)] ++ poll 0 0 1 ++ [(0.02, .clock)] ++ poll 0.02 0.1 2 ++ [(0.12, .clock)] ++
      poll 0.12 0.2 3)
    (fun moves final => (trace moves).IsChain (fun before after => after.time - before.time < LOWSTATE_WINDOW_S) ∧
      final.state.phase = .returned (restingState 3)) (by decide +kernel)
  have steady : Steady fullBody (trace moves) := chain.imp fun _ _ close _ _ => close
  exact ⟨moves, final, run, returned, (stationary_gate_iff fullBody run).mpr steady _ returned⟩

/-- A state that comes 250 ms after the first one completes the window at once. -/
theorem stationary_gate_gap : ∃ moves final, (waitForStationary fullBody 5).Run ⟨0, {}⟩ moves final ∧
    final.state.phase = .returned (restingState 2) ∧ ¬Evidence fullBody (trace moves) (restingState 2) := by
  obtain ⟨moves, final, run, _, seen, returned⟩ := (waitForStationary fullBody 5).exists_run ⟨0, {}⟩
    ([(0, .clock), (0, .clock)] ++ poll 0 0 1 ++ [(0.02, .clock)] ++ poll 0.02 0.25 2)
    (fun moves final => trace moves = [⟨restingState 1, 0⟩, ⟨restingState 2, 0.25⟩] ∧
      final.state.phase = .returned (restingState 2)) (by decide +kernel)
  refine ⟨moves, final, run, returned, ?_⟩
  rintro ⟨earlier, first, middle, last, cut, -, -, -, chain⟩
  have count := congrArg List.length (seen.symm.trans cut)
  simp only [List.length_append, List.length_cons, List.length_nil] at count
  obtain rfl := List.length_eq_zero_iff.mp (show earlier.length = 0 by omega)
  rw [← List.nil_append (first :: middle ++ [last]), ← cut, seen] at chain
  exact absurd (List.isChain_cons_cons.mp chain).1 (by decide +kernel)

end HumanoidSdk.Demo
