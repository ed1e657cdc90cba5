import HumanoidSdk.Demo.RunCycles
import HumanoidSdk.Demo.TeleopLive
import HumanoidSdk.Demo.TrackingLive

/-
This file proves what the three live loops have in common. They never burst, and the two sessions publish
only fresh work that they own.
-/

namespace HumanoidSdk.Demo
open Foundation

def cyclesMachine (setup : CycleSetup) : Machine (Timed ℤ RunCycles) (ℤ × LiveInput Unit) CycleEvent :=
  clocked (RunCycles.advance setup)

def teleopMachine (Targets : Type) (setup : TeleopSetup) :
    Machine (Timed ℚ (TeleopLive Targets)) (ℚ × LiveInput Targets) (TeleopAct Targets) :=
  clocked (TeleopLive.advance setup)

def trackingMachine (Command : Type) (setup : TrackingSetup) :
    Machine (Timed ℚ (TrackingLive Command)) (ℚ × LiveInput Command) (TrackingAct Command) :=
  clocked (TrackingLive.advance setup)

/-- A status of a running session. -/
def runningStatus : LiveStatus where
  statusSeq := 1
  currentAction := "EXTERNAL"
  phase := .RUNNING

def liveCycles : CycleSetup where
  live := true
  durationNs := none

/-- One live cycle from its test to its schedule, with a slow log. -/
def slowCycle (stateId begun : ℤ) : List (ℤ × LiveInput Unit) :=
  [(begun, .proceed), (begun, .proceed), (begun, .proceed), (begun + 1000000, .frame ⟨stateId, 0, 0⟩),
    (begun + 1000000, .proceed), (begun + 1000000, .proceed), (begun + 1000000, .status (some runningStatus)),
    (begun + 2000000, .computed ()), (begun + 2000000, .proceed), (begun + 2000000, .status (some runningStatus)),
    (begun + 2000000, .proceed), (begun + 2000000, .proceed), (begun + 2000000, .proceed),
    (begun + 45000000, .proceed), (begun + 45000000, .proceed)]

/-- The second cycle waits a full period after the overrun of the first one. -/
def slowCycles : List (ℤ × LiveInput Unit) :=
  [(0, .frame ⟨1, 0, 0⟩), (0, .proceed), (0, .proceed), (0, .status (some runningStatus))] ++ slowCycle 2 0 ++
    [(45000000, .proceed), (45000000, .proceed)] ++ (slowCycle 3 65000000).drop 1

def teleopSetup : TeleopSetup where
  timeout := 1
  duration := 0
  period := 1 / 50
  recording := true

def teleopFrame (stateId : ℤ) : LiveFrame := ⟨stateId, 1000 * stateId, 0⟩

/-- A cycle that waits once for a newer frame and publishes. -/
def teleopCycle (old new : ℤ) (begun : ℚ) : List (ℚ × LiveInput Unit) :=
  [(begun, .proceed), (begun, .status (some runningStatus)), (begun, .proceed), (begun, .proceed),
    (begun, .frame (teleopFrame old)), (begun, .proceed), (begun + 0.001, .proceed), (begun + 0.001, .proceed),
    (begun + 0.002, .frame (teleopFrame new)), (begun + 0.002, .proceed), (begun + 0.003, .computed ()),
    (begun + 0.003, .proceed), (begun + 0.003, .status (some runningStatus)), (begun + 0.003, .proceed),
    (begun + 0.004, .proceed), (begun + 0.004, .proceed), (begun + 0.004, .proceed), (begun + 0.004, .proceed)]

/-- Two cycles and a stop. -/
def teleopInputs : List (ℚ × LiveInput Unit) :=
  [(0, .info ⟨true, true, "", ""⟩), (0, .proceed), (0, .frame (teleopFrame 10)), (0, .proceed), (0, .proceed),
    (0, .status (some runningStatus)), (0, .proceed)] ++ teleopCycle 10 11 0 ++ [(0.02, .proceed)] ++
    teleopCycle 11 12 0.02 ++ [(0.03, .stop), (0.04, .proceed), (0.04, .proceed), (0.04, .proceed),
      (0.05, .exited "PASSIVE")]

def trackingSetup : TrackingSetup where
  timeout := 1
  maxStateAgeMs := 100
  maxComputeMs := 15
  duration := 10
  period := 1 / 50

def trackingFrame (stateId : ℤ) : LiveFrame := ⟨stateId, 1000 * stateId, 1000000000⟩

/-- A call of `wait_fresh` that gets its frame at once. -/
def fetchFrame (stateId : ℤ) (now : ℚ) : List (ℚ × LiveInput Unit) :=
  [(now, .proceed), (now, .proceed), (now, .frame (trackingFrame stateId)), (now, .proceed), (now, .proceed)]

/-- A cycle up to its publication. -/
def trackingCycle (stateId : ℤ) (begun : ℚ) : List (ℚ × LiveInput Unit) :=
  [(begun, .proceed), (begun, .status (some runningStatus))] ++ fetchFrame stateId begun ++
    [(begun, .proceed), (begun + 0.002, .computed ()), (begun + 0.002, .proceed),
      (begun + 0.002, .status (some runningStatus)), (begun + 0.002, .proceed)]

/-- Two cycles, where the second publication raises. -/
def trackingInputs : List (ℚ × LiveInput Unit) :=
  [(1, .proceed)] ++ fetchFrame 1 1 ++ [(1, .proceed), (1, .proceed), (1, .status (some runningStatus))] ++
    fetchFrame 2 1 ++ [(1, .proceed), (1, .proceed)] ++ trackingCycle 2 1 ++
    [(1.004, .proceed), (1.004, .proceed), (1.005, .proceed), (1.005, .proceed), (1.02, .proceed)] ++
    trackingCycle 3 1.02 ++ [(1.03, .raises (.osError "link down")), (1.03, .proceed), (1.03, .proceed),
      (1.04, .exited "PASSIVE"), (1.04, .proceed)]

/-- A window of some periods holds one publication more at most, and `run_cycles` publishes only while the
newest state is young. -/
theorem loops_never_burst :
    (∀ (setup : CycleSetup) (clock : ℤ) moves final, (cyclesMachine setup).Run ⟨clock, {}⟩ moves final →
      (∀ start periods, (beatsWithin ((trace moves).filterMap CycleEvent.publication) start PERIOD_NS
        periods).length ≤ periods + 1) ∧ Justified Recent (trace moves)) ∧
    (∀ (Targets : Type) (setup : TeleopSetup) (clock : ℚ) moves final,
      (teleopMachine Targets setup).Run ⟨clock, {}⟩ moves final → ∀ start periods,
        (beatsWithin ((trace moves).filterMap Act.publication) start setup.period periods).length ≤
          periods + 1) ∧
    ∀ (Command : Type) (setup : TrackingSetup) (clock : ℚ) moves final,
      (trackingMachine Command setup).Run ⟨clock, {}⟩ moves final → ∀ start periods,
        (beatsWithin ((trace moves).filterMap Act.publication) start setup.period periods).length ≤
          periods + 1 := by
  refine ⟨?_, ?_, ?_⟩
  · intro setup clock moves final run
    constructor
    · apply Tempo.within_of_run RunCycles.tempo CycleEvent.publication _ rfl run
      intro state now input next events advanced
      exact (RunCycles.step_of_advance advanced).paces
    · exact RunCycles.run_recent rfl run
  · intro Targets setup clock moves final run
    apply Tempo.within_of_run TeleopLive.tempo Act.publication _ rfl run
    intro state now input next acts advanced
    exact (TeleopLive.advance_steps advanced).1
  · intro Command setup clock moves final run
    apply Tempo.within_of_run (TrackingLive.tempo setup.period) Act.publication _ rfl run
    intro state now input next acts advanced
    exact (TrackingLive.advance_steps advanced).1

/-- Runs of the three loops with two publications each. -/
theorem loops_never_burst_runs :
    (∃ moves final, (cyclesMachine liveCycles).Run ⟨0, {}⟩ moves final ∧
      (trace moves).filterMap CycleEvent.publication = [2000000, 67000000] ∧ Justified Recent (trace moves)) ∧
    (∃ moves final, (teleopMachine Unit teleopSetup).Run ⟨0, {}⟩ moves final ∧
      (trace moves).filterMap Act.publication = [0.003, 0.023] ∧
      (beatsWithin ((trace moves).filterMap Act.publication) 0 (1 / 50) 1).length ≤ 2) ∧
    ∃ moves final, (trackingMachine Unit trackingSetup).Run ⟨1, {}⟩ moves final ∧
      (trace moves).filterMap Act.publication = [1.002, 1.022] ∧
      (beatsWithin ((trace moves).filterMap Act.publication) 1 (1 / 50) 2).length ≤ 3 := by
  refine ⟨?_, ?_, ?_⟩
  · obtain ⟨moves, final, run, -, published⟩ := (cyclesMachine liveCycles).exists_run ⟨0, {}⟩ slowCycles
      (fun moves _ => (trace moves).filterMap CycleEvent.publication = [2000000, 67000000]) (by decide +kernel)
    exact ⟨moves, final, run, published, (loops_never_burst.1 _ _ _ _ run).2⟩
  · obtain ⟨moves, final, run, -, published⟩ := (teleopMachine Unit teleopSetup).exists_run ⟨0, {}⟩ teleopInputs
      (fun moves _ => (trace moves).filterMap Act.publication = [0.003, 0.023]) (by decide +kernel)
    exact ⟨moves, final, run, published, loops_never_burst.2.1 _ _ _ _ _ run 0 1⟩
  · obtain ⟨moves, final, run, -, published⟩ :=
      (trackingMachine Unit trackingSetup).exists_run ⟨1, {}⟩ trackingInputs
        (fun moves _ => (trace moves).filterMap Act.publication = [1.002, 1.022]) (by decide +kernel)
    exact ⟨moves, final, run, published, loops_never_burst.2.2 _ _ _ _ _ run 1 2⟩

/-- The acts of a session are proper. There is one exit for one entry when the call is over. -/
theorem sessions_publish_owned :
    (∀ (Targets : Type) (setup : TeleopSetup) (clock : ℚ) moves final,
      (teleopMachine Targets setup).Run ⟨clock, {}⟩ moves final →
        Justified teleopTerms.Proper (trace moves) ∧
        (trace moves = [] ∨ ∃ initial rest, trace moves = .sighted initial :: rest) ∧
        exits (trace moves) ≤ entries (trace moves) ∧ entries (trace moves) ≤ 1 ∧
        ∀ attempted outcome, final.state.phase = .ended attempted outcome →
          exits (trace moves) = entries (trace moves)) ∧
    ∀ (Command : Type) (setup : TrackingSetup) (clock : ℚ) moves final,
      (trackingMachine Command setup).Run ⟨clock, {}⟩ moves final →
        Justified trackingTerms.Proper (trace moves) ∧
        exits (trace moves) ≤ entries (trace moves) ∧ entries (trace moves) ≤ 1 ∧
        ∀ attempted outcome, final.state.phase = .ended attempted outcome →
          exits (trace moves) = entries (trace moves) := by
  constructor
  · intro Targets setup clock moves final run
    have steps (state : TeleopLive Targets) now input next acts
        (advanced : TeleopLive.advance setup state now input = some (next, acts)) :
        Tenure.Step teleopTerms now state.tenure acts next.tenure := (TeleopLive.advance_steps advanced).2
    obtain ⟨proper, held⟩ := Tenure.of_run TeleopLive.tenure steps run rfl
    obtain ⟨exited, once, closed⟩ := held.counts
    refine ⟨proper, ?_, exited, once, fun attempted outcome ended => closed ?_⟩
    · rcases Tenure.opened_of_run TeleopLive.tenure steps run rfl with ⟨empty, -⟩ | opened
      · exact .inl empty
      · exact .inr opened
    · rw [TeleopLive.tenure, ended]
      cases attempted with
      | _ => trivial
  · intro Command setup clock moves final run
    have steps (state : TrackingLive Command) now input next acts
        (advanced : TrackingLive.advance setup state now input = some (next, acts)) :
        Tenure.Step trackingTerms now state.tenure acts next.tenure := (TrackingLive.advance_steps advanced).2
    obtain ⟨proper, held⟩ := Tenure.of_run TrackingLive.tenure steps run ⟨rfl, rfl, by simp, by simp [Terms.ranks]⟩
    obtain ⟨exited, once, closed⟩ := held.counts
    refine ⟨proper, exited, once, fun attempted outcome ended => closed ?_⟩
    rw [TrackingLive.tenure, ended]
    cases attempted with
    | _ => trivial

/-- A session that is stopped, and one whose second publication raises. Both exit once. -/
theorem sessions_publish_owned_runs :
    (∃ moves final, (teleopMachine Unit teleopSetup).Run ⟨0, {}⟩ moves final ∧
      final.state.phase = .ended true none ∧ exits (trace moves) = 1 ∧ Justified teleopTerms.Proper (trace moves)) ∧
    ∃ moves final, (trackingMachine Unit trackingSetup).Run ⟨1, {}⟩ moves final ∧
      final.state.phase = .ended true (some (.osError "link down")) ∧ exits (trace moves) = 1 ∧
      Justified trackingTerms.Proper (trace moves) := by
  constructor
  · obtain ⟨moves, final, run, -, ended, entered⟩ :=
      (teleopMachine Unit teleopSetup).exists_run ⟨0, {}⟩ teleopInputs
        (fun moves final => final.state.phase = .ended true none ∧ entries (trace moves) = 1) (by decide +kernel)
    obtain ⟨proper, -, -, -, closed⟩ := sessions_publish_owned.1 _ _ _ _ _ run
    exact ⟨moves, final, run, ended, (closed _ _ ended).trans entered, proper⟩
  · obtain ⟨moves, final, run, -, ended, entered⟩ :=
      (trackingMachine Unit trackingSetup).exists_run ⟨1, {}⟩ trackingInputs
        (fun moves final => final.state.phase = .ended true (some (.osError "link down")) ∧
          entries (trace moves) = 1) (by decide +kernel)
    obtain ⟨proper, -, -, closed⟩ := sessions_publish_owned.2 _ _ _ _ _ run
    exact ⟨moves, final, run, ended, (closed _ _ ended).trans entered, proper⟩

end HumanoidSdk.Demo
