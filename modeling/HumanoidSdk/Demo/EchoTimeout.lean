import HumanoidSdk.Demo.GripperTimeout
import HumanoidSdk.Demo.HandSession
import HumanoidSdk.Demo.HandTimeout

namespace HumanoidSdk.Demo
open Foundation EndEffector

/-- On a run of the hand motion and on a run of the gripper guard, every timeout tells of a command that has waited
for the timeout, exactly if no reading of the run is a false alarm. -/
theorem echo_timeouts {handSetup : HandSetup} {handIssued : Side → ℕ} {handStart : ℚ} {handFinal : Timed ℚ HandMotion}
    {handMoves : List (Move (Timed ℚ HandMotion) (ℚ × HandInput) HandEvent)}
    (handRun : (handMotion handSetup).Run ⟨handStart, startMotion handSetup handIssued⟩ handMoves handFinal)
    {guardSetup : GuardSetup} {initialId : ℤ} {issued : ℕ} {start : ℚ} {final : Timed ℚ Guard}
    {moves : List (Move (Timed ℚ Guard) (ℚ × GuardInput) GuardEvent)}
    (guardRun : (gripperGuard guardSetup).Run ⟨start, startGuard initialId issued start⟩ moves final) :
    (∀ side, (∀ earlier move later, handMoves = earlier ++ move :: later → ∀ now, .expired side now ∈ move.events →
        Waited handSetup.timeout now (handMarks side (trace earlier))) ↔
      ∀ earlier move later, handMoves = earlier ++ move :: later →
        ¬HandMotion.FalseAlarm handSetup side earlier move) ∧
    ((∀ earlier move later, moves = earlier ++ move :: later → ∀ now, .expired now ∈ move.events →
        Waited guardSetup.timeout now (Guard.marks (trace earlier))) ↔
      ∀ earlier move later, moves = earlier ++ move :: later → ¬Guard.FalseAlarm guardSetup earlier move) := by
  constructor
  · intro side
    apply forall_congr'
    intro earlier
    apply forall₂_congr
    intro move later
    apply forall_congr'
    intro cut
    exact HandMotion.expired_waited side handRun cut
  · apply forall_congr'
    intro earlier
    apply forall₂_congr
    intro move later
    apply forall_congr'
    intro cut
    exact Guard.expired_waited guardRun cut

/-- A gripper that opens up to 80 mm. -/
def gripperSetup : GuardSetup where
  numbers := ⟨1, 1, 2, 3⟩
  info := {
    gripperType := 1, side := 1, openingMinM := .finite 0, openingMaxM := .finite 0.08,
    maxOpeningRateMS := .finite 0.1, holdTorqueNm := .finite 1, openingMinSource := 1, openingMaxSource := 2,
    maxOpeningRateSource := 3, torqueLimitNm := .finite 2, torqueLimitSource := 1, holdTorqueSource := 1 }
  sessionId := 7
  timeout := 5
  positive := by decide +kernel

/-- The feedback of a ready gripper with a trace of its session 7. -/
def gripperFeedback (stateId : ℤ) (sequence : ℕ) : GripperFeedback where
  stateId := stateId
  side := 1
  gripperType := 1
  inhibitReason := InhibitReason.NONE
  sampleValid := true
  sample := some (.finite 0.04)
  outputAllowed := true
  traceSessionId := 7
  traceSequence := sequence
  traceCmdId := sequence
  tsCmdReceivedUs := 1
  tsCmdAcceptedUs := 1

/-- The first command of the next move, and the frame after it. -/
def leftNext : List (ℚ × HandInput) :=
  (1.04, HandInput.clock) :: leftStep 1.06 54 2 ++ [(1.08, .clock), (1.08, .feedback (leftFeedback 55 2))]

/-- The output of the gripper is enabled just before the timeout of the echo. -/
def lateOutput : List (ℚ × GuardInput) :=
  [(4.99, .feedback (some (gripperFeedback 2 0)) false), (4.99, .publish),
    (5.01, .feedback (some (gripperFeedback 3 0)) true)]

theorem pausedHand : ∃ earlier move final,
    (handMotion leftSetup).Run ⟨0, startMotion leftSetup fun _ => 0⟩ (earlier ++ [move]) final ∧
      .expired .left 1.08 ∈ move.events ∧ ¬Waited leftSetup.timeout 1.08 (handMarks .left (trace earlier)) := by
  obtain ⟨moves, final, run, _, last, isLast, expired, early⟩ := (handMotion leftSetup).exists_run
    ⟨0, startMotion leftSetup fun _ => 0⟩ (leftMove ++ leftNext)
    (fun moves _ => ∃ last ∈ moves.getLast?, .expired .left 1.08 ∈ last.events ∧
      ¬Waited leftSetup.timeout 1.08 (handMarks .left (trace moves.dropLast))) (by decide +kernel)
  rw [← List.dropLast_append_getLast? last isLast] at run
  exact ⟨_, last, final, run, expired, early⟩

theorem pausedGripper : ∃ earlier move final,
    (gripperGuard gripperSetup).Run ⟨0, startGuard 1 0 0⟩ (earlier ++ [move]) final ∧
      .expired 5.01 ∈ move.events ∧ ¬Waited gripperSetup.timeout 5.01 (Guard.marks (trace earlier)) := by
  obtain ⟨moves, final, run, _, last, isLast, expired, early⟩ := (gripperGuard gripperSetup).exists_run
    ⟨0, startGuard 1 0 0⟩ lateOutput
    (fun moves _ => ∃ last ∈ moves.getLast?, .expired 5.01 ∈ last.events ∧
      ¬Waited gripperSetup.timeout 5.01 (Guard.marks (trace moves.dropLast))) (by decide +kernel)
  rw [← List.dropLast_append_getLast? last isLast] at run
  exact ⟨_, last, final, run, expired, early⟩

/-- After the dwell of the hand, and after a wait for the output of the gripper, the outstanding command has
waited for 20 ms when the alarm comes. -/
theorem echo_timeouts_after_pause :
    (∃ earlier move final,
      (handMotion leftSetup).Run ⟨0, startMotion leftSetup fun _ => 0⟩ (earlier ++ [move]) final ∧
      .expired .left 1.08 ∈ move.events ∧ ¬Waited leftSetup.timeout 1.08 (handMarks .left (trace earlier))) ∧
    ∃ earlier move final, (gripperGuard gripperSetup).Run ⟨0, startGuard 1 0 0⟩ (earlier ++ [move]) final ∧
      .expired 5.01 ∈ move.events ∧ ¬Waited gripperSetup.timeout 5.01 (Guard.marks (trace earlier)) :=
  ⟨pausedHand, pausedGripper⟩

/-- An event is no timeout, or it tells of a command that has waited. -/
def HandEvent.waited (timeout : ℚ) (log : List HandEvent) : HandEvent → Bool
  | .expired side now => Waited timeout now (handMarks side log)
  | _ => true

def GuardEvent.waited (timeout : ℚ) (log : List GuardEvent) : GuardEvent → Bool
  | .expired now => Waited timeout now (Guard.marks log)
  | _ => true

/-- Two commands of the hand are never echoed. -/
def leftLost : List (ℚ × HandInput) :=
  leftEntry ++ leftStep 0.02 2 0 ++ leftStep 0.04 3 0 ++ [(0.54, .clock), (0.54, .feedback (leftFeedback 4 0))]

/-- The command of the gripper is never echoed. -/
def lostOutput : List (ℚ × GuardInput) :=
  [(0, .feedback (some (gripperFeedback 2 0)) false), (0.01, .publish),
    (0.02, .feedback (some (gripperFeedback 3 0)) true), (5.02, .feedback (some (gripperFeedback 4 0)) true)]

theorem lostHand : ∃ moves final,
    (handMotion leftSetup).Run ⟨0, startMotion leftSetup fun _ => 0⟩ moves final ∧
      .expired .left 0.54 ∈ trace moves ∧
      ∀ earlier move later, moves = earlier ++ move :: later → ∀ now, .expired .left now ∈ move.events →
        Waited leftSetup.timeout now (handMarks .left (trace earlier)) := by
  obtain ⟨moves, final, run, _, expired, waited⟩ := (handMotion leftSetup).exists_run
    ⟨0, startMotion leftSetup fun _ => 0⟩ leftLost
    (fun moves _ => .expired .left 0.54 ∈ trace moves ∧ everyCut (fun earlier move =>
      move.events.all (HandEvent.waited leftSetup.timeout (trace earlier))) moves = true)
    (by decide +kernel)
  refine ⟨moves, final, run, expired, ?_⟩
  rintro earlier move later rfl now member
  exact of_decide_eq_true (List.all_eq_true.mp (everyCut_at waited) _ member)

theorem lostGripper : ∃ moves final, (gripperGuard gripperSetup).Run ⟨0, startGuard 1 0 0⟩ moves final ∧
    .expired 5.02 ∈ trace moves ∧
    ∀ earlier move later, moves = earlier ++ move :: later → ∀ now, .expired now ∈ move.events →
      Waited gripperSetup.timeout now (Guard.marks (trace earlier)) := by
  obtain ⟨moves, final, run, _, expired, waited⟩ := (gripperGuard gripperSetup).exists_run
    ⟨0, startGuard 1 0 0⟩ lostOutput
    (fun moves _ => .expired 5.02 ∈ trace moves ∧ everyCut (fun earlier move =>
      move.events.all (GuardEvent.waited gripperSetup.timeout (trace earlier))) moves = true)
    (by decide +kernel)
  refine ⟨moves, final, run, expired, ?_⟩
  rintro earlier move later rfl now member
  exact of_decide_eq_true (List.all_eq_true.mp (everyCut_at waited) _ member)

/-- Both pauses end in a reading that is a false alarm. Both losses end in a timeout, and none of their readings
is a false alarm. -/
theorem echo_timeouts_paused_lost :
    (∃ handMoves handFinal moves final,
      (handMotion leftSetup).Run ⟨0, startMotion leftSetup fun _ => 0⟩ handMoves handFinal ∧
      (gripperGuard gripperSetup).Run ⟨0, startGuard 1 0 0⟩ moves final ∧
      (∃ earlier move later, handMoves = earlier ++ move :: later ∧
        HandMotion.FalseAlarm leftSetup .left earlier move) ∧
      ∃ earlier move later, moves = earlier ++ move :: later ∧ Guard.FalseAlarm gripperSetup earlier move) ∧
    ∃ handMoves handFinal moves final,
      (handMotion leftSetup).Run ⟨0, startMotion leftSetup fun _ => 0⟩ handMoves handFinal ∧
      (gripperGuard gripperSetup).Run ⟨0, startGuard 1 0 0⟩ moves final ∧
      .expired .left 0.54 ∈ trace handMoves ∧ .expired 5.02 ∈ trace moves ∧
      (∀ earlier move later, handMoves = earlier ++ move :: later →
        ¬HandMotion.FalseAlarm leftSetup .left earlier move) ∧
      ∀ earlier move later, moves = earlier ++ move :: later → ¬Guard.FalseAlarm gripperSetup earlier move := by
  constructor
  · obtain ⟨handEarlier, handMove, handFinal, handRun, handExpired, handEarly⟩ := pausedHand
    obtain ⟨earlier, move, final, guardRun, expired, early⟩ := pausedGripper
    obtain ⟨hand, guard⟩ := echo_timeouts handRun guardRun
    refine ⟨_, handFinal, _, final, handRun, guardRun, ?_, ?_⟩
    · by_contra none
      apply handEarly
      refine (hand .left).mpr ?_ handEarlier handMove [] rfl 1.08 handExpired
      exact fun earlier move later cut alarm => none ⟨earlier, move, later, cut, alarm⟩
    · by_contra none
      apply early
      refine guard.mpr ?_ earlier move [] rfl 5.01 expired
      exact fun earlier move later cut alarm => none ⟨earlier, move, later, cut, alarm⟩
  · obtain ⟨handMoves, handFinal, handRun, handExpired, handWaited⟩ := lostHand
    obtain ⟨moves, final, guardRun, expired, waited⟩ := lostGripper
    obtain ⟨hand, guard⟩ := echo_timeouts handRun guardRun
    exact ⟨handMoves, handFinal, moves, final, handRun, guardRun, handExpired, expired,
      (hand .left).mp handWaited, guard.mp waited⟩

end HumanoidSdk.Demo
