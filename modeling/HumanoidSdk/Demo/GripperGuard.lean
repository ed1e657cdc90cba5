import HumanoidSdk.Demo.Body
import HumanoidSdk.EndEffector.Gripper
import HumanoidSdk.Foundation.Clocked

/-
This file translates _GripperGuard and validate_state of examples/gripper/gripper_external.py. A step is one
call of the guard with the clock reading that it takes.
-/

namespace HumanoidSdk.Demo
open Foundation EndEffector

/-- The fields of `GripperState` that the guard reads. -/
structure GripperFeedback where
  stateId : ℤ
  side : ℤ
  gripperType : ℤ
  inhibitReason : ℤ
  sampleValid : Bool
  sample : Option FloatValue
  outputAllowed : Bool
  traceSessionId : ℤ
  traceSequence : ℕ
  traceCmdId : ℤ
  tsCmdReceivedUs : ℕ
  tsCmdAcceptedUs : ℕ

/-- The opening is measured and within the limits. -/
def GripperFeedback.measured (info : GripperInfo) (state : GripperFeedback) : Bool :=
  state.sampleValid && state.sample.any fun q =>
    q.isFinite && info.openingMinM.le q && q.le info.openingMaxM

/-- The state that passes the check. -/
def validateState (numbers : GripperNumbers) (info : GripperInfo) (state : Option GripperFeedback)
    (requireOutput : Bool) : Except Failure GripperFeedback :=
  match GripperClient.validateInfo numbers (some info), state with
  | .error error, _ => .error (.valueError error.message)
  | .ok (), none => .error (.valueError "GripperState identity differs from Info")
  | .ok (), some state =>
      if state.side ≠ info.side ∨ state.gripperType ≠ info.gripperType then
        .error (.valueError "GripperState identity differs from Info")
      else if state.inhibitReason ∈ [InhibitReason.EMERGENCY, InhibitReason.DOMAIN_FAULT,
          InhibitReason.NOT_READY] then
        .error (.runtimeError ("gripper inhibited: reason=" ++ toString state.inhibitReason))
      else if !state.measured info then
        .error (.valueError "gripper opening sample is unavailable or outside Info limits")
      else if requireOutput && (!state.outputAllowed || state.inhibitReason ≠ InhibitReason.NONE) then
        .error (.runtimeError "gripper output was inhibited during motion")
      else .ok state

/-- What the guard is built with. `run_external` has checked the timeout. -/
structure GuardSetup where
  numbers : GripperNumbers
  info : GripperInfo
  sessionId : ℤ
  timeout : ℚ
  positive : 0 < timeout

/-- The fields of the guard, with the sequence counter of its client and the exception that ended it. -/
structure Guard where
  previousId : ℤ
  lastChange : ℚ
  lastEchoChange : ℚ
  submitted : Option ℕ := none
  echoed : ℕ := 0
  issued : ℕ
  failure : Option Failure := none

/-- A command is submitted, its trace moves on or expires. -/
inductive GuardEvent where
  | submitted (sequence : ℕ) (time : ℚ)
  | echoed (sequence : ℕ) (now : ℚ)
  | expired (now : ℚ)
  deriving DecidableEq

/-- A call of the guard, or an exception of its caller. -/
inductive GuardInput where
  | feedback (state : Option GripperFeedback) (moving : Bool)
  | publish
  | raises (failure : Failure)

/-- `_GripperGuard.__init__` with the clock reading that it takes. -/
def startGuard (initialId : ℤ) (issued : ℕ) (now : ℚ) : Guard where
  previousId := initialId
  lastChange := now
  lastEchoChange := now
  issued := issued

/-- The robot has received the command and not accepted it. -/
def GripperFeedback.unaccepted (state : GripperFeedback) : Prop :=
  state.tsCmdReceivedUs ≠ 0 ∧ state.tsCmdAcceptedUs = 0

instance (state : GripperFeedback) : Decidable state.unaccepted := inferInstanceAs (Decidable (_ ∧ _))

namespace Guard

variable (setup : GuardSetup) (guard : Guard)

/-- The state is new, or not yet stale. -/
def checkState (state : GripperFeedback) (now : ℚ) : Except Failure Guard :=
  if state.stateId ≠ guard.previousId then .ok { guard with previousId := state.stateId, lastChange := now }
  else if LOWSTATE_WINDOW_S ≤ now - guard.lastChange then .error (.runtimeError "gripper state became stale")
  else .ok guard

/-- The trace moves on. -/
def follow (state : GripperFeedback) (now : ℚ) : Guard × List GuardEvent :=
  if guard.echoed < state.traceSequence then
    ({ guard with echoed := state.traceSequence, lastEchoChange := now }, [.echoed state.traceSequence now])
  else (guard, [])

/-- The last check of `feedback`. -/
def checkTimeout (submitted : ℕ) (now : ℚ) : Except Failure Guard × List GuardEvent :=
  if guard.echoed < submitted ∧ setup.timeout ≤ now - guard.lastEchoChange then
    (.error (.timeoutError "gripper received/accepted trace did not advance within --timeout"), [.expired now])
  else (.ok guard, [])

/-- The checks of the trace once a command is submitted. -/
def checkTrace (submitted : ℕ) (state : GripperFeedback) (now : ℚ) : Except Failure Guard × List GuardEvent :=
  if state.traceSessionId = setup.sessionId then
    if submitted < state.traceSequence then
      (.error (.runtimeError "gripper trace echoed an unsent sequence"), [])
    else if state.unaccepted then
      (.error (.runtimeError ("gripper input not accepted: trace=" ++ toString state.traceSessionId ++ "/" ++
        toString state.traceSequence ++ "/" ++ toString state.traceCmdId)), (guard.follow state now).2)
    else
      let (followed, seen) := guard.follow state now
      let (result, events) := followed.checkTimeout setup submitted now
      (result, seen ++ events)
  else guard.checkTimeout setup submitted now

/-- The method `feedback` after its checks of the state. -/
def feedback (state : GripperFeedback) (now : ℚ) : Except Failure Guard × List GuardEvent :=
  match guard.checkState state now with
  | .error failure => (.error failure, [])
  | .ok guard =>
      match guard.submitted with
      | none => (.ok guard, [])
      | some submitted => guard.checkTrace setup submitted state now

def raise (failure : Failure) : Guard := { guard with failure := some failure }

/-- A call with its clock reading. After an exception the guard is not called again. -/
def advance (now : ℚ) (input : GuardInput) : Option (Guard × List GuardEvent) :=
  match guard.failure, input with
  | some _, _ => none
  | none, .raises failure => some (guard.raise failure, [])
  | none, .publish =>
      some ({ guard with submitted := some (guard.issued + 1), issued := guard.issued + 1 },
        [.submitted (guard.issued + 1) now])
  | none, .feedback state moving =>
      match validateState setup.numbers setup.info state moving with
      | .error failure => some (guard.raise failure, [])
      | .ok state =>
          match guard.feedback setup state now with
          | (.error failure, events) => some (guard.raise failure, events)
          | (.ok next, events) => some (next, events)

end Guard

def gripperGuard (setup : GuardSetup) : Machine (Timed ℚ Guard) (ℚ × GuardInput) GuardEvent :=
  clocked fun guard now input => guard.advance setup now input

end HumanoidSdk.Demo
