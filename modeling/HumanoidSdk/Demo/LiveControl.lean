import HumanoidSdk.Demo.Body
import HumanoidSdk.Message.Control

/-
This file translates what the live loops of examples/velocity_mode, examples/teleop_policy and
examples/wbc_tracking_mode read of a body state and of a control status.
-/

namespace HumanoidSdk.Demo

/-- The fields of a body state that the loops read themselves. -/
structure LiveFrame where
  stateId : ℤ
  tsStateRealUs : ℤ
  receivedMonotonicNs : ℤ := 0
  deriving DecidableEq

def LiveFrame.stampNs (frame : LiveFrame) : ℤ := frame.tsStateRealUs * 1000

/-- A control status with the hold and the counters that the loops compare. -/
structure LiveStatus extends ControlStatus where
  timeoutHold : Bool := false
  rejectCount : ℤ := 0
  ingressDropCount : ℤ := 0
  deriving DecidableEq

namespace LiveStatus

/-- The status is external, running and not held. -/
def Running (status : LiveStatus) : Prop :=
  status.currentAction = "EXTERNAL" ∧ status.phase = .RUNNING ∧ status.timeoutHold = false

/-- The comparison of `require_running` with an expected status. -/
def Unchanged (status expected : LiveStatus) : Prop :=
  status.generation = expected.generation ∧ status.clientId = expected.clientId ∧
    status.leaseId = expected.leaseId ∧ status.rejectCount = expected.rejectCount ∧
    status.ingressDropCount = expected.ingressDropCount

/-- The keys that the teleoperation compares with the status of the entry. -/
def Owns (status entered : LiveStatus) : Prop :=
  status.phase = entered.phase ∧ status.generation = entered.generation ∧ status.clientId = entered.clientId ∧
    status.leaseId = entered.leaseId ∧ status.currentAction = entered.currentAction ∧
    status.rejectCount = entered.rejectCount ∧ status.timeoutHold = false

/-- The keys of the tracking mode, with the counter of dropped commands. -/
def OwnsAll (status entered : LiveStatus) : Prop :=
  status.Owns entered ∧ status.ingressDropCount = entered.ingressDropCount

instance (status : LiveStatus) : Decidable status.Running := inferInstanceAs (Decidable (_ ∧ _))

instance (status expected : LiveStatus) : Decidable (status.Unchanged expected) :=
  inferInstanceAs (Decidable (_ ∧ _))

instance (status entered : LiveStatus) : Decidable (status.Owns entered) := inferInstanceAs (Decidable (_ ∧ _))

instance (status entered : LiveStatus) : Decidable (status.OwnsAll entered) :=
  inferInstanceAs (Decidable (_ ∧ _))

end LiveStatus

/-- The function `require_running`. -/
def requireRunning (status expected : Option LiveStatus) : Except Failure LiveStatus :=
  match status with
  | none => .error (.runtimeError "EXTERNAL is no longer RUNNING")
  | some status =>
      if ¬status.Running then .error (.runtimeError "EXTERNAL is no longer RUNNING")
      else match expected with
        | none => .ok status
        | some expected =>
            if status.Unchanged expected then .ok status
            else .error (.runtimeError "EXTERNAL ownership or rejection/drop counters changed")

/-- What happens after the record of a cycle is written. -/
inductive AfterLog where
  | continues
  | breaks
  | raises (failure : Failure)
  deriving DecidableEq

/-- The reply of `get_robot_info`, with its status and its error message as `repr` writes them. -/
structure InfoReply where
  succeeded : Bool
  described : Bool
  statusText : String
  errorText : String
  deriving DecidableEq

/-- A statement ends at a clock reading, or returns what it was called for, or raises. The stop flag is
set at any time. -/
inductive LiveInput (Result : Type) where
  | stop
  | proceed
  | raises (failure : Failure)
  | info (reply : InfoReply)
  | frame (frame : LiveFrame)
  | status (status : Option LiveStatus)
  | computed (result : Result)
  | exited (action : String)
  deriving DecidableEq

end HumanoidSdk.Demo
