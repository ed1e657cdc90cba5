import Mathlib.Data.Int.Notation

/-
This file translates the control messages of python/locomotion_aorta/types.py. A field that no
function of the SDK reads is left out.
-/

namespace HumanoidSdk

def PROTOCOL_VERSION : ℤ := 1

def CONTROL_REQUEST_VERSION : ℤ := 2

inductive ControlOperation where
  | PREPARE
  | COMMIT
  | CANCEL
  deriving DecidableEq

/-- The enumeration value is the text of the operation. -/
def ControlOperation.value : ControlOperation → String
  | .PREPARE => "PREPARE"
  | .COMMIT => "COMMIT"
  | .CANCEL => "CANCEL"

inductive ExternalPhase where
  | IDLE
  | PREPARING
  | ARMED
  | TRANSITIONING
  | RUNNING
  | TIMEOUT_HOLD
  | CANCELLED
  | EXPIRED
  | EMERGENCY
  deriving DecidableEq

/-- A request whose identity was cleared between two unlocked reads carries none. -/
structure ControlRequest where
  requestId : Option String
  clientId : String
  operation : ControlOperation
  actionName : String := "EXTERNAL"
  leaseId : String := ""
  requestedLeaseMs : ℤ := 0
  protocolVersion : ℤ := CONTROL_REQUEST_VERSION
  deriving DecidableEq

structure ControlAck where
  requestId : String
  operation : ControlOperation
  accepted : Bool
  errorCode : ℤ := 0
  reason : String := ""
  leaseId : String := ""
  protocolVersion : ℤ := PROTOCOL_VERSION
  deriving DecidableEq

/-- The decoder turns every number of a status into an `int`. -/
structure ControlStatus where
  statusSeq : ℤ
  currentAction : String
  phase : ExternalPhase
  clientId : String := ""
  leaseId : String := ""
  generation : ℤ := 0
  stampMonotonicNs : ℤ := 0
  protocolVersion : ℤ := PROTOCOL_VERSION
  deriving DecidableEq

end HumanoidSdk
