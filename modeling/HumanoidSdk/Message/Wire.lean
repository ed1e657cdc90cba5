import HumanoidSdk.Message.Body
import HumanoidSdk.Message.Control
import HumanoidSdk.Mock.Protocol

/-
This file joins each encoder with the decoder at the other end: python/locomotion_aorta/transport.py
on the side of the controller, tools/production_topic_mock/protocol.cpp and mock.cpp on the side of
the robot. The bytes between them are left out.
-/

namespace HumanoidSdk

def encodeOperation : ControlOperation → Int
  | .PREPARE => 1
  | .COMMIT => 2
  | .CANCEL => 3

def decodeOperation (value : Int) : Option ControlOperation :=
  if value = 1 then some .PREPARE
  else if value = 2 then some .COMMIT
  else if value = 3 then some .CANCEL
  else none

@[simp] theorem decodeOperation_encode (operation : ControlOperation) :
    decodeOperation (encodeOperation operation) = some operation := by
  cases operation <;> rfl

/-- The phase number is an index into this list. -/
def decodePhase (value : Nat) : Option ExternalPhase :=
  [.IDLE, .PREPARING, .ARMED, .TRANSITIONING, .RUNNING, .TIMEOUT_HOLD, .CANCELLED, .EXPIRED,
    .EMERGENCY][value]?

/-- `DecodeRequest` after `_fill_control_request`, which cannot encode a missing identity. -/
def wireRequest (request : ControlRequest) : Option Mock.Request :=
  request.requestId.map fun requestId => {
    version := UInt32.ofNat request.protocolVersion.toNat
    operation := encodeOperation request.operation
    requestId := requestId
    clientId := request.clientId
    leaseId := request.leaseId
    action := request.actionName }

/-- `_decode_control_ack` after `EncodeAck` refuses an unknown operation. -/
def wireAck (ack : Mock.Ack) : Option ControlAck :=
  (decodeOperation ack.operation).map fun operation => {
    requestId := ack.requestId
    operation := operation
    accepted := ack.accepted
    errorCode := ack.error
    reason := ack.reason
    leaseId := ack.leaseId
    protocolVersion := 1 }

/-- `_decode_control_status` after `EncodeStatus` refuses an unknown phase. -/
def wireStatus (status : Mock.Status) (now : UInt64) : Option ControlStatus :=
  (decodePhase status.phase).map fun phase => {
    statusSeq := status.statusSeq.toNat
    currentAction := if status.phase = 4 ∨ status.phase = 5 then "EXTERNAL" else "PASSIVE"
    phase := phase
    clientId := status.clientId
    leaseId := status.leaseId
    generation := status.generation.toNat
    stampMonotonicNs := now.toNat
    protocolVersion := 1 }

/-- `ReceiveCommand` decodes this command from an encoded `BodyCmd`. The encoder rounds the floats of
the joints, so they are not compared. -/
def Carries (command : BodyCmd) (cmd : Mock.Command) : Prop :=
  command.protocolVersion = 2 ∧ command.action.equalsInt EXTERNAL_ACTION = true ∧
    command.joints.map List.length = some Mock.kSlots ∧
    command.sessionId = cmd.session.toNat ∧ command.sequence = cmd.sequence.toNat ∧
    command.inputStateId.asIndex = some (cmd.inputStateId.toNat : ℤ) ∧
    command.inputStateTsRealUs.asIndex = some (cmd.inputStateRealUs.toNat : ℤ) ∧
    command.tsClientCreatedUs.asIndex = some (cmd.clientCreatedUs.toNat : ℤ) ∧
    command.tsClientSendUs.asIndex = some (cmd.clientSendUs.toNat : ℤ)

instance (command : BodyCmd) (cmd : Mock.Command) : Decidable (Carries command cmd) :=
  inferInstanceAs (Decidable (_ ∧ _))

/-- A status shows EXTERNAL exactly in the phases of a running generation. -/
theorem wireStatus_external {status : Mock.Status} {now : UInt64} {shown : ControlStatus}
    (sent : wireStatus status now = some shown) (external : shown.currentAction = "EXTERNAL") :
    (status.phase = 4 ∨ status.phase = 5) ∧ shown.clientId = status.clientId ∧
      shown.leaseId = status.leaseId ∧ shown.generation = status.generation.toNat := by
  obtain ⟨phase, _, rfl⟩ := Option.map_eq_some_iff.mp sent
  by_cases live : status.phase = 4 ∨ status.phase = 5
  · exact ⟨live, rfl, rfl, rfl⟩
  · simp [live] at external

end HumanoidSdk
