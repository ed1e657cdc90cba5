import HumanoidSdk.Controller.Validate
import HumanoidSdk.Message.Control

/-
This file translates the state of ExternalController in python/locomotion_aorta/controller.py and
the sections that run while `_condition` is held.
-/

namespace HumanoidSdk.Controller

/-- The fields follow the constructor, without the transport and the publish timing. -/
structure ExternalController where
  clientId : String
  bodyInfo : Option BodyInfo := none
  latestStatus : Option ControlStatus := none
  acks : List ((String × ControlOperation) × ControlAck) := []
  requestId : Option String := none
  leaseId : String := ""
  externalSessionId : ℤ := 0
  nextExternalSequence : ℤ := 1
  cancelSent : Bool := false
  closed : Bool := false
  deriving DecidableEq

def validGeneration (generation : ℤ) : Bool := 0 < generation ∧ generation ≤ MAX_UINT64

/-- The stamps decide unless they agree or neither is positive. -/
def statusIsNewer (status : ControlStatus) (previous : Option ControlStatus) : Bool :=
  match previous with
  | none => true
  | some previous =>
      if status.stampMonotonicNs ≠ previous.stampMonotonicNs ∧
          (status.stampMonotonicNs > 0 ∨ previous.stampMonotonicNs > 0) then
        status.stampMonotonicNs > previous.stampMonotonicNs
      else status.statusSeq > previous.statusSeq

/-- A rejection reports the reason of the robot or else its error code. -/
def requireAccepted (ack : ControlAck) : Except PyError Unit :=
  if ack.accepted then .ok ()
  else .error ⟨.controlRejected, ack.operation.value ++ " request was rejected: " ++
    if ack.reason ≠ "" then ack.reason else "error code " ++ toString ack.errorCode⟩

namespace ExternalController

def ensureOpen (c : ExternalController) : Except PyError Unit :=
  if c.closed then .error ⟨.controllerClosed, "controller is closed"⟩ else .ok ()

def freshRequest (c : ExternalController) (requestId : String) : ExternalController :=
  { c with
    requestId := some requestId, leaseId := "", externalSessionId := 0, nextExternalSequence := 1,
    cancelSent := false, acks := [] }

/-- The first section of `enter_external` claims a fresh request identity. -/
def beginRequest (c : ExternalController) (requestId : String) : Except PyError ExternalController := do
  c.ensureOpen
  if c.requestId.isSome then .error ⟨.externalControl, "an EXTERNAL request is already active"⟩
  return c.freshRequest requestId

/-- `_request` has read the identity when it reads the lease. -/
def requestFor (c : ExternalController) (requestId : Option String) (operation : ControlOperation) :
    ControlRequest where
  requestId := requestId
  clientId := c.clientId
  operation := operation
  leaseId := c.leaseId

/-- `_request` under the lock reads identity and lease at one moment. -/
def request (c : ExternalController) (operation : ControlOperation) : ControlRequest :=
  c.requestFor c.requestId operation

/-- `_best_effort_cancel` sends at most one CANCEL until the flag is reset. -/
def claimCancel (c : ExternalController) : Option (ControlRequest × ExternalController) :=
  if c.requestId = none ∨ c.cancelSent then none
  else some (c.request .CANCEL, { c with cancelSent := true })

def learnLease (c : ExternalController) (ack : ControlAck) : ExternalController :=
  { c with leaseId := ack.leaseId }

/-- The last section of `enter_external` starts the command sequence of the generation. -/
def establish (c : ExternalController) (status : ControlStatus) : ExternalController :=
  { c with externalSessionId := status.generation, nextExternalSequence := 1 }

def statusAllowsPublish (c : ExternalController) (status : Option ControlStatus) : Bool :=
  match status with
  | none => false
  | some status =>
      c.requestId.isSome && c.leaseId ≠ "" && status.currentAction = "EXTERNAL" &&
        (status.phase = .RUNNING || status.phase = .TIMEOUT_HOLD) &&
        status.clientId = c.clientId && status.leaseId = c.leaseId

def ownedRunningStatusAfter (c : ExternalController) (before : Option ControlStatus) :
    Option ControlStatus :=
  c.latestStatus.filter fun status =>
    c.statusAllowsPublish (some status) && statusIsNewer status before &&
      status.phase = .RUNNING && validGeneration status.generation

/-- The population mask counts only when discovery described every slot. -/
def population (c : ExternalController) : Option (List Bool) :=
  (c.bodyInfo.filter fun info => info.joints.length = BODY_SLOTS).map fun info =>
    info.joints.map BodyJointCapability.populated

/-- A RUNNING status of another generation restarts the sequence, a TIMEOUT_HOLD status never does. -/
def publishSession (c : ExternalController) (status : ControlStatus) :
    Except PyError ExternalController :=
  if status.phase = .RUNNING then
    if !validGeneration status.generation then
      .error ⟨.notRunning, "RUNNING status did not provide a valid generation"⟩
    else if status.generation ≠ c.externalSessionId then .ok (c.establish status)
    else .ok c
  else if status.generation ≠ c.externalSessionId then
    .error ⟨.notRunning, "TIMEOUT_HOLD status does not match the learned RUNNING generation"⟩
  else .ok c

/-- The command keeps the fields of the caller except for those that the session decides. -/
def externalCommand (c : ExternalController) (command : BodyCmd) (createdUs sendUs : ℤ) : BodyCmd :=
  { command with
    protocolVersion := BODY_PROTOCOL_VERSION
    action := .int EXTERNAL_ACTION
    rootQuat := none
    sessionId := c.externalSessionId
    sequence := c.nextExternalSequence
    tsClientCreatedUs := command.tsClientCreatedUs.orElse (.int createdUs)
    tsClientSendUs := .int sendUs }

/-- The section of `_publish` builds one command and takes its sequence. A restart of the sequence
leaves room for it, so no error follows a change of the session. -/
def publishSection (c : ExternalController) (command : Option BodyCmd) (createdUs sendUs : ℤ) :
    Except PyError (BodyCmd × ExternalController) := do
  c.ensureOpen
  let command ← validateCommand command c.population
  let some status := c.latestStatus.filter fun status => c.statusAllowsPublish (some status)
    | .error ⟨.notRunning, "publish requires an owned EXTERNAL RUNNING or TIMEOUT_HOLD session"⟩
  let c ← c.publishSession status
  if c.nextExternalSequence > MAX_UINT64 then
    .error ⟨.externalControl, "external sequence exhausted"⟩
  return (c.externalCommand command createdUs sendUs,
    { c with nextExternalSequence := c.nextExternalSequence + 1 })

def exitSection (c : ExternalController) : Except PyError String := do
  c.ensureOpen
  let some requestId := c.requestId | .error ⟨.notRunning, "no EXTERNAL request is active"⟩
  return requestId

/-- `exit_external` waits for a cached status that satisfies this test. -/
def exitStatus (c : ExternalController) : Option ControlStatus :=
  c.latestStatus.filter fun status =>
    status.currentAction ≠ "EXTERNAL" && (status.phase = .IDLE || status.phase = .EMERGENCY)

def clearSession (c : ExternalController) : ExternalController :=
  { c with
    requestId := none, leaseId := "", externalSessionId := 0, nextExternalSequence := 1,
    cancelSent := false }

/-- The section of `close` closes the controller and claims a CANCEL that nobody sent yet. -/
def closeSection (c : ExternalController) : Option ControlRequest × ExternalController :=
  if c.closed then (none, c)
  else match { c with closed := true }.claimCancel with
    | none => (none, { c with closed := true })
    | some (cancel, c) => (some cancel, c)

def lookupAck (c : ExternalController) (requestId : String) (operation : ControlOperation) :
    Option ControlAck := c.acks.lookup (requestId, operation)

/-- The first acknowledgement of each operation of the current request is kept. -/
def onAck (c : ExternalController) (ack : ControlAck) : ExternalController :=
  if ack.protocolVersion ≠ PROTOCOL_VERSION ∨ c.closed ∨ some ack.requestId ≠ c.requestId ∨
      (c.lookupAck ack.requestId ack.operation).isSome then c
  else { c with acks := c.acks ++ [((ack.requestId, ack.operation), ack)] }

/-- Only a newer status replaces the cached one. -/
def onStatus (c : ExternalController) (status : ControlStatus) : ExternalController :=
  if status.protocolVersion ≠ PROTOCOL_VERSION ∨ c.closed ∨
      statusIsNewer status c.latestStatus = false then c
  else { c with latestStatus := some status }

/-- An acknowledgement changes nothing but the acknowledgements. -/
theorem onAck_eq (c : ExternalController) (ack : ControlAck) :
    c.onAck ack = { c with acks := (c.onAck ack).acks } := by unfold onAck; split <;> rfl

@[simp] theorem onAck_kept (c : ExternalController) (ack : ControlAck) :
    (c.onAck ack).requestId = c.requestId ∧ (c.onAck ack).leaseId = c.leaseId ∧
      (c.onAck ack).clientId = c.clientId ∧ (c.onAck ack).latestStatus = c.latestStatus ∧
      (c.onAck ack).externalSessionId = c.externalSessionId ∧
      (c.onAck ack).nextExternalSequence = c.nextExternalSequence ∧
      (c.onAck ack).cancelSent = c.cancelSent ∧ (c.onAck ack).closed = c.closed ∧
      (c.onAck ack).bodyInfo = c.bodyInfo := by
  rw [onAck_eq]
  simp

/-- A status changes nothing but the cached status. -/
theorem onStatus_eq (c : ExternalController) (status : ControlStatus) :
    c.onStatus status = { c with latestStatus := (c.onStatus status).latestStatus } := by
  unfold onStatus; split <;> rfl

@[simp] theorem onStatus_kept (c : ExternalController) (status : ControlStatus) :
    (c.onStatus status).requestId = c.requestId ∧ (c.onStatus status).leaseId = c.leaseId ∧
      (c.onStatus status).clientId = c.clientId ∧ (c.onStatus status).acks = c.acks ∧
      (c.onStatus status).externalSessionId = c.externalSessionId ∧
      (c.onStatus status).nextExternalSequence = c.nextExternalSequence ∧
      (c.onStatus status).cancelSent = c.cancelSent ∧ (c.onStatus status).closed = c.closed ∧
      (c.onStatus status).bodyInfo = c.bodyInfo := by
  rw [onStatus_eq]
  simp

/-- The second section of `get_robot_info`. A reply without info keeps the body description, and one whose info
has no body clears it. -/
def learnInfo (c : ExternalController) (info : Option RobotInfo) : Except PyError ExternalController := do
  c.ensureOpen
  return { c with bodyInfo := info.elim c.bodyInfo RobotInfo.body }

end ExternalController

end HumanoidSdk.Controller
