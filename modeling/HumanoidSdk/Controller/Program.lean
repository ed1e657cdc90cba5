import HumanoidSdk.Controller.State
import HumanoidSdk.Foundation.Pool

/-
This file runs the methods of ExternalController as threads over one controller. A thread stops
before every section under `_condition`, before every unlocked read of a shared field and before
every call of `transport.publish`, so other threads and arriving messages can come in between.
-/

namespace HumanoidSdk.Controller
open Foundation

/-- A call carries the arguments of one public method. -/
inductive Call where
  | enterExternal (timeout : PyValue)
  | publish (command : Option BodyCmd)
  | exitExternal (timeout : PyValue)
  | close
  | getRobotInfo (timeout : PyValue)
  deriving DecidableEq

inductive Method where
  | enterExternal
  | publish
  | exitExternal
  | close
  | getRobotInfo
  deriving DecidableEq

inductive Message where
  | control (request : ControlRequest)
  | body (command : BodyCmd)
  deriving DecidableEq

inductive Outcome where
  | status (status : ControlStatus)
  | command (command : BodyCmd)
  | done
  | raised (error : PyError)
  deriving DecidableEq

inductive Event where
  | called (call : Call)
  | began (requestId : String)
  | built (requestId : Option String) (leaseId : String) (command : BodyCmd)
  | handed (message : Message) (raised : Bool)
  | cleared (requestId : Option String)
  | finished (method : Method) (outcome : Outcome)
  | ackArrived (ack : ControlAck)
  | statusArrived (status : ControlStatus)
  deriving DecidableEq

/-- The entry sends PREPARE first and COMMIT with the status that was cached before it. -/
inductive Half where
  | prepare
  | commit (before : Option ControlStatus)
  deriving DecidableEq

def Half.operation : Half → ControlOperation
  | .prepare => .PREPARE
  | .commit _ => .COMMIT

/-- A program counter names the next shared step of a method and holds its local variables. -/
inductive Pc where
  | idle
  | enterStart
  | enterCheck (requestId : String) (half : Half)
  | enterReadId (requestId : String) (half : Half)
  | enterReadLease (requestId : String) (half : Half) (read : Option String)
  | enterSend (requestId : String) (half : Half) (request : ControlRequest)
  | enterAck (requestId : String) (half : Half)
  | enterLearn (requestId : String) (ack : ControlAck)
  | enterCompare (requestId : String) (before : Option ControlStatus) (ack : ControlAck)
  | enterStatus (requestId : String) (before : Option ControlStatus)
  | enterFinish (status : ControlStatus)
  | enterCancel (error : PyError)
  | enterCancelSend (error : PyError) (cancel : ControlRequest)
  | publishStart (command : Option BodyCmd)
  | publishSend (command : BodyCmd)
  | exitStart
  | exitCancel (requestId : String)
  | exitCancelSend (requestId : String) (cancel : ControlRequest)
  | exitAck (requestId : String)
  | exitStatus
  | exitClear (status : ControlStatus)
  | closeStart
  | closeSend (cancel : ControlRequest)
  | infoStart
  | infoReply
  deriving DecidableEq

/-- A choice fixes what the environment decides about one step. -/
structure Choice where
  uuid : String := ""
  raises : Option String := none
  expired : Bool := false
  createdUs : ℤ := 0
  sendUs : ℤ := 0
  info : Option RobotInfo := none

/-- Every request identity that `uuid4` returned is kept, because it never returns one twice. -/
structure Host where
  controller : ExternalController
  issuedIds : List String := []
  deriving DecidableEq

/-- The messages that the subscriptions deliver. -/
inductive Signal where
  | ack (ack : ControlAck)
  | status (status : ControlStatus)
  deriving DecidableEq

/-- `_wait_for` answers, raises or keeps waiting. -/
def waitFor {Value : Type} (c : ExternalController) (value : Option Value) (expired : Bool)
    (timeoutMessage : String) : Option (Except PyError Value) :=
  match c.ensureOpen with
  | .error error => some (.error error)
  | .ok () =>
      match value with
      | some result => some (.ok result)
      | none => if expired then some (.error ⟨.externalControlTimeout, timeoutMessage⟩) else none

def waitForAck (c : ExternalController) (requestId : String) (operation : ControlOperation)
    (expired : Bool) : Option (Except PyError ControlAck) :=
  waitFor c (c.lookupAck requestId operation) expired
    ("timed out waiting for " ++ operation.value ++ " acknowledgement")

/-- A method checks its timeout before it touches the controller. -/
def startCall (call : Call) : Pc × List Event :=
  let timed (method : Method) (timeout : PyValue) (pc : Pc) : Pc × List Event :=
    match deadlineError timeout with
    | none => (pc, [.called call])
    | some error => (.idle, [.called call, .finished method (.raised error)])
  match call with
  | .enterExternal timeout => timed .enterExternal timeout .enterStart
  | .publish command => (.publishStart command, [.called call])
  | .exitExternal timeout => timed .exitExternal timeout .exitStart
  | .close => (.closeStart, [.called call])
  | .getRobotInfo timeout => timed .getRobotInfo timeout .infoStart

def transportError (message : String) : PyError := ⟨.transport, message⟩

/-- The accepted acknowledgement of PREPARE must name a lease. -/
def prepareOutcome (requestId : String) (ack : ControlAck) : Pc :=
  match requireAccepted ack with
  | .error error => .enterCancel error
  | .ok () =>
      if ack.leaseId = "" then
        .enterCancel ⟨.controlRejected, "PREPARE was accepted without a lease_id"⟩
      else .enterLearn requestId ack

def commitOutcome (requestId : String) (before : Option ControlStatus) (ack : ControlAck) : Pc :=
  match requireAccepted ack with
  | .error error => .enterCancel error
  | .ok () => .enterCompare requestId before ack

/-- The steps of `enter_external` from its first section to its `except` branch. -/
def enterStep (host : Host) (pc : Pc) (choice : Choice) : Option (Host × Pc × List Event) :=
  let c := host.controller
  match pc with
  | .enterStart =>
      match c.beginRequest choice.uuid with
      | .error error => some (host, .idle, [.finished .enterExternal (.raised error)])
      | .ok c =>
          if choice.uuid = "" ∨ choice.uuid ∈ host.issuedIds then none
          else some (⟨c, host.issuedIds ++ [choice.uuid]⟩, .enterCheck choice.uuid .prepare,
            [.began choice.uuid])
  | .enterCheck requestId half =>
      if c.requestId = none then
        some (host, .enterCancel ⟨.externalControl, "no active request identity"⟩, [])
      else some (host, .enterReadId requestId half, [])
  | .enterReadId requestId half => some (host, .enterReadLease requestId half c.requestId, [])
  | .enterReadLease requestId half read =>
      some (host, .enterSend requestId half (c.requestFor read half.operation), [])
  | .enterSend requestId half request =>
      match choice.raises with
      | some message =>
          some (host, .enterCancel (transportError message), [.handed (.control request) true])
      | none => some (host, .enterAck requestId half, [.handed (.control request) false])
  | .enterAck requestId half =>
      (waitForAck c requestId half.operation choice.expired).map fun
        | .error error => (host, .enterCancel error, [])
        | .ok ack =>
            match half with
            | .prepare => (host, prepareOutcome requestId ack, [])
            | .commit before => (host, commitOutcome requestId before ack, [])
  | .enterLearn requestId ack =>
      some ({ host with controller := c.learnLease ack },
        .enterCheck requestId (.commit c.latestStatus), [])
  | .enterCompare requestId before ack =>
      if ack.leaseId ≠ "" ∧ ack.leaseId ≠ c.leaseId then
        some (host, .enterCancel
          ⟨.controlRejected, "COMMIT acknowledgement changed the prepared lease_id"⟩, [])
      else some (host, .enterStatus requestId before, [])
  | .enterStatus _ before =>
      (waitFor c (c.ownedRunningStatusAfter before) choice.expired
          "timed out waiting for owned EXTERNAL/RUNNING status").map fun
        | .error error => (host, .enterCancel error, [])
        | .ok status => (host, .enterFinish status, [])
  | .enterFinish status =>
      some ({ host with controller := c.establish status }, .idle,
        [.finished .enterExternal (.status status)])
  | .enterCancel error =>
      match c.claimCancel with
      | none => some (host, .idle, [.finished .enterExternal (.raised error)])
      | some (cancel, c) => some ({ host with controller := c }, .enterCancelSend error cancel, [])
  | .enterCancelSend error cancel =>
      some (host, .idle, [.handed (.control cancel) choice.raises.isSome,
        .finished .enterExternal (.raised error)])
  | _ => none

/-- The steps of `_publish`. -/
def publishStep (host : Host) (pc : Pc) (choice : Choice) : Option (Host × Pc × List Event) :=
  let c := host.controller
  match pc with
  | .publishStart command =>
      match c.publishSection command choice.createdUs choice.sendUs with
      | .error error => some (host, .idle, [.finished .publish (.raised error)])
      | .ok (built, next) =>
          some ({ host with controller := next }, .publishSend built,
            [.built c.requestId c.leaseId built])
  | .publishSend command =>
      match choice.raises with
      | some message => some (host, .idle, [.handed (.body command) true,
          .finished .publish (.raised (transportError message))])
      | none => some (host, .idle, [.handed (.body command) false,
          .finished .publish (.command command)])
  | _ => none

/-- The steps of `exit_external`. -/
def exitStep (host : Host) (pc : Pc) (choice : Choice) : Option (Host × Pc × List Event) :=
  let c := host.controller
  match pc with
  | .exitStart =>
      match c.exitSection with
      | .error error => some (host, .idle, [.finished .exitExternal (.raised error)])
      | .ok requestId => some (host, .exitCancel requestId, [])
  | .exitCancel requestId =>
      match c.claimCancel with
      | none => some (host, .exitAck requestId, [])
      | some (cancel, c) => some ({ host with controller := c }, .exitCancelSend requestId cancel, [])
  | .exitCancelSend requestId cancel =>
      some (host, .exitAck requestId, [.handed (.control cancel) choice.raises.isSome])
  | .exitAck requestId =>
      (waitForAck c requestId .CANCEL choice.expired).map fun
        | .error error => (host, .idle, [.finished .exitExternal (.raised error)])
        | .ok ack =>
            match requireAccepted ack with
            | .error error => (host, .idle, [.finished .exitExternal (.raised error)])
            | .ok () => (host, .exitStatus, [])
  | .exitStatus =>
      (waitFor c c.exitStatus choice.expired "timed out waiting for EXTERNAL to exit").map fun
        | .error error => (host, .idle, [.finished .exitExternal (.raised error)])
        | .ok status => (host, .exitClear status, [])
  | .exitClear status =>
      some ({ host with controller := c.clearSession }, .idle,
        [.cleared c.requestId, .finished .exitExternal (.status status)])
  | _ => none

/-- The steps of `close`, whose cleanup of the transport leaves the controller as it is. -/
def closeStep (host : Host) (pc : Pc) (choice : Choice) : Option (Host × Pc × List Event) :=
  match pc with
  | .closeStart =>
      match host.controller.closeSection with
      | (none, c) => some ({ host with controller := c }, .idle, [.finished .close .done])
      | (some cancel, c) => some ({ host with controller := c }, .closeSend cancel, [])
  | .closeSend cancel =>
      some (host, .idle, [.handed (.control cancel) choice.raises.isSome, .finished .close .done])
  | _ => none

/-- The steps of `get_robot_info`. -/
def infoStep (host : Host) (pc : Pc) (choice : Choice) : Option (Host × Pc × List Event) :=
  match pc with
  | .infoStart =>
      match host.controller.ensureOpen with
      | .error error => some (host, .idle, [.finished .getRobotInfo (.raised error)])
      | .ok () => some (host, .infoReply, [])
  | .infoReply =>
      match choice.raises, host.controller.learnInfo choice.info with
      | some message, _ =>
          some (host, .idle, [.finished .getRobotInfo (.raised (transportError message))])
      | none, .error error => some (host, .idle, [.finished .getRobotInfo (.raised error)])
      | none, .ok c => some ({ host with controller := c }, .idle, [.finished .getRobotInfo .done])
  | _ => none

/-- Every program counter belongs to one method. -/
def Host.step (host : Host) (pc : Pc) (choice : Choice) : Option (Host × Pc × List Event) :=
  match pc with
  | .publishStart _ | .publishSend _ => publishStep host pc choice
  | .exitStart | .exitCancel _ | .exitCancelSend _ _ | .exitAck _ | .exitStatus | .exitClear _ =>
      exitStep host pc choice
  | .closeStart | .closeSend _ => closeStep host pc choice
  | .infoStart | .infoReply => infoStep host pc choice
  | _ => enterStep host pc choice

def Host.react (host : Host) : Signal → Host × List Event
  | .ack ack => ({ host with controller := host.controller.onAck ack }, [.ackArrived ack])
  | .status status => ({ host with controller := host.controller.onStatus status }, [.statusArrived status])

/-- The methods of one controller form a program for any number of threads. -/
def program : Program Host Pc Call Choice Signal Event where
  idle pc := pc = .idle
  call := startCall
  step := Host.step
  react := Host.react

end HumanoidSdk.Controller
