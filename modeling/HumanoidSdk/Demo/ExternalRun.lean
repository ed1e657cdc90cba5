import HumanoidSdk.Demo.ExternalMotion
import HumanoidSdk.Demo.LiveControl
import HumanoidSdk.Demo.Stationary
import HumanoidSdk.Foundation.Precondition

/-
This file translates run of examples/external_control/external_control.py with publish_frame and
_publish_dwell. Numbers are exact. The body is the one of `require_body_info`, and prints only return or raise.
-/

namespace HumanoidSdk.Demo
open Foundation

/-- The body and the option `timeout`. -/
structure ExternalSetup where
  info : BodyInfo
  timeout : ℚ

/-- A pose to hold, with its name and its tolerance. -/
structure Endpoint where
  label : String
  target : List ℚ
  tolerance : ℚ
  deriving DecidableEq

/-- The comparison `abs(reading - target) <= tolerance`. -/
def Reading.near (target tolerance : ℚ) : Reading → Bool
  | .finite value => |value - target| ≤ tolerance
  | _ => false

/-- The variable `at_endpoint` for a state. -/
def Endpoint.reached (info : BodyInfo) (endpoint : Endpoint) (state : BodyState) : Bool :=
  ((state.q.zip state.dq).zip (endpoint.target.zip info.populated)).all fun slot =>
    !slot.2.2 || slot.1.1.near slot.2.1 endpoint.tolerance && slot.1.2.near 0 STATIONARY_DQ_RAD_S

def zeroEndpoint : Endpoint := ⟨"zero", zeroPose, ZERO_ENDPOINT_POSITION_TOLERANCE_RAD⟩

def returnEndpoint (start : List ℚ) : Endpoint :=
  ⟨"return", returnPose start, RETURN_ENDPOINT_POSITION_TOLERANCE_RAD⟩

/-- A statement of the trajectory: a frame, the begin of a dwell, the look at a dwell sample, the end of a
dwell, or a print. -/
inductive Task where
  | frame (q : List ℚ)
  | settle
  | observe (endpoint : Endpoint)
  | conclude (endpoint : Endpoint)
  | say
  deriving DecidableEq

/-- The function `_publish_dwell`. -/
def dwellTasks (endpoint : Endpoint) : List Task :=
  .settle :: (List.replicate dwellSamples [.frame endpoint.target, .observe endpoint]).flatten ++
    [.conclude endpoint]

/-- The whole trajectory. -/
def trajectory (start : List ℚ) : List Task :=
  .frame start :: (segment start zeroPose (segmentSteps start)).map .frame ++ dwellTasks zeroEndpoint ++ [.say] ++
    (segment zeroPose (returnPose start) (segmentSteps start)).map .frame ++ dwellTasks (returnEndpoint start) ++
    [.say]

/-- The variables of the trajectory. -/
structure Trip where
  entered : LiveStatus
  state : BodyState
  lastStateId : ℤ
  lastStateChange : ℚ
  nextPublish : ℚ
  settledSince : Option ℚ := none
  settled : Bool := false
  script : List Task

/-- The next statement of the trajectory. -/
inductive TripPhase where
  | tasking
  | delaying (q : List ℚ)
  | sleeping (q : List ℚ) (since : ℚ)
  | checking (q : List ℚ)
  | receiving (q : List ℚ)
  | dating (q : List ℚ) (state : BodyState)
  | publishing (joints : List PositionTarget) (state : BodyState)
  | returning (state : BodyState)
  | scheduling (state : BodyState)
  | observing (endpoint : Endpoint)
  | saying

/-- The next statement of `run` with its variables. -/
inductive ExternalRun where
  | describing
  | gating (gate : Gate)
  | announcing (start : BodyState)
  | entering (start : BodyState)
  | stamping (start : BodyState) (entered : LiveStatus)
  | arming (start : BodyState) (entered : LiveStatus) (lastStateChange : ℚ)
  | running (trip : Trip) (phase : TripPhase)
  | leaving (outcome : Option Failure)
  | exiting (outcome : Option Failure)
  | reporting (outcome : Option Failure)
  | ended (outcome : Option Failure)

inductive ExternalInput where
  | proceed
  | raises (failure : Failure)
  | state (state : BodyState)
  | status (status : Option LiveStatus)
  | exited (action : String)

/-- The entry returns, a status is read, the clock of the start state begins or a state is compared with the last
one, a command leaves, a dwell sample is looked at, a dwell passes, or the exit is called. -/
inductive ExternalEvent where
  | entered (status : LiveStatus)
  | checked (reading : Option LiveStatus)
  | dated (stateId : ℤ) (now : ℚ)
  | published (joints : List PositionTarget) (inputStateId : ℤ) (time : ℚ)
  | observed (endpoint : Endpoint) (state : BodyState) (now : ℚ)
  | settled (endpoint : Endpoint)
  | exiting

/-- The comparison of a status with the one of the entry. -/
def LiveStatus.Same (status entered : LiveStatus) : Prop :=
  status.currentAction = "EXTERNAL" ∧ status.phase = .RUNNING ∧ status.generation = entered.generation ∧
    status.clientId = entered.clientId ∧ status.leaseId = entered.leaseId

instance (status entered : LiveStatus) : Decidable (status.Same entered) := inferInstanceAs (Decidable (_ ∧ _))

/-- The checks of a frame before it reads a state. -/
def checkOwned (reading : Option LiveStatus) (entered : LiveStatus) : Except Failure Unit :=
  match reading with
  | none => .error (.runtimeError "EXTERNAL ownership is no longer the entered RUNNING session")
  | some status =>
      if ¬status.Same entered then
        .error (.runtimeError "EXTERNAL ownership is no longer the entered RUNNING session")
      else if status.rejectCount ≠ entered.rejectCount then
        .error (.runtimeError "robot reject_count changed during the trajectory")
      else .ok ()

namespace Trip

variable (info : BodyInfo) (trip : Trip)

/-- A failure leaves the trajectory. -/
def leave (failure : Failure) : ExternalRun := .leaving (some failure)

/-- The next task. -/
def next : ExternalRun × List ExternalEvent :=
  match trip.script with
  | [] => (.leaving none, [])
  | .frame q :: rest => (.running { trip with script := rest } (.delaying q), [])
  | .settle :: rest => (.running { trip with script := rest, settledSince := none, settled := false } .tasking, [])
  | .observe endpoint :: rest => (.running { trip with script := rest } (.observing endpoint), [])
  | .conclude endpoint :: rest =>
      if trip.settled then (.running { trip with script := rest } .tasking, [.settled endpoint])
      else (leave (.runtimeError (endpoint.label ++ " endpoint did not settle within position/velocity limits")), [])
  | .say :: rest => (.running { trip with script := rest } .saying, [])

/-- A state at a clock reading. The first value is none when the state is stale. -/
def date (state : BodyState) (now : ℚ) : Option Trip :=
  if state.stateId ≠ trip.lastStateId then some { trip with lastStateId := state.stateId, lastStateChange := now }
  else if LOWSTATE_WINDOW_S ≤ now - trip.lastStateChange then none
  else some trip

/-- A dwell sample at a clock reading. -/
def observe (endpoint : Endpoint) (now : ℚ) : Trip :=
  if endpoint.reached info trip.state then
    match trip.settledSince with
    | none => { trip with settledSince := some now }
    | some since => if ENDPOINT_SETTLE_S ≤ now - since then { trip with settled := true } else trip
  else { trip with settledSince := none, settled := false }

/-- One statement of the trajectory. -/
def advance (now : ℚ) : TripPhase → ExternalInput → Option (ExternalRun × List ExternalEvent)
  | _, .raises failure => some (leave failure, [])
  | .tasking, .proceed => some trip.next
  | .delaying q, .proceed =>
      if 0 < trip.nextPublish - now then some (.running trip (.sleeping q now), [])
      else some (.running trip (.checking q), [])
  | .sleeping q since, .proceed =>
      if since + (trip.nextPublish - since) ≤ now then some (.running trip (.checking q), []) else none
  | .checking q, .status reading =>
      match checkOwned reading trip.entered with
      | .error failure => some (leave failure, [.checked reading])
      | .ok () => some (.running trip (.receiving q), [.checked reading])
  | .receiving q, .state state =>
      match validateBodyState info state with
      | .error failure => some (leave failure, [])
      | .ok () => some (.running trip (.dating q state), [])
  | .dating q state, .proceed =>
      match trip.date state now with
      | none => some (leave (.runtimeError "body state became stale during the trajectory"),
          [.dated state.stateId now])
      | some dated =>
          match positionCommand q with
          | .error failure => some (leave failure, [.dated state.stateId now])
          | .ok joints => some (.running dated (.publishing joints state), [.dated state.stateId now])
  | .publishing joints state, .proceed =>
      some (.running trip (.returning state), [.published joints state.stateId now])
  | .returning state, .proceed => some (.running trip (.scheduling state), [])
  | .scheduling state, .proceed =>
      some (.running { trip with
        state
        nextPublish := max (trip.nextPublish + PERIOD_S) (now + PERIOD_S) } .tasking, [])
  | .observing endpoint, .proceed =>
      some (.running (trip.observe info endpoint now) .tasking, [.observed endpoint trip.state now])
  | .saying, .proceed => some (.running trip .tasking, [])
  | _, _ => none

end Trip

namespace ExternalRun

variable (setup : ExternalSetup)

/-- One statement of `run`, which ends at the clock reading `now`. -/
def advance (run : ExternalRun) (now : ℚ) (input : ExternalInput) : Option (ExternalRun × List ExternalEvent) :=
  match run, input with
  | .describing, .proceed => some (.gating {}, [])
  | .describing, .raises failure => some (.ended (some failure), [])
  | .gating gate, .proceed => (gate.advance setup.info setup.timeout now .clock).map fun next => (gated next.1, [])
  | .gating gate, .state state =>
      (gate.advance setup.info setup.timeout now (.state state)).map fun next => (gated next.1, [])
  | .gating gate, .raises failure =>
      (gate.advance setup.info setup.timeout now (.raises failure)).map fun next => (gated next.1, [])
  | .announcing start, .proceed => some (.entering start, [])
  | .announcing _, .raises failure => some (.ended (some failure), [])
  | .entering start, .status (some entered) => some (.stamping start entered, [.entered entered])
  | .entering _, .raises failure => some (.ended (some failure), [])
  | .stamping start entered, .proceed => some (.arming start entered now, [.dated start.stateId now])
  | .stamping _ _, .raises failure => some (.leaving (some failure), [])
  | .arming start entered lastStateChange, .proceed =>
      some (.running {
        entered
        state := start
        lastStateId := start.stateId
        lastStateChange
        nextPublish := now
        script := trajectory (startPose setup.info start) } .tasking, [])
  | .arming _ _ _, .raises failure => some (.leaving (some failure), [])
  | .running trip phase, input => trip.advance setup.info now phase input
  | .leaving outcome, .proceed => some (.exiting outcome, [.exiting])
  | .exiting outcome, .exited action =>
      if action ≠ "PASSIVE" then
        some (.ended (some (.runtimeError ("CANCEL cleared EXTERNAL but expected PASSIVE, got " ++
          if action = "" then "<empty>" else action))), [])
      else some (.reporting outcome, [])
  | .exiting _, .raises failure => some (.ended (some failure), [])
  | .reporting outcome, .proceed => some (.ended outcome, [])
  | .reporting _, .raises failure => some (.ended (some failure), [])
  | _, _ => none
where
  /-- What follows a statement of the gate. -/
  gated (gate : Gate) : ExternalRun :=
    match gate.phase with
    | .returned state => .announcing state
    | .raised failure => .ended (some failure)
    | _ => .gating gate

end ExternalRun

def externalMachine (setup : ExternalSetup) : Machine (Timed ℚ ExternalRun) (ℚ × ExternalInput) ExternalEvent :=
  clocked (ExternalRun.advance setup)

end HumanoidSdk.Demo
