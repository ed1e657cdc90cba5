import HumanoidSdk.Controller.Handshake
import HumanoidSdk.Message.Wire
import HumanoidSdk.Mock.ProtocolInvariant

namespace HumanoidSdk.System
open Foundation Controller

/-- The network keeps every message that ever left, so it may lose, delay, repeat and reorder them. -/
structure Network where
  requests : List ControlRequest := []
  acks : List ControlAck := []
  statuses : List ControlStatus := []
  commands : List BodyCmd := []

/-- A fleet of controllers shares one mock robot. -/
structure Fleet (Client Thread : Type*) where
  controllers : Client → Pool Thread Host Pc
  robot : Mock.Robot
  network : Network := {}

/-- A thread or the robot moves, a message that left before arrives, or the robot shows its status. -/
inductive FleetInput (Client Thread : Type*) where
  | call (client : Client) (thread : Thread) (request : Controller.Call)
  | run (client : Client) (thread : Thread) (choice : Choice)
  | ack (client : Client) (ack : ControlAck)
  | status (client : Client) (status : ControlStatus)
  | request (request : ControlRequest) (now : UInt64)
  | command (command : BodyCmd) (cmd : Mock.Command) (now : UInt64)
  | tick (now wallUs : UInt64)
  | watchdog (now : UInt64)
  | publishStatus (stamp : UInt64)

inductive FleetEvent (Client : Type*) where
  | controller (client : Client) (event : Controller.Event)
  | robot (event : Mock.ProtocolEvent)

/-- The messages that an event puts on the network. A hand-over that raised may still have left. -/
def Network.send (network : Network) : Controller.Event → Network
  | .handed (.control request) _ => { network with requests := network.requests ++ [request] }
  | .handed (.body command) _ => { network with commands := network.commands ++ [command] }
  | _ => network

namespace Fleet

variable {Client Thread : Type*} [DecidableEq Client] [DecidableEq Thread]

/-- One controller takes an input, and its hand-overs go to the network. -/
def act (fleet : Fleet Client Thread) (client : Client) (input : HostInput Thread) :
    Option (Fleet Client Thread × List (FleetEvent Client)) :=
  ((hostMachine Thread).step (fleet.controllers client) input).map fun result =>
    ({ fleet with
        controllers := Function.update fleet.controllers client result.1
        network := result.2.foldl Network.send fleet.network },
      result.2.map (.controller client))

/-- The robot runs one call and may answer. -/
def drive (fleet : Fleet Client Thread) (call : Mock.Call) (answer : Option ControlAck) :
    Option (Fleet Client Thread × List (FleetEvent Client)) :=
  (Mock.robotMachine.step fleet.robot call).map fun result =>
    ({ fleet with
        robot := result.1
        network := { fleet.network with acks := fleet.network.acks ++ answer.toList } },
      result.2.map .robot)

/-- Only messages that left before can arrive. -/
def step (fleet : Fleet Client Thread) :
    FleetInput Client Thread → Option (Fleet Client Thread × List (FleetEvent Client))
  | .call client thread request => fleet.act client (.call thread request)
  | .run client thread choice => fleet.act client (.run thread choice)
  | .ack client ack =>
      if ack ∈ fleet.network.acks then fleet.act client (.signal (.ack ack)) else none
  | .status client status =>
      if status ∈ fleet.network.statuses then fleet.act client (.signal (.status status)) else none
  | .request request now =>
      if request ∈ fleet.network.requests then
        (wireRequest request).bind fun r =>
          fleet.drive (.requestControl r now) (wireAck (fleet.robot.protocol.requestControl r now).1)
      else none
  | .command command cmd now =>
      if command ∈ fleet.network.commands ∧ Carries command cmd then fleet.drive (.accept cmd now) none
      else none
  | .tick now wallUs => fleet.drive (.tick now wallUs) none
  | .watchdog now => fleet.drive (.watchdog now) none
  | .publishStatus stamp =>
      some ({ fleet with network := { fleet.network with
        statuses := fleet.network.statuses ++ (wireStatus fleet.robot.protocol.status stamp).toList } }, [])

end Fleet

/-- Every interleaving of the controllers, the robot and the network is a run of this machine. -/
def fleetMachine (Client Thread : Type*) [DecidableEq Client] [DecidableEq Thread] :
    Machine (Fleet Client Thread) (FleetInput Client Thread) (FleetEvent Client) := ⟨Fleet.step⟩

/-- Every client starts fresh beside a new robot. -/
def freshFleet {Client : Type*} (Thread : Type*) (clientId : Client → String) (p : Mock.Protocol) :
    Fleet Client Thread :=
  ⟨fun client => freshPool Thread (clientId client), ⟨p, 0⟩, {}⟩

abbrev FleetMove (Client Thread : Type*) :=
  Move (Fleet Client Thread) (FleetInput Client Thread) (FleetEvent Client)

/-- What the robot did in a run. -/
def robotLog {Client : Type*} (log : List (FleetEvent Client)) : List Mock.ProtocolEvent :=
  log.filterMap fun
    | .robot event => some event
    | .controller _ _ => none

@[simp] theorem robotLog_append {Client : Type*} (first second : List (FleetEvent Client)) :
    robotLog (first ++ second) = robotLog first ++ robotLog second := List.filterMap_append

@[simp] theorem robotLog_controller {Client : Type*} (client : Client) (events : List Controller.Event) :
    robotLog (events.map (.controller client)) = [] := by
  simp [robotLog]

@[simp] theorem robotLog_robot {Client : Type*} (events : List Mock.ProtocolEvent) :
    robotLog (events.map (.robot : _ → FleetEvent Client)) = events := by
  simp [robotLog, List.filterMap_map]

variable {Client Thread : Type*} [DecidableEq Client] [DecidableEq Thread]

/-- A step moves one controller, moves the robot or shows the present status. -/
inductive FleetStep (fleet : Fleet Client Thread) (input : FleetInput Client Thread) :
    Fleet Client Thread → List (FleetEvent Client) → Prop
  | acted {client : Client} {own : HostInput Thread} {pool : Pool Thread Host Pc}
      {events : List Controller.Event}
      (stepped : (hostMachine Thread).step (fleet.controllers client) own = some (pool, events))
      (genuine : ∀ status, own = .signal (.status status) → status ∈ fleet.network.statuses) :
      FleetStep fleet input
        { fleet with
          controllers := Function.update fleet.controllers client pool
          network := events.foldl Network.send fleet.network }
        (events.map (.controller client))
  | drove {call : Mock.Call} {robot : Mock.Robot} {events : List Mock.ProtocolEvent}
      {answer : Option ControlAck} (stepped : Mock.robotMachine.step fleet.robot call = some (robot, events))
      (accepts : ∀ cmd now, call = .accept cmd now →
        ∃ command, input = .command command cmd now ∧ command ∈ fleet.network.commands ∧ Carries command cmd) :
      FleetStep fleet input
        { fleet with
          robot := robot
          network := { fleet.network with acks := fleet.network.acks ++ answer.toList } }
        (events.map .robot)
  | showed {stamp : UInt64} :
      FleetStep fleet input { fleet with network := { fleet.network with
        statuses := fleet.network.statuses ++ (wireStatus fleet.robot.protocol.status stamp).toList } } []

/-- Every accepted input is one of these steps. -/
theorem fleet_cases {fleet next : Fleet Client Thread} {input : FleetInput Client Thread}
    {events : List (FleetEvent Client)}
    (accepted : (fleetMachine Client Thread).step fleet input = some (next, events)) :
    FleetStep fleet input next events := by
  have acted {client : Client} {own : HostInput Thread}
      (done : fleet.act client own = some (next, events))
      (genuine : ∀ status, own = .signal (.status status) → status ∈ fleet.network.statuses) :
      FleetStep fleet input next events := by
    obtain ⟨⟨pool, emitted⟩, stepped, same⟩ := Option.map_eq_some_iff.mp done
    cases same
    exact .acted stepped genuine
  have drove {call : Mock.Call} {answer : Option ControlAck}
      (done : fleet.drive call answer = some (next, events))
      (accepts : ∀ cmd now, call = .accept cmd now →
        ∃ command, input = .command command cmd now ∧ command ∈ fleet.network.commands ∧ Carries command cmd) :
      FleetStep fleet input next events := by
    obtain ⟨⟨robot, emitted⟩, stepped, same⟩ := Option.map_eq_some_iff.mp done
    cases same
    exact .drove stepped accepts
  have step : fleet.step input = some (next, events) := accepted
  cases input with
  | call client thread request => exact acted step (by simp)
  | run client thread choice => exact acted step (by simp)
  | ack client ack =>
      simp only [Fleet.step] at step
      split at step
      · exact acted step (by simp)
      · cases step
  | status client status =>
      simp only [Fleet.step] at step
      split at step
      · rename_i left
        refine acted step fun other same => ?_
        simp only [PoolInput.signal.injEq, Signal.status.injEq] at same
        exact same ▸ left
      · cases step
  | request request now =>
      simp only [Fleet.step] at step
      split at step
      · obtain ⟨r, _, done⟩ := Option.bind_eq_some_iff.mp step
        exact drove done (by simp)
      · cases step
  | command command cmd now =>
      simp only [Fleet.step] at step
      split at step
      · rename_i left
        refine drove step fun other later same => ?_
        obtain ⟨rfl, rfl⟩ := Mock.Call.accept.inj same
        exact ⟨command, rfl, left⟩
      · cases step
  | tick now wallUs => exact drove step (by simp)
  | watchdog now => exact drove step (by simp)
  | publishStatus stamp =>
      cases step
      exact .showed

end HumanoidSdk.System
