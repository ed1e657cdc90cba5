import HumanoidSdk.Controller.Output
import HumanoidSdk.Controller.Release
import HumanoidSdk.Controller.StatusCache
import HumanoidSdk.System.Fleet

namespace HumanoidSdk.System
open Foundation Controller

variable {Client : Type*}

/-- The robot started this generation for this client and this lease. -/
def Started (log : List (FleetEvent Client)) (generation : ℤ) (clientId leaseId : String) : Prop :=
  ∃ number : Nat, generation = number ∧
    (number, Mock.Protocol.Issue.generation clientId leaseId) ∈ Mock.Protocol.issues (robotLog log)

/-- This client built the command. -/
def Built (log : List (FleetEvent Client)) (client : Client) (command : BodyCmd) : Prop :=
  ∃ requestId leaseId, .controller client (.built requestId leaseId command) ∈ log

theorem Started.append {log : List (FleetEvent Client)} {generation : ℤ} {clientId leaseId : String}
    (started : Started log generation clientId leaseId) (events : List (FleetEvent Client)) :
    Started (log ++ events) generation clientId leaseId := by
  obtain ⟨number, same, member⟩ := started
  exact ⟨number, same, by simp [member]⟩

theorem Built.append {log : List (FleetEvent Client)} {client : Client} {command : BodyCmd}
    (built : Built log client command) (events : List (FleetEvent Client)) :
    Built (log ++ events) client command := by
  obtain ⟨requestId, leaseId, member⟩ := built
  exact ⟨requestId, leaseId, List.mem_append_left _ member⟩

/-- The statuses in flight, the caches and the commands all stem from generations that the robot
started for the client and the lease that they name. -/
structure Isolated {Thread : Type*} (clientId : Client → String) (log : List (FleetEvent Client))
    (fleet : Fleet Client Thread) : Prop where
  robot : fleet.robot.protocol.Invariant ∧ Mock.Protocol.Numbered (robotLog log) fleet.robot.protocol
  statuses : ∀ status ∈ fleet.network.statuses, status.currentAction = "EXTERNAL" →
    Started log status.generation status.clientId status.leaseId
  client : ∀ client, (fleet.controllers client).shared.controller.clientId = clientId client
  cached : ∀ client status, (fleet.controllers client).shared.controller.latestStatus = some status →
    status ∈ fleet.network.statuses
  built : ∀ client requestId leaseId command, .controller client (.built requestId leaseId command) ∈ log →
    Started log command.sessionId (clientId client) leaseId
  waiting : ∀ client thread command, (fleet.controllers client).threads thread = .publishSend command →
    Built log client command
  commands : ∀ command ∈ fleet.network.commands, ∃ client, Built log client command

theorem send_statuses (network : Network) (events : List Controller.Event) :
    (events.foldl Network.send network).statuses = network.statuses := by
  induction events generalizing network with
  | nil => rfl
  | cons event rest ih =>
      rw [List.foldl_cons, ih]
      unfold Network.send
      split <;> rfl

/-- A command on the network was there before or has just been handed over. -/
theorem send_commands {network : Network} {events : List Controller.Event} {command : BodyCmd}
    (member : command ∈ (events.foldl Network.send network).commands) :
    command ∈ network.commands ∨ ∃ raised, .handed (.body command) raised ∈ events := by
  induction events generalizing network with
  | nil => exact Or.inl member
  | cons event rest ih =>
      rw [List.foldl_cons] at member
      rcases ih member with before | ⟨raised, later⟩
      · unfold Network.send at before
        split at before
        · exact Or.inl before
        · rename_i handed raised
          rcases List.mem_append.mp before with old | new
          · exact Or.inl old
          · obtain rfl := List.mem_singleton.mp new
            exact Or.inr ⟨raised, List.mem_cons_self⟩
        · exact Or.inl before
      · exact Or.inr ⟨raised, List.mem_cons_of_mem _ later⟩

/-- A call of the robot keeps its invariant and its numbers. -/
theorem robot_numbered {log events : List Mock.ProtocolEvent} {robot next : Mock.Robot} {call : Mock.Call}
    (stepped : Mock.robotMachine.step robot call = some (next, events))
    (held : robot.protocol.Invariant ∧ Mock.Protocol.Numbered log robot.protocol) :
    next.protocol.Invariant ∧ Mock.Protocol.Numbered (log ++ events) next.protocol := by
  obtain ⟨_, rfl, rfl⟩ := Mock.robotMachine_step stepped
  exact Mock.Protocol.Path.invariant (fun log p => p.Invariant ∧ Mock.Protocol.Numbered log p)
    (fun log p event q before step => ⟨step.invariant before.1, step.numbered before.1 before.2⟩) held
    (robot.protocol.call_path call)

/-- A running robot has started its generation for its client and its lease. -/
theorem running_started {log : List (FleetEvent Client)} {p : Mock.Protocol}
    (held : p.Invariant ∧ Mock.Protocol.Numbered (robotLog log) p)
    (live : p.status.phase = 4 ∨ p.status.phase = 5) :
    Started log p.status.generation.toNat p.status.clientId p.status.leaseId := by
  have positive := held.1.live live
  have nonzero : p.status.generation ≠ 0 := (UInt64.ne_of_lt positive).symm
  exact ⟨_, rfl, held.2.generation nonzero⟩

variable {Thread : Type*} {clientId : Client → String} {log events : List (FleetEvent Client)}
  {fleet next : Fleet Client Thread} {input : FleetInput Client Thread}

/-- A call of the robot keeps the isolation. -/
theorem Isolated.drove (held : Isolated clientId log fleet) {call : Mock.Call} {robot : Mock.Robot}
    {emitted : List Mock.ProtocolEvent} (answer : Option ControlAck)
    (stepped : Mock.robotMachine.step fleet.robot call = some (robot, emitted)) :
    Isolated clientId (log ++ emitted.map .robot)
      { fleet with
        robot := robot
        network := { fleet.network with acks := fleet.network.acks ++ answer.toList } } := by
  constructor
  · simpa using robot_numbered stepped held.robot
  · exact fun status member external => (held.statuses status member external).append _
  · exact held.client
  · exact held.cached
  · intro asked requestId leaseId command member
    refine (held.built asked requestId leaseId command ?_).append _
    simpa using member
  · exact fun asked thread command waits => (held.waiting asked thread command waits).append _
  · intro command member
    obtain ⟨owner, built⟩ := held.commands command member
    exact ⟨owner, built.append _⟩

/-- A shown status is genuine. -/
theorem Isolated.showed (held : Isolated clientId log fleet) (stamp : UInt64) :
    Isolated clientId log { fleet with network := { fleet.network with
      statuses := fleet.network.statuses ++ (wireStatus fleet.robot.protocol.status stamp).toList } } := by
  refine { held with statuses := ?_, cached := ?_ }
  · intro status member external
    rcases List.mem_append.mp member with old | new
    · exact held.statuses status old external
    · have sent : wireStatus fleet.robot.protocol.status stamp = some status := Option.mem_toList.mp new
      obtain ⟨live, owner, leased, generation⟩ := wireStatus_external sent external
      rw [generation, owner, leased]
      exact running_started held.robot live
  · exact fun asked status now => List.mem_append_left _ (held.cached asked status now)

variable [DecidableEq Client] [DecidableEq Thread]

/-- A move of one controller keeps the isolation. -/
theorem Isolated.acted (held : Isolated clientId log fleet) {client : Client} {own : HostInput Thread}
    {pool : Pool Thread Host Pc} {emitted : List Controller.Event}
    (stepped : (hostMachine Thread).step (fleet.controllers client) own = some (pool, emitted))
    (genuine : ∀ status, own = .signal (.status status) → status ∈ fleet.network.statuses) :
    Isolated clientId (log ++ emitted.map (.controller client))
      { fleet with
        controllers := Function.update fleet.controllers client pool
        network := emitted.foldl Network.send fleet.network } := by
  obtain ⟨sameClient, builds, waits, hands⟩ := pool_commands stepped
  have latest (status : ControlStatus) (now : pool.shared.controller.latestStatus = some status) :
      status ∈ fleet.network.statuses := by
    rcases pool_latest stepped now with old | delivered
    · exact held.cached client status old
    · exact genuine status delivered
  have owns {requestId : Option String} {leaseId : String} {command : BodyCmd}
      (member : .built requestId leaseId command ∈ emitted) :
      Started log command.sessionId (clientId client) leaseId := by
    obtain ⟨_, lease, status, cached, allowed, session⟩ := builds _ _ _ member
    obtain ⟨_, _, external, _, owner, leased⟩ := (ExternalController.statusAllowsPublish_iff status).mp allowed
    have started := held.statuses status (held.cached client status cached) external
    rwa [← session, owner, leased, ← lease, held.client client] at started
  have new {command : BodyCmd} (member : ∃ requestId leaseId, .built requestId leaseId command ∈ emitted) :
      Built (log ++ emitted.map (.controller client)) client command := by
    obtain ⟨requestId, leaseId, built⟩ := member
    exact ⟨requestId, leaseId, List.mem_append_right _ (List.mem_map_of_mem built)⟩
  constructor
  · simpa using held.robot
  · intro status member external
    rw [send_statuses] at member
    exact (held.statuses status member external).append _
  · intro asked
    by_cases same : asked = client
    · subst same
      simp only [Function.update_self]
      exact sameClient.trans (held.client asked)
    · simp only [Function.update_of_ne same]
      exact held.client asked
  · intro asked status now
    rw [send_statuses]
    by_cases same : asked = client
    · subst same
      simp only [Function.update_self] at now
      exact latest status now
    · simp only [Function.update_of_ne same] at now
      exact held.cached asked status now
  · intro asked requestId leaseId command member
    refine Started.append ?_ _
    rcases List.mem_append.mp member with old | recent
    · exact held.built asked requestId leaseId command old
    · obtain ⟨event, emits, same⟩ := List.mem_map.mp recent
      obtain ⟨rfl, rfl⟩ := FleetEvent.controller.inj same
      exact owns emits
  · intro asked thread command waits'
    by_cases same : asked = client
    · subst same
      simp only [Function.update_self] at waits'
      rcases waits thread command waits' with old | built
      · exact (held.waiting asked thread command old).append _
      · exact new built
    · simp only [Function.update_of_ne same] at waits'
      exact (held.waiting asked thread command waits').append _
  · intro command member
    rcases send_commands member with old | ⟨raised, handed⟩
    · obtain ⟨owner, built⟩ := held.commands command old
      exact ⟨owner, built.append _⟩
    · obtain ⟨thread, waited⟩ := hands command raised handed
      exact ⟨client, (held.waiting client thread command waited).append _⟩

/-- Every step of the fleet keeps the isolation. -/
theorem Isolated.step (held : Isolated clientId log fleet)
    (accepted : (fleetMachine Client Thread).step fleet input = some (next, events)) :
    Isolated clientId (log ++ events) next := by
  cases fleet_cases accepted with
  | acted stepped genuine => exact held.acted stepped genuine
  | drove stepped _ => exact held.drove _ stepped
  | @showed stamp =>
      rw [List.append_nil]
      exact held.showed stamp

/-- Every run of the fleet is isolated. -/
theorem isolated_run {seed streamTimeout prepareTimeout : UInt64} {rejectOperation : Int} {p : Mock.Protocol}
    (created : Mock.Protocol.create seed streamTimeout prepareTimeout rejectOperation = some p)
    {moves : List (FleetMove Client Thread)} {final : Fleet Client Thread}
    (run : (fleetMachine Client Thread).Run (freshFleet Thread clientId p) moves final) :
    Isolated clientId (trace moves) final := by
  obtain ⟨initial, fresh, _⟩ := Mock.Protocol.create_invariant created
  refine run.traceInvariant (Isolated clientId) ?_ fun log fleet input next events held accepted =>
    held.step accepted
  constructor
  · exact ⟨initial, ⟨Ledger.empty, by simp [freshFleet, fresh], by simp [freshFleet, fresh]⟩⟩
  · simp [freshFleet]
  · exact fun _ => rfl
  · simp [freshFleet, freshPool, Host.fresh]
  · simp
  · simp [freshFleet, freshPool]
  · simp [freshFleet]

/-- The robot accepts only a command of its present generation that left before. -/
theorem accept_step {command : BodyCmd} {cmd : Mock.Command} {now : UInt64}
    (stepped : (fleetMachine Client Thread).step fleet (.command command cmd now) = some (next, events))
    (accepted : (fleet.robot.protocol.accept cmd now).1 = true) :
    command ∈ fleet.network.commands ∧ next.robot.protocol.status.phase = 4 ∧
      command.sessionId = next.robot.protocol.status.generation.toNat := by
  have step : fleet.step (.command command cmd now) = some (next, events) := stepped
  simp only [Fleet.step] at step
  split at step
  · rename_i left
    obtain ⟨⟨robot, emitted⟩, ran, same⟩ := Option.map_eq_some_iff.mp step
    cases same
    obtain ⟨_, rfl, _⟩ := Mock.robotMachine_step ran
    by_cases valid : (fleet.robot.protocol.watchdog now).valid cmd = true
    · obtain ⟨_, session, _⟩ := Mock.Protocol.valid_iff valid
      have stored : fleet.robot.protocol.call (.accept cmd now) =
          (fleet.robot.protocol.watchdog now).store cmd now := by
        simp [Mock.Protocol.call, Mock.Protocol.accept, valid]
      rw [stored]
      obtain ⟨_, _, _, carried, _⟩ := left.2
      refine ⟨left.1, rfl, ?_⟩
      rw [carried, session]
      rfl
    · simp [Mock.Protocol.accept, valid] at accepted
  · cases step

/-- An accepted command was built by the one client that the robot serves, under the present lease and
in the present generation, and nobody ever built it under another lease. -/
theorem session_isolated (distinct : Function.Injective clientId)
    {seed streamTimeout prepareTimeout : UInt64} {rejectOperation : Int} {p : Mock.Protocol}
    (created : Mock.Protocol.create seed streamTimeout prepareTimeout rejectOperation = some p)
    {moves earlier later : List (FleetMove Client Thread)} {move : FleetMove Client Thread}
    {final : Fleet Client Thread}
    (run : (fleetMachine Client Thread).Run (freshFleet Thread clientId p) moves final)
    (cut : moves = earlier ++ move :: later) {command : BodyCmd} {cmd : Mock.Command} {now : UInt64}
    (delivered : move.input = .command command cmd now)
    (accepted : (move.before.robot.protocol.accept cmd now).1 = true) :
    ∃ client, clientId client = move.after.robot.protocol.status.clientId ∧
      command.sessionId = move.after.robot.protocol.status.generation.toNat ∧
      (∃ requestId, .controller client
        (.built requestId move.after.robot.protocol.status.leaseId command) ∈ trace earlier) ∧
      ∀ other requestId leaseId, .controller other (.built requestId leaseId command) ∈ trace earlier →
        other = client ∧ leaseId = move.after.robot.protocol.status.leaseId := by
  obtain ⟨past, stepped, _⟩ := run.at_move cut
  have before := isolated_run created past
  have after := before.step stepped
  rw [delivered] at stepped
  obtain ⟨left, running, session⟩ := accept_step stepped accepted
  obtain ⟨number, isNumber, serves⟩ := running_started after.robot (Or.inl running)
  -- one number names one client and one lease, so every builder of the command is the served one
  have owner {client : Client} {requestId : Option String} {leaseId : String}
      (built : .controller client (.built requestId leaseId command) ∈ trace earlier) :
      clientId client = move.after.robot.protocol.status.clientId ∧
        leaseId = move.after.robot.protocol.status.leaseId := by
    obtain ⟨other, isOther, names⟩ := (before.built client requestId leaseId command built).append move.events
    have same : other = number := Int.ofNat_inj.mp (isOther.symm.trans (session.trans isNumber))
    have issue := after.robot.2.ledger.unique (same ▸ names) serves
    obtain ⟨client, lease⟩ := Mock.Protocol.Issue.generation.inj issue
    exact ⟨client, lease⟩
  obtain ⟨client, requestId, leaseId, built⟩ := before.commands command left
  obtain ⟨named, leased⟩ := owner built
  refine ⟨client, named, session, ⟨requestId, leased ▸ built⟩, fun other requestId leaseId built => ?_⟩
  obtain ⟨otherNamed, otherLeased⟩ := owner built
  exact ⟨distinct (otherNamed.trans named.symm), otherLeased⟩

/-- Two clients with different names. -/
def pairName (client : Bool) : String := if client then "beta" else "alpha"

/-- A robot that has issued no number yet. -/
def newRobot : Mock.Protocol where
  generation := 10
  commandTimeoutNs := 100
  prepareTimeoutNs := 50
  rejectOperation := 0

/-- A command with the stamp that the robot asks for. -/
def stampedCommand : BodyCmd := { zeroCommand with inputStateTsRealUs := .int 1 }

/-- The only thread of this client takes this many steps. -/
def goes (client : Bool) (count : ℕ) : List (FleetInput Bool Unit) := List.replicate count (.run client () {})

/-- The messages of an entry and a publish as this client exchanges them with the robot from this time on. -/
def sessionInputs (client : Bool) (requestId leaseId : String) (session statusSeq : ℕ) (now : UInt64) :
    List (FleetInput Bool Unit) :=
  let name := pairName client
  [.call client () (.enterExternal (.float (.finite 5))), .run client () { uuid := requestId }] ++ goes client 4 ++
    [.request ⟨some requestId, name, .PREPARE, "EXTERNAL", "", 0, 2⟩ now,
      .ack client ⟨requestId, .PREPARE, true, 0, "armed; no automatic running lease expiry", leaseId, 1⟩] ++
    goes client 6 ++
    [.request ⟨some requestId, name, .COMMIT, "EXTERNAL", leaseId, 0, 2⟩ (now + 4),
      .ack client ⟨requestId, .COMMIT, true, 0, "EXTERNAL RUNNING", leaseId, 1⟩] ++ goes client 2 ++
    [.publishStatus (now + 5),
      .status client ⟨statusSeq, "EXTERNAL", .RUNNING, name, leaseId, session, (now + 5).toNat, 1⟩] ++
    goes client 2 ++ [.call client () (.publish (some stampedCommand))] ++ goes client 2

/-- The first command of a session. -/
def firstOf (session : ℕ) : BodyCmd := { stampedCommand with sessionId := session, sequence := 1 }

def wireOf (session : ℕ) : Mock.Command :=
  { session := UInt64.ofNat session, sequence := 1, inputStateRealUs := 1 }

/-- The first client enters, publishes and exits, and the second one enters and publishes. The command of the
first one arrives once more before that of the second one. -/
def fleetInputs : List (FleetInput Bool Unit) :=
  sessionInputs false "request" "mock-lease-11" 12 3 1000 ++ [.command (firstOf 12) (wireOf 12) 1010] ++
    [.call false () (.exitExternal (.float (.finite 5)))] ++ goes false 3 ++
    [.request ⟨some "request", "alpha", .CANCEL, "EXTERNAL", "mock-lease-11", 0, 2⟩ 1012] ++
    sessionInputs true "other" "mock-lease-13" 14 7 2000 ++
    [.command (firstOf 12) (wireOf 12) 2009, .command (firstOf 14) (wireOf 14) 2010]

/-- The robot takes the command of the second client, and the command of the first one is refused by then. -/
theorem session_isolated_second :
    ∃ moves earlier stale move final,
      (fleetMachine Bool Unit).Run (freshFleet Unit pairName newRobot) moves final ∧
      moves = earlier ++ [stale, move] ∧ stale.input = .command (firstOf 12) (wireOf 12) 2009 ∧
      (stale.before.robot.protocol.accept (wireOf 12) 2009).1 = false ∧
      (move.before.robot.protocol.accept (wireOf 14) 2010).1 = true ∧
      ∃ client, pairName client = "beta" ∧
        ∃ requestId, .controller client (.built requestId "mock-lease-13" (firstOf 14)) ∈
          trace (earlier ++ [stale]) := by
  have distinct : Function.Injective pairName := by
    intro first second same
    revert first second
    decide
  have created : Mock.Protocol.create 10 100 50 0 = some newRobot := rfl
  obtain ⟨before, _, last, _, entered, rest, inputs, refused, accepted, owner⟩ :=
    (fleetMachine Bool Unit).exists_runs (freshFleet Unit pairName newRobot) (fleetInputs.take 56)
      (fleetInputs.drop 56)
      (fun _ last _ =>
        (∀ move ∈ last.head?, (move.before.robot.protocol.accept (wireOf 12) 2009).1 = false) ∧
        (∀ move ∈ last.getLast?, (move.before.robot.protocol.accept (wireOf 14) 2010).1 = true) ∧
        ∀ move ∈ last.getLast?, move.after.robot.protocol.status.clientId = "beta" ∧
          move.after.robot.protocol.status.leaseId = "mock-lease-13") (by decide +kernel)
  obtain ⟨stale, others, rfl, first, others'⟩ := List.map_eq_cons_iff.mp inputs
  obtain ⟨move, none', rfl, second, empty⟩ := List.map_eq_cons_iff.mp others'
  obtain rfl := List.map_eq_nil_iff.mp empty
  have taken := accepted move rfl
  have cut : before ++ [stale, move] = (before ++ [stale]) ++ move :: [] := by simp
  obtain ⟨client, named, _, ⟨requestId, built⟩, _⟩ :=
    session_isolated distinct created (entered.append rest) cut second taken
  obtain ⟨isBeta, isLease⟩ := owner move rfl
  rw [isLease] at built
  exact ⟨_, before, stale, move, _, entered.append rest, rfl, first, refused stale rfl, taken,
    client, named.trans isBeta, requestId, built⟩

end HumanoidSdk.System
