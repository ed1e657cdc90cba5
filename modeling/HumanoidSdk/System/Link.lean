import HumanoidSdk.Controller.LeaseFlow
import HumanoidSdk.Controller.Output
import HumanoidSdk.System.Exchange

namespace HumanoidSdk.System
open Foundation Controller

/-- One controller sends its control requests to the robot over a queue. Its acknowledgements stay
on the way, so they may arrive late, again or never. -/
structure Link where
  pool : Pool Unit Host Pc
  robot : Mock.Robot
  requests : List ControlRequest := []
  acks : List ControlAck := []

/-- Any status may arrive, so also each one that the robot shows. The robot reads its requests in
their order. A request may be lost, as when its hand-over raised. -/
inductive LinkInput where
  | call (request : Controller.Call)
  | run (choice : Choice)
  | ack (ack : ControlAck)
  | status (status : ControlStatus)
  | request (now : UInt64)
  | lose
  | accept (cmd : Mock.Command) (now : UInt64)
  | tick (now wallUs : UInt64)
  | watchdog (now : UInt64)

/-- The clock reading of a call of the robot. -/
def LinkInput.clock : LinkInput → Option UInt64
  | .request now | .accept _ now | .tick now _ | .watchdog now => some now
  | _ => none

inductive LinkEvent where
  | controller (event : Controller.Event)
  | received (request : ControlRequest)

namespace Link

def act (link : Link) (input : HostInput Unit) : Option (Link × List LinkEvent) :=
  ((hostMachine Unit).step link.pool input).map fun result =>
    ({ link with pool := result.1, requests := link.requests ++ controlsOf result.2 },
      result.2.map .controller)

def drive (link : Link) (call : Mock.Call) : Option (Link × List LinkEvent) :=
  (Mock.robotMachine.step link.robot call).map fun result => ({ link with robot := result.1 }, [])

/-- The robot reads the first request of the queue and answers it. -/
def receive (link : Link) (now : UInt64) : Option (Link × List LinkEvent) :=
  match link.requests with
  | [] => none
  | request :: rest =>
      (wireRequest request).bind fun r =>
        (Mock.robotMachine.step link.robot (.requestControl r now)).map fun result =>
          ({ link with
              robot := result.1
              requests := rest
              acks := link.acks ++ (wireAck (link.robot.protocol.requestControl r now).1).toList },
            [.received request])

def step (link : Link) : LinkInput → Option (Link × List LinkEvent)
  | .call request => link.act (.call () request)
  | .run choice => link.act (.run () choice)
  | .ack ack => if ack ∈ link.acks then link.act (.signal (.ack ack)) else none
  | .status status => link.act (.signal (.status status))
  | .request now => link.receive now
  | .lose =>
      match link.requests with
      | [] => none
      | _ :: rest => some ({ link with requests := rest }, [])
  | .accept cmd now => link.drive (.accept cmd now)
  | .tick now wallUs => link.drive (.tick now wallUs)
  | .watchdog now => link.drive (.watchdog now)

end Link

def linkMachine : Machine Link LinkInput LinkEvent := ⟨Link.step⟩

/-- A fresh controller is linked to a new robot. -/
def freshLink (clientId : String) (p : Mock.Protocol) : Link := ⟨freshPool Unit clientId, ⟨p, 0⟩, [], []⟩

abbrev LinkMove := Move Link LinkInput LinkEvent

section Steps

variable {link next : Link} {events : List LinkEvent}

theorem Link.act_cases {input : HostInput Unit} (accepted : link.act input = some (next, events)) :
    ∃ pool handed, (hostMachine Unit).step link.pool input = some (pool, handed) ∧
      next = { link with pool := pool, requests := link.requests ++ controlsOf handed } ∧
      events = handed.map .controller := by
  obtain ⟨⟨pool, handed⟩, stepped, same⟩ := Option.map_eq_some_iff.mp accepted
  obtain ⟨rfl, rfl⟩ := Prod.mk.inj same
  exact ⟨pool, handed, stepped, rfl, rfl⟩

theorem Link.drive_cases {call : Mock.Call} (accepted : link.drive call = some (next, events)) :
    next = { link with robot := ⟨link.robot.protocol.call call, call.now⟩ } ∧ events = [] := by
  obtain ⟨⟨robot, emitted⟩, called, same⟩ := Option.map_eq_some_iff.mp accepted
  obtain ⟨rfl, rfl⟩ := Prod.mk.inj same
  obtain ⟨_, rfl, _⟩ := Mock.robotMachine_step called
  exact ⟨rfl, rfl⟩

theorem Link.receive_cases {now : UInt64} (accepted : link.receive now = some (next, events)) :
    ∃ request rest r, link.requests = request :: rest ∧ wireRequest request = some r ∧
      next = { link with
        robot := ⟨(link.robot.protocol.requestControl r now).2, now⟩
        requests := rest
        acks := link.acks ++ (wireAck (link.robot.protocol.requestControl r now).1).toList } ∧
      events = [.received request] := by
  unfold Link.receive at accepted
  cases queued : link.requests with
  | nil => simp [queued] at accepted
  | cons request rest =>
      simp only [queued, Option.bind_eq_some_iff, Option.map_eq_some_iff, Prod.mk.injEq] at accepted
      obtain ⟨r, wire, ⟨robot, calls⟩, called, rfl, rfl⟩ := accepted
      obtain ⟨_, rfl, _⟩ := Mock.robotMachine_step called
      exact ⟨request, rest, r, rfl, wire, rfl, rfl⟩

/-- A step moves the controller, lets the robot read a request or make another call, or loses a request. -/
inductive LinkStep (link : Link) : LinkInput → Link → List LinkEvent → Prop
  | act {input : LinkInput} {sent : HostInput Unit} {next : Link} {events : List LinkEvent}
      (arrives : ∀ ack, arrivedAck sent = some ack → ack ∈ link.acks) (clock : input.clock = none)
      (acted : link.act sent = some (next, events)) : LinkStep link input next events
  | receive {now : UInt64} {next : Link} {events : List LinkEvent}
      (received : link.receive now = some (next, events)) : LinkStep link (.request now) next events
  | drive {input : LinkInput} {call : Mock.Call} (other : ∀ r now, call ≠ .requestControl r now)
      (clock : input.clock = some call.now) :
      LinkStep link input { link with robot := ⟨link.robot.protocol.call call, call.now⟩ } []
  | lost {request : ControlRequest} {rest : List ControlRequest} (queued : link.requests = request :: rest) :
      LinkStep link .lose { link with requests := rest } []

theorem link_cases {input : LinkInput} (accepted : linkMachine.step link input = some (next, events)) :
    LinkStep link input next events := by
  have stepped : link.step input = some (next, events) := accepted
  cases input with
  | call request => exact .act (by simp [arrivedAck]) rfl stepped
  | run choice => exact .act (by simp [arrivedAck]) rfl stepped
  | status status => exact .act (by simp [arrivedAck]) rfl stepped
  | request now => exact .receive stepped
  | ack ack =>
      simp only [Link.step] at stepped
      split at stepped
      · refine .act (fun arrived same => ?_) rfl stepped
        obtain rfl := Option.some.inj same
        assumption
      · cases stepped
  | lose =>
      simp only [Link.step] at stepped
      split at stepped
      · cases stepped
      · cases stepped
        exact .lost ‹_›
  | accept cmd now =>
      obtain ⟨rfl, rfl⟩ := Link.drive_cases stepped
      exact .drive (by simp) rfl
  | tick now wallUs =>
      obtain ⟨rfl, rfl⟩ := Link.drive_cases stepped
      exact .drive (by simp) rfl
  | watchdog now =>
      obtain ⟨rfl, rfl⟩ := Link.drive_cases stepped
      exact .drive (by simp) rfl

end Steps

/-- What the controller did in a run. -/
def controllerLog (log : List LinkEvent) : List Controller.Event :=
  log.filterMap fun
    | .controller event => some event
    | .received _ => none

/-- The requests that the robot has read. -/
def receivedLog (log : List LinkEvent) : List ControlRequest :=
  log.filterMap fun
    | .received request => some request
    | .controller _ => none

@[simp] theorem controllerLog_append (first second : List LinkEvent) :
    controllerLog (first ++ second) = controllerLog first ++ controllerLog second := List.filterMap_append

@[simp] theorem receivedLog_append (first second : List LinkEvent) :
    receivedLog (first ++ second) = receivedLog first ++ receivedLog second := List.filterMap_append

@[simp] theorem controllerLog_controller (events : List Controller.Event) :
    controllerLog (events.map .controller) = events := by
  simp [controllerLog, List.filterMap_map]

@[simp] theorem receivedLog_controller (events : List Controller.Event) :
    receivedLog (events.map .controller) = [] := by
  simp [receivedLog]

/-- The records of one identity are the entries of the requests that were handed over. -/
theorem requestsFor_entries (requestId : String) (log : List Controller.Event) :
    requestsFor requestId log = entriesOf requestId (controlsOf log) := by
  rw [requestsFor, entriesOf, controlsOf, List.filterMap_filterMap]
  congr 1
  funext event
  cases event with
  | handed message raised =>
      cases message with
      | control request | body command => rfl
  | _ => rfl

/-- The controller and the robot agree about the leases of all requests, and the robot reads them in
the order of their hand-over. -/
structure Linked (clientId : String) (log : List LinkEvent) (link : Link) : Prop where
  handshake : Handshake (controllerLog log) link.pool.shared (link.pool.threads ())
  client : link.pool.shared.controller.clientId = clientId
  named : ∀ requestId ∈ link.pool.shared.issuedIds, requestId ≠ ""
  order : (receivedLog log ++ link.requests).Sublist (controlsOf (controllerLog log))
  served : Served clientId (receivedLog log) link.robot.protocol
  granted : ∀ ack ∈ link.acks, ack.operation = .PREPARE → ack.accepted = true →
    Agrees (receivedLog log) link.robot.protocol ack.requestId ack.leaseId
  answers : ∀ requestId operation ack,
    link.pool.shared.controller.lookupAck requestId operation = some ack →
    ack.requestId = requestId ∧ ack.operation = operation ∧ ack ∈ link.acks
  learning : ∀ requestId ack, link.pool.threads () = .enterLearn requestId ack →
    Agrees (receivedLog log) link.robot.protocol requestId ack.leaseId
  learned : ∀ requestId, link.pool.shared.controller.requestId = some requestId →
    link.pool.shared.controller.leaseId ≠ "" →
    Agrees (receivedLog log) link.robot.protocol requestId link.pool.shared.controller.leaseId
  handed : ∀ request ∈ controlsOf (controllerLog log), request.clientId = clientId ∧
    request.protocolVersion = CONTROL_REQUEST_VERSION ∧ request.actionName = "EXTERNAL" ∧
    ∃ requestId, request.requestId = some requestId ∧ (request.leaseId ≠ "" →
      Agrees (receivedLog log) link.robot.protocol requestId request.leaseId)

section Linked

variable {clientId : String} {log events : List LinkEvent} {link next : Link}

/-- A new robot without a scripted rejection serves nobody. -/
theorem Linked.initial {seed streamTimeout prepareTimeout : UInt64} {p : Mock.Protocol}
    (created : Mock.Protocol.create seed streamTimeout prepareTimeout 0 = some p) (clientId : String) :
    Linked clientId [] (freshLink clientId p) := by
  obtain ⟨inv, new, _⟩ := Mock.Protocol.create_invariant created
  have script : p.rejectOperation = 0 := by
    simp only [Mock.Protocol.create] at created
    split at created
    · cases created
    · cases created
      rfl
  constructor
  · exact Handshake.initial clientId
  · rfl
  · simp [freshLink, freshPool, Host.fresh]
  · exact List.Sublist.refl []
  · constructor
    · exact inv
    · exact script
    · simp [freshLink, new]
    · simp [freshLink, new]
    · simp [freshLink, new]
    · simp [entriesOf, receivedLog]
  · simp [freshLink]
  · simp [freshLink, freshPool, Host.fresh, ExternalController.lookupAck]
  · simp [freshLink, freshPool]
  · simp [freshLink, freshPool, Host.fresh]
  · simp [controllerLog, controlsOf]

/-- A move of the controller keeps the link. -/
theorem Linked.act (held : Linked clientId log link) {input : HostInput Unit}
    (arrives : ∀ ack, arrivedAck input = some ack → ack ∈ link.acks)
    (acted : link.act input = some (next, events)) : Linked clientId (log ++ events) next := by
  obtain ⟨pool, handed, stepped, rfl, rfl⟩ := Link.act_cases acted
  obtain ⟨handshake, flow⟩ := pool_leaseFlow held.handshake stepped
  have quiet : receivedLog (log ++ handed.map .controller) = receivedLog log := by simp
  constructor
  · simpa using handshake
  · exact (pool_commands stepped).client.trans held.client
  · exact fun requestId member => (flow.issued requestId member).elim (held.named requestId) id
  · rw [quiet, controllerLog_append, controllerLog_controller, controlsOf_append, ← List.append_assoc]
    exact held.order.append (List.Sublist.refl _)
  · rw [quiet]
    exact held.served
  · rw [quiet]
    exact held.granted
  · intro requestId operation ack found
    rcases flow.answers requestId operation ack found with old | ⟨arrived, request, code⟩
    · exact held.answers requestId operation ack old
    · exact ⟨request, code, arrives ack arrived⟩
  · intro requestId ack learning
    rw [quiet]
    rcases flow.learns requestId ack learning with old | ⟨found, accepted⟩
    · exact held.learning requestId ack old
    · obtain ⟨request, code, member⟩ := held.answers requestId .PREPARE ack found
      exact request ▸ held.granted ack member code accepted
  · intro requestId current leased
    rw [quiet]
    rcases flow.lease requestId current leased with ⟨before, lease⟩ | ⟨ack, learning, lease⟩
    · rw [lease] at leased ⊢
      exact held.learned requestId before leased
    · rw [lease]
      exact held.learning requestId ack learning
  · intro request member
    rw [quiet]
    rw [controllerLog_append, controllerLog_controller, controlsOf_append, List.mem_append] at member
    rcases member with old | new
    · exact held.handed request old
    · obtain ⟨requestId, operation, current, rfl⟩ := flow.hands request new
      exact ⟨held.client, rfl, rfl, requestId, rfl, held.learned requestId current⟩

/-- A move of the robot or of its queue keeps the link when it keeps the service. -/
theorem Linked.exchange (held : Linked clientId log link) (pool : next.pool = link.pool)
    (silent : controllerLog events = [])
    (order : (receivedLog (log ++ events) ++ next.requests).Sublist (receivedLog log ++ link.requests))
    (served : Served clientId (receivedLog (log ++ events)) next.robot.protocol)
    (keeps : ∀ requestId leaseId, Agrees (receivedLog log) link.robot.protocol requestId leaseId →
      Agrees (receivedLog (log ++ events)) next.robot.protocol requestId leaseId)
    (grows : ∀ ack ∈ link.acks, ack ∈ next.acks)
    (granted : ∀ ack ∈ next.acks, ack ∈ link.acks ∨ (ack.operation = .PREPARE → ack.accepted = true →
      Agrees (receivedLog (log ++ events)) next.robot.protocol ack.requestId ack.leaseId)) :
    Linked clientId (log ++ events) next := by
  have same : controllerLog (log ++ events) = controllerLog log := by
    rw [controllerLog_append, silent, List.append_nil]
  constructor
  · rw [same, pool]
    exact held.handshake
  · rw [pool]
    exact held.client
  · rw [pool]
    exact held.named
  · rw [same]
    exact order.trans held.order
  · exact served
  · intro ack member prepare accepted
    rcases granted ack member with old | new
    · exact keeps _ _ (held.granted ack old prepare accepted)
    · exact new prepare accepted
  · rw [pool]
    intro requestId operation ack found
    obtain ⟨request, code, member⟩ := held.answers requestId operation ack found
    exact ⟨request, code, grows ack member⟩
  · rw [pool]
    exact fun requestId ack learning => keeps _ _ (held.learning requestId ack learning)
  · rw [pool]
    exact fun requestId current leased => keeps _ _ (held.learned requestId current leased)
  · rw [same]
    intro request member
    obtain ⟨client, version, action, requestId, identity, learned⟩ := held.handed request member
    exact ⟨client, version, action, requestId, identity, fun leased => keeps _ _ (learned leased)⟩

/-- The first request of the queue is in order. -/
theorem Linked.inOrder (held : Linked clientId log link) {request : ControlRequest}
    {rest : List ControlRequest} (queued : link.requests = request :: rest) :
    ∃ requestId, InOrder clientId (receivedLog log) link.robot.protocol request requestId := by
  have order := held.order
  rw [queued] at order
  obtain ⟨client, version, action, requestId, identity, learned⟩ :=
    held.handed request (order.subset (by simp))
  refine ⟨requestId, identity, client, version, action, fun entry member => ?_, learned⟩
  obtain ⟨progress, leaseId, cancelled, formed⟩ := held.handshake.formed requestId
  have whole := formed_precedes formed
  rw [requestsFor_entries] at whole
  have part := whole.sublist (order.filterMap _)
  rw [← entriesOf, entriesOf_append, List.pairwise_append] at part
  exact part.2.2 entry member _ (by simp [entriesOf, identity])

/-- The robot reads a request in order and answers it. -/
theorem Linked.receive (held : Linked clientId log link) {now : UInt64}
    (received : link.receive now = some (next, events)) : Linked clientId (log ++ events) next := by
  obtain ⟨request, rest, r, queued, wire, rfl, rfl⟩ := Link.receive_cases received
  obtain ⟨requestId, order⟩ := held.inOrder queued
  obtain ⟨served, keeps⟩ := held.served.requestControl order wire now
  have more : receivedLog (log ++ [.received request]) = receivedLog log ++ [request] := by
    rw [receivedLog_append]
    rfl
  refine held.exchange rfl rfl ?_ ?_ ?_ (fun _ member => List.mem_append_left _ member) ?_
  · rw [more, queued, List.append_assoc]
    exact List.Sublist.refl _
  · rw [more]
    exact served
  · rw [more]
    exact keeps
  · rw [more]
    intro ack member
    rcases List.mem_append.mp member with old | new
    · exact Or.inl old
    · exact Or.inr (answer_grants order.identity wire now (Option.mem_toList.mp new))

/-- Every step keeps the link. -/
theorem Linked.step (held : Linked clientId log link) {input : LinkInput}
    (accepted : linkMachine.step link input = some (next, events)) : Linked clientId (log ++ events) next := by
  have none : receivedLog (log ++ []) = receivedLog log := by simp
  cases link_cases accepted with
  | act arrives _ acted => exact held.act arrives acted
  | receive received => exact held.receive received
  | @drive _ call other =>
      have keeps := call_keeps link.robot.protocol call other
      have inv := (link.robot.protocol.call_path call).stateInvariant held.served.inv
      refine held.exchange rfl rfl ?_ ?_ ?_ (fun _ member => member) (fun _ member => Or.inl member)
      · rw [none]
      · rw [none]
        exact held.served.keeps keeps inv
      · rw [none]
        exact fun _ _ agrees => agrees.keeps keeps
  | lost queued =>
      refine held.exchange rfl rfl ?_ ?_ ?_ (fun _ member => member) (fun _ member => Or.inl member)
      · rw [none, queued]
        exact List.Sublist.append_left (List.sublist_cons_self _ _) _
      · rw [none]
        exact held.served
      · rw [none]
        exact fun _ _ agrees => agrees

/-- Every run keeps the link. -/
theorem linked_run {seed streamTimeout prepareTimeout : UInt64} {p : Mock.Protocol}
    {moves : List LinkMove} (created : Mock.Protocol.create seed streamTimeout prepareTimeout 0 = some p)
    (run : linkMachine.Run (freshLink clientId p) moves link) : Linked clientId (trace moves) link :=
  run.traceInvariant (Linked clientId) (Linked.initial created clientId)
    fun _ _ _ _ _ held accepted => held.step accepted

end Linked

end HumanoidSdk.System
