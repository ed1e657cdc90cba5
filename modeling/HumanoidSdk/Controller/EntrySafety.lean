import HumanoidSdk.Controller.LeaseFlow
import HumanoidSdk.Controller.Release
import HumanoidSdk.Controller.StatusCache

namespace HumanoidSdk.Controller
open Foundation

/-- These counters lie in `enter_external` behind its first section. -/
def Pc.enters : Pc → Bool
  | .enterCheck _ _ | .enterReadId _ _ | .enterReadLease _ _ _ | .enterSend _ _ _ | .enterAck _ _
  | .enterLearn _ _ | .enterCompare _ _ _ | .enterStatus _ _ | .enterFinish _ | .enterCancel _
  | .enterCancelSend _ _ => true
  | _ => false

/-- The entry of this request is under way. -/
def Entering (requestId : String) (host : Host) (pc : Pc) : Prop :=
  pc.enters = true ∧ host.controller.requestId = some requestId

/-- What `enter_external` returned or raised. -/
def entryOutcomes (events : List Event) : List Outcome :=
  events.filterMap fun
    | .finished .enterExternal outcome => some outcome
    | _ => none

@[simp] theorem entryOutcomes_append (first second : List Event) :
    entryOutcomes (first ++ second) = entryOutcomes first ++ entryOutcomes second := List.filterMap_append

variable {log events : List Event} {host after : Host} {pc next : Pc} {requestId : String}

/-- An entry goes on, returns, or raises right after it hands over the CANCEL of its request. -/
theorem entering_step (held : Handshake log host pc) (entering : Entering requestId host pc)
    (step : Transition host pc events after next) :
    (Entering requestId after next ∧ entryOutcomes events = []) ∨
      (∃ status, entryOutcomes events = [.status status]) ∨
      ∃ raised error, events = [.handed (.control (host.controller.request .CANCEL)) raised,
        .finished .enterExternal (.raised error)] := by
  have position := held.position
  obtain ⟨inside, current⟩ := entering
  cases step with
  | refused refuses =>
      cases pc with
      | enterStart | publishStart | exitStart | exitAck | exitStatus | infoStart | infoReply => cases inside
      | _ => cases refuses
  | checked | readId | readLease | sent | sendRaised | failed | prepared | committed | compared | running
  | learned => exact Or.inl ⟨⟨rfl, current⟩, rfl⟩
  | established => exact Or.inr (Or.inl ⟨_, rfl⟩)
  | failClaimed claimed =>
      obtain ⟨_, _, _, rfl⟩ := ExternalController.claimCancel_some claimed
      exact Or.inl ⟨⟨rfl, current⟩, rfl⟩
  | failSkipped skipped =>
      -- the entry never claimed its CANCEL before
      cases position with
      | fail stage =>
          rcases ExternalController.claimCancel_none skipped with missing | claimed
          · exact absurd (missing.symm.trans stage.current) (by simp)
          · exact absurd (stage.flag.symm.trans claimed) (by decide)
      | rest rests => cases rests
  | failSent =>
      cases position with
      | failSend => exact Or.inr (Or.inr ⟨_, _, rfl⟩)
      | rest rests => cases rests
  | _ => cases inside

/-- The entry of a request whose PREPARE was handed over is under way. -/
theorem prepare_enters (held : Handshake log host pc) (step : Transition host pc events after next)
    {request : ControlRequest} {raised : Bool} (handed : .handed (.control request) raised ∈ events)
    (prepare : request.operation = .PREPARE) (identity : request.requestId = some requestId) :
    Entering requestId after next ∧ entryOutcomes events = [] := by
  have position := held.position
  have first {sent : ControlRequest} {flag : Bool} {rest : List Event}
      (quiet : ∀ request raised, .handed (.control request) raised ∉ rest)
      (member : .handed (.control request) raised ∈ .handed (.control sent) flag :: rest) : request = sent := by
    rcases List.mem_cons.mp member with same | later
    · exact Message.control.inj (Event.handed.inj same).1
    · exact absurd later (quiet request raised)
  cases step with
  | sent | sendRaised =>
      obtain rfl := first (by simp) handed
      cases position with
      | send stage =>
          obtain rfl := Option.some.inj (show some _ = some requestId from identity)
          exact ⟨⟨rfl, stage.current⟩, rfl⟩
      | rest rests => cases rests
  | failSent =>
      obtain rfl := first (by simp) handed
      cases position with
      | failSend => cases prepare
      | rest rests => cases rests
  | exitSent =>
      obtain rfl := first (by simp) handed
      cases position with
      | exitSend => cases prepare
      | rest rests => cases rests
  | closeSent =>
      obtain rfl := first (by simp) handed
      cases position with
      | closeSend => cases prepare
      | rest rests => cases rests
  | _ => simp at handed

section Window

variable {pool after : Pool Unit Host Pc} {input : HostInput Unit}

/-- A move keeps an entry under way or ends it. -/
theorem pool_entering (held : Handshake log pool.shared (pool.threads ()))
    (entering : Entering requestId pool.shared (pool.threads ()))
    (accepted : (hostMachine Unit).step pool input = some (after, events)) :
    (Entering requestId after.shared (after.threads ()) ∧ entryOutcomes events = []) ∨
      (∃ status, entryOutcomes events = [.status status]) ∨
      ∃ raised error, events = [.handed (.control (pool.shared.controller.request .CANCEL)) raised,
        .finished .enterExternal (.raised error)] := by
  cases Program.machine_cases accepted with
  | call ready =>
      have idle : pool.threads () = .idle := of_decide_eq_true ready
      rw [idle] at entering
      cases entering.1
  | run stepped =>
      simp only [Function.update_self]
      exact entering_step held entering (step_cases stepped)
  | signal signal =>
      cases signal with
      | ack ack => exact Or.inl ⟨⟨entering.1, (pool.shared.controller.onAck_kept ack).1.trans entering.2⟩, rfl⟩
      | status status =>
          exact Or.inl ⟨⟨entering.1, (pool.shared.controller.onStatus_kept status).1.trans entering.2⟩, rfl⟩

/-- The move that hands over a PREPARE leaves its entry under way. -/
theorem pool_prepares (held : Handshake log pool.shared (pool.threads ()))
    (accepted : (hostMachine Unit).step pool input = some (after, events)) {request : ControlRequest}
    {raised : Bool} (handed : .handed (.control request) raised ∈ events)
    (prepare : request.operation = .PREPARE) (identity : request.requestId = some requestId) :
    Entering requestId after.shared (after.threads ()) ∧ entryOutcomes events = [] := by
  cases Program.machine_cases accepted with
  | @call _ called ready =>
      rcases (Handshake.startCall_cases called).2 with one | ⟨method, error, _, two⟩
      · simp [program, one] at handed
      · simp [program, two] at handed
  | run stepped =>
      simp only [Function.update_self]
      exact prepare_enters held (step_cases stepped) handed prepare identity
  | signal signal =>
      cases signal with
      | ack | status => simp [program, Host.react] at handed

/-- An entry that has not ended is under way. -/
theorem pool_pending {moves : List (HostMove Unit)} (held : Handshake log pool.shared (pool.threads ()))
    (entering : Entering requestId pool.shared (pool.threads ()))
    (run : (hostMachine Unit).Run pool moves after) (pending : entryOutcomes (trace moves) = []) :
    Handshake (log ++ trace moves) after.shared (after.threads ()) ∧
      Entering requestId after.shared (after.threads ()) := by
  refine run.traceInvariant (fun past pool => entryOutcomes past = [] →
    Handshake (log ++ past) pool.shared (pool.threads ()) ∧
      Entering requestId pool.shared (pool.threads ())) (fun _ => ?_) ?_ pending
  · rw [List.append_nil]
    exact ⟨held, entering⟩
  · intro past pool input next events ih accepted pending
    rw [entryOutcomes_append, List.append_eq_nil_iff] at pending
    obtain ⟨held, entering⟩ := ih pending.1
    rw [← List.append_assoc]
    refine ⟨(pool_leaseFlow held accepted).1, ?_⟩
    rcases pool_entering held entering accepted with ⟨still, _⟩ | ⟨status, ended⟩ | ⟨raised, error, rfl⟩
    · exact still
    · rw [ended] at pending
      cases pending.2
    · cases pending.2

/-- A move that hands over a request or returns from an entry is a transition of the only thread. -/
theorem pool_transition (accepted : (hostMachine Unit).step pool input = some (after, events))
    {event : Event} (member : event ∈ events)
    (loud : (∃ request raised, event = .handed (.control request) raised) ∨
      ∃ status, event = .finished .enterExternal (.status status)) :
    ∃ shared next, Transition pool.shared (pool.threads ()) events shared next := by
  cases Program.machine_cases accepted with
  | @call _ called ready =>
      have handed := (Handshake.startCall_cases called).2
      obtain ⟨request, raised, rfl⟩ | ⟨status, rfl⟩ := loud
      · rcases handed with one | ⟨method, error, _, two⟩
        · simp [program, one] at member
        · simp [program, two] at member
      · rcases handed with one | ⟨method, error, _, two⟩
        · simp [program, one] at member
        · simp [program, two] at member
  | run stepped => exact ⟨_, _, step_cases stepped⟩
  | signal signal =>
      obtain ⟨request, raised, rfl⟩ | ⟨status, rfl⟩ := loud
      · cases signal with
        | ack | status => simp [program, Host.react] at member
      · cases signal with
        | ack | status => simp [program, Host.react] at member

end Window

section Record

/-- An accepted acknowledgement of this operation has arrived for this request. -/
structure Acknowledged (moves : List (HostMove Unit)) (requestId : String) (operation : ControlOperation)
    (ack : ControlAck) : Prop where
  arrived : .ackArrived ack ∈ trace moves
  names : ack.requestId = requestId ∧ ack.operation = operation
  accepted : ack.accepted = true

/-- The entry of this request took its lease from an accepted PREPARE while this status was cached. -/
def Learned (moves : List (HostMove Unit)) (requestId leaseId : String) (before : Option ControlStatus) :
    Prop :=
  ∃ earlier move later ack choice, moves = earlier ++ move :: later ∧ move.input = .run () choice ∧
    move.before.threads () = .enterLearn requestId ack ∧
    move.before.shared.controller.latestStatus = before ∧ Acknowledged earlier requestId .PREPARE ack ∧
    ack.leaseId = leaseId ∧ leaseId ≠ ""

/-- An accepted COMMIT names no lease or the learned one. -/
def Committed (moves : List (HostMove Unit)) (requestId leaseId : String) : Prop :=
  ∃ ack, Acknowledged moves requestId .COMMIT ack ∧ (ack.leaseId = "" ∨ ack.leaseId = leaseId)

/-- The evidence for a successful entry of this request. -/
structure Entered (moves : List (HostMove Unit)) (clientId requestId leaseId : String)
    (status : ControlStatus) : Prop where
  learned : ∃ before, Learned moves requestId leaseId before ∧ statusIsNewer status before = true
  committed : Committed moves requestId leaseId
  arrived : .statusArrived status ∈ trace moves
  running : status.phase = .RUNNING ∧ status.currentAction = "EXTERNAL"
  owner : status.clientId = clientId ∧ status.leaseId = leaseId
  generation : 1 ≤ status.generation ∧ status.generation ≤ MAX_UINT64

/-- What an entry has seen so far at each of its counters. -/
def Evidence (moves : List (HostMove Unit)) (c : ExternalController) : Pc → Prop
  | .enterLearn requestId ack => Acknowledged moves requestId .PREPARE ack ∧ ack.leaseId ≠ ""
  | .enterCheck requestId (.commit before) | .enterReadId requestId (.commit before)
  | .enterReadLease requestId (.commit before) _ | .enterSend requestId (.commit before) _
  | .enterAck requestId (.commit before) => Learned moves requestId c.leaseId before
  | .enterCompare requestId before ack =>
      Learned moves requestId c.leaseId before ∧ Acknowledged moves requestId .COMMIT ack
  | .enterStatus requestId before =>
      Learned moves requestId c.leaseId before ∧ Committed moves requestId c.leaseId
  | .enterFinish status =>
      ∃ requestId, c.requestId = some requestId ∧ Entered moves c.clientId requestId c.leaseId status
  | _ => True

/-- These counters lie before the hand-over of PREPARE. -/
def Pc.opening : Pc → Bool
  | .enterCheck _ .prepare | .enterReadId _ .prepare | .enterReadLease _ .prepare _
  | .enterSend _ .prepare _ => true
  | _ => false

/-- What one thread has seen and handed over so far. -/
structure EntryRecord (clientId : String) (moves : List (HostMove Unit)) (pool : Pool Unit Host Pc) : Prop where
  handshake : Handshake (trace moves) pool.shared (pool.threads ())
  client : pool.shared.controller.clientId = clientId
  answers : ∀ requestId operation ack, pool.shared.controller.lookupAck requestId operation = some ack →
    .ackArrived ack ∈ trace moves ∧ ack.requestId = requestId ∧ ack.operation = operation
  evidence : Evidence moves pool.shared.controller (pool.threads ())
  attempted : ∀ requestId, pool.shared.controller.requestId = some requestId →
    (pool.threads ()).opening = false → requestsFor requestId (trace moves) ≠ []
  first : ∀ requestId, ∃ rest, requestsFor requestId (trace moves) = [] ∨
    requestsFor requestId (trace moves) = (.PREPARE, "") :: rest

variable {moves : List (HostMove Unit)} {requestId leaseId : String} {operation : ControlOperation}
  {before : Option ControlStatus} {ack : ControlAck}

theorem Acknowledged.append (known : Acknowledged moves requestId operation ack) (more : List (HostMove Unit)) :
    Acknowledged (moves ++ more) requestId operation ack :=
  { known with arrived := by simp [known.arrived] }

theorem Learned.append (learned : Learned moves requestId leaseId before) (more : List (HostMove Unit)) :
    Learned (moves ++ more) requestId leaseId before := by
  obtain ⟨earlier, move, later, ack, choice, rfl, rest⟩ := learned
  exact ⟨earlier, move, later ++ more, ack, choice, by simp, rest⟩

theorem Committed.append (committed : Committed moves requestId leaseId) (more : List (HostMove Unit)) :
    Committed (moves ++ more) requestId leaseId := by
  obtain ⟨ack, known, agrees⟩ := committed
  exact ⟨ack, known.append more, agrees⟩

theorem Entered.append {clientId : String} {status : ControlStatus}
    (entered : Entered moves clientId requestId leaseId status) (more : List (HostMove Unit)) :
    Entered (moves ++ more) clientId requestId leaseId status := by
  obtain ⟨before, learned, newer⟩ := entered.learned
  exact { entered with
    learned := ⟨before, learned.append more, newer⟩
    committed := entered.committed.append more
    arrived := by simp [entered.arrived] }

/-- The evidence stays when identity and lease stay. -/
theorem Evidence.append {c c' : ExternalController} {pc : Pc} (evidence : Evidence moves c pc)
    (same : c'.requestId = c.requestId ∧ c'.leaseId = c.leaseId ∧ c'.clientId = c.clientId)
    (more : List (HostMove Unit)) : Evidence (moves ++ more) c' pc := by
  obtain ⟨request, lease, client⟩ := same
  cases pc with
  | enterLearn => exact ⟨evidence.1.append more, evidence.2⟩
  | enterCheck _ half | enterReadId _ half | enterReadLease _ half | enterSend _ half | enterAck _ half =>
      cases half with
      | prepare => trivial
      | commit before =>
          simp only [Evidence, lease]
          exact Learned.append evidence more
  | enterCompare =>
      simp only [Evidence, lease]
      exact ⟨evidence.1.append more, evidence.2.append more⟩
  | enterStatus =>
      simp only [Evidence, lease]
      exact ⟨evidence.1.append more, evidence.2.append more⟩
  | enterFinish =>
      obtain ⟨requestId, current, entered⟩ := evidence
      simp only [Evidence, request, lease, client]
      exact ⟨requestId, current, entered.append more⟩
  | _ => trivial

variable {clientId : String} {pool after : Pool Unit Host Pc} {choice : Choice} {shared : Host} {there : Pc}
  {events : List Event}

/-- The counter of the next step has seen what it needs. -/
theorem EntryRecord.evidence_step (held : EntryRecord clientId moves pool)
    (arrived : ∀ status, pool.shared.controller.latestStatus = some status → .statusArrived status ∈ trace moves)
    (step : Transition pool.shared (pool.threads ()) events shared there) :
    Evidence (moves ++ [⟨pool, .run () choice, after, events⟩]) shared.controller there := by
  have evidence := held.evidence
  have position := held.handshake.position
  have answer {requestId : String} {operation : ControlOperation} {ack : ControlAck}
      (found : pool.shared.controller.lookupAck requestId operation = some ack) (accepted : ack.accepted = true) :
      Acknowledged moves requestId operation ack := by
    obtain ⟨arrived, names⟩ := held.answers requestId operation ack found
    exact ⟨arrived, names, accepted⟩
  generalize counter : pool.threads () = pc at step evidence position
  cases step with
  | @checked _ half | @readId _ half | @readLease _ half | @sent _ half =>
      cases half with
      | prepare => trivial
      | commit before => exact Learned.append evidence _
  | prepared opened found accepted leased =>
      exact ⟨(answer found accepted).append _, leased⟩
  | @learned requestId ack =>
      exact ⟨moves, _, [], ack, choice, rfl, rfl, counter, rfl, evidence.1, rfl, evidence.2⟩
  | committed opened found accepted =>
      exact ⟨Learned.append evidence _, (answer found accepted).append _⟩
  | compared agrees => exact ⟨evidence.1.append _, _, evidence.2.append _, agrees⟩
  | @running requestId before status opened owned =>
      obtain ⟨cached, phase, allowed, newer, valid⟩ := ownedRunning owned
      obtain ⟨_, _, action, _, client, lease⟩ :=
        (ExternalController.statusAllowsPublish_iff status).mp allowed
      have range : 0 < status.generation ∧ status.generation ≤ MAX_UINT64 := of_decide_eq_true valid
      have entered : Entered moves pool.shared.controller.clientId requestId
          pool.shared.controller.leaseId status :=
        ⟨⟨before, evidence.1, newer⟩, evidence.2, arrived status cached, ⟨phase, action⟩, ⟨client, lease⟩,
          by omega, range.2⟩
      cases position with
      | status stage => exact ⟨requestId, stage.current, entered.append _⟩
      | rest rests => cases rests
  | _ => trivial

/-- An entry with a current request never fails its first check. -/
theorem check_passes {host after : Host} {next : Pc} {half : Half} (present : host.controller.requestId ≠ none)
    (stepped : host.step (.enterCheck requestId half) choice = some (after, next, events)) :
    next = .enterReadId requestId half := by
  simp only [Host.step, enterStep, if_neg present, Option.some.injEq, Prod.mk.injEq] at stepped
  exact stepped.2.1.symm

/-- Behind its hand-over of PREPARE an entry has requests on record. -/
theorem EntryRecord.attempted_step (held : EntryRecord clientId moves pool)
    (stepped : pool.shared.step (pool.threads ()) choice = some (shared, there, events)) (asked : String)
    (current : shared.controller.requestId = some asked) (behind : there.opening = false) :
    requestsFor asked (trace moves ++ events) ≠ [] := by
  have position := held.handshake.position
  have kept (same : shared.controller.requestId = pool.shared.controller.requestId)
      (was : (pool.threads ()).opening = false) : requestsFor asked (trace moves ++ events) ≠ [] := by
    rw [requestsFor_append]
    exact List.append_ne_nil_of_left_ne_nil (held.attempted asked (same ▸ current) was) _
  have step := step_cases stepped
  generalize counter : pool.threads () = pc at stepped step position kept
  cases step with
  | began => cases behind
  | @checked _ half | @readId _ half | @readLease _ half =>
      cases half with
      | prepare => cases behind
      | commit before => exact kept rfl rfl
  | @sent _ half _ | @sendRaised _ _ half _ =>
      cases half with
      | commit before => exact kept rfl rfl
      | prepare =>
          cases position with
          | send stage =>
              obtain rfl := Option.some.inj (stage.current.symm.trans current)
              rw [requestsFor_handed _ _ _ [] (by simp) rfl, if_pos rfl]
              simp
          | rest rests => cases rests
  | failed may =>
      cases pc with
      | enterCheck requestId half =>
          cases position with
          | check stage => exact absurd (check_passes (by simp [stage.current]) stepped) (by simp)
          | rest rests => cases rests
      | enterAck requestId half =>
          cases half with
          | prepare | commit before => exact kept rfl rfl
      | enterCompare | enterStatus => exact kept rfl rfl
      | _ => cases may
  | refused refuses =>
      cases pc with
      | enterStart | publishStart | exitStart | exitAck | exitStatus | infoStart | infoReply => exact kept rfl rfl
      | _ => cases refuses
  | failClaimed claimed | exitClaimed claimed =>
      obtain ⟨_, _, _, rfl⟩ := ExternalController.claimCancel_some claimed
      exact kept rfl rfl
  | built published =>
      obtain ⟨_, _, session, _, _, _, _, changed, _, _, rfl⟩ := ExternalController.publishSection_ok published
      exact kept (ExternalController.publishSession_kept changed).1 rfl
  | closedQuietly quiet =>
      obtain ⟨_, rfl⟩ := ExternalController.closeSection_none quiet
      exact kept rfl rfl
  | closedClaimed claims =>
      obtain ⟨_, _, _, _, rfl⟩ := ExternalController.closeSection_some claims
      exact kept rfl rfl
  | cleared => exact absurd current (by simp [ExternalController.clearSession])
  | _ => exact kept rfl rfl

/-- The first request on record is a PREPARE. -/
theorem EntryRecord.first_step (held : EntryRecord clientId moves pool)
    (step : Transition pool.shared (pool.threads ()) events shared there) (asked : String) :
    ∃ rest, requestsFor asked (trace moves ++ events) = [] ∨
      requestsFor asked (trace moves ++ events) = (.PREPARE, "") :: rest := by
  obtain ⟨rest, empty | started⟩ := held.first asked
  · rw [requestsFor_append, empty, List.nil_append]
    have position := held.handshake.position
    -- a later request of this identity finds the record already started
    have current (was : (pool.threads ()).opening = false)
        (same : pool.shared.controller.requestId = some asked) : False := held.attempted asked same was empty
    have single {request : ControlRequest} {raised : Bool} {rest : List Event}
        (quiet : ∀ request raised, .handed (.control request) raised ∉ rest)
        (own : request.requestId = pool.shared.controller.requestId)
        (other : pool.shared.controller.requestId ≠ some asked) :
        requestsFor asked (.handed (.control request) raised :: rest) = [] := by
      have tail : requestsFor asked rest = [] := by simpa using congrFun (requestsFor_quiet [] quiet) asked
      simpa [requestsFor, requestFrom, own, other] using tail
    generalize counter : pool.threads () = pc at step position current
    cases step with
    | @sent _ half _ | @sendRaised _ _ half _ =>
        cases position with
        | send stage ready =>
            by_cases same : pool.shared.controller.requestId = some asked
            · cases half with
              | commit before => exact absurd (current rfl same) id
              | prepare =>
                  obtain rfl := Option.some.inj (stage.current.symm.trans same)
                  have bare : pool.shared.controller.leaseId = "" := ready
                  exact ⟨[], Or.inr (by simp [requestsFor, requestFrom, ExternalController.requestFor, bare,
                    Half.operation])⟩
            · exact ⟨[], Or.inl (single (by simp) stage.current.symm same)⟩
        | rest rests => cases rests
    | failSent =>
        cases position with
        | failSend stage => exact ⟨[], Or.inl (single (by simp) rfl fun same => current rfl same)⟩
        | rest rests => cases rests
    | exitSent =>
        cases position with
        | exitSend stage => exact ⟨[], Or.inl (single (by simp) rfl fun same => current rfl same)⟩
        | rest rests => cases rests
    | closeSent =>
        cases position with
        | closeSend stage => exact ⟨[], Or.inl (single (by simp) rfl fun same => current rfl same)⟩
        | rest rests => cases rests
    | _ => exact ⟨[], Or.inl rfl⟩
  · rw [requestsFor_append, started]
    exact ⟨_, Or.inr rfl⟩

/-- A cached acknowledgement has arrived for its own request and operation. -/
theorem EntryRecord.answers_step (held : EntryRecord clientId moves pool) {input : HostInput Unit}
    {next : Pool Unit Host Pc}
    (flow : LeaseFlow (arrivedAck input) pool.shared (pool.threads ()) events next.shared (next.threads ()))
    (told : ∀ ack, arrivedAck input = some ack → .ackArrived ack ∈ events) (asked : String)
    (operation : ControlOperation) (ack : ControlAck)
    (found : next.shared.controller.lookupAck asked operation = some ack) :
    .ackArrived ack ∈ trace moves ++ events ∧ ack.requestId = asked ∧ ack.operation = operation := by
  rcases flow.answers asked operation ack found with old | ⟨arrived, request, code⟩
  · obtain ⟨arrived, names⟩ := held.answers asked operation ack old
    exact ⟨List.mem_append_left _ arrived, names⟩
  · exact ⟨List.mem_append_right _ (told ack arrived), request, code⟩

/-- A step that leaves the handshake alone keeps the record. -/
theorem EntryRecord.rest (held : EntryRecord clientId moves pool) {input : HostInput Unit}
    {next : Pool Unit Host Pc} (accepted : (hostMachine Unit).step pool input = some (next, events))
    (told : ∀ ack, arrivedAck input = some ack → .ackArrived ack ∈ events)
    (quiet : ∀ request raised, .handed (.control request) raised ∉ events)
    (same : next.shared.controller.requestId = pool.shared.controller.requestId)
    (opening : (next.threads ()).opening = false → (pool.threads ()).opening = false)
    (evidence : Evidence (moves ++ [⟨pool, input, next, events⟩]) next.shared.controller (next.threads ())) :
    EntryRecord clientId (moves ++ [⟨pool, input, next, events⟩]) next := by
  obtain ⟨handshake, flow⟩ := pool_leaseFlow held.handshake accepted
  have log : trace (moves ++ [⟨pool, input, next, events⟩]) = trace moves ++ events := by simp
  have requests := requestsFor_quiet (trace moves) quiet
  constructor
  · rw [log]
    exact handshake
  · exact (pool_commands accepted).client.trans held.client
  · rw [log]
    exact held.answers_step flow told
  · exact evidence
  · intro asked current behind
    rw [log, congrFun requests asked]
    exact held.attempted asked (same ▸ current) (opening behind)
  · intro asked
    rw [log, congrFun requests asked]
    exact held.first asked

/-- Every move keeps the record. -/
theorem EntryRecord.step (held : EntryRecord clientId moves pool) {input : HostInput Unit}
    {next : Pool Unit Host Pc}
    (arrived : ∀ status, pool.shared.controller.latestStatus = some status → .statusArrived status ∈ trace moves)
    (accepted : (hostMachine Unit).step pool input = some (next, events)) :
    EntryRecord clientId (moves ++ [⟨pool, input, next, events⟩]) next := by
  obtain ⟨handshake, flow⟩ := pool_leaseFlow held.handshake accepted
  cases Program.machine_cases accepted with
  | @call thread request ready =>
      obtain ⟨rests, shape⟩ := Handshake.startCall_cases request
      have idle : pool.threads () = .idle := of_decide_eq_true ready
      refine held.rest accepted (by simp [arrivedAck]) ?_ rfl (fun _ => by rw [idle]; rfl) ?_
      · rcases shape with one | ⟨method, error, _, two⟩
        · simp [program, one]
        · simp [program, two]
      · simp only [Function.update_self]
        show Evidence _ _ (startCall request).1
        generalize (startCall request).1 = pc at rests
        cases pc with
        | enterCheck | enterReadId | enterReadLease | enterSend | enterAck | enterLearn | enterCompare
        | enterStatus | enterFinish => cases rests
        | _ => trivial
  | @run thread choice shared there _ stepped =>
      have transition := step_cases stepped
      have log (after : Pool Unit Host Pc) :
          trace (moves ++ [⟨pool, .run thread choice, after, events⟩]) = trace moves ++ events := by simp
      constructor
      · rw [log]
        exact handshake
      · exact (pool_commands accepted).client.trans held.client
      · rw [log]
        exact held.answers_step flow (by simp [arrivedAck])
      · simp only [Function.update_self]
        exact held.evidence_step arrived transition
      · intro asked current behind
        rw [log]
        simp only [Function.update_self] at behind
        exact held.attempted_step stepped asked current behind
      · intro asked
        rw [log]
        exact held.first_step transition asked
  | signal signal =>
      cases signal with
      | ack ack =>
          have kept := pool.shared.controller.onAck_kept ack
          exact held.rest accepted (by simp [arrivedAck, program, Host.react]) (by simp [program, Host.react])
            kept.1 id (held.evidence.append ⟨kept.1, kept.2.1, kept.2.2.1⟩ _)
      | status status =>
          have kept := pool.shared.controller.onStatus_kept status
          exact held.rest accepted (by simp [arrivedAck]) (by simp [program, Host.react])
            kept.1 id (held.evidence.append ⟨kept.1, kept.2.1, kept.2.2.1⟩ _)

/-- Every run of one thread keeps the record. -/
theorem entryRecord_run (run : (hostMachine Unit).Run (freshPool Unit clientId) moves pool) :
    EntryRecord clientId moves pool := by
  refine run.invariant (EntryRecord clientId) ?_ fun moves pool input next events past held accepted =>
    held.step (cached_arrived past) accepted
  refine ⟨Handshake.initial clientId, rfl, ?_, trivial, ?_, fun _ => ⟨[], Or.inl rfl⟩⟩
  · simp [freshPool, Host.fresh, ExternalController.lookupAck]
  · simp [freshPool, Host.fresh]

/-- PREPARE comes first, then at most one COMMIT, then only CANCELs. -/
def WellOrdered (operations : List ControlOperation) : Prop :=
  operations = [] ∨ ∃ commits cancels, commits ≤ 1 ∧
    operations = .PREPARE :: (List.replicate commits .COMMIT ++ List.replicate cancels .CANCEL)

/-- The requests of every identity come in order. -/
def OrderedRequests (moves : List (HostMove Unit)) : Prop :=
  ∀ requestId, WellOrdered ((requestsFor requestId (trace moves)).map Prod.fst)

/-- A COMMIT carries the nonempty lease of an accepted PREPARE of its request. -/
def CommitsPrepared (moves : List (HostMove Unit)) : Prop :=
  ∀ earlier move later request raised, moves = earlier ++ move :: later →
    .handed (.control request) raised ∈ move.events → request.operation = .COMMIT →
    ∃ requestId ack, request.requestId = some requestId ∧ Acknowledged earlier requestId .PREPARE ack ∧
      ack.leaseId = request.leaseId ∧ request.leaseId ≠ ""

/-- An entry that returns has handed over PREPARE and COMMIT and has the evidence for its success. -/
def ReturnsEntered (clientId : String) (moves : List (HostMove Unit)) : Prop :=
  ∀ earlier move later status, moves = earlier ++ move :: later →
    .finished .enterExternal (.status status) ∈ move.events →
    ∃ requestId leaseId, requestsFor requestId (trace earlier) = [(.PREPARE, ""), (.COMMIT, leaseId)] ∧
      move.before.shared.controller.requestId = some requestId ∧
      Entered earlier clientId requestId leaseId status

/-- An entry that raises after its PREPARE hands over the CANCEL of its request right before. -/
def FailuresCancelled (moves : List (HostMove Unit)) : Prop :=
  ∀ earlier hand during fail later request flag requestId error,
    moves = earlier ++ hand :: (during ++ fail :: later) → .handed (.control request) flag ∈ hand.events →
    request.operation = .PREPARE → request.requestId = some requestId → entryOutcomes (trace during) = [] →
    .raised error ∈ entryOutcomes fail.events →
    ∃ cancel raised, fail.events = [.handed (.control cancel) raised, .finished .enterExternal (.raised error)] ∧
      cancel.operation = .CANCEL ∧ cancel.requestId = some requestId

theorem EntryRecord.ordered (held : EntryRecord clientId moves pool) : OrderedRequests moves := by
  intro requestId
  obtain ⟨progress, leaseId, cancelled, formed⟩ := held.handshake.formed requestId
  obtain ⟨rest, empty | started⟩ := held.first requestId
  · exact Or.inl (by rw [empty, List.map_nil])
  · rw [formed.requests_eq] at started ⊢
    cases progress with
    | opened =>
        -- the first request on record is no CANCEL
        cases cancelled with
        | false => exact Or.inl rfl
        | true => simp [Progress.sent] at started
    | prepared =>
        cases cancelled with
        | false => exact Or.inr ⟨0, 0, by omega, rfl⟩
        | true => exact Or.inr ⟨0, 1, by omega, rfl⟩
    | committed =>
        cases cancelled with
        | false => exact Or.inr ⟨1, 0, by omega, rfl⟩
        | true => exact Or.inr ⟨1, 1, by omega, rfl⟩

/-- A transition that hands over COMMIT stands behind an accepted PREPARE. -/
theorem EntryRecord.commit_step (held : EntryRecord clientId moves pool)
    (step : Transition pool.shared (pool.threads ()) events shared there) {request : ControlRequest}
    {raised : Bool} (handed : .handed (.control request) raised ∈ events)
    (commit : request.operation = .COMMIT) :
    ∃ requestId ack, request.requestId = some requestId ∧ Acknowledged moves requestId .PREPARE ack ∧
      ack.leaseId = request.leaseId ∧ request.leaseId ≠ "" := by
  have position := held.handshake.position
  have evidence := held.evidence
  generalize pool.threads () = pc at step position evidence
  cases step with
  | @sent _ half _ | @sendRaised _ _ half _ =>
      obtain ⟨rfl, _⟩ : request = _ ∧ raised = _ := by simpa using handed
      cases position with
      | send stage ready =>
          cases half with
          | prepare => cases commit
          | commit before =>
              obtain ⟨earlier, move, later, ack, choice, rfl, _, _, _, known, same, leased⟩ := evidence
              exact ⟨_, ack, rfl, known.append _, same, ready⟩
      | rest rests => cases rests
  | failSent =>
      obtain ⟨rfl, _⟩ : request = _ ∧ raised = _ := by simpa using handed
      cases position with
      | failSend => cases commit
      | rest rests => cases rests
  | exitSent =>
      obtain ⟨rfl, _⟩ : request = _ ∧ raised = _ := by simpa using handed
      cases position with
      | exitSend => cases commit
      | rest rests => cases rests
  | closeSent =>
      obtain ⟨rfl, _⟩ : request = _ ∧ raised = _ := by simpa using handed
      cases position with
      | closeSend => cases commit
      | rest rests => cases rests
  | _ => simp at handed

/-- A transition that returns from an entry stands behind its evidence. -/
theorem EntryRecord.return_step (held : EntryRecord clientId moves pool)
    (step : Transition pool.shared (pool.threads ()) events shared there) {status : ControlStatus}
    (returned : .finished .enterExternal (.status status) ∈ events) :
    ∃ requestId leaseId, requestsFor requestId (trace moves) = [(.PREPARE, ""), (.COMMIT, leaseId)] ∧
      pool.shared.controller.requestId = some requestId ∧ Entered moves clientId requestId leaseId status := by
  have position := held.handshake.position
  have evidence := held.evidence
  generalize pool.threads () = pc at step position evidence
  cases step with
  | established =>
      obtain rfl : status = _ := by simpa using returned
      obtain ⟨requestId, current, entered⟩ := evidence
      rw [held.client] at entered
      cases position with
      | finish stage =>
          obtain rfl := Option.some.inj (stage.current.symm.trans current)
          exact ⟨_, _, stage.formed.requests_eq, current, entered⟩
      | rest rests => cases rests
  | _ => simp at returned

/-- In every run of one thread the requests of an identity come in order, a COMMIT follows its accepted
PREPARE, an entry returns on evidence alone, and one that raises after its PREPARE cancels first. -/
theorem entry_handshake_safe (run : (hostMachine Unit).Run (freshPool Unit clientId) moves pool) :
    OrderedRequests moves ∧ CommitsPrepared moves ∧ ReturnsEntered clientId moves ∧
      FailuresCancelled moves := by
  refine ⟨(entryRecord_run run).ordered, ?_, ?_, ?_⟩
  · intro earlier move later request raised cut handed commit
    obtain ⟨past, accepted, _⟩ := run.at_move cut
    have held := entryRecord_run past
    obtain ⟨_, _, step⟩ := pool_transition accepted handed (Or.inl ⟨_, _, rfl⟩)
    exact held.commit_step step handed commit
  · intro earlier move later status cut returned
    obtain ⟨past, accepted, _⟩ := run.at_move cut
    have held := entryRecord_run past
    obtain ⟨_, _, step⟩ := pool_transition accepted returned (Or.inr ⟨_, rfl⟩)
    exact held.return_step step returned
  · intro earlier hand during fail later request flag requestId error cut handed prepare identity pending raises
    obtain ⟨past, begun, rest⟩ := run.at_move cut
    obtain ⟨window, ended, _⟩ := rest.at_move rfl
    have held := (entryRecord_run past).handshake
    have entering := (pool_prepares held begun handed prepare identity).1
    obtain ⟨held, entering⟩ := pool_pending (pool_leaseFlow held begun).1 entering window pending
    rcases pool_entering held entering ended with ⟨_, still⟩ | ⟨status, returned⟩ | ⟨raised, failure, events⟩
    · rw [still] at raises
      cases raises
    · rw [returned] at raises
      simp at raises
    · rw [events] at raises
      obtain rfl : error = failure := by simpa [entryOutcomes] using raises
      exact ⟨_, raised, events, rfl, entering.2⟩

/-- A successful entry has the evidence for its lease and its generation 42. -/
theorem entry_handshake_safe_entered :
    ∃ moves pool, (hostMachine Unit).Run (freshPool Unit "client") moves pool ∧
      .finished .enterExternal (.status (runningStatus 42 1)) ∈ trace moves ∧
      OrderedRequests moves ∧ CommitsPrepared moves ∧ ReturnsEntered "client" moves ∧ FailuresCancelled moves := by
  obtain ⟨moves, pool, run, _, returned⟩ := (hostMachine Unit).exists_run (freshPool Unit "client") enteredInputs
    (fun moves _ => .finished .enterExternal (.status (runningStatus 42 1)) ∈ trace moves) (by decide +kernel)
  exact ⟨moves, pool, run, returned, entry_handshake_safe run⟩

end Record

end HumanoidSdk.Controller
