import HumanoidSdk.Controller.LeaseFlow
import HumanoidSdk.Controller.Sequence

namespace HumanoidSdk.Controller
open Foundation

/-- A RUNNING status of this owner and generation has arrived. -/
def RunningArrived (log : List Event) (clientId leaseId : String) (generation : ℤ) : Prop :=
  ∃ status, .statusArrived status ∈ log ∧ status.currentAction = "EXTERNAL" ∧ status.phase = .RUNNING ∧
    status.clientId = clientId ∧ status.leaseId = leaseId ∧ status.generation = generation

/-- An accepted PREPARE of this request has named this lease. -/
def Granted (log : List Event) (requestId leaseId : String) : Prop :=
  ∃ ack, .ackArrived ack ∈ log ∧ ack.requestId = requestId ∧ ack.operation = .PREPARE ∧
    ack.accepted = true ∧ ack.leaseId = leaseId

theorem RunningArrived.append {log : List Event} {clientId leaseId : String} {generation : ℤ}
    (arrived : RunningArrived log clientId leaseId generation) (events : List Event) :
    RunningArrived (log ++ events) clientId leaseId generation := by
  obtain ⟨status, member, rest⟩ := arrived
  exact ⟨status, List.mem_append_left _ member, rest⟩

theorem Granted.append {log : List Event} {requestId leaseId : String} (granted : Granted log requestId leaseId)
    (events : List Event) : Granted (log ++ events) requestId leaseId := by
  obtain ⟨ack, member, rest⟩ := granted
  exact ⟨ack, List.mem_append_left _ member, rest⟩

section Commands

variable {Thread : Type*}

/-- At this move the current request owns the cached status under its granted lease, and a RUNNING status
of the same owner and generation has arrived before. -/
structure OwnedMoment (clientId : String) (earlier : List (HostMove Thread)) (move : HostMove Thread)
    (requestId leaseId : String) (status : ControlStatus) : Prop where
  current : move.before.shared.controller.requestId = some requestId
  granted : Granted (trace earlier) requestId leaseId
  leased : leaseId ≠ ""
  cached : move.before.shared.controller.latestStatus = some status
  external : status.currentAction = "EXTERNAL" ∧ (status.phase = .RUNNING ∨ status.phase = .TIMEOUT_HOLD)
  owner : status.clientId = clientId ∧ status.leaseId = leaseId
  running : RunningArrived (trace earlier) clientId leaseId status.generation

/-- A command is well formed and was built at a moment that owns its generation. -/
structure OwnedCommand (clientId : String) (moves : List (HostMove Thread)) (command : BodyCmd) : Prop where
  version : command.protocolVersion = 2
  action : command.action = .int EXTERNAL_ACTION
  rootQuat : command.rootQuat = none
  session : 1 ≤ command.sessionId ∧ command.sessionId ≤ MAX_UINT64
  sequence : 1 ≤ command.sequence ∧ command.sequence ≤ MAX_UINT64
  built : ∃ earlier move later requestId leaseId status, moves = earlier ++ move :: later ∧
    .built (some requestId) leaseId command ∈ move.events ∧
    OwnedMoment clientId earlier move requestId leaseId status ∧ status.generation = command.sessionId

theorem OwnedCommand.append {clientId : String} {moves : List (HostMove Thread)} {command : BodyCmd}
    (owned : OwnedCommand clientId moves command) (more : List (HostMove Thread)) :
    OwnedCommand clientId (moves ++ more) command := by
  obtain ⟨earlier, move, later, requestId, leaseId, status, rfl, rest⟩ := owned.built
  exact { owned with built := ⟨earlier, move, later ++ more, requestId, leaseId, status, by simp, rest⟩ }

/-- A publish takes an owned TIMEOUT_HOLD status of this generation, which is the learned one. -/
def TakesHold (move : HostMove Thread) (generation : ℤ) : Prop :=
  ∃ thread choice command checked status, move.input = .run thread choice ∧
    move.before.threads thread = .publishStart command ∧
    validateCommand command move.before.shared.controller.population = .ok checked ∧
    move.before.shared.controller.closed = false ∧
    move.before.shared.controller.latestStatus = some status ∧
    move.before.shared.controller.statusAllowsPublish (some status) = true ∧
    status.phase = .TIMEOUT_HOLD ∧ status.generation = generation ∧
    move.before.shared.controller.externalSessionId = generation

/-- A publish takes an owned TIMEOUT_HOLD status of generation 0 before any session was learned. -/
def TakesUnlearnedHold (move : HostMove Thread) : Prop := TakesHold move 0

/-- An entry whose request another one has replaced still writes its lease. -/
def LearnsForeign (move : HostMove Thread) : Prop :=
  ∃ thread choice current requestId ack, move.input = .run thread choice ∧
    move.before.shared.controller.requestId = some current ∧
    move.before.threads thread = .enterLearn requestId ack ∧ requestId ≠ current ∧
    ack.leaseId ≠ move.before.shared.controller.leaseId

/-- An entry writes a generation that it owns under another lease than that of the current request. -/
def FinishesForeign (move : HostMove Thread) : Prop :=
  ∃ thread choice current status, move.input = .run thread choice ∧
    move.before.shared.controller.requestId = some current ∧
    move.before.threads thread = .enterFinish status ∧
    status.leaseId ≠ move.before.shared.controller.leaseId ∧
    status.generation ≠ move.before.shared.controller.externalSessionId

/-- The current request owns a cached RUNNING status of the learned generation. -/
def SeesRunning (c : ExternalController) : Prop :=
  ∃ status, c.latestStatus = some status ∧ c.statusAllowsPublish (some status) = true ∧
    status.phase = .RUNNING ∧ status.generation = c.externalSessionId

/-- The learned generation was written under another lease. Since then it was neither replaced nor seen
RUNNING. -/
def ForeignSession (moves : List (HostMove Thread)) : Prop :=
  ∃ earlier move later, moves = earlier ++ move :: later ∧ FinishesForeign move ∧ ∀ kept ∈ later,
    kept.after.shared.controller.externalSessionId = kept.before.shared.controller.externalSessionId ∧
      ¬ SeesRunning kept.before.shared.controller

/-- A publish takes a TIMEOUT_HOLD status of a generation that was written under another lease. -/
def TakesForeignHold (earlier : List (HostMove Thread)) (move : HostMove Thread) : Prop :=
  ForeignSession earlier ∧ ∃ generation, TakesHold move generation

theorem ForeignSession.kept {moves : List (HostMove Thread)} (foreign : ForeignSession moves)
    {move : HostMove Thread}
    (same : move.after.shared.controller.externalSessionId = move.before.shared.controller.externalSessionId)
    (unseen : ¬ SeesRunning move.before.shared.controller) : ForeignSession (moves ++ [move]) := by
  obtain ⟨earlier, finish, later, rfl, writes, quiet⟩ := foreign
  refine ⟨earlier, finish, later ++ [move], by simp, writes, fun kept member => ?_⟩
  rcases List.mem_append.mp member with old | new
  · exact quiet kept old
  · obtain rfl := List.mem_singleton.mp new
    exact ⟨same, unseen⟩

/-- Nothing is seen before a lease is learned. -/
theorem unseen_unleased {c : ExternalController} (unleased : c.leaseId = "") : ¬ SeesRunning c := by
  rintro ⟨status, _, allowed, _⟩
  exact ((ExternalController.statusAllowsPublish_iff status).mp allowed).2.1 unleased

end Commands

/-- The request whose lease this counter is still waiting for. -/
def Pc.awaitsLease : Pc → Option String
  | .enterCheck requestId .prepare | .enterReadId requestId .prepare | .enterReadLease requestId .prepare _
  | .enterSend requestId .prepare _ | .enterAck requestId .prepare | .enterLearn requestId _ => some requestId
  | _ => none

/-- A transition names what it does to the request, the lease and the session. -/
inductive SessionEffect (host : Host) (pc : Pc) (after : Host) (next : Pc) : Prop
  | quiet (same : after.controller.requestId = host.controller.requestId ∧
        after.controller.leaseId = host.controller.leaseId ∧
        after.controller.externalSessionId = host.controller.externalSessionId ∧
        after.controller.nextExternalSequence = host.controller.nextExternalSequence)
      (issued : after.issuedIds = host.issuedIds)
      (awaits : next.awaitsLease = none ∨ next.awaitsLease = pc.awaitsLease)
  | began (requestId : String) (fresh : requestId ∉ host.issuedIds)
      (shared : after = ⟨host.controller.freshRequest requestId, host.issuedIds ++ [requestId]⟩)
      (awaits : next.awaitsLease = some requestId)
  | learned (requestId : String) (ack : ControlAck) (counter : pc = .enterLearn requestId ack)
      (shared : after = host.withController (host.controller.learnLease ack)) (awaits : next.awaitsLease = none)
  | established (status : ControlStatus) (counter : pc = .enterFinish status)
      (shared : after = host.withController (host.controller.establish status))
      (awaits : next.awaitsLease = none)
  | built (command : Option BodyCmd) (createdUs sendUs : ℤ) (sent : BodyCmd) (c : ExternalController)
      (published : host.controller.publishSection command createdUs sendUs = .ok (sent, c))
      (counter : pc = .publishStart command) (shared : after = host.withController c)
      (awaits : next.awaitsLease = none)
  | cleared (shared : after = host.withController host.controller.clearSession)
      (awaits : next.awaitsLease = none)

theorem Transition.sessionEffect {host after : Host} {pc next : Pc} {events : List Event}
    (step : Transition host pc events after next) : SessionEffect host pc after next := by
  cases step with
  | began _ _ fresh => exact .began _ fresh.2 rfl rfl
  | learned => exact .learned _ _ rfl rfl rfl
  | established => exact .established _ rfl rfl rfl
  | built published => exact .built _ _ _ _ _ published rfl rfl rfl
  | cleared => exact .cleared rfl rfl
  | @checked _ half | @readId _ half | @readLease _ half | @sent _ half =>
      cases half with
      | prepare => exact .quiet ⟨rfl, rfl, rfl, rfl⟩ rfl (Or.inr rfl)
      | commit before => exact .quiet ⟨rfl, rfl, rfl, rfl⟩ rfl (Or.inl rfl)
  | prepared => exact .quiet ⟨rfl, rfl, rfl, rfl⟩ rfl (Or.inr rfl)
  | failClaimed claimed | exitClaimed claimed =>
      obtain ⟨_, _, _, rfl⟩ := ExternalController.claimCancel_some claimed
      exact .quiet ⟨rfl, rfl, rfl, rfl⟩ rfl (Or.inl rfl)
  | closedQuietly quiet =>
      obtain ⟨_, rfl⟩ := ExternalController.closeSection_none quiet
      exact .quiet ⟨rfl, rfl, rfl, rfl⟩ rfl (Or.inl rfl)
  | closedClaimed claims =>
      obtain ⟨_, _, _, _, rfl⟩ := ExternalController.closeSection_some claims
      exact .quiet ⟨rfl, rfl, rfl, rfl⟩ rfl (Or.inl rfl)
  | _ => exact .quiet ⟨rfl, rfl, rfl, rfl⟩ rfl (Or.inl rfl)

/-- A transition keeps the acknowledgements or forgets them all. -/
theorem Transition.acks_kept {host after : Host} {pc next : Pc} {events : List Event}
    (step : Transition host pc events after next) :
    after.controller.acks = host.controller.acks ∨ after.controller.acks = [] := by
  cases step with
  | began => exact Or.inr rfl
  | failClaimed claimed | exitClaimed claimed =>
      obtain ⟨_, _, _, rfl⟩ := ExternalController.claimCancel_some claimed
      exact Or.inl rfl
  | built published =>
      obtain ⟨_, _, session, _, _, _, _, changed, _, _, rfl⟩ := ExternalController.publishSection_ok published
      exact Or.inl (ExternalController.publishSession_kept changed).2.2.2.2.1
  | closedQuietly quiet =>
      obtain ⟨_, rfl⟩ := ExternalController.closeSection_none quiet
      exact Or.inl rfl
  | closedClaimed claims =>
      obtain ⟨_, _, _, _, rfl⟩ := ExternalController.closeSection_some claims
      exact Or.inl rfl
  | _ => exact Or.inl rfl

section Ownership

variable {Thread : Type*}

/-- What a thread holds at its counter is supported by what has arrived. -/
def Pc.Supported (clientId : String) (moves : List (HostMove Thread)) : Pc → Prop
  | .enterLearn requestId ack => Granted (trace moves) requestId ack.leaseId ∧ ack.leaseId ≠ ""
  | .enterFinish status => validGeneration status.generation = true ∧ status.leaseId ≠ "" ∧
      RunningArrived (trace moves) clientId status.leaseId status.generation
  | .publishSend command => OwnedCommand clientId moves command
  | _ => True

theorem Pc.Supported.append {clientId : String} {moves : List (HostMove Thread)} {pc : Pc}
    (supported : pc.Supported clientId moves) (more : List (HostMove Thread)) :
    pc.Supported clientId (moves ++ more) := by
  cases pc with
  | enterLearn requestId ack =>
      simp only [Pc.Supported, trace_append]
      exact ⟨supported.1.append _, supported.2⟩
  | enterFinish status =>
      simp only [Pc.Supported, trace_append]
      exact ⟨supported.1, supported.2.1, supported.2.2.append _⟩
  | publishSend command => exact OwnedCommand.append supported more
  | _ => trivial

/-- The lease of the controller was granted to its request, and its session was seen RUNNING under it. -/
structure Ownership (clientId : String) (moves : List (HostMove Thread)) (pool : Pool Thread Host Pc) :
    Prop where
  client : pool.shared.controller.clientId = clientId
  cached : ∀ status, pool.shared.controller.latestStatus = some status → .statusArrived status ∈ trace moves
  answers : ∀ requestId operation ack, pool.shared.controller.lookupAck requestId operation = some ack →
    .ackArrived ack ∈ trace moves ∧ ack.requestId = requestId ∧ ack.operation = operation
  supported : ∀ thread, (pool.threads thread).Supported clientId moves
  issued : ∀ thread requestId, (pool.threads thread).awaitsLease = some requestId →
    requestId ∈ pool.shared.issuedIds
  single : ∀ first second requestId, (pool.threads first).awaitsLease = some requestId →
    (pool.threads second).awaitsLease = some requestId → first = second
  unleased : ∀ thread requestId, (pool.threads thread).awaitsLease = some requestId →
    pool.shared.controller.requestId = some requestId →
    pool.shared.controller.leaseId = "" ∧ (pool.shared.controller.externalSessionId = 0 ∨
      validGeneration pool.shared.controller.externalSessionId = true ∧ ForeignSession moves)
  granted : ∀ requestId, pool.shared.controller.requestId = some requestId →
    pool.shared.controller.leaseId = "" ∨ Granted (trace moves) requestId pool.shared.controller.leaseId
  session : pool.shared.controller.requestId = none ∨ pool.shared.controller.externalSessionId = 0 ∨
    validGeneration pool.shared.controller.externalSessionId = true ∧
      (RunningArrived (trace moves) clientId pool.shared.controller.leaseId
        pool.shared.controller.externalSessionId ∨ ForeignSession moves)
  sequence : 1 ≤ pool.shared.controller.nextExternalSequence

variable {clientId : String} {moves : List (HostMove Thread)} {pool next : Pool Thread Host Pc}
  {events : List Event} {thread : Thread} {choice : Choice} {shared : Host} {there : Pc}

theorem Ownership.initial (clientId : String) : Ownership clientId [] (freshPool Thread clientId) where
  client := rfl
  cached := by simp [freshPool, Host.fresh]
  answers := by simp [freshPool, Host.fresh, ExternalController.lookupAck]
  supported _ := trivial
  issued := by simp [freshPool, Pc.awaitsLease]
  single := by simp [freshPool, Pc.awaitsLease]
  unleased := by simp [freshPool, Pc.awaitsLease]
  granted := by simp [freshPool, Host.fresh]
  session := Or.inl rfl
  sequence := le_refl 1

/-- A cached RUNNING status that allows a publish has arrived for the lease of the controller. -/
theorem Ownership.running (held : Ownership clientId moves pool) {status : ControlStatus}
    (cached : pool.shared.controller.latestStatus = some status)
    (allowed : pool.shared.controller.statusAllowsPublish (some status) = true) (phase : status.phase = .RUNNING) :
    RunningArrived (trace moves) clientId pool.shared.controller.leaseId status.generation := by
  obtain ⟨_, _, action, _, client, lease⟩ := (ExternalController.statusAllowsPublish_iff status).mp allowed
  exact ⟨status, held.cached status cached, action, phase, client.trans held.client, lease, rfl⟩

/-- An entry that may write its lease finds nothing learned or changes nothing. -/
theorem Ownership.learns (held : Ownership clientId moves pool) {requestId current : String} {ack : ControlAck}
    (own : ¬ LearnsForeign ⟨pool, .run thread choice, next, events⟩)
    (counter : pool.threads thread = .enterLearn requestId ack)
    (now : pool.shared.controller.requestId = some current) :
    (requestId = current ∧ pool.shared.controller.leaseId = "" ∧ (pool.shared.controller.externalSessionId = 0 ∨
      validGeneration pool.shared.controller.externalSessionId = true ∧ ForeignSession moves)) ∨
      ack.leaseId = pool.shared.controller.leaseId := by
  by_cases same : requestId = current
  · refine Or.inl ⟨same, held.unleased thread requestId ?_ (same ▸ now)⟩
    rw [counter]
    rfl
  · by_contra other
    exact own ⟨thread, choice, current, requestId, ack, rfl, now, counter, same, (not_or.mp other).2⟩

/-- A move that changes neither lease nor session keeps the session, and an owned RUNNING status settles a
foreign one. -/
theorem Ownership.session_kept (held : Ownership clientId moves pool) {input : HostInput Thread}
    (same : next.shared.controller.requestId = pool.shared.controller.requestId ∧
      next.shared.controller.leaseId = pool.shared.controller.leaseId ∧
      next.shared.controller.externalSessionId = pool.shared.controller.externalSessionId) :
    next.shared.controller.requestId = none ∨ next.shared.controller.externalSessionId = 0 ∨
      validGeneration next.shared.controller.externalSessionId = true ∧
        (RunningArrived (trace moves) clientId next.shared.controller.leaseId
          next.shared.controller.externalSessionId ∨
          ForeignSession (moves ++ [⟨pool, input, next, events⟩])) := by
  obtain ⟨request, lease, session⟩ := same
  rw [request, lease, session]
  refine held.session.imp_right (Or.imp_right (And.imp_right fun learned => ?_))
  rcases learned with arrived | foreign
  · exact Or.inl arrived
  · by_cases seen : SeesRunning pool.shared.controller
    · obtain ⟨status, cached, allowed, phase, generation⟩ := seen
      exact Or.inl (generation ▸ held.running cached allowed phase)
    · exact Or.inr (foreign.kept session seen)

/-- The session stays one that was seen RUNNING under the lease or a foreign one. -/
theorem Ownership.session_step (held : Ownership clientId moves pool)
    (own : ¬ LearnsForeign ⟨pool, .run thread choice, next, events⟩)
    (now : next.shared = shared)
    (effect : SessionEffect pool.shared (pool.threads thread) shared there) :
    shared.controller.requestId = none ∨ shared.controller.externalSessionId = 0 ∨
      validGeneration shared.controller.externalSessionId = true ∧
        (RunningArrived (trace moves) clientId shared.controller.leaseId shared.controller.externalSessionId ∨
          ForeignSession (moves ++ [⟨pool, .run thread choice, next, events⟩])) := by
  subst now
  cases effect with
  | quiet same => exact held.session_kept ⟨same.1, same.2.1, same.2.2.1⟩
  | began _ _ shared => exact Or.inr (Or.inl (by rw [shared]; rfl))
  | learned requestId ack counter shared =>
      cases now : pool.shared.controller.requestId with
      | none => exact Or.inl (by rw [shared]; exact now)
      | some current =>
          rcases held.learns own counter now with ⟨_, unleased, zero | ⟨valid, foreign⟩⟩ | same
          · exact Or.inr (Or.inl (by rw [shared]; exact zero))
          · refine Or.inr (Or.inr ⟨by rw [shared]; exact valid, Or.inr (foreign.kept ?_ (unseen_unleased unleased))⟩)
            rw [shared]
            rfl
          · exact held.session_kept (by rw [shared]; exact ⟨rfl, same, rfl⟩)
  | established status counter shared =>
      cases now : pool.shared.controller.requestId with
      | none => exact Or.inl (by rw [shared]; exact now)
      | some current =>
          have supported := held.supported thread
          rw [counter] at supported
          obtain ⟨valid, _, arrived⟩ := supported
          by_cases lease : status.leaseId = pool.shared.controller.leaseId
          · rw [shared]
            exact Or.inr (Or.inr ⟨valid, Or.inl (lease ▸ arrived)⟩)
          · by_cases same : status.generation = pool.shared.controller.externalSessionId
            · exact held.session_kept (by rw [shared]; exact ⟨rfl, rfl, same⟩)
            · refine Or.inr (Or.inr ⟨by rw [shared]; exact valid, Or.inr ⟨moves, _, [], rfl, ?_, by simp⟩⟩)
              exact ⟨thread, choice, current, status, rfl, now, counter, lease, same⟩
  | built command createdUs sendUs sent c published counter shared =>
      obtain ⟨checked, status, session, _, _, cached, allowed, changed, _, _, rfl⟩ :=
        ExternalController.publishSection_ok published
      rcases (ExternalController.publishSession_ok changed).2 with rfl | ⟨phase, valid, _, rfl⟩
      · exact held.session_kept (by rw [shared]; exact ⟨rfl, rfl, rfl⟩)
      · rw [shared]
        exact Or.inr (Or.inr ⟨valid, Or.inl (held.running cached allowed phase)⟩)
  | cleared shared => exact Or.inl (by rw [shared]; rfl)

/-- The lease stays one that was granted to the request. -/
theorem Ownership.granted_step (held : Ownership clientId moves pool)
    (own : ¬ LearnsForeign ⟨pool, .run thread choice, next, events⟩)
    (effect : SessionEffect pool.shared (pool.threads thread) shared there) (requestId : String)
    (current : shared.controller.requestId = some requestId) :
    shared.controller.leaseId = "" ∨ Granted (trace moves) requestId shared.controller.leaseId := by
  cases effect with
  | quiet same =>
      rw [same.2.1]
      exact held.granted requestId (same.1 ▸ current)
  | began _ _ shared => exact Or.inl (by rw [shared]; rfl)
  | learned asked ack counter shared =>
      rw [shared] at current ⊢
      rcases held.learns own counter current with ⟨rfl, _, _⟩ | same
      · have supported := held.supported thread
        rw [counter] at supported
        exact Or.inr supported.1
      · simp only [Host.withController_controller, ExternalController.learnLease, same]
        exact held.granted requestId current
  | established status counter shared =>
      rw [shared] at current ⊢
      exact held.granted requestId current
  | built command createdUs sendUs sent c published counter shared =>
      obtain ⟨checked, status, session, _, _, _, _, changed, _, _, rfl⟩ :=
        ExternalController.publishSection_ok published
      obtain ⟨request, lease, _⟩ := ExternalController.publishSession_kept changed
      rw [shared] at current ⊢
      have same : session.leaseId = pool.shared.controller.leaseId := lease
      simp only [Host.withController_controller, same]
      exact held.granted requestId (request ▸ current)
  | cleared shared =>
      rw [shared] at current
      cases current

/-- The next sequence stays positive. -/
theorem Ownership.sequence_step (held : Ownership clientId moves pool)
    (effect : SessionEffect pool.shared (pool.threads thread) shared there) :
    1 ≤ shared.controller.nextExternalSequence := by
  have before := held.sequence
  cases effect with
  | quiet same =>
      rw [same.2.2.2]
      exact before
  | began _ _ shared | established _ _ shared | cleared shared =>
      rw [shared]
      exact le_refl 1
  | learned _ _ _ shared =>
      rw [shared]
      exact before
  | built command createdUs sendUs sent c published counter shared =>
      obtain ⟨checked, status, session, _, _, _, _, changed, _, _, rfl⟩ :=
        ExternalController.publishSection_ok published
      rw [shared]
      show 1 ≤ session.nextExternalSequence + 1
      rcases (ExternalController.publishSession_ok changed).2 with rfl | ⟨_, _, _, rfl⟩
      · omega
      · show (1 : ℤ) ≤ 1 + 1
        omega

/-- A command that is built without an unlearned or a foreign hold is owned. -/
theorem Ownership.built (held : Ownership clientId moves pool) {command : Option BodyCmd}
    {createdUs sendUs : ℤ} {sent : BodyCmd} {c : ExternalController}
    (learned : ¬ TakesUnlearnedHold ⟨pool, .run thread choice, next,
      [.built pool.shared.controller.requestId pool.shared.controller.leaseId sent]⟩)
    (holds : ¬ TakesForeignHold moves ⟨pool, .run thread choice, next,
      [.built pool.shared.controller.requestId pool.shared.controller.leaseId sent]⟩)
    (counter : pool.threads thread = .publishStart command)
    (published : pool.shared.controller.publishSection command createdUs sendUs = .ok (sent, c)) :
    OwnedCommand clientId (moves ++ [⟨pool, .run thread choice, next,
      [.built pool.shared.controller.requestId pool.shared.controller.leaseId sent]⟩]) sent := by
  obtain ⟨checked, status, session, opened, valid, cached, allowed, changed, room, rfl, rfl⟩ :=
    ExternalController.publishSection_ok published
  obtain ⟨generation, origin⟩ := ExternalController.publishSession_ok changed
  obtain ⟨present, leased, action, phase, client, lease⟩ :=
    (ExternalController.statusAllowsPublish_iff status).mp allowed
  obtain ⟨requestId, current⟩ := Option.ne_none_iff_exists'.mp present
  have seen : validGeneration status.generation = true ∧
      RunningArrived (trace moves) clientId pool.shared.controller.leaseId status.generation := by
    rcases origin with same | ⟨running, positive, _, _⟩
    · have learned' : status.generation = pool.shared.controller.externalSessionId := by rw [← generation, same]
      rcases held.session with none | zero | ⟨known, arrived | foreign⟩
      · exact absurd none present
      · -- a RUNNING status of generation 0 never builds
        rcases phase with running | hold
        · simp [ExternalController.publishSession, running, learned', zero, validGeneration] at changed
        · exact absurd ⟨thread, choice, command, checked, status, rfl, counter, valid, opened, cached, allowed,
            hold, learned'.trans zero, zero⟩ learned
      · exact learned' ▸ ⟨known, arrived⟩
      · -- a RUNNING status settles the foreign generation
        rcases phase with running | hold
        · exact ⟨learned' ▸ known, held.running cached allowed running⟩
        · exact absurd ⟨foreign, _, thread, choice, command, checked, status, rfl, counter, valid, opened, cached,
            allowed, hold, rfl, learned'.symm⟩ holds
    · exact ⟨positive, held.running cached allowed running⟩
  have range : 0 < status.generation ∧ status.generation ≤ MAX_UINT64 := of_decide_eq_true seen.1
  have first : 1 ≤ session.nextExternalSequence := by
    have before := held.sequence
    rcases origin with rfl | ⟨_, _, _, rfl⟩
    · exact before
    · exact le_refl 1
  have granted := (held.granted requestId current).resolve_left leased
  constructor
  · rfl
  · rfl
  · rfl
  · simp only [ExternalController.externalCommand, generation]
    omega
  · exact ⟨first, room⟩
  · refine ⟨moves, _, [], requestId, pool.shared.controller.leaseId, status, rfl, ?_, ?_, generation.symm⟩
    · rw [current]
      exact List.mem_singleton_self _
    · exact ⟨current, granted, leased, cached, ⟨action, phase⟩, ⟨client.trans held.client, lease⟩, seen.2⟩

/-- The counter of a transition is supported where its new thread waits. -/
theorem Ownership.supported_step (held : Ownership clientId moves pool)
    (learned : ¬ TakesUnlearnedHold ⟨pool, .run thread choice, next, events⟩)
    (holds : ¬ TakesForeignHold moves ⟨pool, .run thread choice, next, events⟩)
    (step : Transition pool.shared (pool.threads thread) events shared there) :
    there.Supported clientId (moves ++ [⟨pool, .run thread choice, next, events⟩]) := by
  generalize counter : pool.threads thread = pc at step
  cases step with
  | prepared opened found accepted leased =>
      obtain ⟨arrived, request, operation⟩ := held.answers _ _ _ found
      exact ⟨⟨_, by simp [arrived], request, operation, accepted, rfl⟩, leased⟩
  | running opened owned =>
      obtain ⟨cached, phase, allowed, _, valid⟩ := ownedRunning owned
      obtain ⟨_, leased, _, _, _, lease⟩ := (ExternalController.statusAllowsPublish_iff _).mp allowed
      have arrived := held.running cached allowed phase
      rw [← lease] at arrived leased
      simp only [Pc.Supported, trace_append]
      exact ⟨valid, leased, arrived.append _⟩
  | built published => exact held.built learned holds counter published
  | _ => trivial

/-- A call that starts awaits no lease and holds nothing that needs support. -/
theorem startCall_supported (request : Call) (clientId : String) (moves : List (HostMove Thread)) :
    (startCall request).1.awaitsLease = none ∧ (startCall request).1.Supported clientId moves := by
  have rests := (Handshake.startCall_cases request).1
  have sends := startCall_ne_send request
  generalize (startCall request).1 = pc at rests sends
  cases pc with
  | publishSend command => exact absurd rfl (sends command)
  | enterCheck | enterReadId | enterReadLease | enterSend | enterAck | enterLearn | enterFinish => cases rests
  | _ => exact ⟨rfl, trivial⟩

/-- An arrival or the start of a call keeps the ownership. -/
theorem Ownership.rest (held : Ownership clientId moves pool) {input : HostInput Thread}
    (same : next.shared.controller.requestId = pool.shared.controller.requestId ∧
      next.shared.controller.leaseId = pool.shared.controller.leaseId ∧
      next.shared.controller.clientId = pool.shared.controller.clientId ∧
      next.shared.controller.externalSessionId = pool.shared.controller.externalSessionId ∧
      next.shared.controller.nextExternalSequence = pool.shared.controller.nextExternalSequence)
    (issued : next.shared.issuedIds = pool.shared.issuedIds)
    (cached : ∀ status, next.shared.controller.latestStatus = some status →
      .statusArrived status ∈ trace moves ++ events)
    (answers : ∀ requestId operation ack, next.shared.controller.lookupAck requestId operation = some ack →
      .ackArrived ack ∈ trace moves ++ events ∧ ack.requestId = requestId ∧ ack.operation = operation)
    (threads : ∀ thread, next.threads thread = pool.threads thread ∨
      ∃ request, next.threads thread = (startCall request).1) :
    Ownership clientId (moves ++ [⟨pool, input, next, events⟩]) next := by
  have log : trace (moves ++ [⟨pool, input, next, events⟩]) = trace moves ++ events := by simp
  obtain ⟨request, lease, client, session, sequence⟩ := same
  have awaits (thread : Thread) (requestId : String)
      (waits : (next.threads thread).awaitsLease = some requestId) :
      (pool.threads thread).awaitsLease = some requestId := by
    rcases threads thread with same | ⟨request, starts⟩
    · exact same ▸ waits
    · rw [starts, (startCall_supported request clientId moves).1] at waits
      cases waits
  constructor
  · exact client.trans held.client
  · rw [log]
    exact cached
  · rw [log]
    exact answers
  · intro thread
    rcases threads thread with same | ⟨request, starts⟩
    · rw [same]
      exact (held.supported thread).append _
    · rw [starts]
      exact (startCall_supported request clientId _).2
  · intro thread requestId waits
    rw [issued]
    exact held.issued thread requestId (awaits thread requestId waits)
  · intro first second requestId one two
    exact held.single first second requestId (awaits first requestId one) (awaits second requestId two)
  · intro thread requestId waits current
    obtain ⟨unleased, learned⟩ := held.unleased thread requestId (awaits thread requestId waits) (request ▸ current)
    rw [lease, session]
    exact ⟨unleased, learned.imp_right (And.imp_right fun foreign => foreign.kept session (unseen_unleased unleased))⟩
  · intro requestId current
    rw [log, lease]
    exact (held.granted requestId (request ▸ current)).imp_right fun granted => granted.append _
  · rw [log]
    exact (held.session_kept ⟨request, lease, session⟩).imp_right
      (Or.imp_right (And.imp_right (Or.imp_left fun seen => seen.append _)))
  · rw [sequence]
    exact held.sequence

variable [DecidableEq Thread]

/-- A thread that awaits a lease did so before or has just begun its request. -/
theorem awaits_update (effect : SessionEffect pool.shared (pool.threads thread) shared there) {other : Thread}
    {requestId : String}
    (awaits : (Function.update pool.threads thread there other).awaitsLease = some requestId) :
    (pool.threads other).awaitsLease = some requestId ∨
      other = thread ∧ requestId ∉ pool.shared.issuedIds ∧
        shared = ⟨pool.shared.controller.freshRequest requestId, pool.shared.issuedIds ++ [requestId]⟩ := by
  by_cases same : other = thread
  · rw [same, Function.update_self] at awaits
    cases effect with
    | quiet _ _ waits =>
        rcases waits with none | before
        · exact absurd (none.symm.trans awaits) (by simp)
        · exact Or.inl (same ▸ before ▸ awaits)
    | began asked fresh begun waits =>
        obtain rfl := Option.some.inj (waits.symm.trans awaits)
        exact Or.inr ⟨same, fresh, begun⟩
    | learned _ _ _ _ waits | established _ _ _ waits | built _ _ _ _ _ _ _ _ waits | cleared _ waits =>
        exact absurd (waits.symm.trans awaits) (by simp)
  · rw [Function.update_of_ne same] at awaits
    exact Or.inl awaits

/-- An identity that was issued stays issued. -/
theorem SessionEffect.issued {host after : Host} {pc next : Pc} (effect : SessionEffect host pc after next) :
    host.issuedIds ⊆ after.issuedIds := by
  cases effect with
  | quiet _ issued => rw [issued]; exact List.Subset.refl _
  | began _ _ shared => rw [shared]; exact List.subset_append_left _ _
  | learned _ _ _ shared | established _ _ shared | built _ _ _ _ _ _ _ shared | cleared shared =>
      rw [shared]
      exact List.Subset.refl _

/-- A request that still awaits its lease has no lease, and only a foreign session. -/
theorem Ownership.unleased_step (held : Ownership clientId moves pool)
    (own : ¬ LearnsForeign ⟨pool, .run thread choice, next, events⟩) (now : next.shared = shared)
    (effect : SessionEffect pool.shared (pool.threads thread) shared there) (other : Thread) (requestId : String)
    (awaits : (Function.update pool.threads thread there other).awaitsLease = some requestId)
    (current : shared.controller.requestId = some requestId) :
    shared.controller.leaseId = "" ∧ (shared.controller.externalSessionId = 0 ∨
      validGeneration shared.controller.externalSessionId = true ∧
        ForeignSession (moves ++ [⟨pool, .run thread choice, next, events⟩])) := by
  subst now
  rcases awaits_update effect awaits with before | ⟨_, _, begun⟩
  · have supported := held.supported thread
    cases effect with
    | quiet same =>
        obtain ⟨unleased, learned⟩ := held.unleased other requestId before (same.1 ▸ current)
        rw [same.2.1, same.2.2.1]
        exact ⟨unleased, learned.imp_right (And.imp_right fun foreign =>
          foreign.kept same.2.2.1 (unseen_unleased unleased))⟩
    | began asked fresh begun =>
        rw [begun] at current
        obtain rfl := Option.some.inj current
        exact absurd (held.issued other _ before) fresh
    | learned asked ack counter begun waits =>
        rw [begun] at current
        rw [counter] at supported
        rcases held.learns own counter current with ⟨rfl, _, _⟩ | same
        · -- the thread that has learned its lease no longer awaits it
          have mine : other = thread := held.single other thread asked before (by rw [counter]; rfl)
          rw [mine, Function.update_self, waits] at awaits
          cases awaits
        · exact absurd (same.trans (held.unleased other requestId before current).1) supported.2
    | established status counter begun =>
        rw [begun] at current
        rw [counter] at supported
        obtain ⟨unleased, learned⟩ := held.unleased other requestId before current
        refine ⟨by rw [begun]; exact unleased, Or.inr ⟨by rw [begun]; exact supported.1, ?_⟩⟩
        by_cases same : status.generation = pool.shared.controller.externalSessionId
        · rcases learned with zero | ⟨_, foreign⟩
          · exact absurd supported.1 (by simp [same, zero, validGeneration])
          · exact foreign.kept (by rw [begun]; exact same) (unseen_unleased unleased)
        · refine ⟨moves, _, [], rfl, ⟨thread, choice, requestId, status, rfl, current, counter, ?_, same⟩, by simp⟩
          exact fun lease => supported.2.1 (lease.trans unleased)
    | built command createdUs sendUs sent c published counter begun =>
        obtain ⟨_, status, session, _, _, _, allowed, changed, _, _, rfl⟩ :=
          ExternalController.publishSection_ok published
        obtain ⟨request, _⟩ := ExternalController.publishSession_kept changed
        obtain ⟨_, leased, _⟩ := (ExternalController.statusAllowsPublish_iff status).mp allowed
        rw [begun] at current
        exact absurd (held.unleased other requestId before (request ▸ current)).1 leased
    | cleared begun =>
        rw [begun] at current
        cases current
  · rw [begun]
    exact ⟨rfl, Or.inl rfl⟩

/-- A transition of one thread keeps the ownership when it takes no unlearned and no foreign hold and learns
no foreign lease. -/
theorem Ownership.transition (held : Ownership clientId moves pool)
    (step : Transition pool.shared (pool.threads thread) events shared there)
    (learned : ¬ TakesUnlearnedHold ⟨pool, .run thread choice,
      ⟨shared, Function.update pool.threads thread there⟩, events⟩)
    (own : ¬ LearnsForeign ⟨pool, .run thread choice,
      ⟨shared, Function.update pool.threads thread there⟩, events⟩)
    (holds : ¬ TakesForeignHold moves ⟨pool, .run thread choice,
      ⟨shared, Function.update pool.threads thread there⟩, events⟩) :
    Ownership clientId (moves ++ [⟨pool, .run thread choice,
      ⟨shared, Function.update pool.threads thread there⟩, events⟩])
      ⟨shared, Function.update pool.threads thread there⟩ := by
  have effect := step.sessionEffect
  have log : trace (moves ++ [⟨pool, .run thread choice,
      ⟨shared, Function.update pool.threads thread there⟩, events⟩]) = trace moves ++ events := by simp
  constructor
  · exact step.commands.1.trans held.client
  · intro status cached
    rw [log]
    exact List.mem_append_left _ (held.cached status (step.latestStatus.1 ▸ cached))
  · intro requestId operation ack found
    rw [log]
    rcases step.acks_kept with same | none
    · rw [ExternalController.lookupAck, same] at found
      obtain ⟨arrived, names⟩ := held.answers requestId operation ack found
      exact ⟨List.mem_append_left _ arrived, names⟩
    · rw [ExternalController.lookupAck, none] at found
      cases found
  · intro other
    by_cases same : other = thread
    · simp only [same, Function.update_self]
      exact held.supported_step learned holds step
    · simp only [Function.update_of_ne same]
      exact (held.supported other).append _
  · intro other requestId awaits
    rcases awaits_update effect awaits with before | ⟨_, _, begun⟩
    · exact effect.issued (held.issued other requestId before)
    · simp [begun]
  · intro first second requestId one two
    rcases awaits_update effect one with before | ⟨here, fresh, _⟩
    · rcases awaits_update effect two with past | ⟨_, fresh, _⟩
      · exact held.single first second requestId before past
      · exact absurd (held.issued first requestId before) fresh
    · rcases awaits_update effect two with past | ⟨there, _, _⟩
      · exact absurd (held.issued second requestId past) fresh
      · exact here.trans there.symm
  · exact held.unleased_step own rfl effect
  · intro requestId current
    rw [log]
    exact (held.granted_step own effect requestId current).imp_right fun granted => granted.append _
  · rw [log]
    exact (held.session_step own rfl effect).imp_right
      (Or.imp_right (And.imp_right (Or.imp_left fun seen => seen.append _)))
  · exact held.sequence_step effect

/-- Every move keeps the ownership under the three conditions. -/
theorem Ownership.step (held : Ownership clientId moves pool) {input : HostInput Thread}
    (accepted : (hostMachine Thread).step pool input = some (next, events))
    (learned : ¬ TakesUnlearnedHold ⟨pool, input, next, events⟩)
    (own : ¬ LearnsForeign ⟨pool, input, next, events⟩)
    (holds : ¬ TakesForeignHold moves ⟨pool, input, next, events⟩) :
    Ownership clientId (moves ++ [⟨pool, input, next, events⟩]) next := by
  cases Program.machine_cases accepted with
  | @call thread request ready =>
      refine held.rest ⟨rfl, rfl, rfl, rfl, rfl⟩ rfl ?_ ?_ fun other => ?_
      · exact fun status cached => List.mem_append_left _ (held.cached status cached)
      · intro requestId operation ack found
        obtain ⟨arrived, names⟩ := held.answers requestId operation ack found
        exact ⟨List.mem_append_left _ arrived, names⟩
      · by_cases same : other = thread
        · simp only [same, Function.update_self]
          exact Or.inr ⟨request, rfl⟩
        · simp only [Function.update_of_ne same]
          exact Or.inl trivial
  | run stepped => exact held.transition (step_cases stepped) learned own holds
  | signal signal =>
      cases signal with
      | ack arrived =>
          have kept := pool.shared.controller.onAck_kept arrived
          refine held.rest ⟨kept.1, kept.2.1, kept.2.2.1, kept.2.2.2.2.1, kept.2.2.2.2.2.1⟩ rfl ?_ ?_
            fun _ => Or.inl rfl
          · intro status cached
            exact List.mem_append_left _ (held.cached status (kept.2.2.2.1 ▸ cached))
          · intro requestId operation ack found
            rcases lookupAck_onAck found with old | ⟨new, names⟩
            · obtain ⟨before, names⟩ := held.answers requestId operation ack old
              exact ⟨List.mem_append_left _ before, names⟩
            · obtain rfl := Option.some.inj new
              exact ⟨List.mem_append_right _ (List.mem_singleton_self _), names⟩
      | status arrived =>
          have kept := pool.shared.controller.onStatus_kept arrived
          refine held.rest ⟨kept.1, kept.2.1, kept.2.2.1, kept.2.2.2.2.1, kept.2.2.2.2.2.1⟩ rfl ?_ ?_
            fun _ => Or.inl rfl
          · intro status cached
            rcases pool.shared.controller.onStatus_cases arrived with ⟨_, _, _, taken⟩ | ⟨_, same⟩
            · obtain rfl := Option.some.inj (taken.symm.trans cached)
              exact List.mem_append_right _ (List.mem_singleton_self _)
            · exact List.mem_append_left _ (held.cached status (same ▸ cached))
          · intro requestId operation ack found
            have same : (pool.shared.controller.onStatus arrived).acks = pool.shared.controller.acks :=
              kept.2.2.2.1
            have old : pool.shared.controller.lookupAck requestId operation = some ack := by
              rw [ExternalController.lookupAck, ← same]
              exact found
            obtain ⟨before, names⟩ := held.answers requestId operation ack old
            exact ⟨List.mem_append_left _ before, names⟩

/-- Every command that is handed over is well formed and owned, in every run that takes no unlearned hold,
in which no replaced entry writes its lease, and in which no hold of a generation that a replaced entry wrote
is taken before that generation is replaced or seen RUNNING. -/
theorem commands_owned {final : Pool Thread Host Pc}
    (run : (hostMachine Thread).Run (freshPool Thread clientId) moves final)
    (learned : ∀ move ∈ moves, ¬ TakesUnlearnedHold move) (own : ∀ move ∈ moves, ¬ LearnsForeign move)
    (holds : ∀ earlier move later, moves = earlier ++ move :: later → ¬ TakesForeignHold earlier move)
    (command : BodyCmd) (raised : Bool) (handed : .handed (.body command) raised ∈ trace moves) :
    OwnedCommand clientId moves command := by
  have held : Ownership clientId moves final ∧ ∀ command raised,
      .handed (.body command) raised ∈ trace moves → OwnedCommand clientId moves command := by
    refine run.invariant (fun moves pool => (∀ move ∈ moves, ¬ TakesUnlearnedHold move) →
      (∀ move ∈ moves, ¬ LearnsForeign move) →
      (∀ earlier move later, moves = earlier ++ move :: later → ¬ TakesForeignHold earlier move) →
      Ownership clientId moves pool ∧ ∀ command raised,
        .handed (.body command) raised ∈ trace moves → OwnedCommand clientId moves command) ?_ ?_ learned own holds
    · exact fun _ _ _ => ⟨Ownership.initial clientId, by simp⟩
    · intro moves pool input next events _ ih accepted learned own holds
      obtain ⟨held, sent⟩ := ih (fun move member => learned move (List.mem_append_left _ member))
        (fun move member => own move (List.mem_append_left _ member)) fun earlier move later cut =>
          holds earlier move (later ++ [⟨pool, input, next, events⟩]) (by simp [cut])
      have last : (⟨pool, input, next, events⟩ : HostMove Thread) ∈ moves ++ [⟨pool, input, next, events⟩] :=
        List.mem_append_right _ (List.mem_singleton_self _)
      refine ⟨held.step accepted (learned _ last) (own _ last) (holds moves _ [] rfl), fun command raised handed => ?_⟩
      simp only [trace_append, trace_cons, trace_nil, List.append_nil, List.mem_append] at handed
      rcases handed with before | now
      · exact (sent command raised before).append _
      · obtain ⟨thread, waits⟩ := (pool_commands accepted).hands command raised now
        have supported := held.supported thread
        rw [waits] at supported
        exact OwnedCommand.append supported _
  exact held.2 command raised handed

end Ownership

/-- A TIMEOUT_HOLD status of this lease and generation. -/
def holdStatus (leaseId : String) (generation stamp : ℤ) : ControlStatus where
  statusSeq := stamp
  currentAction := "EXTERNAL"
  phase := .TIMEOUT_HOLD
  clientId := "client"
  leaseId := leaseId
  generation := generation
  stampMonotonicNs := stamp

/-- A second thread exits while the first one is about to finish its entry and prepares another request. -/
def replacedEntry : List (HostInput Bool) :=
  let exits : List (HostInput Unit) := [.call () (.exitExternal (.int 5))] ++ runs 3 ++
    [answerInput .CANCEL true "lease"] ++ runs 1 ++
    [.signal (.status ⟨2, "PASSIVE", .IDLE, "", "", 0, 2, 1⟩)] ++ runs 2
  let enters : List (HostInput Unit) := [.call () (.enterExternal (.int 5)), .run () { uuid := "second" }] ++
    runs 4 ++ [.signal (.ack ⟨"second", .PREPARE, true, 0, "", "other", 1⟩)] ++ runs 2
  enteredInputs.dropLast.map (onThread false) ++ (exits ++ enters).map (onThread true)

/-- The first thread writes its generation, and a hold of that generation lets it publish. -/
def foreignInputs : List (HostInput Bool) :=
  replacedEntry ++ [.run false {}, .signal (.status (holdStatus "other" 42 3))] ++ publishes false

/-- The first thread writes its generation, and a RUNNING status of the second request replaces it. -/
def overwrittenInputs : List (HostInput Bool) :=
  [.run false {}, .signal (.status { runningStatus 43 3 with leaseId := "other" })] ++ publishes false

/-- This counter learns only the lease of the current request. -/
def Pc.learnsOwn (c : ExternalController) : Pc → Bool
  | .enterLearn requestId _ => c.requestId = some requestId
  | _ => true

/-- This counter is about to write a generation that it owns under another lease. -/
def Pc.finishesForeign (c : ExternalController) : Pc → Bool
  | .enterFinish status => status.leaseId ≠ c.leaseId ∧ status.generation ≠ c.externalSessionId
  | _ => false

theorem Pc.finishesForeign_iff {c : ExternalController} {pc : Pc} :
    pc.finishesForeign c = true ↔ ∃ status, pc = .enterFinish status ∧ status.leaseId ≠ c.leaseId ∧
      status.generation ≠ c.externalSessionId := by
  constructor
  · intro foreign
    cases pc with
    | enterFinish status => exact ⟨status, rfl, of_decide_eq_true foreign⟩
    | _ => cases foreign
  · rintro ⟨status, rfl, foreign⟩
    exact decide_eq_true foreign

/-- A replaced entry writes its generation into the next request, and the RUNNING status of that one overwrites
it before its command is built. -/
theorem commands_owned_overwritten :
    ∃ moves final command, (hostMachine Bool).Run (freshPool Bool "client") moves final ∧
      (∃ move ∈ moves, FinishesForeign move) ∧ .handed (.body command) false ∈ trace moves ∧
      OwnedCommand "client" moves command := by
  obtain ⟨moves, final, run, inputs, handed, running, own, move, position, current, writes⟩ :=
    (hostMachine Bool).exists_run (freshPool Bool "client") (replacedEntry ++ overwrittenInputs)
      (fun moves _ =>
        .handed (.body { zeroCommand with sessionId := 43, sequence := 1 }) false ∈ trace moves ∧
        (∀ move ∈ moves, ∀ status ∈ move.before.shared.controller.latestStatus, status.phase ≠ .TIMEOUT_HOLD) ∧
        (∀ move ∈ moves, ∀ thread,
          (move.before.threads thread).learnsOwn move.before.shared.controller = true) ∧
        ∃ move ∈ moves[replacedEntry.length]?, move.before.shared.controller.requestId = some "second" ∧
          (move.before.threads false).finishesForeign move.before.shared.controller = true) (by decide +kernel)
  have input : move.input = .run false {} := by
    have same := congrArg (fun inputs => inputs[replacedEntry.length]?) inputs
    simp only [List.getElem?_map, Option.mem_def.mp position, List.getElem?_append_right (le_refl _),
      Nat.sub_self] at same
    exact Option.some.inj same
  obtain ⟨status, counter, foreign⟩ := Pc.finishesForeign_iff.mp writes
  have unheld (move : HostMove Bool) (member : move ∈ moves) (generation : ℤ) : ¬ TakesHold move generation := by
    rintro ⟨_, _, _, _, status, _, _, _, _, cached, _, hold, _⟩
    exact running move member status cached hold
  refine ⟨moves, final, _, run, ⟨move, List.mem_of_getElem? position, ?_⟩, handed,
    commands_owned run (fun move member => unheld move member 0) ?_ ?_ _ false handed⟩
  · exact ⟨false, {}, "second", status, input, current, counter, foreign⟩
  · rintro move member ⟨thread, choice, current, requestId, ack, _, now, counter, other, _⟩
    have learns := own move member thread
    rw [counter] at learns
    exact other (Option.some.inj ((of_decide_eq_true learns).symm.trans now))
  · rintro earlier move later cut ⟨_, generation, takes⟩
    exact unheld move (by simp [cut]) generation takes

/-- Every RUNNING status of a trace names this lease. -/
def runningUnder (leaseId : String) : Event → Bool
  | .statusArrived status => status.phase ≠ .RUNNING ∨ status.leaseId = leaseId
  | _ => true

/-- Every command of a trace was built under this lease. -/
def builtUnder (leaseId : String) : Event → Bool
  | .built _ lease _ => lease = leaseId
  | _ => true

/-- A TIMEOUT_HOLD status of generation 0 that comes before any RUNNING lets a command of session 0 out, and
an entry that finishes late lends its generation to the lease of another request. -/
theorem commands_owned_unlearned :
    (∃ moves final command, (hostMachine Unit).Run (freshPool Unit "client") moves final ∧
      .handed (.body command) false ∈ trace moves ∧ command.sessionId = 0 ∧
      ¬ OwnedCommand "client" moves command) ∧
    ∃ moves final command, (hostMachine Bool).Run (freshPool Bool "client") moves final ∧
      .handed (.body command) false ∈ trace moves ∧ ¬ OwnedCommand "client" moves command := by
  constructor
  · obtain ⟨moves, final, run, _, handed⟩ :=
      (hostMachine Unit).exists_run (freshPool Unit "client")
        (commitInputs ++ [answerInput .COMMIT false ""] ++ runs 3 ++ [.signal (.status (holdStatus "lease" 0 1)),
          .call () (.publish (some zeroCommand))] ++ runs 2)
        (fun moves _ => .handed (.body { zeroCommand with sequence := 1 }) false ∈ trace moves)
        (by decide +kernel)
    refine ⟨moves, final, _, run, handed, rfl, fun owned => ?_⟩
    exact absurd owned.session.1 (by decide)
  · obtain ⟨moves, final, run, _, handed, running, built⟩ :=
      (hostMachine Bool).exists_run (freshPool Bool "client") foreignInputs
        (fun moves _ => .handed (.body { zeroCommand with sessionId := 42, sequence := 1 }) false ∈ trace moves ∧
          (trace moves).all (runningUnder "lease") = true ∧ (trace moves).all (builtUnder "other") = true)
        (by decide +kernel)
    refine ⟨moves, final, _, run, handed, fun owned => ?_⟩
    obtain ⟨earlier, move, later, requestId, leaseId, status, rfl, member, moment, _⟩ := owned.built
    obtain ⟨seen, arrived, _, phase, _, lease, _⟩ := moment.running
    have under := List.all_eq_true.mp built _ (mem_trace.mpr ⟨move, by simp, member⟩)
    have other := List.all_eq_true.mp running (.statusArrived seen) (by simp [arrived])
    obtain rfl := of_decide_eq_true under
    rcases of_decide_eq_true other with idle | same
    · exact idle phase
    · exact absurd (lease.symm.trans same) (by decide)

end HumanoidSdk.Controller
