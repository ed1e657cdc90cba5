import HumanoidSdk.Controller.Handshake

namespace HumanoidSdk.Controller
open Foundation

/-- A built command carries the generation of a cached status that allows it. -/
structure BuiltFrom (c : ExternalController) (requestId : Option String) (leaseId : String)
    (command : BodyCmd) : Prop where
  request : requestId = c.requestId
  lease : leaseId = c.leaseId
  live : ∃ status, c.latestStatus = some status ∧ c.statusAllowsPublish (some status) = true ∧
    command.sessionId = status.generation

/-- A step builds only from the cached status, and a thread holds and hands over only built commands. -/
theorem Transition.commands {host after : Host} {pc next : Pc} {events : List Event}
    (step : Transition host pc events after next) :
    after.controller.clientId = host.controller.clientId ∧
    (∀ requestId leaseId command, .built requestId leaseId command ∈ events →
      BuiltFrom host.controller requestId leaseId command) ∧
    (∀ command, next = .publishSend command → ∃ requestId leaseId, .built requestId leaseId command ∈ events) ∧
    ∀ command raised, .handed (.body command) raised ∈ events → pc = .publishSend command := by
  cases step with
  | failClaimed claimed | exitClaimed claimed =>
      obtain ⟨_, _, _, rfl⟩ := ExternalController.claimCancel_some claimed
      exact ⟨rfl, by simp, by simp, by simp⟩
  | closedQuietly quiet =>
      obtain ⟨_, rfl⟩ := ExternalController.closeSection_none quiet
      exact ⟨rfl, by simp, by simp, by simp⟩
  | closedClaimed claims =>
      obtain ⟨_, _, _, _, rfl⟩ := ExternalController.closeSection_some claims
      exact ⟨rfl, by simp, by simp, by simp⟩
  | built published =>
      obtain ⟨checked, status, session, _, _, cached, allowed, changed, _, rfl, rfl⟩ :=
        ExternalController.publishSection_ok published
      obtain ⟨generation, _⟩ := ExternalController.publishSession_ok changed
      obtain ⟨_, _, client, _⟩ := ExternalController.publishSession_kept changed
      refine ⟨client, fun requestId leaseId command member => ?_, fun command sending => ?_, by simp⟩
      · obtain ⟨rfl, rfl, rfl⟩ := Event.built.inj (List.mem_singleton.mp member)
        exact ⟨rfl, rfl, status, cached, allowed, generation⟩
      · obtain rfl := Pc.publishSend.inj sending
        exact ⟨_, _, List.mem_singleton_self _⟩
  | commandSent | commandRaised =>
      refine ⟨rfl, by simp, by simp, fun command raised member => ?_⟩
      simp only [List.mem_cons, Event.handed.injEq, Message.body.injEq, reduceCtorEq, List.not_mem_nil,
        or_false] at member
      rw [member.1]
  | _ => exact ⟨rfl, by simp, by simp, by simp⟩

section Pool

variable {Thread : Type*} [DecidableEq Thread]

/-- A move of the pool keeps the client and accounts for every command. -/
structure CommandFlow (pool next : Pool Thread Host Pc) (events : List Event) : Prop where
  client : next.shared.controller.clientId = pool.shared.controller.clientId
  builds : ∀ requestId leaseId command, .built requestId leaseId command ∈ events →
    BuiltFrom pool.shared.controller requestId leaseId command
  waits : ∀ thread command, next.threads thread = .publishSend command →
    pool.threads thread = .publishSend command ∨ ∃ requestId leaseId, .built requestId leaseId command ∈ events
  hands : ∀ command raised, .handed (.body command) raised ∈ events →
    ∃ thread, pool.threads thread = .publishSend command

theorem startCall_ne_send (request : Call) (command : BodyCmd) :
    (startCall request).1 ≠ .publishSend command := by
  intro sending
  cases request with
  | close | publish => cases sending
  | enterExternal timeout | exitExternal timeout | getRobotInfo timeout =>
      simp only [startCall] at sending
      split at sending <;> cases sending

theorem pool_commands {pool next : Pool Thread Host Pc} {input : HostInput Thread} {events : List Event}
    (accepted : (hostMachine Thread).step pool input = some (next, events)) :
    CommandFlow pool next events := by
  cases Program.machine_cases accepted with
  | @call thread request ready =>
      have shape := (Handshake.startCall_cases request).2
      refine ⟨rfl, ?_, ?_, ?_⟩
      · rcases shape with one | ⟨method, error, _, two⟩
        · simp [program, one]
        · simp [program, two]
      · intro asked command sending
        by_cases same : asked = thread
        · simp only [same, Function.update_self] at sending
          exact absurd sending (startCall_ne_send request command)
        · simp only [Function.update_of_ne same] at sending
          exact Or.inl sending
      · rcases shape with one | ⟨method, error, _, two⟩
        · simp [program, one]
        · simp [program, two]
  | @run thread choice shared there events stepped =>
      obtain ⟨client, builds, waits, hands⟩ := (step_cases stepped).commands
      refine ⟨client, builds, fun asked command sending => ?_, fun command raised member => ?_⟩
      · by_cases same : asked = thread
        · simp only [same, Function.update_self] at sending
          exact Or.inr (waits command sending)
        · simp only [Function.update_of_ne same] at sending
          exact Or.inl sending
      · exact ⟨thread, hands command raised member⟩
  | signal signal =>
      cases signal with
      | ack ack | status status =>
          exact ⟨by simp [program, Host.react], by simp [program, Host.react],
            fun _ _ sending => Or.inl sending, by simp [program, Host.react]⟩

end Pool

end HumanoidSdk.Controller
