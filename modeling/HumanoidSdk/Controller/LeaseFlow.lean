import HumanoidSdk.Controller.Handshake

namespace HumanoidSdk.Controller
open Foundation

/-- The control requests that these events hand over. -/
def controlsOf (events : List Event) : List ControlRequest :=
  events.filterMap fun
    | .handed (.control request) _ => some request
    | _ => none

@[simp] theorem controlsOf_append (first second : List Event) :
    controlsOf (first ++ second) = controlsOf first ++ controlsOf second := List.filterMap_append

/-- A request among the controls was handed over. -/
theorem mem_controlsOf {request : ControlRequest} {handed : List Event} :
    request ∈ controlsOf handed ↔ ∃ raised, .handed (.control request) raised ∈ handed := by
  constructor
  · intro member
    obtain ⟨event, emitted, same⟩ := List.mem_filterMap.mp member
    cases event with
    | handed message raised =>
        cases message with
        | control sent =>
            obtain rfl := Option.some.inj same
            exact ⟨raised, emitted⟩
        | body => cases same
    | _ => cases same
  · rintro ⟨raised, emitted⟩
    exact List.mem_filterMap.mpr ⟨_, emitted, rfl⟩

/-- The acknowledgement that an input delivers. -/
def arrivedAck : HostInput Unit → Option ControlAck
  | .signal (.ack ack) => some ack
  | _ => none

/-- A step changes identity, lease and acknowledgements only in these ways, and it hands over only a
request of the current identity. -/
structure LeaseFlow (arrived : Option ControlAck) (host : Host) (pc : Pc) (events : List Event)
    (after : Host) (next : Pc) : Prop where
  lease : ∀ requestId, after.controller.requestId = some requestId → after.controller.leaseId ≠ "" →
    (host.controller.requestId = some requestId ∧ after.controller.leaseId = host.controller.leaseId) ∨
      ∃ ack, pc = .enterLearn requestId ack ∧ after.controller.leaseId = ack.leaseId
  learns : ∀ requestId ack, next = .enterLearn requestId ack → pc = .enterLearn requestId ack ∨
    host.controller.lookupAck requestId .PREPARE = some ack ∧ ack.accepted = true
  answers : ∀ requestId operation ack, after.controller.lookupAck requestId operation = some ack →
    host.controller.lookupAck requestId operation = some ack ∨
      arrived = some ack ∧ ack.requestId = requestId ∧ ack.operation = operation
  hands : ∀ request ∈ controlsOf events, ∃ requestId operation,
    host.controller.requestId = some requestId ∧
      request = host.controller.requestFor (some requestId) operation
  issued : ∀ requestId ∈ after.issuedIds, requestId ∈ host.issuedIds ∨ requestId ≠ ""

theorem LeaseFlow.quiet {arrived : Option ControlAck} {host after : Host} {pc next : Pc}
    {events : List Event}
    (same : after.controller.requestId = host.controller.requestId ∧
      after.controller.leaseId = host.controller.leaseId ∧ after.controller.acks = host.controller.acks)
    (issued : after.issuedIds = host.issuedIds)
    (other : ∀ requestId ack, next = .enterLearn requestId ack → pc = .enterLearn requestId ack)
    (hands : ∀ request ∈ controlsOf events, ∃ requestId operation,
      host.controller.requestId = some requestId ∧
        request = host.controller.requestFor (some requestId) operation) :
    LeaseFlow arrived host pc events after next where
  lease requestId current _ := Or.inl ⟨same.1.symm.trans current, same.2.1⟩
  learns requestId ack learning := Or.inl (other requestId ack learning)
  answers requestId operation ack found := by
    rw [ExternalController.lookupAck, same.2.2] at found
    exact Or.inl found
  hands := hands
  issued requestId member := Or.inl (issued ▸ member)

/-- The only thread of a controller moves leases and acknowledgements in these ways. -/
theorem handshake_leaseFlow {log events : List Event} {host after : Host} {pc next : Pc}
    (held : Handshake log host pc) (step : Transition host pc events after next) :
    LeaseFlow none host pc events after next := by
  have position := held.position
  have single {requestId : String} {operation : ControlOperation} {request : ControlRequest}
      (current : host.controller.requestId = some requestId)
      (own : request = host.controller.requestFor (some requestId) operation) :
      ∀ asked ∈ [request], ∃ requestId operation, host.controller.requestId = some requestId ∧
        asked = host.controller.requestFor (some requestId) operation := by
    intro asked member
    exact ⟨requestId, operation, current, (List.mem_singleton.mp member).trans own⟩
  have cancel {requestId : String} (current : host.controller.requestId = some requestId) :
      host.controller.request .CANCEL = host.controller.requestFor (some requestId) .CANCEL := by
    rw [ExternalController.request, current]
  cases step with
  | began opened free fresh =>
      constructor
      · exact fun _ _ leased => absurd rfl leased
      · simp
      · intro requestId operation ack found
        simp [ExternalController.freshRequest, ExternalController.lookupAck] at found
      · simp [controlsOf]
      · intro requestId member
        rcases List.mem_append.mp member with old | new
        · exact Or.inl old
        · exact Or.inr (List.mem_singleton.mp new ▸ fresh.1)
  | sent | sendRaised =>
      cases position with
      | send stage => exact .quiet ⟨rfl, rfl, rfl⟩ rfl (by simp) (single stage.current rfl)
      | rest rests => cases rests
  | failSent =>
      cases position with
      | failSend stage => exact .quiet ⟨rfl, rfl, rfl⟩ rfl (by simp) (single stage.current (cancel stage.current))
      | rest rests => cases rests
  | exitSent =>
      cases position with
      | exitSend stage => exact .quiet ⟨rfl, rfl, rfl⟩ rfl (by simp) (single stage.current (cancel stage.current))
      | rest rests => cases rests
  | closeSent =>
      cases position with
      | closeSend stage => exact .quiet ⟨rfl, rfl, rfl⟩ rfl (by simp) (single stage.current (cancel stage.current))
      | rest rests => cases rests
  | @prepared _ ack opened answer accepted leased =>
      refine ⟨fun requestId current _ => Or.inl ⟨current, rfl⟩, fun requestId other learning => ?_,
        fun _ _ _ found => Or.inl found, by simp [controlsOf], fun _ member => Or.inl member⟩
      obtain ⟨rfl, rfl⟩ := Pc.enterLearn.inj learning
      exact Or.inr ⟨answer, accepted⟩
  | @learned _ ack =>
      refine ⟨fun requestId current _ => Or.inr ⟨ack, ?_, rfl⟩, by simp, fun _ _ _ found => Or.inl found,
        by simp [controlsOf], fun _ member => Or.inl member⟩
      cases position with
      | learn stage =>
          obtain rfl := Option.some.inj (stage.current.symm.trans current)
          rfl
      | rest rests => cases rests
  | failClaimed claimed | exitClaimed claimed =>
      obtain ⟨_, _, _, rfl⟩ := ExternalController.claimCancel_some claimed
      exact .quiet ⟨rfl, rfl, rfl⟩ rfl (by simp) (by simp [controlsOf])
  | closedQuietly quiet =>
      obtain ⟨_, rfl⟩ := ExternalController.closeSection_none quiet
      exact .quiet ⟨rfl, rfl, rfl⟩ rfl (by simp) (by simp [controlsOf])
  | closedClaimed claims =>
      obtain ⟨_, _, _, _, rfl⟩ := ExternalController.closeSection_some claims
      exact .quiet ⟨rfl, rfl, rfl⟩ rfl (by simp) (by simp [controlsOf])
  | built published =>
      obtain ⟨_, _, session, _, _, _, _, changed, _, _, rfl⟩ := ExternalController.publishSection_ok published
      obtain ⟨request, lease, _, _, acks, _⟩ := ExternalController.publishSession_kept changed
      exact .quiet ⟨request, lease, acks⟩ rfl (by simp) (by simp [controlsOf])
  | cleared =>
      exact ⟨fun _ current => absurd current (by simp [ExternalController.clearSession]), by simp,
        fun _ _ _ found => Or.inl found, by simp [controlsOf], fun _ member => Or.inl member⟩
  | _ => exact .quiet ⟨rfl, rfl, rfl⟩ rfl (by simp) (by simp [controlsOf])

/-- An acknowledgement that arrives is the only one that a controller adds. -/
theorem lookupAck_onAck {c : ExternalController} {arrived ack : ControlAck} {requestId : String}
    {operation : ControlOperation} (found : (c.onAck arrived).lookupAck requestId operation = some ack) :
    c.lookupAck requestId operation = some ack ∨
      some arrived = some ack ∧ ack.requestId = requestId ∧ ack.operation = operation := by
  unfold ExternalController.onAck at found
  split at found
  · exact Or.inl found
  · rw [ExternalController.lookupAck, List.lookup_append, Option.or_eq_some_iff] at found
    rcases found with old | ⟨_, new⟩
    · exact Or.inl old
    · by_cases same : (requestId, operation) = (arrived.requestId, arrived.operation)
      · obtain ⟨rfl, rfl⟩ := Prod.mk.inj same
        rw [List.lookup_cons_self] at new
        obtain rfl := Option.some.inj new
        exact Or.inr ⟨rfl, rfl, rfl⟩
      · rw [List.lookup_cons, beq_false_of_ne same] at new
        cases new

/-- A signal moves no lease, and it adds at most the acknowledgement that arrives. -/
theorem signal_leaseFlow (host : Host) (pc : Pc) (signal : Signal) :
    LeaseFlow (arrivedAck (.signal signal)) host pc (host.react signal).2 (host.react signal).1 pc := by
  cases signal with
  | status status =>
      have kept := host.controller.onStatus_kept status
      exact .quiet ⟨kept.1, kept.2.1, kept.2.2.2.1⟩ rfl (fun _ _ learning => learning)
        (by simp [Host.react, controlsOf])
  | ack ack =>
      have kept := host.controller.onAck_kept ack
      refine ⟨fun requestId current _ => Or.inl ⟨kept.1.symm.trans current, kept.2.1⟩,
        fun _ _ learning => Or.inl learning, fun requestId operation asked found => lookupAck_onAck found,
        by simp [Host.react, controlsOf], fun _ member => Or.inl member⟩

/-- A move of the only thread or a signal keeps the handshake and moves leases in these ways. -/
theorem pool_leaseFlow {pool next : Pool Unit Host Pc} {input : HostInput Unit}
    {log events : List Event} (held : Handshake log pool.shared (pool.threads ()))
    (accepted : (hostMachine Unit).step pool input = some (next, events)) :
    Handshake (log ++ events) next.shared (next.threads ()) ∧
      LeaseFlow (arrivedAck input) pool.shared (pool.threads ()) events next.shared (next.threads ()) := by
  cases Program.machine_cases accepted with
  | @call _ request ready =>
      obtain ⟨rests, shape⟩ := Handshake.startCall_cases request
      simp only [Function.update_self]
      refine ⟨held.act (.call ready request), .quiet ⟨rfl, rfl, rfl⟩ rfl ?_ ?_⟩
      · intro requestId ack learning
        rw [show (startCall request).1 = .enterLearn requestId ack from learning] at rests
        cases rests
      · rcases shape with one | ⟨method, error, _, two⟩
        · simp [program, one, controlsOf]
        · simp [program, two, controlsOf]
  | run stepped =>
      simp only [Function.update_self]
      exact ⟨held.act (.step stepped), handshake_leaseFlow held (step_cases stepped)⟩
  | signal signal => exact ⟨held.react signal, signal_leaseFlow pool.shared _ signal⟩

end HumanoidSdk.Controller
