import HumanoidSdk.Controller.Handshake

namespace HumanoidSdk.Controller
open Foundation

/-- With stamps that are not negative the order is lexicographic in stamp and sequence. -/
theorem statusIsNewer_iff {status previous : ControlStatus} (first : 0 ≤ status.stampMonotonicNs)
    (second : 0 ≤ previous.stampMonotonicNs) :
    statusIsNewer status (some previous) = true ↔
      previous.stampMonotonicNs < status.stampMonotonicNs ∨
        status.stampMonotonicNs = previous.stampMonotonicNs ∧ previous.statusSeq < status.statusSeq := by
  unfold statusIsNewer
  by_cases same : status.stampMonotonicNs = previous.stampMonotonicNs
  · simp [same]
  · have positive : status.stampMonotonicNs > 0 ∨ previous.stampMonotonicNs > 0 := by omega
    simp [same, positive]

theorem statusIsNewer_irrefl (status : ControlStatus) : statusIsNewer status (some status) = false := by
  simp [statusIsNewer]

theorem statusIsNewer_trans {status middle : ControlStatus} {previous : Option ControlStatus}
    (first : 0 ≤ status.stampMonotonicNs) (second : 0 ≤ middle.stampMonotonicNs)
    (third : ∀ cached, previous = some cached → 0 ≤ cached.stampMonotonicNs)
    (newer : statusIsNewer status (some middle) = true) (older : statusIsNewer middle previous = true) :
    statusIsNewer status previous = true := by
  cases previous with
  | none => rfl
  | some previous =>
      have last := third previous rfl
      rw [statusIsNewer_iff first second] at newer
      rw [statusIsNewer_iff second last] at older
      rw [statusIsNewer_iff first last]
      omega

theorem ExternalController.onStatus_cases (c : ExternalController) (status : ControlStatus) :
    (status.protocolVersion = PROTOCOL_VERSION ∧ c.closed = false ∧
      statusIsNewer status c.latestStatus = true ∧ (c.onStatus status).latestStatus = some status) ∨
    ((status.protocolVersion ≠ PROTOCOL_VERSION ∨ c.closed = true ∨
      statusIsNewer status c.latestStatus = false) ∧ (c.onStatus status).latestStatus = c.latestStatus) := by
  unfold onStatus
  split
  · rename_i ignored
    exact Or.inr ⟨ignored, rfl⟩
  · rename_i taken
    simp only [not_or, ne_eq, not_not, Bool.not_eq_true, Bool.not_eq_false] at taken
    exact Or.inl ⟨taken.1, taken.2.1, taken.2.2, rfl⟩

theorem Transition.latestStatus {host after : Host} {pc next : Pc} {events : List Event}
    (step : Transition host pc events after next) :
    after.controller.latestStatus = host.controller.latestStatus ∧
      (host.controller.closed = true → after.controller.closed = true) ∧
      ∀ status, .statusArrived status ∉ events := by
  cases step with
  | failClaimed claimed | exitClaimed claimed =>
      obtain ⟨_, _, _, rfl⟩ := ExternalController.claimCancel_some claimed
      exact ⟨rfl, id, by simp⟩
  | built published =>
      obtain ⟨_, _, session, _, _, _, _, changed, _, _, rfl⟩ :=
        ExternalController.publishSection_ok published
      have kept := ExternalController.publishSession_kept changed
      exact ⟨kept.2.2.2.1, fun closed => kept.2.2.2.2.2.2.2.trans closed, by simp⟩
  | closedQuietly quiet =>
      obtain ⟨_, rfl⟩ := ExternalController.closeSection_none quiet
      exact ⟨rfl, fun _ => rfl, by simp⟩
  | closedClaimed claims =>
      obtain ⟨_, _, _, _, rfl⟩ := ExternalController.closeSection_some claims
      exact ⟨rfl, fun _ => rfl, by simp⟩
  | began opened => exact ⟨rfl, id, by simp⟩
  | _ => exact ⟨rfl, id, by simp⟩

section Cache

variable {Thread : Type*} [DecidableEq Thread]

/-- A status arrives and goes through the cache, or nothing about statuses happens. -/
theorem pool_status {pool next : Pool Thread Host Pc} {input : HostInput Thread} {events : List Event}
    (accepted : (hostMachine Thread).step pool input = some (next, events)) :
    (∃ status, events = [.statusArrived status] ∧ next.threads = pool.threads ∧
      next.shared = { pool.shared with controller := pool.shared.controller.onStatus status }) ∨
    (next.shared.controller.latestStatus = pool.shared.controller.latestStatus ∧
      (pool.shared.controller.closed = true → next.shared.controller.closed = true) ∧
      ∀ status, .statusArrived status ∉ events) := by
  cases Program.machine_cases accepted with
  | @call thread request ready =>
      refine Or.inr ⟨rfl, id, ?_⟩
      rcases (Handshake.startCall_cases request).2 with one | ⟨method, error, _, two⟩
      · simp [program, one]
      · simp [program, two]
  | run stepped => exact Or.inr (step_cases stepped).latestStatus
  | signal signal =>
      cases signal with
      | ack ack => exact Or.inr (by simp [program, Host.react])
      | status status => exact Or.inl ⟨status, rfl, rfl, rfl⟩

/-- A cached status was cached before the move or has just been delivered. -/
theorem pool_latest {pool next : Pool Thread Host Pc} {input : HostInput Thread} {events : List Event}
    (accepted : (hostMachine Thread).step pool input = some (next, events)) {status : ControlStatus}
    (cached : next.shared.controller.latestStatus = some status) :
    pool.shared.controller.latestStatus = some status ∨ input = .signal (.status status) := by
  cases Program.machine_cases accepted with
  | call ready => exact Or.inl cached
  | run stepped => exact Or.inl ((step_cases stepped).latestStatus.1 ▸ cached)
  | signal signal =>
      cases signal with
      | ack ack => exact Or.inl (by simpa [program, Host.react] using cached)
      | status arrived =>
          rcases pool.shared.controller.onStatus_cases arrived with ⟨_, _, _, taken⟩ | ⟨_, kept⟩
          · obtain rfl := Option.some.inj (taken.symm.trans cached)
            exact Or.inr rfl
          · exact Or.inl (kept ▸ cached)

/-- A closed controller never opens again. -/
theorem pool_closed {pool next : Pool Thread Host Pc} {input : HostInput Thread} {events : List Event}
    (accepted : (hostMachine Thread).step pool input = some (next, events))
    (opened : next.shared.controller.closed = false) : pool.shared.controller.closed = false := by
  by_contra closed
  have shut : pool.shared.controller.closed = true := by simpa using closed
  rcases pool_status accepted with ⟨status, _, _, same⟩ | ⟨_, kept, _⟩
  · simp [same, shut] at opened
  · exact absurd (opened.symm.trans (kept shut)) (by simp)

/-- While the controller is open, its cached status is the old one or a newer one that arrived. -/
theorem cache_run {start final : Pool Thread Host Pc} {moves : List (HostMove Thread)}
    (run : (hostMachine Thread).Run start moves final)
    (opened : final.shared.controller.closed = false)
    (stamped : ∀ status, .statusArrived status ∈ trace moves → 0 ≤ status.stampMonotonicNs)
    (cached : ∀ status, start.shared.controller.latestStatus = some status → 0 ≤ status.stampMonotonicNs) :
    (final.shared.controller.latestStatus = start.shared.controller.latestStatus ∧
      ∀ status, .statusArrived status ∈ trace moves → status.protocolVersion = PROTOCOL_VERSION →
        statusIsNewer status start.shared.controller.latestStatus = false) ∨
    ∃ status, final.shared.controller.latestStatus = some status ∧ .statusArrived status ∈ trace moves ∧
      status.protocolVersion = PROTOCOL_VERSION ∧
      statusIsNewer status start.shared.controller.latestStatus = true := by
  induction run with
  | nil => exact Or.inl ⟨rfl, by simp⟩
  | @snoc moves pool next input events earlier accepted ih =>
      have before := ih (pool_closed accepted opened) fun status member =>
        stamped status (by simp [member])
      have old {status : ControlStatus} (member : .statusArrived status ∈ trace moves) :
          .statusArrived status ∈ trace (moves ++ [⟨pool, input, next, events⟩]) := by simp [member]
      rcases pool_status accepted with ⟨status, rfl, _, same⟩ | ⟨kept, _, none⟩
      · have last : .statusArrived status ∈
            trace (moves ++ [⟨pool, input, next, [.statusArrived status]⟩]) := by simp
        have cases' := pool.shared.controller.onStatus_cases status
        rw [same]
        rcases cases' with ⟨version, _, newer, taken⟩ | ⟨ignored, kept⟩
        · refine Or.inr ⟨status, taken, last, version, ?_⟩
          rcases before with ⟨unchanged, _⟩ | ⟨middle, now, arrived, _, older⟩
          · exact unchanged ▸ newer
          · exact statusIsNewer_trans (stamped _ last) (stamped _ (old arrived)) cached
              (now ▸ newer) older
        · rcases before with ⟨unchanged, quiet⟩ | ⟨middle, now, arrived, version, older⟩
          · refine Or.inl ⟨kept.trans unchanged, fun other member version => ?_⟩
            simp only [trace_append, trace_cons, trace_nil, List.append_nil, List.mem_append,
              List.mem_singleton, Event.statusArrived.injEq] at member
            rcases member with past | rfl
            · exact quiet other past version
            · have stays := ignored.resolve_left (not_not.mpr version)
              have open' := pool_closed accepted opened
              exact unchanged ▸ stays.resolve_left (by simp [open'])
          · exact Or.inr ⟨middle, kept.trans now, old arrived, version, older⟩
      · rcases before with ⟨unchanged, quiet⟩ | ⟨middle, now, arrived, version, older⟩
        · refine Or.inl ⟨kept.trans unchanged, fun other member version => ?_⟩
          simp only [trace_append, trace_cons, trace_nil, List.append_nil, List.mem_append] at member
          exact quiet other (member.resolve_right (none other)) version
        · exact Or.inr ⟨middle, kept.trans now, old arrived, version, older⟩

/-- A cached status has arrived before. -/
theorem cached_arrived {clientId : String} {moves : List (HostMove Thread)} {final : Pool Thread Host Pc}
    (run : (hostMachine Thread).Run (freshPool Thread clientId) moves final) :
    ∀ status, final.shared.controller.latestStatus = some status → .statusArrived status ∈ trace moves := by
  induction run with
  | nil => simp [freshPool, Host.fresh]
  | @snoc moves pool next input events earlier accepted ih =>
      intro status cached
      rw [trace_append, trace_cons, trace_nil, List.append_nil, List.mem_append]
      rcases pool_status accepted with ⟨arrived, rfl, _, same⟩ | ⟨kept, _, _⟩
      · rw [same] at cached
        rcases pool.shared.controller.onStatus_cases arrived with ⟨_, _, _, taken⟩ | ⟨_, kept⟩
        · exact Or.inr (by simpa using Option.some.inj (cached.symm.trans taken))
        · exact Or.inl (ih status (kept ▸ cached))
      · exact Or.inl (ih status (kept ▸ cached))

end Cache

end HumanoidSdk.Controller
