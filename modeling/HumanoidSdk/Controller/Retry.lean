import HumanoidSdk.Controller.Handshake

namespace HumanoidSdk.Controller
open Foundation

/-- The rejection answers a CANCEL of this identity. -/
def rejectsCancel (requestId : String) : Event → Bool
  | .ackArrived ack => ack.requestId = requestId && ack.operation = .CANCEL && !ack.accepted
  | _ => false

/-- Every CANCEL attempt for this identity raised in the transport or was rejected afterwards. -/
def cancelsFailed (requestId : String) : List Event → Bool
  | [] => true
  | event :: later =>
      (match event with
        | .handed (.control request) raised =>
            request.requestId ≠ some requestId || request.operation ≠ .CANCEL || raised ||
              later.any (rejectsCancel requestId)
        | _ => true) && cancelsFailed requestId later

/-- An operation of this identity was handed to the transport. -/
def Handed (operation : ControlOperation) (requestId : String) (log : List Event) : Prop :=
  operation ∈ (requestsFor requestId log).map Prod.fst

instance (operation : ControlOperation) (requestId : String) (log : List Event) :
    Decidable (Handed operation requestId log) := inferInstanceAs (Decidable (_ ∈ _))

/-- A call of `exit_external` or `close` that passes its timeout check. -/
def Call.releases : Call → Bool
  | .exitExternal timeout => deadlineError timeout = none
  | .close => true
  | _ => false

/-- A completed release call for the current request, whose PREPARE was handed over and whose
CANCEL attempts all failed. -/
structure RetryCall (moves earlier : List (HostMove Unit)) (start : HostMove Unit)
    (during later : List (HostMove Unit)) (requestId : String) : Prop where
  cut : moves = earlier ++ start :: (during ++ later)
  called : ∃ request : Call, start.input = .call () request ∧ request.releases = true
  only : ∀ move ∈ during, ∀ request, move.input ≠ .call () request
  returned : ∃ method outcome, .finished method outcome ∈ trace during
  current : start.before.shared.controller.requestId = some requestId
  prepared : Handed .PREPARE requestId (trace earlier)
  failed : cancelsFailed requestId (trace earlier) = true

/-- A release call that still has its CANCEL to send hands it over before it ends. -/
inductive Releasing (requestId : String) (log : List Event) (c : ExternalController) : Pc → Prop
  | start {pc : Pc} (start : pc = .exitStart ∨ pc = .closeStart ∨ pc = .exitCancel requestId)
      (running : ∀ method outcome, .finished method outcome ∉ log)
      (current : c.requestId = some requestId) (unsent : c.cancelSent = false)
      (opened : c.closed = false) : Releasing requestId log c pc
  | send {pc : Pc} {cancel : ControlRequest}
      (send : pc = .exitCancelSend requestId cancel ∨ pc = .closeSend cancel)
      (running : ∀ method outcome, .finished method outcome ∉ log)
      (request : cancel.requestId = some requestId ∧ cancel.operation = .CANCEL) :
      Releasing requestId log c pc
  | handed {pc : Pc} (handed : Handed .CANCEL requestId log) : Releasing requestId log c pc

theorem Handed.append {operation : ControlOperation} {requestId : String} {first : List Event}
    (handed : Handed operation requestId first) (second : List Event) :
    Handed operation requestId (first ++ second) := by
  unfold Handed at *
  rw [requestsFor_append, List.map_append]
  exact List.mem_append_left _ handed

theorem Handed.now {request : ControlRequest} {requestId : String}
    (identity : request.requestId = some requestId) (log rest : List Event) (raised : Bool) :
    Handed request.operation requestId (log ++ .handed (.control request) raised :: rest) := by
  simp [Handed, requestsFor, requestFrom, identity]

theorem Releasing.transition {requestId : String} {log events : List Event} {host after : Host}
    {pc next : Pc} (held : Releasing requestId log host.controller pc)
    (step : Transition host pc events after next) :
    Releasing requestId (log ++ events) after.controller next := by
  cases held with
  | handed handed => exact .handed (handed.append events)
  | send send running request =>
      rcases send with rfl | rfl
      · cases step with
        | refused refuses => cases refuses
        | failed may => cases may
        | exitSent => exact .handed (request.2 ▸ Handed.now request.1 log [] _)
      · cases step with
        | refused refuses => cases refuses
        | failed may => cases may
        | closeSent => exact .handed (request.2 ▸ Handed.now request.1 log _ _)
  | start start running current unsent opened =>
      have claim : host.controller.claimCancel ≠ none := by
        intro skipped
        rcases ExternalController.claimCancel_none skipped with missing | sent
        · exact absurd (current.symm.trans missing) (by simp)
        · exact absurd (unsent.symm.trans sent) (by simp)
      have request : (host.controller.request .CANCEL).requestId = some requestId ∧
          (host.controller.request .CANCEL).operation = .CANCEL := ⟨current, rfl⟩
      have still : ∀ method outcome, Event.finished method outcome ∉ log ++ [] := by simpa using running
      rcases start with rfl | rfl | rfl
      · cases step with
        | refused refuses because =>
            exact absurd (because.symm.trans (ExternalController.exitSection_open opened current)) (by simp)
        | failed may => cases may
        | exitStarted opened same =>
            obtain rfl := Option.some.inj (current.symm.trans same)
            exact .start (Or.inr (Or.inr rfl)) still current unsent opened
      · cases step with
        | refused refuses => cases refuses
        | failed may => cases may
        | closedQuietly quiet =>
            obtain ⟨reason, _⟩ := ExternalController.closeSection_none quiet
            simp [opened, current, unsent] at reason
        | closedClaimed claims =>
            obtain ⟨_, _, _, rfl, rfl⟩ := ExternalController.closeSection_some claims
            exact .send (Or.inr rfl) still request
      · cases step with
        | refused refuses => cases refuses
        | failed may => cases may
        | exitSkipped skipped => exact absurd skipped claim
        | exitClaimed claimed =>
            obtain ⟨_, _, rfl, rfl⟩ := ExternalController.claimCancel_some claimed
            exact .send (Or.inl rfl) still request

theorem Releasing.kept {requestId : String} {log events : List Event} {c c' : ExternalController}
    {pc : Pc} (held : Releasing requestId log c pc)
    (same : c'.requestId = c.requestId ∧ c'.cancelSent = c.cancelSent ∧ c'.closed = c.closed)
    (quiet : ∀ method outcome, .finished method outcome ∉ events) :
    Releasing requestId (log ++ events) c' pc := by
  have still (running : ∀ method outcome, .finished method outcome ∉ log) :
      ∀ method outcome, .finished method outcome ∉ log ++ events := by
    intro method outcome member
    exact (List.mem_append.mp member).elim (running method outcome) (quiet method outcome)
  cases held with
  | start start running current unsent opened =>
      exact .start start (still running) (same.1.trans current) (same.2.1.trans unsent)
        (same.2.2.trans opened)
  | send send running request => exact .send send (still running) request
  | handed handed => exact .handed (handed.append events)

/-- The rest of a release call keeps its obligation to hand over the CANCEL. -/
theorem releasing_run {requestId : String} {during : List (HostMove Unit)}
    {start final : Pool Unit Host Pc} (run : (hostMachine Unit).Run start during final)
    (only : ∀ move ∈ during, ∀ request, move.input ≠ .call () request)
    (held : Releasing requestId [] start.shared.controller (start.threads ())) :
    Releasing requestId (trace during) final.shared.controller (final.threads ()) := by
  refine run.invariant (fun moves pool => (∀ move ∈ moves, ∀ request, move.input ≠ .call () request) →
    Releasing requestId (trace moves) pool.shared.controller (pool.threads ())) ?_ ?_ only
  · exact fun _ => held
  intro moves pool input next events _ ih accepted only
  have before := ih fun move member => only move (List.mem_append_left _ member)
  have last := only ⟨pool, input, next, events⟩ (by simp)
  cases Program.machine_cases accepted with
  | call ready => exact absurd rfl (last _)
  | run stepped => simpa using before.transition (step_cases stepped)
  | signal signal =>
      cases signal with
      | ack ack | status status =>
          simpa [program, Host.react] using before.kept (by simp) (by simp)

/-- The request at rest has its CANCEL handed over exactly when the flag says so. -/
theorem Handshake.handed_cancel {log : List Event} {host : Host} {requestId : String}
    (held : Handshake log host .idle) (current : host.controller.requestId = some requestId) :
    Handed .CANCEL requestId log ↔ host.controller.cancelSent = true := by
  have position := held.position
  cases position with
  | rest _ stage =>
      obtain ⟨progress, now⟩ := stage requestId current
      have count := now.formed.cancel_count
      unfold Handed
      rw [← List.count_pos_iff, count]
      cases host.controller.cancelSent <;> simp

theorem settled_run {clientId : String} {Thread : Type*} [DecidableEq Thread]
    {moves : List (HostMove Thread)} {final : Pool Thread Host Pc}
    (run : (hostMachine Thread).Run (freshPool Thread clientId) moves final) :
    final.shared.controller.Settled := by
  refine run.stateInvariant (fun pool => pool.shared.controller.Settled) ?_ ?_
  · exact fun closed => absurd closed (by simp [freshPool, Host.fresh])
  · intro pool input next events settled accepted
    cases Program.machine_cases accepted with
    | call ready => exact settled
    | run stepped => exact (step_cases stepped).settled settled
    | signal signal =>
        cases signal with
        | ack ack | status status => simpa [program, Host.react, ExternalController.Settled] using settled

/-- A release call after failed CANCEL attempts hands a CANCEL over again exactly when no attempt
was made before. -/
theorem cancel_retried {clientId requestId : String} {moves earlier during later : List (HostMove Unit)}
    {start : HostMove Unit} {final : Pool Unit Host Pc}
    (run : (hostMachine Unit).Run (freshPool Unit clientId) moves final)
    (release : RetryCall moves earlier start during later requestId) :
    Handed .CANCEL requestId (trace during) ↔ ¬ Handed .CANCEL requestId (trace earlier) := by
  obtain ⟨before, accepted, rest⟩ := run.at_move release.cut
  obtain ⟨middle, window, _⟩ := rest.split during later rfl
  obtain ⟨request, called, releases⟩ := release.called
  have step := Program.machine_cases accepted
  rw [called] at step
  have handshake := Handshake.run before
  generalize startEvents : start.events = events at step
  generalize startAfter : start.after = after at step window
  cases step with
  | call ready =>
  have idle : start.before.threads () = .idle := of_decide_eq_true ready
  rw [idle] at handshake
  have attempted := handshake.handed_cancel release.current
  constructor
  · intro again old
    obtain ⟨_, whole, _⟩ := run.split (earlier ++ start :: during) later (by simp [release.cut])
    obtain ⟨progress, leaseId, cancelled, formed⟩ := (Handshake.run whole).formed requestId
    have once := formed.cancel_count
    have first : 0 < ((requestsFor requestId (trace earlier)).map Prod.fst).count .CANCEL :=
      List.count_pos_iff.mpr old
    have second : 0 < ((requestsFor requestId (trace during)).map Prod.fst).count .CANCEL :=
      List.count_pos_iff.mpr again
    simp only [trace_append, trace_cons, requestsFor_append, List.map_append, List.count_append] at once
    split at once <;> omega
  · intro untried
    have unsent : start.before.shared.controller.cancelSent = false := by
      simpa using fun sent => untried (attempted.mpr sent)
    have opened : start.before.shared.controller.closed = false := by
      by_contra closed
      rcases settled_run before (by simpa using closed) with missing | sent
      · exact absurd (release.current.symm.trans missing) (by simp)
      · exact absurd (unsent.symm.trans sent) (by simp)
    have begins : (program.call request).1 = .exitStart ∨ (program.call request).1 = .closeStart := by
      cases request with
      | exitExternal timeout =>
          have valid : deadlineError timeout = none := by simpa [Call.releases] using releases
          exact Or.inl (by simp [program, startCall, valid])
      | close => exact Or.inr rfl
      | enterExternal | publish | getRobotInfo => cases releases
    have held : Releasing requestId [] start.before.shared.controller (program.call request).1 :=
      .start (begins.imp_right Or.inl) (by simp) release.current unsent opened
    have ended := releasing_run window release.only (by simpa using held)
    obtain ⟨method, outcome, finished⟩ := release.returned
    cases ended with
    | start _ running | send _ running => exact absurd finished (running method outcome)
    | handed handed => exact handed

/-- A replay that calls a release method at this position and lets it return contains a retry. -/
theorem RetryCall.at_index {moves : List (HostMove Unit)} {inputs : List (HostInput Unit)}
    {requestId : String} {request : Call} (count : Nat) (same : moves.map Move.input = inputs)
    (called : inputs[count]? = some (.call () request)) (releases : request.releases = true)
    (only : ∀ input ∈ inputs.drop (count + 1), ∀ request, input ≠ .call () request)
    (current : moves[count]?.map (fun move => move.before.shared.controller.requestId) =
      some (some requestId))
    (prepared : Handed .PREPARE requestId (trace (moves.take count)))
    (failed : cancelsFailed requestId (trace (moves.take count)) = true)
    (returned : ∃ method outcome, .finished method outcome ∈ trace (moves.drop (count + 1))) :
    ∃ start, RetryCall moves (moves.take count) start (moves.drop (count + 1)) [] requestId := by
  obtain ⟨start, present, identity⟩ := Option.map_eq_some_iff.mp current
  obtain ⟨inside, rfl⟩ := List.getElem?_eq_some_iff.mp present
  refine ⟨moves[count], ?_, ⟨request, ?_, releases⟩, ?_, returned, identity, prepared, failed⟩
  · rw [List.append_nil, List.getElem_cons_drop, List.take_append_drop]
  · rw [← same, List.getElem?_map, present] at called
    exact Option.some.inj called
  · intro move member
    refine only move.input ?_
    rw [← same, ← List.map_drop]
    exact List.mem_map_of_mem member

/-- The exit after a successful entry hands over the first CANCEL. -/
theorem cancel_retried_entered :
    ∃ moves final earlier start during, (hostMachine Unit).Run (freshPool Unit "client") moves final ∧
      RetryCall moves earlier start during [] "request" ∧ Handed .CANCEL "request" (trace during) := by
  obtain ⟨moves, final, run, inputs, current, prepared, failed, untried, returned⟩ :=
    (hostMachine Unit).exists_run (freshPool Unit "client")
      (enteredInputs ++ [.call () (.exitExternal (.int 5))] ++ runs 3 ++ [.run () { expired := true }])
      (fun moves _ =>
        moves[19]?.map (fun move => move.before.shared.controller.requestId) = some (some "request") ∧
        Handed .PREPARE "request" (trace (moves.take 19)) ∧
        cancelsFailed "request" (trace (moves.take 19)) = true ∧
        ¬ Handed .CANCEL "request" (trace (moves.take 19)) ∧
        .finished .exitExternal (.raised ⟨.externalControlTimeout,
          "timed out waiting for CANCEL acknowledgement"⟩) ∈ trace (moves.drop 20)) (by decide +kernel)
  obtain ⟨start, release⟩ := RetryCall.at_index 19 inputs rfl (by decide +kernel)
    (by simp [enteredInputs, commitInputs, prepareInputs, runs, answerInput]) current prepared failed
    ⟨_, _, returned⟩
  exact ⟨moves, final, _, start, _, run, release, (cancel_retried run release).mpr untried⟩

/-- The robot rejects PREPARE, the CANCEL of the failed entry raises in the transport, and the next
exit sends no CANCEL again. -/
theorem cancel_retried_lost :
    ∃ moves final earlier start during, (hostMachine Unit).Run (freshPool Unit "client") moves final ∧
      RetryCall moves earlier start during [] "request" ∧ ¬ Handed .CANCEL "request" (trace during) := by
  obtain ⟨moves, final, run, inputs, current, prepared, failed, missing, returned⟩ :=
    (hostMachine Unit).exists_run (freshPool Unit "client")
      (prepareInputs ++ [answerInput .PREPARE false ""] ++ runs 2 ++ [.run () { raises := some "down" },
        .call () (.exitExternal (.int 5))] ++ runs 2 ++ [.run () { expired := true }])
      (fun moves _ =>
        moves[10]?.map (fun move => move.before.shared.controller.requestId) = some (some "request") ∧
        Handed .PREPARE "request" (trace (moves.take 10)) ∧
        cancelsFailed "request" (trace (moves.take 10)) = true ∧
        ¬ Handed .CANCEL "request" (trace (moves.drop 11)) ∧
        .finished .exitExternal (.raised ⟨.externalControlTimeout,
          "timed out waiting for CANCEL acknowledgement"⟩) ∈ trace (moves.drop 11)) (by decide +kernel)
  obtain ⟨start, release⟩ := RetryCall.at_index 10 inputs rfl (by decide +kernel)
    (by simp [prepareInputs, runs, answerInput]) current prepared failed ⟨_, _, returned⟩
  exact ⟨moves, final, _, start, _, run, release, missing⟩

end HumanoidSdk.Controller
