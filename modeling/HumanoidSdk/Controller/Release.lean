import HumanoidSdk.Controller.Output

namespace HumanoidSdk.Controller
open Foundation

/-- The history tells whether the present entry attempted its PREPARE and whether output must have
stopped. -/
structure ReleaseState where
  attempted : Bool := false
  released : Bool := false

/-- A failed entry and a CANCEL release the robot, and a successful entry takes it back. -/
def ReleaseState.advance (state : ReleaseState) : Event → ReleaseState
  | .called (.enterExternal _) => { state with attempted := false }
  | .handed (.control request) _ =>
      match request.operation with
      | .PREPARE => { state with attempted := true }
      | .COMMIT => state
      | .CANCEL => { state with released := true }
  | .finished .enterExternal (.raised _) => { state with released := state.released || state.attempted }
  | .finished .enterExternal (.status _) => { state with released := false }
  | _ => state

def released (log : List Event) : Bool := (log.foldl ReleaseState.advance {}).released

theorem released_append (log events : List Event)
    (kept : ∀ state : ReleaseState, (events.foldl ReleaseState.advance state).released = state.released) :
    released (log ++ events) = released log := by
  rw [released, List.foldl_append, kept, released]

namespace ExternalController

variable {c next : ExternalController}

/-- The cached status is RUNNING or TIMEOUT_HOLD of the client and of the lease it has learned. -/
def OwnsLiveStatus (c : ExternalController) : Prop :=
  ∃ status, c.latestStatus = some status ∧ c.requestId ≠ none ∧ c.leaseId ≠ "" ∧
    status.currentAction = "EXTERNAL" ∧ status.clientId = c.clientId ∧ status.leaseId = c.leaseId ∧
    (status.phase = .RUNNING ∧ validGeneration status.generation = true ∨
      status.phase = .TIMEOUT_HOLD ∧ status.generation = c.externalSessionId)

theorem statusAllowsPublish_iff (status : ControlStatus) :
    c.statusAllowsPublish (some status) = true ↔ c.requestId ≠ none ∧ c.leaseId ≠ "" ∧
      status.currentAction = "EXTERNAL" ∧ (status.phase = .RUNNING ∨ status.phase = .TIMEOUT_HOLD) ∧
      status.clientId = c.clientId ∧ status.leaseId = c.leaseId := by
  simp [statusAllowsPublish, Option.isSome_iff_ne_none, and_assoc]

/-- The session step accepts a valid RUNNING generation and the learned TIMEOUT_HOLD generation. -/
theorem publishSession_accepts (status : ControlStatus) :
    (∃ session, c.publishSession status = .ok session) ↔
      status.phase = .RUNNING ∧ validGeneration status.generation = true ∨
        status.phase ≠ .RUNNING ∧ status.generation = c.externalSessionId := by
  unfold publishSession
  by_cases running : status.phase = .RUNNING
  · rw [if_pos running]
    cases valid : validGeneration status.generation with
    | false => simp [running]
    | true =>
        rw [if_neg (by simp)]
        refine iff_of_true ?_ (Or.inl ⟨running, rfl⟩)
        split
        · exact ⟨_, rfl⟩
        · exact ⟨_, rfl⟩
  · rw [if_neg running]
    by_cases same : status.generation = c.externalSessionId
    · simp [running, same]
    · simp [running, same]

theorem publishSession_error {status : ControlStatus} {error : PyError}
    (refused : c.publishSession status = .error error) : error.kind = .notRunning := by
  unfold publishSession at refused
  split at refused <;> split at refused
  · exact Except.error.inj refused ▸ rfl
  · split at refused <;> cases refused
  · exact Except.error.inj refused ▸ rfl
  · cases refused

/-- An open controller answers a valid command with NotRunningError unless it owns a live status. -/
theorem publishSection_notRunning {command : Option BodyCmd} {checked : BodyCmd} (createdUs sendUs : ℤ)
    (opened : c.closed = false) (valid : validateCommand command c.population = .ok checked) :
    (∃ error, c.publishSection command createdUs sendUs = .error error ∧ error.kind = .notRunning) ↔
      ¬ c.OwnsLiveStatus := by
  have open' := c.ensureOpen_ok.mpr opened
  unfold publishSection
  cases cached : c.latestStatus.filter fun status => c.statusAllowsPublish (some status) with
  | none =>
      refine iff_of_true ?_ ?_
      · exact ⟨_, by simp [open', valid, bind, Except.bind]; rfl, rfl⟩
      · rintro ⟨status, latest, request, lease, action, client, owned, phase⟩
        have allowed : c.statusAllowsPublish (some status) = true :=
          (statusAllowsPublish_iff status).mpr
            ⟨request, lease, action, phase.imp And.left And.left, client, owned⟩
        simp [latest, allowed] at cached
  | some status =>
      obtain ⟨latest, allowed⟩ := Option.filter_eq_some_iff.mp cached
      obtain ⟨request, lease, action, phases, client, owned⟩ := (statusAllowsPublish_iff status).mp allowed
      have accepts := publishSession_accepts (c := c) status
      cases session : c.publishSession status with
      | error error =>
          refine iff_of_true ⟨error, ?_, publishSession_error session⟩ ?_
          · simp [open', valid, session, bind, Except.bind]
          · rintro ⟨other, same, _, _, _, _, _, live⟩
            obtain rfl := Option.some.inj (latest.symm.trans same)
            have none := mt accepts.mpr (by simp [session])
            exact none (live.imp id fun hold => ⟨by simp [hold.1], hold.2⟩)
      | ok next =>
          refine iff_of_false ?_ (not_not.mpr ?_)
          · rintro ⟨error, refused, kind⟩
            by_cases exhausted : next.nextExternalSequence > MAX_UINT64
            · simp [open', valid, session, exhausted, bind, Except.bind] at refused
              exact absurd (refused ▸ kind) (by simp)
            · simp [open', valid, session, exhausted, bind, Except.bind, pure, Except.pure] at refused
          · refine ⟨status, latest, request, lease, action, client, owned, ?_⟩
            have live := accepts.mp ⟨next, session⟩
            exact live.imp id fun hold => ⟨phases.resolve_left hold.1, hold.2⟩

/-- A built command had a live status of its owner in the cache. -/
theorem publishSection_owns {command : Option BodyCmd} {createdUs sendUs : ℤ} {built : BodyCmd}
    (published : c.publishSection command createdUs sendUs = .ok (built, next)) : c.OwnsLiveStatus := by
  obtain ⟨checked, status, session, opened, valid, _⟩ := publishSection_ok published
  by_contra dead
  obtain ⟨error, refused, _⟩ := (publishSection_notRunning createdUs sendUs opened valid).mpr dead
  exact absurd (published.symm.trans refused) (by simp)

end ExternalController

/-- The entry waits for a cached RUNNING status that it owns. -/
theorem ownedRunning {c : ExternalController} {before : Option ControlStatus} {status : ControlStatus}
    (owned : c.ownedRunningStatusAfter before = some status) :
    c.latestStatus = some status ∧ status.phase = .RUNNING ∧ c.statusAllowsPublish (some status) = true ∧
      statusIsNewer status before = true ∧ validGeneration status.generation = true := by
  obtain ⟨cached, test⟩ := Option.filter_eq_some_iff.mp owned
  simp only [Bool.and_eq_true, decide_eq_true_eq] at test
  exact ⟨cached, test.1.2, test.1.1.1, test.1.1.2, test.2⟩

/-- A step of a thread enters its publish section with a valid command. -/
def Publishes (move : HostMove Unit) : Prop :=
  ∃ command choice checked, move.input = .run () choice ∧
    move.before.threads () = .publishStart command ∧
    validateCommand command move.before.shared.controller.population = .ok checked

/-- While the robot is released every valid publish raises NotRunningError and no command leaves. -/
def OutputStopped (moves : List (HostMove Unit)) : Prop :=
  ∀ earlier move later, moves = earlier ++ move :: later → released (trace earlier) = true →
    (Publishes move → ∃ error, move.events = [.finished .publish (.raised error)] ∧
      error.kind = .notRunning) ∧
    ∀ command raised, .handed (.body command) raised ∉ move.events

/-- While the robot is released no valid publish finds a cached status that the controller owns. -/
def NeverLive (moves : List (HostMove Unit)) : Prop :=
  ∀ earlier move later, moves = earlier ++ move :: later → released (trace earlier) = true →
    Publishes move → ¬ move.before.shared.controller.OwnsLiveStatus

theorem NeverLive.earlier {first second : List (HostMove Unit)} (never : NeverLive (first ++ second)) :
    NeverLive first := by
  intro earlier move later cut
  exact never earlier move (later ++ second) (by simp [cut])

theorem Transition.open_kept {host after : Host} {pc next : Pc} {events : List Event}
    (step : Transition host pc events after next) (opened : host.controller.closed = false)
    (other : pc ≠ .closeStart) : after.controller.closed = false ∧ next ≠ .closeStart := by
  cases step with
  | failClaimed claimed | exitClaimed claimed =>
      obtain ⟨_, _, _, rfl⟩ := ExternalController.claimCancel_some claimed
      exact ⟨opened, by simp⟩
  | built published =>
      obtain ⟨_, _, session, _, _, _, _, changed, _, _, rfl⟩ :=
        ExternalController.publishSection_ok published
      have kept := ExternalController.publishSession_kept changed
      exact ⟨kept.2.2.2.2.2.2.2.trans opened, by simp⟩
  | closedQuietly | closedClaimed => exact absurd rfl other
  | _ => exact ⟨opened, by simp⟩

/-- Without a call of `close` the controller stays open. -/
theorem open_run {clientId : String} {moves : List (HostMove Unit)} {final : Pool Unit Host Pc}
    (run : (hostMachine Unit).Run (freshPool Unit clientId) moves final)
    (noClose : ∀ move ∈ moves, move.input ≠ .call () .close) :
    final.shared.controller.closed = false ∧ final.threads () ≠ .closeStart := by
  refine run.invariant (fun moves pool => (∀ move ∈ moves, move.input ≠ .call () .close) →
    pool.shared.controller.closed = false ∧ pool.threads () ≠ .closeStart) ?_ ?_ noClose
  · exact fun _ => ⟨rfl, by simp [freshPool]⟩
  · intro moves pool input next events _ ih accepted noClose
    obtain ⟨opened, other⟩ := ih fun move member => noClose move (List.mem_append_left _ member)
    have last := noClose ⟨pool, input, next, events⟩ (by simp)
    cases Program.machine_cases accepted with
    | @call thread request ready =>
        refine ⟨opened, ?_⟩
        simp only [Function.update_self]
        intro closing
        cases request with
        | close => exact last rfl
        | publish => cases closing
        | enterExternal timeout | exitExternal timeout | getRobotInfo timeout =>
            simp only [program, startCall] at closing
            split at closing <;> cases closing
    | run stepped => simpa using (step_cases stepped).open_kept opened other
    | signal signal =>
        cases signal with
        | ack ack | status status => simpa [program, Host.react] using ⟨opened, other⟩

/-- A publish section either raises or builds, and says so in its only event. -/
theorem publish_events {move : HostMove Unit} {choice : Choice} {command : Option BodyCmd}
    (accepted : (hostMachine Unit).step move.before move.input = some (move.after, move.events))
    (ran : move.input = .run () choice) (starts : move.before.threads () = .publishStart command) :
    (∃ error, move.before.shared.controller.publishSection command choice.createdUs choice.sendUs =
        .error error ∧ move.events = [.finished .publish (.raised error)]) ∨
      ∃ built next, move.before.shared.controller.publishSection command choice.createdUs choice.sendUs =
        .ok (built, next) ∧ move.events = [.built move.before.shared.controller.requestId
          move.before.shared.controller.leaseId built] := by
  have step := Program.machine_cases accepted
  rw [ran] at step
  generalize move.events = events at step
  generalize move.after = after at step
  cases step with
  | run stepped =>
      rw [starts] at stepped
      simp only [program, Host.step, publishStep] at stepped
      split at stepped
      · rename_i error refused
        simp only [Option.some.injEq, Prod.mk.injEq] at stepped
        exact Or.inl ⟨error, refused, stepped.2.2.symm⟩
      · rename_i built next published
        simp only [Option.some.injEq, Prod.mk.injEq] at stepped
        exact Or.inr ⟨built, next, published, stepped.2.2.symm⟩

/-- A command that waits for its hand-over was built while the robot was not released. -/
theorem unreleased_send {clientId : String} {moves : List (HostMove Unit)} {final : Pool Unit Host Pc}
    (run : (hostMachine Unit).Run (freshPool Unit clientId) moves final)
    (noClose : ∀ move ∈ moves, move.input ≠ .call () .close) (never : NeverLive moves) :
    ∀ command, final.threads () = .publishSend command → released (trace moves) = false := by
  refine run.invariant (fun moves pool => (∀ move ∈ moves, move.input ≠ .call () .close) →
    NeverLive moves → ∀ command, pool.threads () = .publishSend command →
      released (trace moves) = false) ?_ ?_ noClose never
  · exact fun _ _ command sending => absurd sending (by simp [freshPool])
  intro moves pool input next events earlier ih accepted noClose never command sending
  have closing : ∀ move ∈ moves, move.input ≠ .call () .close :=
    fun move member => noClose move (List.mem_append_left _ member)
  have before := ih closing never.earlier
  rw [trace_append, trace_cons, trace_nil, List.append_nil]
  cases Program.machine_cases accepted with
  | call ready =>
      simp only [Function.update_self] at sending
      exact absurd sending (startCall_ne_send _ _)
  | @run thread choice shared there _ stepped =>
      simp only [Function.update_self] at sending
      subst sending
      have transition := step_cases stepped
      generalize counter : pool.threads thread = pc at transition
      cases transition with
      | @built command createdUs sendUs command' _ published =>
          obtain ⟨checked, status, session, opened, valid, _⟩ :=
            ExternalController.publishSection_ok published
          have live := ExternalController.publishSection_owns published
          have stopped : released (trace moves) ≠ true := fun stopped =>
            never moves _ [] rfl stopped ⟨command, choice, checked, rfl, counter, valid⟩ live
          refine (released_append (trace moves) [.built _ _ _] fun _ => rfl).trans ?_
          simpa using stopped
  | signal signal =>
      have same : released (trace moves ++ (program.react pool.shared signal).2) = released (trace moves) := by
        cases signal with
        | ack | status => exact released_append _ _ fun _ => rfl
      exact same.trans (before command sending)

/-- In a run without `close` the output stops with every release exactly when no publish after a
release finds a live status that the controller still owns. -/
theorem output_stopped {clientId : String} {moves : List (HostMove Unit)} {final : Pool Unit Host Pc}
    (run : (hostMachine Unit).Run (freshPool Unit clientId) moves final)
    (noClose : ∀ move ∈ moves, move.input ≠ .call () .close) :
    OutputStopped moves ↔ NeverLive moves := by
  constructor
  · rintro stopped earlier move later cut release ⟨command, choice, checked, ran, starts, valid⟩
    obtain ⟨before, accepted, _⟩ := run.at_move cut
    obtain ⟨opened, _⟩ := open_run before fun move member => noClose move (by simp [cut, member])
    obtain ⟨error, events, kind⟩ := (stopped earlier move later cut release).1
      ⟨command, choice, checked, ran, starts, valid⟩
    refine (ExternalController.publishSection_notRunning choice.createdUs choice.sendUs opened valid).mp ?_
    rcases publish_events accepted ran starts with ⟨other, refused, same⟩ | ⟨built, next, _, same⟩
    · rw [events] at same
      simp only [List.cons.injEq, Event.finished.injEq, Outcome.raised.injEq, true_and, and_true] at same
      exact ⟨error, same ▸ refused, kind⟩
    · rw [events] at same
      simp at same
  · intro never earlier move later cut release
    obtain ⟨before, accepted, _⟩ := run.at_move cut
    have closing : ∀ move ∈ earlier, move.input ≠ .call () .close :=
      fun move member => noClose move (by simp [cut, member])
    obtain ⟨opened, _⟩ := open_run before closing
    constructor
    · rintro ⟨command, choice, checked, ran, starts, valid⟩
      have dead := never earlier move later cut release ⟨command, choice, checked, ran, starts, valid⟩
      obtain ⟨error, refused, kind⟩ := (ExternalController.publishSection_notRunning choice.createdUs
        choice.sendUs opened valid).mpr dead
      rcases publish_events accepted ran starts with ⟨other, same, events⟩ | ⟨built, next, published, _⟩
      · obtain rfl := Except.error.inj (same.symm.trans refused)
        exact ⟨_, events, kind⟩
      · exact absurd (published.symm.trans refused) (by simp)
    · intro command raised member
      have quiet := unreleased_send before closing (NeverLive.earlier (cut ▸ never))
      obtain ⟨_, sending⟩ := (pool_commands accepted).hands command raised member
      exact absurd release (by simp [quiet command sending])

/-- A rejected entry releases the robot, and the run meets the theorem. -/
theorem output_stopped_rejected :
    ∃ moves final, (hostMachine Unit).Run (freshPool Unit "client") moves final ∧
      released (trace moves) = true ∧ (OutputStopped moves ↔ NeverLive moves) := by
  obtain ⟨moves, final, run, inputs, release⟩ :=
    (hostMachine Unit).exists_run (freshPool Unit "client")
      (commitInputs ++ [answerInput .COMMIT false ""] ++ runs 3 ++ [.call () (.publish (some zeroCommand))] ++
        runs 1)
      (fun moves _ => released (trace moves) = true) (by decide +kernel)
  refine ⟨moves, final, run, release, output_stopped run fun move member => ?_⟩
  have present := List.mem_map_of_mem (f := Move.input) member
  rw [inputs] at present
  intro closing
  simp [closing, commitInputs, prepareInputs, runs, answerInput] at present

/-- The robot rejects COMMIT, the entry fails, and a late RUNNING status of the prepared lease lets a
publish hand over its command. -/
theorem output_stopped_late_status :
    ∃ moves final, (hostMachine Unit).Run (freshPool Unit "client") moves final ∧
      (∀ move ∈ moves, move.input ≠ .call () .close) ∧ ¬ OutputStopped moves := by
  obtain ⟨moves, final, run, inputs, release, handed⟩ :=
    (hostMachine Unit).exists_run (freshPool Unit "client")
      (commitInputs ++ [answerInput .COMMIT false ""] ++ runs 3 ++
        [.signal (.status (runningStatus 42 1)), .call () (.publish (some zeroCommand))] ++ runs 2)
      (fun moves _ => released (trace (moves.take 20)) = true ∧
        (moves[20]?.map Move.events) = some [
          .handed (.body { zeroCommand with sessionId := 42, sequence := 1 }) false,
          .finished .publish (.command { zeroCommand with sessionId := 42, sequence := 1 })])
      (by decide +kernel)
  refine ⟨moves, final, run, fun move member => ?_, fun stopped => ?_⟩
  · have present := List.mem_map_of_mem (f := Move.input) member
    rw [inputs] at present
    intro closing
    simp [closing, commitInputs, prepareInputs, runs, answerInput] at present
  · obtain ⟨last, present, events⟩ := Option.map_eq_some_iff.mp handed
    obtain ⟨inside, rfl⟩ := List.getElem?_eq_some_iff.mp present
    have cut : moves = moves.take 20 ++ moves[20] :: moves.drop 21 := by
      rw [List.getElem_cons_drop, List.take_append_drop]
    exact (stopped _ _ _ cut release).2 _ _ (by rw [events]; exact List.mem_cons_self)

end HumanoidSdk.Controller
