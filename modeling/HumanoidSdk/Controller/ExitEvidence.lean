import HumanoidSdk.Controller.Retry
import HumanoidSdk.Controller.StatusCache

namespace HumanoidSdk.Controller
open Foundation

theorem Handed.of_append {operation : ControlOperation} {requestId : String} {first second : List Event}
    (handed : Handed operation requestId (first ++ second)) :
    Handed operation requestId first ∨ Handed operation requestId second := by
  unfold Handed at *
  rwa [requestsFor_append, List.map_append, List.mem_append] at handed

/-- What was handed over was handed over by a first move. -/
theorem Handed.first {Thread : Type*} {operation : ControlOperation} {requestId : String}
    {moves : List (HostMove Thread)} (handed : Handed operation requestId (trace moves)) :
    ∃ before hand between, moves = before ++ hand :: between ∧
      ¬ Handed operation requestId (trace before) ∧ Handed operation requestId hand.events := by
  induction moves using List.reverseRecOn with
  | nil => cases handed
  | append_singleton moves last ih =>
      by_cases earlier : Handed operation requestId (trace moves)
      · obtain ⟨before, hand, between, rfl, untried, now⟩ := ih earlier
        exact ⟨before, hand, between ++ [last], by simp, untried, now⟩
      · rw [trace_append, trace_cons, trace_nil, List.append_nil] at handed
        exact ⟨moves, last, [], rfl, earlier, handed.of_append.resolve_left earlier⟩

theorem startCall_ne_clear (request : Call) (status : ControlStatus) :
    (startCall request).1 ≠ .exitClear status := by
  intro clearing
  have rests := (Handshake.startCall_cases request).1
  rw [clearing] at rests
  cases rests

/-- A thread about to clear the session has checked its status in an open controller. -/
theorem exit_check {moves : List (HostMove Unit)} {start final : Pool Unit Host Pc}
    (run : (hostMachine Unit).Run start moves final) (idle : start.threads () = .idle) :
    ∀ status, final.threads () = .exitClear status → ∃ earlier check gap,
      moves = earlier ++ check :: gap ∧ check.before.threads () = .exitStatus ∧
      check.after.threads () = .exitClear status ∧
      check.before.shared.controller.exitStatus = some status ∧
      check.before.shared.controller.closed = false ∧
      final.shared.controller.requestId = check.before.shared.controller.requestId := by
  induction run with
  | nil => exact fun status clearing => absurd (idle.symm.trans clearing) (by simp)
  | @snoc moves pool next input events earlier accepted ih =>
      intro status clearing
      cases Program.machine_cases accepted with
      | call ready =>
          simp only [Function.update_self] at clearing
          exact absurd clearing (startCall_ne_clear _ status)
      | @run thread choice shared there _ stepped =>
          simp only [Function.update_self] at clearing
          subst clearing
          have transition := step_cases stepped
          generalize counter : pool.threads thread = pc at transition
          cases transition with
          | exitSeen opened seen =>
              exact ⟨moves, _, [], rfl, counter, by simp only [Function.update_self], seen, opened, rfl⟩
      | signal signal =>
          obtain ⟨before, check, gap, rfl, facts⟩ := ih status clearing
          refine ⟨before, check, gap ++ [_], by simp; rfl, facts.1, facts.2.1, facts.2.2.1,
            facts.2.2.2.1, ?_⟩
          refine Eq.trans ?_ facts.2.2.2.2
          cases signal with
          | ack ack | status status => simp [program, Host.react]

/-- Only the last section of `exit_external` returns a status. -/
theorem exit_returns {move : HostMove Unit} {status : ControlStatus}
    (accepted : (hostMachine Unit).step move.before move.input = some (move.after, move.events))
    (member : .finished .exitExternal (.status status) ∈ move.events) :
    move.before.threads () = .exitClear status := by
  have step := Program.machine_cases accepted
  generalize move.events = events at step member
  generalize move.after = after at step
  generalize move.input = input at step
  cases step with
  | @call thread request ready =>
      rcases (Handshake.startCall_cases request).2 with one | ⟨method, error, _, two⟩
      · simp [program, one] at member
      · simp [program, two] at member
  | @run thread _ _ _ _ stepped =>
      have transition := step_cases stepped
      generalize counter : move.before.threads thread = pc at transition
      cases transition with
      | cleared =>
          simp at member
          exact congrArg Pc.exitClear member.symm
      | _ => simp at member
  | signal signal =>
      cases signal with
      | ack | status => simp [program, Host.react] at member

/-- The status passes the test of `exit_external`. -/
def showsExit (status : ControlStatus) : Bool :=
  status.currentAction ≠ "EXTERNAL" && (status.phase = .IDLE || status.phase = .EMERGENCY)

/-- A run in which `exit_external` returns a status, cut at the hand-over of the CANCEL, at the check
of the cached status and at the return. -/
structure ExitReturn (moves before : List (HostMove Unit)) (hand : HostMove Unit)
    (between : List (HostMove Unit)) (check : HostMove Unit) (gap : List (HostMove Unit))
    (back : HostMove Unit) (later : List (HostMove Unit)) (requestId : String)
    (status : ControlStatus) : Prop where
  cut : moves = (before ++ hand :: (between ++ check :: gap)) ++ back :: later
  current : back.before.shared.controller.requestId = some requestId
  untried : ¬ Handed .CANCEL requestId (trace before)
  handed : Handed .CANCEL requestId hand.events
  checking : check.before.threads () = .exitStatus
  checked : check.after.threads () = .exitClear status
  returned : .finished .exitExternal (.status status) ∈ back.events

/-- The returned status arrived after the hand-over and is newer than the status cached then. -/
def ConfirmsExit (hand : HostMove Unit) (between : List (HostMove Unit)) (status : ControlStatus) : Prop :=
  .statusArrived status ∈ trace between ∧
    statusIsNewer status hand.after.shared.controller.latestStatus = true

/-- The status cached at the hand-over does not pass the test, or a newer one replaces it before the
check. -/
def ExitUnseen (hand : HostMove Unit) (between : List (HostMove Unit)) : Prop :=
  (∀ cached, hand.after.shared.controller.latestStatus = some cached → showsExit cached = false) ∨
    ∃ newer, .statusArrived newer ∈ trace between ∧ newer.protocolVersion = PROTOCOL_VERSION ∧
      statusIsNewer newer hand.after.shared.controller.latestStatus = true

theorem exitStatus_iff {c : ExternalController} {status : ControlStatus} :
    c.exitStatus = some status ↔ c.latestStatus = some status ∧ showsExit status = true :=
  Option.filter_eq_some_iff

/-- The handshake has handed over the CANCEL when the exit checks the cached status. -/
theorem exit_handed {clientId : String} {moves : List (HostMove Unit)} {final : Pool Unit Host Pc}
    (run : (hostMachine Unit).Run (freshPool Unit clientId) moves final)
    (checking : final.threads () = .exitStatus) :
    ∃ requestId, final.shared.controller.requestId = some requestId ∧
      Handed .CANCEL requestId (trace moves) := by
  have position := (Handshake.run run).position
  rw [checking] at position
  cases position with
  | @exitStatus requestId progress stage =>
      refine ⟨requestId, stage.current, ?_⟩
      have count := stage.formed.cancel_count
      unfold Handed
      rw [← List.count_pos_iff, count]
      simp
  | rest rests => cases rests

/-- Every return of `exit_external` is confirmed by fresh evidence exactly when the status cached at
the hand-over of its CANCEL fails the exit test or a newer status arrives before the check. -/
theorem exit_confirmed {clientId : String} {moves earlier later : List (HostMove Unit)}
    {back : HostMove Unit} {final : Pool Unit Host Pc} {status : ControlStatus}
    (run : (hostMachine Unit).Run (freshPool Unit clientId) moves final)
    (stamped : ∀ status, .statusArrived status ∈ trace moves → 0 ≤ status.stampMonotonicNs)
    (cut : moves = earlier ++ back :: later)
    (returned : .finished .exitExternal (.status status) ∈ back.events) :
    ∃ before hand between check gap requestId,
      ExitReturn moves before hand between check gap back later requestId status ∧
      (ConfirmsExit hand between status ↔ ExitUnseen hand between) := by
  obtain ⟨past, accepted, _⟩ := run.at_move cut
  have clearing := exit_returns accepted returned
  obtain ⟨prior, check, gap, rfl, checking, checked, seen, opened, same⟩ :=
    exit_check past rfl status clearing
  obtain ⟨upto, _, _⟩ := past.at_move rfl
  obtain ⟨requestId, current, handed⟩ := exit_handed upto checking
  obtain ⟨before, hand, between, rfl, untried, now⟩ := handed.first
  obtain ⟨first, handStep, window⟩ := upto.at_move rfl
  refine ⟨before, hand, between, check, gap, requestId,
    ⟨by simp [cut], same.trans current, untried, now, checking, checked, returned⟩, ?_⟩
  have inside {other : ControlStatus} (member : .statusArrived other ∈ trace between) :
      .statusArrived other ∈ trace moves := by simp [cut, member]
  have cached (other : ControlStatus) (present : hand.after.shared.controller.latestStatus = some other) :
      0 ≤ other.stampMonotonicNs := by
    have arrived := cached_arrived (first.snoc handStep) other present
    simp only [trace_append, trace_cons, trace_nil, List.append_nil, List.mem_append] at arrived
    exact stamped other (by simpa [cut] using arrived.imp_right Or.inl)
  obtain ⟨latest, shows⟩ := exitStatus_iff.mp seen
  rcases cache_run window opened (fun other member => stamped other (inside member)) cached with
    ⟨unchanged, quiet⟩ | ⟨middle, newest, arrived, version, newer⟩
  · have old := unchanged.symm.trans latest
    refine iff_of_false ?_ ?_
    · rintro ⟨_, newer⟩
      rw [old, statusIsNewer_irrefl] at newer
      cases newer
    · rintro (unseen | ⟨newer, arrived, version, isNewer⟩)
      · exact absurd (shows.symm.trans (unseen status old)) (by simp)
      · exact absurd (isNewer.symm.trans (quiet newer arrived version)) (by simp)
  · obtain rfl := Option.some.inj (newest.symm.trans latest)
    exact iff_of_true ⟨arrived, newer⟩ (Or.inr ⟨middle, arrived, version, newer⟩)

/-- The exit after a successful entry returns the IDLE status that follows its CANCEL. -/
theorem exit_confirmed_idle :
    ∃ moves before hand between check gap back later, ∃ final : Pool Unit Host Pc,
      (hostMachine Unit).Run (freshPool Unit "client") moves final ∧
      ExitReturn moves before hand between check gap back later "request" ⟨2, "PASSIVE", .IDLE, "", "", 0, 2, 1⟩ ∧
      (ConfirmsExit hand between ⟨2, "PASSIVE", .IDLE, "", "", 0, 2, 1⟩ ↔ ExitUnseen hand between) := by
  obtain ⟨moves, final, run, _, stamped, returned, current⟩ :=
    (hostMachine Unit).exists_run (freshPool Unit "client")
      (enteredInputs ++ [.call () (.exitExternal (.int 5))] ++ runs 3 ++ [answerInput .CANCEL true "lease"] ++
        runs 1 ++ [.signal (.status ⟨2, "PASSIVE", .IDLE, "", "", 0, 2, 1⟩)] ++ runs 2)
      (fun moves _ => ((trace moves).all fun
          | .statusArrived status => 0 ≤ status.stampMonotonicNs
          | _ => true) = true ∧
        moves[27]?.map Move.events = some [.cleared (some "request"),
          .finished .exitExternal (.status ⟨2, "PASSIVE", .IDLE, "", "", 0, 2, 1⟩)] ∧
        moves[27]?.map (fun move => move.before.shared.controller.requestId) = some (some "request"))
      (by decide +kernel)
  obtain ⟨back, present, events⟩ := Option.map_eq_some_iff.mp returned
  obtain ⟨inside, rfl⟩ := List.getElem?_eq_some_iff.mp present
  have cut : moves = moves.take 27 ++ moves[27] :: moves.drop 28 := by
    rw [List.getElem_cons_drop, List.take_append_drop]
  have idle : .finished .exitExternal (.status ⟨2, "PASSIVE", .IDLE, "", "", 0, 2, 1⟩) ∈ moves[27].events := by
    rw [events]
    simp
  obtain ⟨before, hand, between, check, gap, requestId, exit, confirmed⟩ :=
    exit_confirmed run (fun status member => by simpa using List.all_eq_true.mp stamped _ member) cut idle
  have same := exit.current
  rw [present] at current
  obtain rfl := Option.some.inj (same.symm.trans (Option.some.inj current))
  exact ⟨moves, before, hand, between, check, gap, _, _, final, run, exit, confirmed⟩

/-- A list is cut at one position and at two neighbouring later ones. -/
theorem cut_thrice {Value : Type*} (values : List Value) (first gap : Nat)
    (inside : first + 1 + gap + 1 < values.length) :
    values = (values.take first ++ values[first] :: ((values.drop (first + 1)).take gap ++
      values[first + 1 + gap] :: [])) ++ values[first + 1 + gap + 1] :: values.drop (first + 1 + gap + 1 + 1) := by
  have last : values[first + 1 + gap + 1] :: values.drop (first + 1 + gap + 1 + 1) =
      values.drop (first + 1 + gap + 1) := List.getElem_cons_drop _
  simp only [List.append_assoc, List.cons_append, List.nil_append]
  rw [last]
  exact cut_twice values first gap (by omega)

/-- An IDLE status from before the entry confirms the exit after a rejected PREPARE. -/
theorem exit_confirmed_stale :
    ∃ moves before hand between check gap back later, ∃ final : Pool Unit Host Pc, ∃ status,
      (hostMachine Unit).Run (freshPool Unit "client") moves final ∧
      (∀ status, .statusArrived status ∈ trace moves → 0 ≤ status.stampMonotonicNs) ∧
      ExitReturn moves before hand between check gap back later "request" status ∧
      ¬ ConfirmsExit hand between status := by
  obtain ⟨moves, final, run, _, size, stamped, untried, quiet, handed, checking, checked, returned, current⟩ :=
    (hostMachine Unit).exists_run (freshPool Unit "client")
      ([.signal (.status ⟨1, "PASSIVE", .IDLE, "", "", 0, 1, 1⟩)] ++ prepareInputs ++
        [answerInput .PREPARE false ""] ++ runs 3 ++ [.call () (.exitExternal (.int 5))] ++ runs 2 ++
        [answerInput .CANCEL true ""] ++ runs 3)
      (fun moves _ => moves.length = 18 ∧ ((trace moves).all fun
          | .statusArrived status => 0 ≤ status.stampMonotonicNs
          | _ => true) = true ∧
        ¬ Handed .CANCEL "request" (trace (moves.take 10)) ∧
        .statusArrived ⟨1, "PASSIVE", .IDLE, "", "", 0, 1, 1⟩ ∉ trace ((moves.drop 11).take 5) ∧
        moves[10]?.map (fun move => decide (Handed .CANCEL "request" move.events)) = some true ∧
        moves[16]?.map (fun move => move.before.threads ()) = some .exitStatus ∧
        moves[16]?.map (fun move => move.after.threads ()) =
          some (.exitClear ⟨1, "PASSIVE", .IDLE, "", "", 0, 1, 1⟩) ∧
        moves[17]?.map Move.events = some [.cleared (some "request"),
          .finished .exitExternal (.status ⟨1, "PASSIVE", .IDLE, "", "", 0, 1, 1⟩)] ∧
        moves[17]?.map (fun move => move.before.shared.controller.requestId) = some (some "request"))
      (by decide +kernel)
  have inside : 10 + 1 + 5 + 1 < moves.length := by omega
  rw [List.getElem?_eq_getElem (by omega)] at handed checking checked returned current
  simp only [Option.map_some, Option.some.injEq, decide_eq_true_eq] at handed checking checked returned current
  refine ⟨moves, _, moves[10], _, moves[16], [], moves[17], _, final, _, run, ?_,
    ⟨cut_thrice moves 10 5 inside, current, untried, handed, checking, checked, ?_⟩, ?_⟩
  · exact fun status member => by simpa using List.all_eq_true.mp stamped _ member
  · rw [returned]
    simp
  · exact fun confirmed => quiet confirmed.1

end HumanoidSdk.Controller
