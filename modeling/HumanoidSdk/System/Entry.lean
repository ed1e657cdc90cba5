import HumanoidSdk.Controller.EntrySafety
import HumanoidSdk.System.Isolation
import HumanoidSdk.System.Link

namespace HumanoidSdk.System
open Foundation Controller

/-- An entry hands over the PREPARE of this request in its first move and raises in its last one. -/
structure FailedEntry (requestId : String) (hand : LinkMove) (during : List LinkMove) (fail : LinkMove) :
    Prop where
  prepares : ∃ request ∈ controlsOf (controllerLog hand.events),
    request.operation = .PREPARE ∧ request.requestId = some requestId
  pending : entryOutcomes (controllerLog (trace during)) = []
  raises : ∃ error, .raised error ∈ entryOutcomes (controllerLog fail.events)

/-- The robot keeps at most an armed request when the CANCEL named no lease. It never takes the request
again, refuses its commands and drops it in the first call after the time to commit. -/
structure Releases (requestId leaseId : String) (move : LinkMove) : Prop where
  gone : leaseId ≠ "" → move.after.robot.protocol.status.requestId ≠ requestId
  armed : move.after.robot.protocol.status.requestId = requestId →
    move.after.robot.protocol.status.phase = 2
  once : move.before.robot.protocol.status.requestId ≠ requestId →
    move.after.robot.protocol.status.requestId ≠ requestId
  refuses : move.before.robot.protocol.status.requestId = requestId →
    ∀ cmd now, move.input = .accept cmd now → (move.before.robot.protocol.accept cmd now).1 = false
  expires : ∀ now, move.input.clock = some now →
    now - move.before.robot.protocol.preparedNs ≥ move.before.robot.protocol.prepareTimeoutNs →
    move.after.robot.protocol.status.requestId ≠ requestId

section Entry

variable {clientId requestId leaseId : String} {log events : List LinkEvent} {link next : Link}
  {input : LinkInput}

/-- A move of the link keeps the entry under way or ends it. -/
theorem Linked.entering (held : Linked clientId log link)
    (entering : Entering requestId link.pool.shared (link.pool.threads ()))
    (accepted : linkMachine.step link input = some (next, events)) :
    (Entering requestId next.pool.shared (next.pool.threads ()) ∧ entryOutcomes (controllerLog events) = []) ∨
      (∃ status, entryOutcomes (controllerLog events) = [.status status]) ∨
      ∃ raised error, controllerLog events =
          [.handed (.control (link.pool.shared.controller.request .CANCEL)) raised,
            .finished .enterExternal (.raised error)] := by
  cases link_cases accepted with
  | receive received =>
      obtain ⟨_, _, _, _, _, rfl, rfl⟩ := Link.receive_cases received
      exact Or.inl ⟨entering, rfl⟩
  | drive | lost => exact Or.inl ⟨entering, rfl⟩
  | act _ _ acted =>
      obtain ⟨pool, handed, stepped, rfl, rfl⟩ := Link.act_cases acted
      rw [controllerLog_controller]
      exact pool_entering held.handshake entering stepped

/-- The move that hands over a PREPARE leaves its entry under way. -/
theorem Linked.prepares (held : Linked clientId log link)
    (accepted : linkMachine.step link input = some (next, events)) {request : ControlRequest}
    (handed : request ∈ controlsOf (controllerLog events)) (prepare : request.operation = .PREPARE)
    (identity : request.requestId = some requestId) :
    Entering requestId next.pool.shared (next.pool.threads ()) := by
  cases link_cases accepted with
  | receive received =>
      obtain ⟨_, _, _, _, _, rfl, rfl⟩ := Link.receive_cases received
      cases handed
  | drive | lost => cases handed
  | act _ _ acted =>
      obtain ⟨pool, emitted, stepped, rfl, rfl⟩ := Link.act_cases acted
      rw [controllerLog_controller, mem_controlsOf] at handed
      obtain ⟨raised, handed⟩ := handed
      exact (pool_prepares held.handshake stepped handed prepare identity).1

/-- An entry that has not ended is under way. -/
theorem Linked.pending (held : Linked clientId log link)
    (entering : Entering requestId link.pool.shared (link.pool.threads ())) {moves : List LinkMove}
    (run : linkMachine.Run link moves next) (pending : entryOutcomes (controllerLog (trace moves)) = []) :
    Linked clientId (log ++ trace moves) next ∧
      Entering requestId next.pool.shared (next.pool.threads ()) := by
  refine run.invariant (fun moves next => entryOutcomes (controllerLog (trace moves)) = [] →
    Linked clientId (log ++ trace moves) next ∧
      Entering requestId next.pool.shared (next.pool.threads ())) (fun _ => ?_) ?_ pending
  · rw [trace_nil, List.append_nil]
    exact ⟨held, entering⟩
  · intro moves link input next events _ ih accepted pending
    simp only [trace_append, trace_cons, trace_nil, List.append_nil, controllerLog_append,
      entryOutcomes_append, List.append_eq_nil_iff] at pending ⊢
    obtain ⟨held, entering⟩ := ih pending.1
    rw [← List.append_assoc]
    refine ⟨held.step accepted, ?_⟩
    rcases held.entering entering accepted with ⟨still, _⟩ | ⟨status, ended⟩ | ⟨raised, error, ended⟩
    · exact still
    · rw [ended] at pending
      cases pending.2
    · rw [ended] at pending
      cases pending.2

/-- A failed entry has handed over the CANCEL of its request. -/
theorem FailedEntry.cancels {hand fail : LinkMove} {during : List LinkMove}
    (failed : FailedEntry requestId hand during fail) (held : Linked clientId log hand.before)
    (handed : linkMachine.step hand.before hand.input = some (hand.after, hand.events))
    (run : linkMachine.Run hand.after during fail.before)
    (ended : linkMachine.step fail.before fail.input = some (fail.after, fail.events)) :
    fail.before.pool.shared.controller.requestId = some requestId ∧
      fail.before.pool.shared.controller.request .CANCEL ∈ controlsOf (controllerLog fail.events) := by
  obtain ⟨request, member, prepare, identity⟩ := failed.prepares
  have begun := held.prepares handed member prepare identity
  obtain ⟨held, entering⟩ := (held.step handed).pending begun run failed.pending
  obtain ⟨error, raises⟩ := failed.raises
  refine ⟨entering.2, ?_⟩
  rcases held.entering entering ended with ⟨_, still⟩ | ⟨status, returned⟩ | ⟨raised, error, events⟩
  · rw [still] at raises
    cases raises
  · rw [returned] at raises
    simp at raises
  · rw [events]
    exact List.mem_filterMap.mpr ⟨_, List.mem_cons_self, rfl⟩

/-- A robot that names this request holds it. -/
theorem Linked.holds (held : Linked clientId log link) {lease : String}
    (received : (ControlOperation.CANCEL, lease) ∈ entriesOf requestId (receivedLog log))
    (names : link.robot.protocol.status.requestId = requestId) : Holds link.robot.protocol requestId := by
  have issued : requestId ∈ link.pool.shared.issuedIds := by
    by_contra unknown
    have none := held.handshake.fresh requestId unknown
    rw [requestsFor_entries] at none
    have past := (List.sublist_append_left _ link.requests).trans held.order
    have member := (past.filterMap _).subset received
    rw [← entriesOf, none] at member
    cases member
  refine ⟨fun idle => held.named requestId issued ?_, names⟩
  exact names.symm.trans (held.served.inv.idle.mp idle).2.1

/-- A request whose CANCEL was received is armed only as long as its time runs. -/
theorem Linked.armed (held : Linked clientId log link) {lease : String}
    (accepted : linkMachine.step link input = some (next, events))
    (received : (ControlOperation.CANCEL, lease) ∈ entriesOf requestId (receivedLog (log ++ events)))
    (armed : Armed next.robot.protocol requestId) :
    Armed link.robot.protocol requestId ∧ ∀ now, input.clock = some now →
      ¬ now - link.robot.protocol.preparedNs ≥ link.robot.protocol.prepareTimeoutNs := by
  cases link_cases accepted with
  | act _ clock acted =>
      obtain ⟨pool, handed, _, rfl, rfl⟩ := Link.act_cases acted
      exact ⟨armed, fun now reads => absurd (clock.symm.trans reads) (by simp)⟩
  | lost => exact ⟨armed, by simp [LinkInput.clock]⟩
  | @drive _ call other clock =>
      have before := watchdog_armed ((called_keeps link.robot.protocol call other).armed armed)
      refine ⟨before.1, fun now reads => ?_⟩
      obtain rfl := Option.some.inj (clock.symm.trans reads)
      exact before.2
  | @receive now _ _ reading =>
      obtain ⟨request, rest, r, queued, wire, rfl, rfl⟩ := Link.receive_cases reading
      obtain ⟨requestId, order⟩ := held.inOrder queued
      have keeps := watchdog_keeps link.robot.protocol now
      have later : InOrder clientId (receivedLog log) (link.robot.protocol.watchdog now) request requestId :=
        { order with learned := fun present => (order.learned present).keeps keeps }
      have before := watchdog_armed (answer_armed later wire now (by simpa [receivedLog] using received) armed)
      refine ⟨before.1, fun asked reads => ?_⟩
      obtain rfl := Option.some.inj reads
      exact before.2

/-- A move releases a request whose CANCEL was received. -/
theorem Linked.releases (held : Linked clientId log link)
    (accepted : linkMachine.step link input = some (next, events))
    (received : (ControlOperation.CANCEL, leaseId) ∈ entriesOf requestId (receivedLog (log ++ events))) :
    Releases requestId leaseId ⟨link, input, next, events⟩ := by
  have after := held.step accepted
  have cancelled (names : next.robot.protocol.status.requestId = requestId) :=
    after.served.cancelled requestId leaseId received (after.holds received names)
  have armed (names : next.robot.protocol.status.requestId = requestId) :=
    held.armed accepted received ⟨(cancelled names).1, names⟩
  constructor
  · exact fun leased names => leased (cancelled names).2
  · exact fun names => (cancelled names).1
  · exact fun other names => other (armed names).1.2
  · rintro names cmd now rfl
    by_contra admitted
    obtain ⟨running, same⟩ := accept_holds (by simpa using admitted)
    obtain ⟨rfl, _⟩ := Link.drive_cases (show link.drive (.accept cmd now) = some (next, events) from accepted)
    have two := (cancelled (same.trans names)).1
    exact absurd (running.symm.trans two) (by decide)
  · exact fun now reads due names => (armed names).2 now reads due

/-- A failed entry hands over the CANCEL of its request, and every move after its receipt releases the
request. -/
theorem failed_entry_releases {seed streamTimeout prepareTimeout : UInt64} {p : Mock.Protocol}
    (created : Mock.Protocol.create seed streamTimeout prepareTimeout 0 = some p)
    {moves earlier during later : List LinkMove} {hand fail : LinkMove}
    (run : linkMachine.Run (freshLink clientId p) moves link)
    (cut : moves = earlier ++ hand :: (during ++ fail :: later))
    (failed : FailedEntry requestId hand during fail) :
    ∃ cancel ∈ controlsOf (controllerLog fail.events), cancel.operation = .CANCEL ∧
      cancel.requestId = some requestId ∧
      cancel.leaseId = fail.before.pool.shared.controller.leaseId ∧
      ∀ between receipt after, later = between ++ receipt :: after →
        cancel ∈ receivedLog receipt.events →
        ∀ move ∈ receipt :: after, Releases requestId cancel.leaseId move := by
  obtain ⟨past, handed, rest⟩ := run.at_move cut
  obtain ⟨window, ended, _⟩ := rest.at_move rfl
  obtain ⟨current, sent⟩ := failed.cancels (linked_run created past) handed window ended
  refine ⟨_, sent, rfl, current, rfl, fun between receipt after position received move member => ?_⟩
  obtain ⟨first, second, split⟩ := List.append_of_mem member
  have moment : moves = (earlier ++ hand :: (during ++ fail :: (between ++ first))) ++ move :: second := by
    simp [cut, position, split]
  obtain ⟨before, stepped, _⟩ := run.at_move moment
  refine (linked_run created before).releases stepped ?_
  -- the receipt is the move itself or one before it
  have listed : receipt ∈ first ++ [move] := by
    cases first with
    | nil =>
        obtain ⟨rfl, _⟩ := List.cons.inj split
        exact List.mem_singleton_self _
    | cons head rest =>
        obtain ⟨rfl, _⟩ := List.cons.inj split
        exact List.mem_cons_self
  obtain ⟨event, emitted, reads⟩ := List.mem_filterMap.mp received
  refine List.mem_filterMap.mpr ⟨_, List.mem_filterMap.mpr ⟨event, ?_, reads⟩, if_pos current⟩
  have recent := mem_trace.mpr ⟨receipt, listed, emitted⟩
  simp only [trace_append, trace_cons, trace_nil, List.append_nil, List.mem_append] at recent ⊢
  tauto

end Entry

/-- The thread of the controller takes this many steps without a special choice. -/
def linkRuns (count : Nat) : List LinkInput := List.replicate count (.run {})

/-- An entry hands over its PREPARE and the robot arms. -/
def armInputs : List LinkInput :=
  [.call (.enterExternal (.float (.finite 5))), .run { uuid := "request" }] ++ linkRuns 4 ++ [.request 1000]

/-- The entry waits for an acknowledgement in vain, and the robot reads its CANCEL. -/
def abortInputs (now : UInt64) : List LinkInput := [.run { expired := true }] ++ linkRuns 2 ++ [.request now]

/-- The moves of a replay in which the sixth one hands over PREPARE form a failed entry. -/
theorem replayed_entry {moves : List LinkMove} {gap : Nat} {error : PyError} (inside : 5 + 1 + gap < moves.length)
    (prepares : moves[5]?.map (fun move => controlsOf (controllerLog move.events)) =
      some [⟨some "request", "client", .PREPARE, "EXTERNAL", "", 0, 2⟩])
    (pending : entryOutcomes (controllerLog (trace ((moves.drop 6).take gap))) = [])
    (raises : moves[5 + 1 + gap]?.map (fun move => entryOutcomes (controllerLog move.events)) =
      some [.raised error]) :
    FailedEntry "request" moves[5] ((moves.drop 6).take gap) moves[5 + 1 + gap] := by
  rw [List.getElem?_eq_getElem (by omega)] at prepares raises
  simp only [Option.map_some, Option.some.injEq] at prepares raises
  constructor
  · rw [prepares]
    exact ⟨_, List.mem_singleton_self _, rfl, rfl⟩
  · exact pending
  · rw [raises]
    exact ⟨error, List.mem_singleton_self _⟩

/-- The CANCEL of an entry that waits for its COMMIT in vain stops the running robot. -/
theorem failed_entry_releases_committed :
    ∃ moves earlier hand during fail receipt link,
      linkMachine.Run (freshLink "client" newRobot) moves link ∧
      moves = earlier ++ hand :: (during ++ fail :: [receipt]) ∧ FailedEntry "request" hand during fail ∧
      receipt.before.robot.protocol.status.phase = 4 ∧
      receipt.after.robot.protocol.status.requestId ≠ "request" := by
  have created : Mock.Protocol.create 10 100 50 0 = some newRobot := rfl
  obtain ⟨moves, link, run, _, size, prepares, pending, raises, lease, reads, running⟩ :=
    linkMachine.exists_run (freshLink "client" newRobot)
      (armInputs ++ [.ack ⟨"request", .PREPARE, true, 0, "armed; no automatic running lease expiry",
        "mock-lease-11", 1⟩] ++ linkRuns 6 ++ [.request 1004] ++ abortInputs 1008)
      (fun moves _ => moves.length = 19 ∧
        moves[5]?.map (fun move => controlsOf (controllerLog move.events)) =
          some [⟨some "request", "client", .PREPARE, "EXTERNAL", "", 0, 2⟩] ∧
        entryOutcomes (controllerLog (trace ((moves.drop 6).take 11))) = [] ∧
        moves[17]?.map (fun move => entryOutcomes (controllerLog move.events)) =
          some [.raised ⟨.externalControlTimeout, "timed out waiting for COMMIT acknowledgement"⟩] ∧
        moves[17]?.map (fun move => move.before.pool.shared.controller.leaseId) = some "mock-lease-11" ∧
        moves[17]?.map (fun move => controlsOf (controllerLog move.events)) =
          moves[18]?.map (fun move => receivedLog move.events) ∧
        moves[18]?.map (fun move => move.before.robot.protocol.status.phase) = some 4) (by decide +kernel)
  have inside : 5 + 1 + 11 < moves.length := by omega
  have cut : moves = moves.take 5 ++ moves[5] :: ((moves.drop 6).take 11 ++ moves[17] :: moves.drop 18) :=
    cut_twice moves 5 11 inside
  have failed : FailedEntry "request" moves[5] ((moves.drop 6).take 11) moves[17] :=
    replayed_entry inside prepares pending raises
  have rest : moves.drop 18 = [moves[18]] := by
    rw [← List.getElem_cons_drop, List.drop_of_length_le (by omega)]
  rw [rest] at cut
  rw [List.getElem?_eq_getElem (by omega)] at lease reads running
  rw [List.getElem?_eq_getElem (by omega)] at reads
  simp only [Option.map_some, Option.some.injEq] at lease reads running
  obtain ⟨cancel, handed, _, _, carries, released⟩ := failed_entry_releases created run cut failed
  have received : cancel ∈ receivedLog moves[18].events := reads ▸ handed
  have gone := (released [] moves[18] [] rfl received _ List.mem_cons_self).gone
  refine ⟨moves, _, _, _, _, _, link, run, cut, failed, running, gone ?_⟩
  rw [carries, lease]
  decide

/-- The CANCEL of an entry that never saw the answer to its PREPARE names no lease, and the robot keeps
the request armed. -/
theorem failed_entry_armed :
    ∃ moves earlier hand during fail receipt cancel link,
      linkMachine.Run (freshLink "client" newRobot) moves link ∧
      moves = earlier ++ hand :: (during ++ fail :: [receipt]) ∧ FailedEntry "request" hand during fail ∧
      (∀ move ∈ moves, move.input ≠ .lose) ∧
      (∀ request, .controller (.handed (.control request) true) ∉ trace moves) ∧
      cancel ∈ controlsOf (controllerLog fail.events) ∧ cancel.operation = .CANCEL ∧
      cancel.requestId = some "request" ∧ cancel ∈ receivedLog receipt.events ∧
      receipt.after.robot.protocol.status.requestId = "request" := by
  obtain ⟨moves, link, run, inputs, size, prepares, pending, raises, cancels, reads, calm, armed⟩ :=
    linkMachine.exists_run (freshLink "client" newRobot) (armInputs ++ abortInputs 1001)
      (fun moves _ => moves.length = 11 ∧
        moves[5]?.map (fun move => controlsOf (controllerLog move.events)) =
          some [⟨some "request", "client", .PREPARE, "EXTERNAL", "", 0, 2⟩] ∧
        entryOutcomes (controllerLog (trace ((moves.drop 6).take 3))) = [] ∧
        moves[9]?.map (fun move => entryOutcomes (controllerLog move.events)) =
          some [.raised ⟨.externalControlTimeout, "timed out waiting for PREPARE acknowledgement"⟩] ∧
        moves[9]?.map (fun move => controlsOf (controllerLog move.events)) =
          some [⟨some "request", "client", .CANCEL, "EXTERNAL", "", 0, 2⟩] ∧
        moves[10]?.map (fun move => receivedLog move.events) =
          some [⟨some "request", "client", .CANCEL, "EXTERNAL", "", 0, 2⟩] ∧
        (controllerLog (trace moves)).all Event.calm = true ∧
        moves[10]?.map (fun move => move.after.robot.protocol.status.requestId) = some "request")
      (by decide +kernel)
  have inside : 5 + 1 + 3 < moves.length := by omega
  have cut : moves = moves.take 5 ++ moves[5] :: ((moves.drop 6).take 3 ++ moves[9] :: moves.drop 10) :=
    cut_twice moves 5 3 inside
  have failed : FailedEntry "request" moves[5] ((moves.drop 6).take 3) moves[9] :=
    replayed_entry inside prepares pending raises
  have rest : moves.drop 10 = [moves[10]] := by
    rw [← List.getElem_cons_drop, List.drop_of_length_le (by omega)]
  rw [rest] at cut
  rw [List.getElem?_eq_getElem (by omega)] at cancels reads armed
  simp only [Option.map_some, Option.some.injEq] at cancels reads armed
  refine ⟨moves, _, _, _, _, _, _, link, run, cut, failed, fun move member lost => ?_,
    fun request member => ?_, cancels ▸ List.mem_singleton_self _, rfl, rfl,
    reads ▸ List.mem_singleton_self _, armed⟩
  · have listed : move.input ∈ armInputs ++ abortInputs 1001 := inputs ▸ List.mem_map_of_mem member
    rw [lost] at listed
    simp [armInputs, abortInputs, linkRuns] at listed
  · have handed : Event.handed (.control request) true ∈ controllerLog (trace moves) :=
      List.mem_filterMap.mpr ⟨_, member, rfl⟩
    exact calm_controls calm request handed

end HumanoidSdk.System
