import HumanoidSdk.Controller.Sequence
import HumanoidSdk.Mock.ProtocolInvariant

namespace HumanoidSdk.Mock
open Foundation

/-- The sequences of the commands that Accept was called with, in their order. -/
def offered (moves : List (Move Robot Call ProtocolEvent)) : List Nat :=
  moves.filterMap fun move =>
    match move.input with
    | .accept cmd _ => some cmd.sequence.toNat
    | _ => none

@[simp] theorem offered_append (first second : List (Move Robot Call ProtocolEvent)) :
    offered (first ++ second) = offered first ++ offered second := List.filterMap_append

theorem watchdog_acceptedSequence (p : Protocol) (now : UInt64) :
    (p.watchdog now).status.acceptedSequence = p.status.acceptedSequence ∨
      (p.watchdog now).status.acceptedSequence = 0 := by
  rcases p.watchdog_cases now with ⟨kept, _⟩ | ⟨_, _, fired, _⟩ | ⟨_, _, fired, _⟩
  · exact Or.inl (by rw [kept])
  · exact Or.inr (by rw [fired]; rfl)
  · exact Or.inl (by rw [fired]; rfl)

/-- A call keeps the accepted sequence, resets it or takes it from the offered command. -/
theorem call_acceptedSequence (p : Protocol) (c : Call) :
    (p.call c).status.acceptedSequence = p.status.acceptedSequence ∨
      (p.call c).status.acceptedSequence = 0 ∨
      ∃ cmd now, c = .accept cmd now ∧ (p.call c).status.acceptedSequence = cmd.sequence := by
  have first := watchdog_acceptedSequence p c.now
  cases c with
  | watchdog now => exact first.imp_right Or.inl
  | tick now wallUs =>
      have kept : (p.call (.tick now wallUs)).status = (p.watchdog now).status := by
        simp only [Protocol.call, Protocol.tick]
        split <;> rfl
      rw [kept]
      exact first.imp_right Or.inl
  | accept cmd now =>
      cases valid : (p.watchdog now).valid cmd with
      | true => exact Or.inr (Or.inr ⟨cmd, now, rfl, by simp [Protocol.call, Protocol.accept, valid, Protocol.store]⟩)
      | false =>
          have kept : (p.call (.accept cmd now)).status.acceptedSequence =
              (p.watchdog now).status.acceptedSequence := by
            simp [Protocol.call, Protocol.accept, valid, Protocol.refuse]
          rw [kept]
          exact first.imp_right Or.inl
  | requestControl r now =>
      have answered := (p.watchdog now).answer_cases r now
      simp only [Protocol.call, Protocol.requestControl]
      generalize (p.watchdog now).answer r now = result at answered
      cases answered with
      | cancelled => exact Or.inr (Or.inl rfl)
      | _ => exact first.imp_right Or.inl

/-- A sequence above everything offered stays above the accepted one. -/
theorem acceptedSequence_below {bound : Nat} {robot final : Robot}
    {moves : List (Move Robot Call ProtocolEvent)} (run : robotMachine.Run robot moves final)
    (start : robot.protocol.status.acceptedSequence.toNat < bound)
    (below : ∀ sequence ∈ offered moves, sequence < bound) :
    final.protocol.status.acceptedSequence.toNat < bound := by
  induction run with
  | nil => exact start
  | @snoc moves state next c events earlier accepted ih =>
      obtain ⟨_, rfl, rfl⟩ := robotMachine_step accepted
      have before := ih fun sequence member => below sequence (by simp [member])
      rcases call_acceptedSequence state.protocol c with kept | reset | ⟨cmd, now, rfl, taken⟩
      · rw [kept]
        exact before
      · rw [reset, UInt64.toNat_zero]
        omega
      · rw [taken]
        exact below _ (by simp [offered])

/-- Commands that are offered in increasing order pass the sequence check of Accept. -/
theorem increasing_admitted {robot final : Robot} {moves : List (Move Robot Call ProtocolEvent)}
    (run : robotMachine.Run robot moves final) (increasing : (offered moves).Pairwise (· < ·))
    (fresh : ∀ sequence ∈ offered moves, robot.protocol.status.acceptedSequence.toNat < sequence)
    {move : Move Robot Call ProtocolEvent} (member : move ∈ moves) {cmd : Command} {now : UInt64}
    (offers : move.input = .accept cmd now) :
    (move.before.protocol.watchdog now).status.acceptedSequence < cmd.sequence := by
  obtain ⟨earlier, later, cut⟩ := List.append_of_mem member
  obtain ⟨past, _, _⟩ := run.at_move cut
  have entries : offered moves = offered earlier ++ cmd.sequence.toNat :: offered later := by
    rw [cut, offered_append]
    simp [offered, offers]
  rw [entries] at increasing fresh
  have start := fresh cmd.sequence.toNat (by simp)
  have below := acceptedSequence_below past start fun sequence old =>
    (List.pairwise_append.mp increasing).2.2 sequence old _ List.mem_cons_self
  rw [UInt64.lt_iff_toNat_lt]
  rcases watchdog_acceptedSequence move.before.protocol now with kept | reset
  · rw [kept]
    exact below
  · rw [reset, UInt64.toNat_zero]
    omega

end HumanoidSdk.Mock

namespace HumanoidSdk.System
open Foundation Controller

/-- The sequence of a command that was handed over without an exception. -/
def handedSequence : Event → Option ℤ
  | .handed (.body command) false => some command.sequence
  | _ => none

def handedSequences (log : List Event) : List ℤ := log.filterMap handedSequence

@[simp] theorem handedSequences_append (first second : List Event) :
    handedSequences (first ++ second) = handedSequences first ++ handedSequences second :=
  List.filterMap_append

section Session

variable {Thread : Type*}

/-- The threads call nothing but `publish`, and no hand-over of a command raises. -/
structure Publishing (moves : List (HostMove Thread)) : Prop where
  calls : ∀ move ∈ moves, ∀ thread request, move.input = .call thread request →
    ∃ command, request = .publish command
  quiet : ∀ move ∈ moves, ∀ command, .handed (.body command) true ∉ move.events

/-- Every publish finds a live status of this one generation. -/
def OneGeneration (moves : List (HostMove Thread)) (generation : ℤ) : Prop :=
  ∀ move ∈ moves, ∀ requestId found, PublishesLive move requestId found → found = generation

/-- A command is handed over only while every other built command has a larger sequence. -/
def HandsInOrder (moves : List (HostMove Thread)) : Prop :=
  ∀ move ∈ moves, ∀ thread choice command, move.input = .run thread choice →
    move.before.threads thread = .publishSend command →
    ∀ other waiting, other ≠ thread → move.before.threads other = .publishSend waiting →
      command.sequence < waiting.sequence

/-- A thread of the session is idle or inside a publish. -/
def insidePublish : Pc → Bool
  | .idle | .publishStart _ | .publishSend _ => true
  | _ => false

/-- Sequences below the counter of the session belong to its commands. -/
structure Session (generation : ℤ) (log : List Event) (pool : Pool Thread Host Pc) : Prop where
  publishes : ∀ thread, insidePublish (pool.threads thread) = true
  handed : ∀ sequence ∈ handedSequences log,
    pool.shared.controller.externalSessionId = generation ∧
      sequence < pool.shared.controller.nextExternalSequence
  waiting : ∀ thread command, pool.threads thread = .publishSend command →
    pool.shared.controller.externalSessionId = generation ∧
      command.sequence < pool.shared.controller.nextExternalSequence

/-- The handed sequences increase and stay below every waiting command. -/
structure Ordered (log : List Event) (pool : Pool Thread Host Pc) : Prop where
  increasing : (handedSequences log).Pairwise (· < ·)
  waiting : ∀ thread command, pool.threads thread = .publishSend command →
    ∀ sequence ∈ handedSequences log, sequence < command.sequence

variable [DecidableEq Thread]

/-- A move of the session leaves the commands alone, builds one or hands one over. -/
inductive PublishMove (generation : ℤ) (pool next : Pool Thread Host Pc) (input : HostInput Thread)
    (events : List Event) : Prop
  | quiet (counter : next.shared.controller.externalSessionId = pool.shared.controller.externalSessionId ∧
        next.shared.controller.nextExternalSequence = pool.shared.controller.nextExternalSequence)
      (none : handedSequences events = [])
      (waiting : ∀ thread command, next.threads thread = .publishSend command →
        pool.threads thread = .publishSend command)
      (publishes : ∀ thread, insidePublish (next.threads thread) = true)
  | built (thread : Thread) (command : BodyCmd)
      (session : next.shared.controller.externalSessionId = generation ∧
        next.shared.controller.nextExternalSequence = command.sequence + 1)
      (before : pool.shared.controller.externalSessionId = generation →
        command.sequence = pool.shared.controller.nextExternalSequence)
      (none : handedSequences events = [])
      (threads : next.threads = Function.update pool.threads thread (.publishSend command))
  | sent (thread : Thread) (choice : Choice) (command : BodyCmd) (runs : input = .run thread choice)
      (waited : pool.threads thread = .publishSend command) (shared : next.shared = pool.shared)
      (one : handedSequences events = [command.sequence])
      (threads : next.threads = Function.update pool.threads thread .idle)

variable {generation : ℤ} {moves : List (HostMove Thread)} {pool next : Pool Thread Host Pc}
  {input : HostInput Thread} {events : List Event}

/-- Another counter of a thread that did not wait leaves the waiting commands. -/
theorem quiet_update (thread : Thread) (there : Pc)
    (publishes : ∀ thread, insidePublish (pool.threads thread) = true)
    (shape : insidePublish there = true) (other : ∀ command, there ≠ .publishSend command) :
    (∀ asked command, Function.update pool.threads thread there asked = .publishSend command →
      pool.threads asked = .publishSend command) ∧
    ∀ asked, insidePublish (Function.update pool.threads thread there asked) = true := by
  constructor
  · intro asked command waits
    by_cases same : asked = thread
    · rw [same, Function.update_self] at waits
      exact absurd waits (other command)
    · rwa [Function.update_of_ne same] at waits
  · intro asked
    by_cases same : asked = thread
    · rw [same, Function.update_self]
      exact shape
    · rw [Function.update_of_ne same]
      exact publishes asked

theorem publish_move (publishes : ∀ thread, insidePublish (pool.threads thread) = true)
    (accepted : (hostMachine Thread).step pool input = some (next, events))
    (publishing : Publishing (moves ++ [⟨pool, input, next, events⟩]))
    (one : OneGeneration (moves ++ [⟨pool, input, next, events⟩]) generation) :
    PublishMove generation pool next input events := by
  have last : (⟨pool, input, next, events⟩ : HostMove Thread) ∈ moves ++ [⟨pool, input, next, events⟩] :=
    List.mem_append_right _ (List.mem_singleton_self _)
  cases Program.machine_cases accepted with
  | @call thread request ready =>
      obtain ⟨command, rfl⟩ := publishing.calls _ last thread request rfl
      obtain ⟨waiting, shape⟩ := quiet_update thread (.publishStart command) publishes rfl (by simp)
      exact .quiet ⟨rfl, rfl⟩ rfl waiting shape
  | signal signal =>
      cases signal with
      | ack ack | status status =>
          exact .quiet (by simp [program, Host.react]) rfl (fun _ _ waits => waits) publishes
  | @run thread choice shared there events stepped =>
      have transition := step_cases stepped
      have shape := publishes thread
      generalize counter : pool.threads thread = pc at transition shape
      cases pc with
      | publishStart command =>
          cases transition with
          | refused refuses because =>
              obtain ⟨waiting, shape⟩ := quiet_update thread .idle publishes rfl (by simp)
              obtain rfl := Option.some.inj refuses
              exact .quiet ⟨rfl, rfl⟩ rfl waiting shape
          | failed may => cases may
          | built published =>
              have owns := ExternalController.publishSection_owns published
              obtain ⟨checked, status, session, opened, valid, cached, allowed, changed, _, rfl, rfl⟩ :=
                ExternalController.publishSection_ok published
              obtain ⟨found, origin⟩ := ExternalController.publishSession_ok changed
              have same := one _ last _ status.generation
                ⟨thread, choice, command, checked, status, rfl, counter, valid, opened, owns, cached, rfl, rfl⟩
              refine .built thread _ ⟨found.trans same, rfl⟩ (fun current => ?_) rfl rfl
              rcases origin with rfl | ⟨_, _, other, _⟩
              · rfl
              · exact absurd (same.trans current.symm) other
      | publishSend command =>
          cases transition with
          | refused refuses => cases refuses
          | failed may => cases may
          | commandSent => exact .sent thread choice command rfl counter rfl rfl rfl
          | commandRaised => exact absurd List.mem_cons_self (publishing.quiet _ last command)
      | idle =>
          cases transition with
          | refused refuses => cases refuses
          | failed may => cases may
      | _ => cases shape

/-- Every move of the session keeps the numbers below the counter. -/
theorem Session.move {log : List Event} (held : Session generation log pool)
    (move : PublishMove generation pool next input events) : Session generation (log ++ events) next := by
  cases move with
  | quiet counter none waiting publishes =>
      constructor
      · exact publishes
      · rw [handedSequences_append, none, List.append_nil, counter.1, counter.2]
        exact held.handed
      · rw [counter.1, counter.2]
        exact fun thread command waits => held.waiting thread command (waiting thread command waits)
  | built thread command session before none threads =>
      obtain ⟨now, following⟩ := session
      have grown {sequence : ℤ} (known : pool.shared.controller.externalSessionId = generation ∧
          sequence < pool.shared.controller.nextExternalSequence) :
          next.shared.controller.externalSessionId = generation ∧
            sequence < next.shared.controller.nextExternalSequence := by
        have same := before known.1
        exact ⟨now, by omega⟩
      constructor
      · intro asked
        rw [threads]
        by_cases same : asked = thread
        · rw [same, Function.update_self]
          rfl
        · rw [Function.update_of_ne same]
          exact held.publishes asked
      · rw [handedSequences_append, none, List.append_nil]
        exact fun sequence member => grown (held.handed sequence member)
      · intro asked waiting waits
        rw [threads] at waits
        by_cases same : asked = thread
        · rw [same, Function.update_self] at waits
          obtain rfl := Pc.publishSend.inj waits
          exact ⟨now, by omega⟩
        · rw [Function.update_of_ne same] at waits
          exact grown (held.waiting asked waiting waits)
  | sent thread choice command runs waited shared one threads =>
      obtain ⟨waiting, publishes⟩ := quiet_update thread .idle held.publishes rfl (by simp)
      constructor
      · rw [threads]
        exact publishes
      · rw [handedSequences_append, one, shared]
        intro sequence member
        rcases List.mem_append.mp member with old | new
        · exact held.handed sequence old
        · obtain rfl := List.mem_singleton.mp new
          exact held.waiting thread command waited
      · rw [threads, shared]
        exact fun thread command waits => held.waiting thread command (waiting thread command waits)

/-- A move that hands over the least waiting command keeps the order. -/
theorem Ordered.move {log : List Event} (held : Session generation log pool) (ordered : Ordered log pool)
    (least : HandsInOrder [⟨pool, input, next, events⟩])
    (move : PublishMove generation pool next input events) : Ordered (log ++ events) next := by
  cases move with
  | quiet counter none waiting publishes =>
      constructor
      · rw [handedSequences_append, none, List.append_nil]
        exact ordered.increasing
      · rw [handedSequences_append, none, List.append_nil]
        exact fun thread command waits => ordered.waiting thread command (waiting thread command waits)
  | built thread command session before none threads =>
      constructor
      · rw [handedSequences_append, none, List.append_nil]
        exact ordered.increasing
      · rw [handedSequences_append, none, List.append_nil, threads]
        intro asked waiting waits sequence member
        by_cases same : asked = thread
        · rw [same, Function.update_self] at waits
          obtain rfl := Pc.publishSend.inj waits
          obtain ⟨current, below⟩ := held.handed sequence member
          have next := before current
          omega
        · rw [Function.update_of_ne same] at waits
          exact ordered.waiting asked waiting waits sequence member
  | sent thread choice command runs waited shared one threads =>
      have below := ordered.waiting thread command waited
      constructor
      · rw [handedSequences_append, one]
        refine List.pairwise_append.mpr ⟨ordered.increasing, List.pairwise_singleton _ _, ?_⟩
        intro sequence member last isLast
        obtain rfl := List.mem_singleton.mp isLast
        exact below sequence member
      · rw [handedSequences_append, one, threads]
        intro asked waiting waits sequence member
        by_cases same : asked = thread
        · rw [same, Function.update_self] at waits
          cases waits
        · rw [Function.update_of_ne same] at waits
          rcases List.mem_append.mp member with old | new
          · exact ordered.waiting asked waiting waits sequence old
          · obtain rfl := List.mem_singleton.mp new
            exact least _ (List.mem_singleton_self _) thread choice command runs waited asked waiting same waits

omit [DecidableEq Thread] in
theorem Publishing.part {part : List (HostMove Thread)} (publishing : Publishing moves)
    (inside : part ⊆ moves) : Publishing part :=
  ⟨fun move member => publishing.calls move (inside member),
    fun move member => publishing.quiet move (inside member)⟩

/-- Every run of the session keeps the numbers below the counter. -/
theorem session_run {start : Pool Thread Host Pc} (run : (hostMachine Thread).Run start moves pool)
    (idle : ∀ thread, start.threads thread = .idle) (publishing : Publishing moves)
    (one : OneGeneration moves generation) : Session generation (trace moves) pool := by
  refine run.invariant (fun moves pool => Publishing moves → OneGeneration moves generation →
    Session generation (trace moves) pool) ?_ ?_ publishing one
  · intro _ _
    constructor
    · intro thread
      rw [idle thread]
      rfl
    · simp [handedSequences]
    · intro thread command waits
      rw [idle thread] at waits
      cases waits
  · intro moves pool input next events _ ih accepted publishing one
    have held := ih (publishing.part (List.subset_append_left _ _)) fun move member =>
      one move (List.mem_append_left _ member)
    simpa using held.move (publish_move held.publishes accepted publishing one)

/-- Hand-overs in order give increasing sequences. -/
theorem ordered_run {start : Pool Thread Host Pc} (run : (hostMachine Thread).Run start moves pool)
    (idle : ∀ thread, start.threads thread = .idle) (publishing : Publishing moves)
    (one : OneGeneration moves generation) (inOrder : HandsInOrder moves) : Ordered (trace moves) pool := by
  refine run.invariant (fun moves pool => Publishing moves → OneGeneration moves generation →
    HandsInOrder moves → Ordered (trace moves) pool) ?_ ?_ publishing one inOrder
  · intro _ _ _
    exact ⟨List.Pairwise.nil, by simp [handedSequences]⟩
  · intro moves pool input next events earlier ih accepted publishing one inOrder
    have before := publishing.part (List.subset_append_left moves [⟨pool, input, next, events⟩])
    have same : OneGeneration moves generation := fun move member => one move (List.mem_append_left _ member)
    have held := session_run earlier idle before same
    have ordered := ih before same fun move member => inOrder move (List.mem_append_left _ member)
    have least : HandsInOrder [⟨pool, input, next, events⟩] := fun move member =>
      inOrder move (List.mem_append_right _ member)
    simpa using ordered.move held least (publish_move held.publishes accepted publishing one)

/-- A waiting command is handed over before its thread is idle again. -/
theorem waiting_handed {start : Pool Thread Host Pc} (run : (hostMachine Thread).Run start moves pool)
    {thread : Thread} {command : BodyCmd} (waited : start.threads thread = .publishSend command)
    (publishing : Publishing moves) :
    pool.threads thread = .publishSend command ∨ command.sequence ∈ handedSequences (trace moves) := by
  refine run.invariant (fun moves pool => Publishing moves →
    pool.threads thread = .publishSend command ∨ command.sequence ∈ handedSequences (trace moves))
    ?_ ?_ publishing
  · exact fun _ => Or.inl waited
  · intro moves pool input next events _ ih accepted publishing
    have last : (⟨pool, input, next, events⟩ : HostMove Thread) ∈ moves ++ [⟨pool, input, next, events⟩] :=
      List.mem_append_right _ (List.mem_singleton_self _)
    rcases ih (publishing.part (List.subset_append_left _ _)) with waits | handed
    · cases Program.machine_cases accepted with
      | @call other request ready =>
          have different : thread ≠ other := by
            rintro rfl
            rw [waits] at ready
            cases ready
          exact Or.inl (by simpa [different] using waits)
      | signal => exact Or.inl waits
      | @run other choice shared there events stepped =>
          by_cases same : thread = other
          · subst same
            have transition := step_cases stepped
            rw [waits] at transition
            cases transition with
            | refused refuses => cases refuses
            | failed may => cases may
            | commandSent => exact Or.inr (by simp [handedSequences, handedSequence])
            | commandRaised => exact absurd List.mem_cons_self (publishing.quiet _ last command)
          · exact Or.inl (by simpa [same] using waits)
    · exact Or.inr (by simp [handed])

/-- In one session the commands are handed over in increasing order when each hand-over takes the
least waiting command, and only then when every call has returned. A robot that is offered them in
the order of their hand-over refuses none for its sequence. -/
theorem handed_in_order {start final : Pool Thread Host Pc}
    (run : (hostMachine Thread).Run start moves final)
    (idle : ∀ thread, start.threads thread = .idle) (publishing : Publishing moves)
    (one : OneGeneration moves generation) :
    (HandsInOrder moves → (handedSequences (trace moves)).Pairwise (· < ·)) ∧
    ((∀ thread, final.threads thread = .idle) →
      ((handedSequences (trace moves)).Pairwise (· < ·) ↔ HandsInOrder moves)) ∧
    ((handedSequences (trace moves)).Pairwise (· < ·) →
      ∀ (robot robotFinal : Mock.Robot) (calls : List (Move Mock.Robot Mock.Call Mock.ProtocolEvent)),
        Mock.robotMachine.Run robot calls robotFinal →
        (Mock.offered calls).map Int.ofNat <+: handedSequences (trace moves) →
        (∀ sequence ∈ Mock.offered calls, robot.protocol.status.acceptedSequence.toNat < sequence) →
        ∀ call ∈ calls, ∀ cmd now, call.input = .accept cmd now →
          (call.before.protocol.watchdog now).status.acceptedSequence < cmd.sequence) := by
  have forward (inOrder : HandsInOrder moves) : (handedSequences (trace moves)).Pairwise (· < ·) :=
    (ordered_run run idle publishing one inOrder).increasing
  refine ⟨forward, fun returned => ⟨fun increasing => ?_, forward⟩, ?_⟩
  · intro move member thread choice command runs waited other waiting different waits
    obtain ⟨earlier, later, cut⟩ := List.append_of_mem member
    obtain ⟨_, accepted, rest⟩ := run.at_move cut
    have inside : [move] ++ later ⊆ moves := by
      rw [cut]
      exact List.subset_append_right _ _
    have following := publishing.part inside
    rw [runs] at accepted
    generalize afterMove : move.after = after at accepted rest
    generalize moveEvents : move.events = events at accepted
    cases Program.machine_cases accepted with
    | run stepped =>
        have transition := step_cases stepped
        rw [waited] at transition
        have still : (Function.update move.before.threads thread .idle) other = .publishSend waiting := by
          rw [Function.update_of_ne different]
          exact waits
        cases transition with
        | refused refuses => cases refuses
        | failed may => cases may
        | commandRaised =>
            exact absurd (by rw [moveEvents]; exact List.mem_cons_self)
              (publishing.quiet move member command)
        | commandSent =>
            have handed := (waiting_handed rest still (following.part (List.subset_append_right _ _))).resolve_left
              (by rw [returned other]; simp)
            have entries : handedSequences (trace moves) =
                handedSequences (trace earlier) ++ command.sequence :: handedSequences (trace later) := by
              have own : handedSequences move.events = [command.sequence] := by rw [moveEvents]; rfl
              rw [cut, trace_append, trace_cons, handedSequences_append, handedSequences_append, own]
              rfl
            rw [entries] at increasing
            have after := (List.pairwise_append.mp increasing).2.1
            exact (List.pairwise_cons.mp after).1 _ handed
  · intro increasing robot robotFinal calls ran order fresh call member cmd now offers
    have sorted : ((Mock.offered calls).map Int.ofNat).Pairwise (· < ·) := increasing.sublist order.sublist
    have natural : (Mock.offered calls).Pairwise (· < ·) :=
      (List.pairwise_map.mp sorted).imp fun below => Int.ofNat_lt.mp below
    exact Mock.increasing_admitted ran natural fresh member offers

end Session

/-- The only thread of the entry is the first of two. -/
def enteredPair : List (HostInput Bool) := enteredInputs.map (onThread false)

/-- Both threads call publish with the same command. -/
def publishPair : List (HostInput Bool) :=
  [.call false (.publish (some zeroCommand)), .call true (.publish (some zeroCommand))]

/-- The checks of a replay with one cached generation. -/
theorem replayed_session {moves : List (HostMove Bool)} {schedule : List Bool} {generation : ℤ}
    (inputs : moves.map Move.input = publishPair ++ schedule.map fun thread => .run thread {})
    (quiet : (moves.all fun move => move.events.all fun
      | .handed (.body _) raised => raised = false
      | _ => true) = true)
    (cached : (moves.all fun move => move.before.shared.controller.latestStatus.all fun status =>
      status.generation = generation) = true) :
    Publishing moves ∧ OneGeneration moves generation := by
  refine ⟨⟨?_, ?_⟩, ?_⟩
  · intro move member thread request called
    have listed : move.input ∈ publishPair ++ schedule.map fun thread => .run thread {} :=
      inputs ▸ List.mem_map_of_mem member
    rw [called] at listed
    simp only [publishPair, List.mem_append, List.mem_cons, List.mem_map, PoolInput.call.injEq,
      List.not_mem_nil, or_false, reduceCtorEq, and_false, exists_false] at listed
    rcases listed with ⟨_, rfl⟩ | ⟨_, rfl⟩
    · exact ⟨_, rfl⟩
    · exact ⟨_, rfl⟩
  · intro move member command raised
    have none := List.all_eq_true.mp (List.all_eq_true.mp quiet move member) _ raised
    simp at none
  · rintro move member requestId found ⟨_, _, _, _, status, _, _, _, _, _, latest, rfl, _⟩
    have same := List.all_eq_true.mp cached move member
    rw [latest] at same
    exact of_decide_eq_true same

/-- Two publishes that hand over in the order of their sequences. -/
theorem handed_in_order_pair :
    ∃ before start moves final, (hostMachine Bool).Run (freshPool Bool "client") before start ∧
      (hostMachine Bool).Run start moves final ∧ handedSequences (trace moves) = [1, 2] ∧
      ((handedSequences (trace moves)).Pairwise (· < ·) ↔ HandsInOrder moves) := by
  obtain ⟨before, start, moves, final, past, run, inputs, idle, returned, handed, quiet, cached⟩ :=
    (hostMachine Bool).exists_runs (freshPool Bool "client") enteredPair
      (publishPair ++ [false, true, false, true].map fun thread => .run thread {})
      (fun start moves final => (∀ thread, start.threads thread = .idle) ∧
        (∀ thread, final.threads thread = .idle) ∧ handedSequences (trace moves) = [1, 2] ∧
        (moves.all fun move => move.events.all fun
          | .handed (.body _) raised => raised = false
          | _ => true) = true ∧
        (moves.all fun move => move.before.shared.controller.latestStatus.all fun status =>
          status.generation = 42) = true) (by decide +kernel)
  obtain ⟨publishing, one⟩ := replayed_session inputs quiet cached
  exact ⟨before, start, moves, final, past, run, handed, (handed_in_order run idle publishing one).2.1 returned⟩

/-- The second command overtakes the first one between its numbering and its hand-over. -/
theorem handed_in_order_overtaken :
    ∃ before start moves final, (hostMachine Bool).Run (freshPool Bool "client") before start ∧
      (hostMachine Bool).Run start moves final ∧ (∀ thread, start.threads thread = .idle) ∧
      Publishing moves ∧ OneGeneration moves 42 ∧
      ¬ (handedSequences (trace moves)).Pairwise (· < ·) := by
  obtain ⟨before, start, moves, final, past, run, inputs, idle, handed, quiet, cached⟩ :=
    (hostMachine Bool).exists_runs (freshPool Bool "client") enteredPair
      (publishPair ++ [false, true, true, false].map fun thread => .run thread {})
      (fun start moves _ => (∀ thread, start.threads thread = .idle) ∧
        handedSequences (trace moves) = [2, 1] ∧
        (moves.all fun move => move.events.all fun
          | .handed (.body _) raised => raised = false
          | _ => true) = true ∧
        (moves.all fun move => move.before.shared.controller.latestStatus.all fun status =>
          status.generation = 42) = true) (by decide +kernel)
  obtain ⟨publishing, one⟩ := replayed_session inputs quiet cached
  refine ⟨before, start, moves, final, past, run, idle, publishing, one, ?_⟩
  rw [handed]
  decide

end HumanoidSdk.System
