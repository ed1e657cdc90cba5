import HumanoidSdk.EndEffector.Established

/-
This file states the sequence law of the end-effector commands on whole runs: any number of threads,
nested publishes of callbacks, and every step of a publish that may raise.
-/

namespace HumanoidSdk.EndEffector
open Foundation

variable {Thread : Type*} [DecidableEq Thread] {client : Client}

/-- A pool of threads around one client. -/
abbrev ClientPool (client : Client) (Thread : Type*) : Type _ :=
  Pool Thread (Shared client) (List (Frame client))

abbrev ClientMove (client : Client) (Thread : Type*) : Type _ :=
  Move (ClientPool client Thread) (PoolInput Thread (Request client) (Choice client) (Signal client)) (Event client)

/-- A client fresh from its constructor. -/
def freshClient (client : Client) (Thread : Type*) : ClientPool client Thread := ⟨{}, fun _ => []⟩

/-- A thread is about to hand over the command whose sequence it has just stored. -/
def HandsOver (pool : ClientPool client Thread) (entry : ℕ × ℕ) : Prop :=
  ∃ thread args scratch commandId rest below,
    pool.threads thread = .publish (.late entry.1 args scratch entry.2 commandId rest) :: below

/-- What a run guarantees about the sequences of its commands. -/
structure SequenceLaw (moves : List (ClientMove client Thread)) (final : ClientPool client Thread) : Prop where
  consumed : (consumptions (trace moves)).map Prod.snd = List.range' 1 final.shared.sequence
  bounded : final.shared.sequence ≤ UINT64_MAX
  once : ((consumptions (trace moves)).map Prod.fst).Nodup
  handed : ∃ pending, consumptions (trace moves) = handOvers (trace moves) ++ pending ∧ pending.length ≤ 1 ∧
    ∀ entry ∈ pending, HandsOver final entry
  increasing : ((handOvers (trace moves)).map Prod.snd).Pairwise (· < ·)
  spared : ∀ ticket error sequence, .refused ticket error ∈ trace moves → .consumed ticket sequence ∉ trace moves
  exhausted : ∀ earlier move later, moves = earlier ++ move :: later →
    move.before.shared.sequence = UINT64_MAX → consumptions move.events = [] ∧
      ∀ thread choice ticket args scratch polled below, move.input = .run thread choice →
        move.before.threads thread = .publish (.preparing ticket args scratch polled []) :: below →
          move.events = [.refused ticket client.exhaustedError]
  numbered : ∀ ticket args command raises, .handed ticket args command raises ∈ trace moves →
    client.cmdId args = .none → client.cmdIdOf command = (client.sequenceOf command % 2 ^ 16 : ℕ)

variable {post : Post client} {moves : List (ClientMove client Thread)} {final : ClientPool client Thread}

/-- In every state the account is right, and what is pending is about to be handed over. -/
theorem counted_run (establishes : client.Establishes post)
    (run : ((clientProgram client).machine Thread).Run (freshClient client Thread) moves final) :
    ∃ pending, Counted post (trace moves) final.shared pending ∧ pending.length ≤ 1 ∧
      ∀ entry ∈ pending, HandsOver final entry := by
  have start : (publishLock client).Guards (fun log shared => Counted post log shared []) (Held post) []
      (freshClient client Thread).shared (freshClient client Thread).threads :=
    .free rfl (Counted.initial rfl) fun _ => rfl
  cases (publish_disciplined establishes).run start run with
  | free _ counted _ => exact ⟨[], counted, by simp, by simp⟩
  | held _ holder _ held _ =>
      generalize same : final.threads holder = stack at held
      cases held with
      | parked counted _ => exact ⟨[], counted, by simp, by simp⟩
      | @busy phase ticket below busy =>
          refine ⟨phase.due, busy.counted, ?_, ?_⟩
          · cases phase with
            | acquire | preparing | finishing | late => simp [PublishPhase.due]
          · intro entry member
            cases phase with
            | late ticket args scratch sequence commandId rest =>
                obtain rfl := List.mem_singleton.mp member
                exact ⟨holder, args, scratch, commandId, rest, below, same⟩
            | acquire | preparing | finishing => cases member

/-- A client whose sequence is exhausted consumes nothing more. -/
theorem exhausted_move (establishes : client.Establishes post)
    (run : ((clientProgram client).machine Thread).Run (freshClient client Thread) moves final)
    {earlier later : List (ClientMove client Thread)} {move : ClientMove client Thread}
    (cut : moves = earlier ++ move :: later) (full : move.before.shared.sequence = UINT64_MAX) :
    consumptions move.events = [] := by
  obtain ⟨before, accepted, -⟩ := run.at_move cut
  obtain ⟨pending, counted, -⟩ := counted_run establishes before
  obtain ⟨pending', counted', -⟩ := counted_run establishes (before.snoc accepted)
  have consumed := counted'.contiguous
  rw [trace_append, consumptions_append, List.map_append, counted.contiguous, full, trace_cons, trace_nil,
    List.append_nil] at consumed
  have lengths := congrArg List.length consumed
  rw [List.length_append, List.length_range', List.length_range', List.length_map] at lengths
  have bounded := counted'.bounded
  have none : (consumptions move.events).length = 0 := by
    dsimp only at lengths
    omega
  exact List.length_eq_zero_iff.mp none

/-- A publish that reaches an exhausted sequence raises. -/
theorem exhausted_refuses {pool next : ClientPool client Thread} {thread : Thread} {choice : Choice client}
    {events : List (Event client)} {ticket : ℕ} {args : client.Args} {scratch : client.Scratch} {polled : Bool}
    {below : List (Frame client)} (full : pool.shared.sequence = UINT64_MAX)
    (top : pool.threads thread = .publish (.preparing ticket args scratch polled []) :: below)
    (accepted : ((clientProgram client).machine Thread).step pool (.run thread choice) = some (next, events)) :
    events = [.refused ticket client.exhaustedError] := by
  cases Program.machine_cases accepted with
  | run stepped =>
      rw [top] at stepped
      have above : pool.shared.sequence + 1 > UINT64_MAX := by omega
      cases choice with
      | go =>
          simp only [clientProgram, Shared.step, Shared.frameStep, Shared.publishStep, if_pos above,
            Option.map_some, Option.some.injEq, Prod.mk.injEq] at stepped
          exact stepped.2.2.symm
      | raise | spoil | expire | clock | call =>
          simp [clientProgram, Shared.step, Shared.frameStep, Shared.publishStep] at stepped

/-- The law holds of every client that does not raise between the storage of a sequence and its
hand-over. -/
theorem sequence_law (establishes : client.Establishes post)
    (run : ((clientProgram client).machine Thread).Run (freshClient client Thread) moves final) :
    SequenceLaw moves final := by
  obtain ⟨pending, counted, short, handsOver⟩ := counted_run establishes run
  refine ⟨counted.contiguous, counted.bounded, ?_, ⟨pending, counted.handed, short, handsOver⟩, ?_, ?_, ?_, ?_⟩
  · exact counted.once.sublist (consumed_settled _)
  · have increasing : ((consumptions (trace moves)).map Prod.snd).Pairwise (· < ·) := by
      rw [counted.contiguous]
      exact List.pairwise_lt_range'
    rw [counted.handed, List.map_append] at increasing
    exact (List.pairwise_append.mp increasing).1
  · intro ticket error sequence refused
    exact settlements_unique counted.once refused
  · intro earlier move later cut full
    refine ⟨exhausted_move establishes run cut full, ?_⟩
    intro thread choice ticket args scratch polled below isInput top
    have accepted := (run.at_move cut).2.1
    rw [isInput] at accepted
    exact exhausted_refuses full top accepted
  · intro ticket args command raises member
    obtain ⟨before, after, cut⟩ := List.append_of_mem member
    exact (counted.correct before _ after cut).1

/-- The commands of a hand and of a gripper obey the sequence law on every run. -/
theorem commands_sequenced (hand : HandConfig) (gripper : GripperConfig)
    {handMoves : List (ClientMove (handClient hand) Thread)} {handFinal : ClientPool (handClient hand) Thread}
    {gripperMoves : List (ClientMove (gripperClient gripper) Thread)}
    {gripperFinal : ClientPool (gripperClient gripper) Thread}
    (handRun : ((clientProgram (handClient hand)).machine Thread).Run (freshClient _ Thread) handMoves handFinal)
    (gripperRun : ((clientProgram (gripperClient gripper)).machine Thread).Run (freshClient _ Thread) gripperMoves
      gripperFinal) :
    SequenceLaw handMoves handFinal ∧ SequenceLaw gripperMoves gripperFinal :=
  ⟨sequence_law (hand_establishes hand) handRun, sequence_law (GripperClient.establishes gripper) gripperRun⟩

/-- A hand with one joint that is polled by its callers. -/
def sampleHand : HandConfig where
  View := Unit
  codec := {
    decodeInfo := fun _ => .ok ⟨1, 1, 1, ["thumb"], [.finite 0], [.finite 1], [.finite 1], 0, 0⟩
    decodeState := fun _ => .error (valueError "state")
    decodeTouch := fun _ => .error (valueError "touch") }
  side := .left
  sessionId := 1
  readOnly := false
  pullFeedback := true
  hasCallback kind := kind = .info

/-- An Info whose limits are zero apart from the opening. -/
def sampleInfo (gripperType : ℤ) (openingMaxM : ℚ) : GripperInfo :=
  ⟨gripperType, 1, .finite 0, .finite openingMaxM, .finite 0, .finite 0, 1, 1, 1, .finite 0, 1, 1⟩

/-- A worker sees an AGX gripper that stays shut, one that opens a meter, or another gripper. -/
inductive SampleView where
  | shut
  | wide
  | foreign

/-- A gripper with subscriber workers. -/
def sampleGripper : GripperConfig where
  View := SampleView
  codec := {
    decodeInfo
      | .shut => .ok (sampleInfo 1 0)
      | .wide => .ok (sampleInfo 1 1)
      | .foreign => .ok (sampleInfo 9 0)
    decodeState := fun _ => .error (valueError "state")
    doubles := by
      have zero : IsDouble (.finite 0) := by simp [IsDouble, BinaryFormat.round]
      have one : IsDouble (.finite 1) := by
        rw [IsDouble]
        decide +kernel
      intro view info decodes
      cases view <;> cases decodes <;> simp [GripperInfo.Doubles, sampleInfo, zero, one] }
  numbers := ⟨1, 1, 2, 3⟩
  side := .left
  sessionId := 1
  readOnly := false
  pullFeedback := false
  hasCallback _ := false

/-- One thread takes steps with the given choices. -/
def steps {client : Client} (thread : Bool) (choices : List (Choice client)) :
    List (PoolInput Bool (Request client) (Choice client) (Signal client)) := choices.map (PoolInput.run thread)

def middle : HandArgs := { q := some [.float (.finite (1 / 2))] }

/-- A publish of the hand from the lock to its first poll and from there to the hand-over. -/
def handPublish {client : Client} (during : List (Choice client)) (last : Choice client) : List (Choice client) :=
  List.replicate 5 .go ++ during ++ List.replicate 14 .go ++ [.clock 1000, .go, .go, .clock 2000, .go, .go, last]

/-- The poll of a publish receives Info, and its callback publishes on the same thread. -/
def nestedPublish : List (PoolInput Bool (Request (handClient sampleHand)) (Choice (handClient sampleHand))
    (Signal (handClient sampleHand))) :=
  .signal (.arrive .info ()) :: .call true (.user (.publish middle)) ::
    steps true (handPublish ([.go, .go, .go, .call (.publish middle)] ++ handPublish [.go] .go ++ [.go]) .raise)

def closed : GripperArgs := { q := .int 0 }

/-- A publish without Info is refused, and the next one follows the Info of a worker. -/
def refusedPublish : List (PoolInput Bool (Request (gripperClient sampleGripper))
    (Choice (gripperClient sampleGripper)) (Signal (gripperClient sampleGripper))) :=
  .call true (.user (.publish closed)) :: steps true [.go, .go, .go, .go, .go] ++
    .call false (.deliver .info SampleView.shut) :: steps false [.go, .go] ++
    .call true (.user (.publish closed)) ::
      steps true (List.replicate 16 .go ++ [.clock 1000, .go, .clock 2000, .go, .go, .go, .go])

/-- The inner publish hands over first, and the refused one consumes nothing. -/
theorem commands_sequenced_nested :
    ∃ (handMoves : List (ClientMove (handClient sampleHand) Bool)) (handFinal : ClientPool (handClient sampleHand) Bool)
      (gripperMoves : List (ClientMove (gripperClient sampleGripper) Bool))
      (gripperFinal : ClientPool (gripperClient sampleGripper) Bool),
      handOvers (trace handMoves) = [(2, 1), (1, 2)] ∧ handFinal.shared.sequence = 2 ∧
        handOvers (trace gripperMoves) = [(2, 1)] ∧ settlements (trace gripperMoves) = [1, 2] ∧
        SequenceLaw handMoves handFinal ∧ SequenceLaw gripperMoves gripperFinal := by
  obtain ⟨handMoves, handFinal, handRun, -, nested, last⟩ :=
    ((clientProgram (handClient sampleHand)).machine Bool).exists_run (freshClient _ Bool) nestedPublish
      (fun moves final => handOvers (trace moves) = [(2, 1), (1, 2)] ∧ final.shared.sequence = 2)
      (by decide +kernel)
  obtain ⟨gripperMoves, gripperFinal, gripperRun, -, only, settled⟩ :=
    ((clientProgram (gripperClient sampleGripper)).machine Bool).exists_run (freshClient _ Bool) refusedPublish
      (fun moves _ => handOvers (trace moves) = [(2, 1)] ∧ settlements (trace moves) = [1, 2])
      (by decide +kernel)
  exact ⟨handMoves, handFinal, gripperMoves, gripperFinal, nested, last, only, settled,
    commands_sequenced sampleHand sampleGripper handRun gripperRun⟩

end HumanoidSdk.EndEffector
