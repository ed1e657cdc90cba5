import HumanoidSdk.Demo.HandStep
import HumanoidSdk.Demo.HandTrajectory

/-
This file follows a run of the hand motion through its moves. What leaves the host is always a beginning of
the move to the low pose and a number of rounds.
-/

namespace HumanoidSdk.Demo
open Foundation EndEffector

/-- The commands that leave the host. -/
def published (log : List HandEvent) : CommandSet :=
  log.filterMap fun event => match event with
    | .published side q _ _ => some (side, q)
    | _ => none

/-- The commands of a script. -/
def publishes (script : List Action) : CommandSet :=
  script.filterMap fun action => match action with
    | .frame => none
    | .publish side q => some (side, q)

/-- How far the moves are. A command may be taken from the script and not yet sent. -/
inductive Mode where
  | early
  | underway (owed : CommandSet)
  | between
  | over

def HandPhase.mode : HandPhase → Mode
  | .learning _ | .dating _ _ _ | .counting _ _ _ _ | .starting | .framing false | .checking false _ _ _ | .testing | .posing _ => .early
  | .framing true | .checking true _ _ _ | .noting _ _ => .underway []
  | .publishing side q => .underway [(side, q)]
  | .rounding => .between
  | .finished | .raised _ => .over

namespace HandSetup

variable (setup : HandSetup)

/-- The commands of the move to the low pose and of a number of rounds. -/
def session (start : Pose) (rounds : ℕ) : CommandSet :=
  (setup.moveSets start setup.lowTargets ++ setup.roundsSets rounds).flatten

theorem session_succ (start : Pose) (rounds : ℕ) :
    setup.session start (rounds + 1) = setup.session start rounds ++ setup.roundSets.flatten := by
  rw [session, roundsSets, List.replicate_succ', List.flatten_concat, ← List.append_assoc,
    List.flatten_append]
  rfl

theorem publishes_moveActions (positions targets : Pose) :
    publishes (setup.moveActions positions targets) = (setup.moveSets positions targets).flatten := by
  have dwell (count : ℕ) : publishes (List.replicate count .frame) = [] := by
    induction count with
    | zero => rfl
    | succ count ih => exact ih
  have sets (list : List CommandSet) :
      publishes (list.flatMap fun set => .frame :: set.map fun command => .publish command.1 command.2) =
        list.flatten := by
    induction list with
    | nil => rfl
    | cons set rest ih =>
        rw [List.flatMap_cons, publishes, List.filterMap_append, List.flatten_cons]
        refine congrArg₂ (· ++ ·) ?_ ih
        rw [List.filterMap_cons, List.filterMap_map]
        exact List.filterMap_some
  rw [moveActions, publishes, List.filterMap_append]
  exact (congrArg₂ (· ++ ·) (sets _) (dwell _)).trans (List.append_nil _)

theorem publishes_roundActions : publishes setup.roundActions = setup.roundSets.flatten := by
  rw [roundActions, roundSets]
  induction setup.roundMoves with
  | nil => rfl
  | cons move rest ih =>
      rw [List.flatMap_cons, List.flatMap_cons, publishes, List.filterMap_append, List.flatten_append]
      exact congrArg₂ (· ++ ·) (setup.publishes_moveActions move.1 move.2) ih

end HandSetup

/-- What has left the host, what the next statement sends and what the script holds make up whole rounds. -/
def Stage (setup : HandSetup) (sent : CommandSet) (motion : HandMotion) : Prop :=
  match motion.phase.mode with
  | .early => sent = [] ∧ motion.rounds = 0
  | .underway owed => sent ++ (owed ++ publishes motion.script) = setup.session motion.positions motion.rounds
  | .between => sent = setup.session motion.positions motion.rounds
  | .over => sent <+: setup.session motion.positions motion.rounds

namespace Stage

variable {setup : HandSetup} {sent : CommandSet} {motion : HandMotion}

/-- What has left the host is a beginning of whole rounds. -/
theorem isPrefix (stage : Stage setup sent motion) : sent <+: setup.session motion.positions motion.rounds := by
  unfold Stage at stage
  split at stage
  · exact stage.1 ▸ List.nil_prefix
  · exact ⟨_, stage⟩
  · exact ⟨[], (List.append_nil _).trans stage⟩
  · exact stage

/-- The next action is taken from the script. -/
theorem next (account : sent ++ publishes motion.script = setup.session motion.positions motion.rounds) :
    Stage setup sent motion.next := by
  unfold HandMotion.next
  split
  · rename_i empty
    rw [empty] at account
    exact (List.append_nil sent).symm.trans account
  · rename_i rest script
    rw [script] at account
    exact account
  · rename_i side q rest script
    rw [script] at account
    exact account

end Stage

theorem published_checkEcho (side : Side) (sessionId : ℤ) (timeout : ℚ) (sent : Sent) (feedback : HandFeedback)
    (now : ℚ) : published (checkEcho side sessionId timeout sent feedback now).2 = [] := by
  unfold checkEcho
  split
  · rfl
  · split
    · dsimp only
      split
      · rfl
      · rfl
    · split
      · rfl
      · rfl

theorem published_checkHand (setup : HandSetup) (info : HandLimits) (moving : Bool) (tracker : Tracker)
    (feedback : HandFeedback) (now : ℚ) : published (checkHand setup info moving tracker feedback now).2 = [] := by
  unfold checkHand
  split
  · rfl
  · split
    · rfl
    · exact published_checkEcho _ _ _ _ _ _

/-- The check of one hand raises, or goes on to the next hand. -/
theorem check_cases (setup : HandSetup) (motion : HandMotion) (info : HandLimits) (moving : Bool) (now : ℚ)
    (rest : List HandLimits) (ready : Bool) (feedback : HandFeedback) :
    published (motion.check setup info moving now rest ready feedback).2 = [] ∧
      ((∃ failure, (motion.check setup info moving now rest ready feedback).1 =
          { motion with phase := .raised failure }) ∨
        ∃ tracker ready', (motion.check setup info moving now rest ready feedback).1 =
          { motion.setTracker info.side tracker with phase := .checking moving now rest ready' }) := by
  have quiet := published_checkHand setup info moving (motion.trackers info.side) feedback now
  unfold HandMotion.check
  split
  · rename_i failure events same
    rw [same] at quiet
    exact ⟨quiet, .inl ⟨failure, rfl⟩⟩
  · rename_i tracker events same
    rw [same] at quiet
    exact ⟨quiet, .inr ⟨tracker, _, rfl⟩⟩

theorem published_append (log events : List HandEvent) : published (log ++ events) = published log ++ published events :=
  List.filterMap_append

/-- One statement of the motion. -/
theorem Stage.step {setup : HandSetup} {log events : List HandEvent} {motion next : HandMotion} {now : ℚ}
    {input : HandInput} (stage : Stage setup (published log) motion)
    (step : motion.Step setup now input events next) : Stage setup (published (log ++ events)) next := by
  have quiet : published log ++ published [] = published log := List.append_nil _
  have sofar := stage.isPrefix
  rw [published_append]
  cases step with
  | raise failure =>
      rw [quiet]
      exact sofar
  | identify phase | date phase | count phase | learned phase | start phase | retry phase | pose phase =>
      rw [quiet]
      rw [Stage, phase] at stage
      exact stage
  | @frame moving phase =>
      rw [quiet]
      rw [Stage, phase] at stage
      cases moving with
      | false => exact stage
      | true => exact stage
  | @check moving read info rest ready phase state =>
      obtain ⟨silent, outcome⟩ := check_cases setup motion info moving read rest ready state
      rw [silent, List.append_nil]
      rcases outcome with ⟨failure, same⟩ | ⟨tracker, ready', same⟩
      · rw [same]
        exact sofar
      · rw [same]
        rw [Stage, phase] at stage
        cases moving with
        | false => exact stage
        | true => exact stage
  | @close moving read ready phase =>
      rw [quiet]
      rw [Stage, phase] at stage
      cases moving with
      | false =>
          cases ready with
          | false => exact stage
          | true => exact stage
      | true => exact .next stage
  | expire phase | finish phase =>
      rw [quiet]
      exact sofar
  | depart phase =>
      rw [quiet]
      rw [Stage, phase] at stage
      apply Stage.next
      rw [stage.1, List.nil_append, setup.publishes_moveActions, stage.2]
      exact (congrArg List.flatten (List.append_nil _)).symm
  | publish phase =>
      rw [Stage, phase] at stage
      exact (List.append_assoc _ _ _).trans stage
  | note phase =>
      rw [quiet]
      rw [Stage, phase] at stage
      exact .next stage
  | round phase =>
      rw [quiet]
      rw [Stage, phase] at stage
      apply Stage.next
      rw [setup.session_succ, ← show published log = setup.session motion.positions motion.rounds from stage,
        setup.publishes_roundActions]

/-- A run of the motion sends a beginning of the move to the low pose and a number of rounds. -/
theorem run_session {setup : HandSetup} {issued : Side → ℕ} {start : ℚ} {final : Timed ℚ HandMotion}
    {moves : List (Move (Timed ℚ HandMotion) (ℚ × HandInput) HandEvent)}
    (run : (handMotion setup).Run ⟨start, startMotion setup issued⟩ moves final) :
    published (trace moves) <+: setup.session final.state.positions final.state.rounds := by
  have initial : Stage setup (published []) (startMotion setup issued) := ⟨rfl, rfl⟩
  have stage := clocked_invariant (fun log _ motion => Stage setup (published log) motion) initial
    (fun _ _ _ _ _ _ _ stage _ advanced => stage.step (HandMotion.step_of_advance advanced)) run
  exact stage.isPrefix

/-- Every command of the moves is within the limits of its hand. -/
theorem session_inRange (setup : HandSetup) (pose : Pose) (rounds : ℕ) {side : Side} {q : List ℚ}
    (member : (side, q) ∈ setup.session pose rounds) : ∃ info ∈ setup.hands, info.side = side ∧ InRange info q := by
  have ofMove (positions targets : Pose) {set : CommandSet} (isSet : set ∈ setup.moveSets positions targets)
      (inside : (side, q) ∈ set) : ∃ info ∈ setup.hands, info.side = side ∧ InRange info q := by
    obtain ⟨step, -, rfl⟩ := List.mem_map.mp isSet
    obtain ⟨info, hand, same⟩ := List.mem_map.mp inside
    cases same
    exact ⟨info, hand, rfl, HandSetup.commandAt_inRange (setup.ordered hand)⟩
  obtain ⟨set, isSet, inside⟩ := List.mem_flatten.mp member
  rcases List.mem_append.mp isSet with first | later
  · exact ofMove pose setup.lowTargets first inside
  · obtain ⟨round, isRound, inRound⟩ := List.mem_flatten.mp later
    rw [List.eq_of_mem_replicate isRound] at inRound
    obtain ⟨move, -, ofRound⟩ := List.mem_flatMap.mp inRound
    exact ofMove move.1 move.2 ofRound inside

/-- The commands of a run are a beginning of the move to the low pose and of later command sets. They are
within the limits, follow each other no faster than the speed, and a later sequential set keeps at most one
joint away from its low target. -/
theorem hand_trajectory {setup : HandSetup} {issued : Side → ℕ} {start : ℚ} {final : Timed ℚ HandMotion}
    {moves : List (Move (Timed ℚ HandMotion) (ℚ × HandInput) HandEvent)}
    (run : (handMotion setup).Run ⟨start, startMotion setup issued⟩ moves final) :
    (∀ command ∈ published (trace moves), ∃ info ∈ setup.hands, info.side = command.1 ∧ InRange info command.2) ∧
      (∀ info ∈ setup.hands,
        (commandsOf info.side (published (trace moves))).IsChain (Near (setup.speed * PERIOD_S))) ∧
      ∃ later : List CommandSet,
        published (trace moves) <+: (setup.moveSets final.state.positions setup.lowTargets ++ later).flatten ∧
        (∀ set ∈ later, set.map Prod.fst = setup.hands.map HandLimits.side) ∧
        (setup.pattern = .sequential → ∀ set ∈ later, (away setup.lowTargets set).Subsingleton) := by
  have part := run_session run
  refine ⟨?_, ?_, setup.roundsSets final.state.rounds, part, ?_, ?_⟩
  · rintro ⟨side, q⟩ member
    exact session_inRange setup _ _ (part.subset member)
  · intro info member
    obtain ⟨rest, whole⟩ := part
    have chain := setup.session_chain member final.state.positions final.state.rounds
    rw [← HandSetup.session, ← whole, commandsOf, List.filterMap_append] at chain
    exact chain.left_of_append
  · intro set member
    obtain ⟨round, isRound, inRound⟩ := List.mem_flatten.mp member
    rw [List.eq_of_mem_replicate isRound] at inRound
    obtain ⟨move, -, ofMove⟩ := List.mem_flatMap.mp inRound
    obtain ⟨step, -, rfl⟩ := List.mem_map.mp ofMove
    exact List.map_map
  · intro sequential set member
    obtain ⟨round, isRound, inRound⟩ := List.mem_flatten.mp member
    rw [List.eq_of_mem_replicate isRound] at inRound
    exact setup.roundSets_sequential sequential inRound

/-- A hand whose joints all move between 0 and 1. -/
def leftHand : HandLimits where
  side := .left
  handType := BRAINCO_REVO2
  dof := 6
  jointNames := ["thumb_pitch", "thumb_roll", "index", "middle", "ring", "little"]
  qMin := List.replicate 6 0
  qMax := List.replicate 6 1
  dqMax := List.replicate 6 2

/-- The feedback of a ready hand with an echo of its session 7. -/
def leftFeedback (stateId : ℤ) (sequence : ℕ) : HandFeedback where
  stateId := stateId
  side := .left
  handType := BRAINCO_REVO2
  joints := List.replicate 6 (.finite 0.235, .finite 0)
  inhibitReason := InhibitReason.NONE
  outputAllowed := true
  rejectCount := 0
  lastCmdSessionId := 7
  lastCmdSequence := sequence

/-- A sequential motion of one hand at half a radian per second. -/
def leftSetup : HandSetup where
  hands := [leftHand]
  some' := by simp
  sides := by decide
  sessionId _ := 7
  timeout := 0.5
  positive := by decide +kernel
  radians _ := some 0.5
  speedDegS := 28.6
  patternText := "sequential"
  lowFrac := 0.25
  highFrac := 0.75
  feedbackInterval := 1
  loop := false
  speed := 0.5
  pattern := .sequential
  options := by decide +kernel
  accepted info member := ⟨leftFeedback 1 0, by cases List.mem_singleton.mp member; decide +kernel⟩

/-- The statements up to the first frame of the move to the low pose. -/
def leftEntry : List (ℚ × HandInput) :=
  [(0, .feedback (leftFeedback 1 0)), (0, .clock), (0, .feedback (leftFeedback 1 0)), (0, .clock), (0, .clock),
    (0, .clock), (0, .feedback (leftFeedback 1 0)), (0, .clock), (0, .pose (List.replicate 6 0.235)), (0, .clock)]

/-- A frame and the command after it. -/
def leftStep (now : ℚ) (stateId : ℤ) (sequence : ℕ) : List (ℚ × HandInput) :=
  [(now, .clock), (now, .feedback (leftFeedback stateId sequence)), (now, .clock), (now, .clock), (now, .clock)]

/-- A frame of the dwell. -/
def leftDwell (now : ℚ) (stateId : ℤ) (sequence : ℕ) : List (ℚ × HandInput) :=
  [(now, .clock), (now, .feedback (leftFeedback stateId sequence)), (now, .clock)]

/-- The move to the low pose with its dwell, where both commands come back. -/
def leftMove : List (ℚ × HandInput) :=
  leftEntry ++ leftStep 0.02 2 0 ++ leftStep 0.04 3 1 ++
    (List.range 50).flatMap fun sample : ℕ => leftDwell (0.06 + 0.02 * (sample : ℚ)) (4 + (sample : ℤ)) 2

/-- The first two commands of the next move, which bends the first finger alone. -/
def leftFinger : List (ℚ × HandInput) :=
  (1.04, .clock) :: leftStep 1.06 54 2 ++ leftStep 1.08 55 3

/-- Fifteen milliradians take two steps, and after the dwell the first finger bends on its own. -/
theorem hand_trajectory_left : ∃ moves final,
    (handMotion leftSetup).Run ⟨0, startMotion leftSetup fun _ => 0⟩ moves final ∧
      published (trace moves) = [(.left, List.replicate 6 0.2425), (.left, List.replicate 6 0.25),
        (.left, 0.26 :: List.replicate 5 0.25), (.left, 0.27 :: List.replicate 5 0.25)] ∧
      (commandsOf .left (published (trace moves))).IsChain (Near (0.5 * PERIOD_S)) ∧
      ∃ later : List CommandSet,
        published (trace moves) <+: (leftSetup.moveSets final.state.positions leftSetup.lowTargets ++ later).flatten ∧
        ∀ set ∈ later, (away leftSetup.lowTargets set).Subsingleton := by
  obtain ⟨moves, final, run, _, commands⟩ := (handMotion leftSetup).exists_run
    ⟨0, startMotion leftSetup fun _ => 0⟩ (leftMove ++ leftFinger)
    (fun moves _ => published (trace moves) = [(.left, List.replicate 6 0.2425), (.left, List.replicate 6 0.25),
      (.left, 0.26 :: List.replicate 5 0.25), (.left, 0.27 :: List.replicate 5 0.25)]) (by decide +kernel)
  obtain ⟨_, chain, later, whole, _, single⟩ := hand_trajectory run
  exact ⟨moves, final, run, commands, chain leftHand List.mem_cons_self, later, whole, single rfl⟩

end HumanoidSdk.Demo
