import Mathlib.Algebra.Order.Floor.Defs
import Mathlib.Data.Rat.Floor
import HumanoidSdk.Demo.Body
import HumanoidSdk.EndEffector.Hand
import HumanoidSdk.Foundation.Approach
import HumanoidSdk.Foundation.Clocked

/-
This file translates the hand motion of examples/brainco_hand/brainco_hand_external.py from the EXTERNAL
entry to the last round, with its checks of the options and of the hands. Numbers are exact. The part of
a frame that serves the body only returns or raises.
-/

namespace HumanoidSdk.Demo
open Foundation EndEffector

def BRAINCO_REVO2 : ℤ := 1

/-- The numbers of `HandInfo` are finite. -/
structure HandLimits where
  side : Side
  handType : ℤ
  dof : ℕ
  jointNames : List String
  qMin : List ℚ
  qMax : List ℚ
  dqMax : List ℚ

/-- The fields of `HandState` that the motion reads. -/
structure HandFeedback where
  stateId : ℤ
  side : Side
  handType : ℤ
  joints : List (Reading × Reading)
  inhibitReason : ℤ
  outputAllowed : Bool
  rejectCount : ℤ
  lastCmdSessionId : ℤ
  lastCmdSequence : ℕ

inductive Pattern where
  | simultaneous
  | sequential
  deriving DecidableEq

/-- The motion options, where the conversion to single radians may overflow. -/
def validateMotionOptions (radians : ℚ → Option ℚ) (speedDegS : ℚ) (pattern : String)
    (lowFrac highFrac feedbackInterval : ℚ) : Except Failure (ℚ × Pattern) :=
  if speedDegS ≤ 0 then .error (.valueError "--speed-deg-s must be finite and positive")
  else match radians speedDegS with
    | none => .error (.valueError "--speed-deg-s must fit float32 rad/s")
    | some speed =>
        if speed ≤ 0 then .error (.valueError "--speed-deg-s must fit positive float32 rad/s")
        else match [("simultaneous", Pattern.simultaneous), ("sequential", .sequential)].lookup pattern with
          | none => .error (.valueError "--pattern must be simultaneous or sequential")
          | some pattern =>
              if ¬(0 ≤ lowFrac ∧ lowFrac < highFrac ∧ highFrac ≤ 1) then
                .error (.valueError "requires 0 <= --low-frac < --high-frac <= 1")
              else if feedbackInterval < 1 then
                .error (.valueError "--feedback-interval must be finite and at least 1 second")
              else .ok (speed, pattern)

/-- The check of `HandInfo` on finite numbers. -/
def validateInfo (info : HandLimits) : Except Failure Unit :=
  if info.dof = 0 then .error (.valueError "valid HandInfo with nonzero dof is required")
  else if info.jointNames.length ≠ info.dof ∨ info.qMin.length ≠ info.dof ∨ info.qMax.length ≠ info.dof ∨
      info.dqMax.length ≠ info.dof then
    .error (.valueError "HandInfo per-joint lengths differ from dof")
  else if info.jointNames.any (· = "") ∨ info.jointNames.dedup.length ≠ info.dof then
    .error (.valueError "HandInfo joint names are invalid")
  else if (info.qMin.zip (info.qMax.zip info.dqMax)).any fun entry => entry.2.1 < entry.1 ∨ entry.2.2 < 0 then
    .error (.valueError "HandInfo limits are invalid")
  else .ok ()

namespace Reading

def isWithin (reading : Reading) (low high : ℚ) : Bool :=
  match reading with
  | .finite value => low ≤ value ∧ value ≤ high
  | _ => false

end Reading

def validateHand (info : HandLimits) (state : HandFeedback) (requireOutput : Bool) (speed : ℚ) :
    Except Failure Unit :=
  match validateInfo info with
  | .error failure => .error failure
  | .ok () =>
      if info.handType ≠ BRAINCO_REVO2 ∨ info.dof ≠ 6 ∨
          info.jointNames ≠ ["thumb_pitch", "thumb_roll", "index", "middle", "ring", "little"] then
        .error (.valueError "requires BRAINCO_REVO2 with six joints")
      else if state.side ≠ info.side ∨ state.handType ≠ info.handType ∨ state.joints.length ≠ info.dof then
        .error (.valueError "HandState identity/DOF differs from HandInfo")
      else if state.inhibitReason ∈ [InhibitReason.EMERGENCY, InhibitReason.DOMAIN_FAULT,
          InhibitReason.NOT_READY] then
        .error (.runtimeError ("hand inhibited: reason=" ++ toString state.inhibitReason))
      else if (state.joints.zip (info.qMin.zip info.qMax)).any fun entry =>
          !entry.1.1.isFinite || !entry.1.2.isFinite || !entry.1.1.isWithin entry.2.1 entry.2.2 then
        .error (.valueError "hand feedback is nonfinite or outside info limits")
      else if info.dqMax.any (· < speed) then
        .error (.valueError "requested speed exceeds advertised speed limit")
      else if requireOutput && (!state.outputAllowed || state.inhibitReason ≠ InhibitReason.NONE) then
        .error (.runtimeError "hand output was inhibited during motion")
      else .ok ()

/-- What `run` has accepted: the hands with their sides, the options and the timeout. -/
structure HandSetup where
  hands : List HandLimits
  some' : hands ≠ []
  sides : (hands.map HandLimits.side).Nodup
  sessionId : Side → ℤ
  timeout : ℚ
  positive : 0 < timeout
  radians : ℚ → Option ℚ
  speedDegS : ℚ
  patternText : String
  lowFrac : ℚ
  highFrac : ℚ
  feedbackInterval : ℚ
  loop : Bool
  speed : ℚ
  pattern : Pattern
  options : validateMotionOptions radians speedDegS patternText lowFrac highFrac feedbackInterval =
    .ok (speed, pattern)
  accepted : ∀ info ∈ hands, ∃ state, validateHand info state false speed = .ok ()

/-- The positions of all joints of each hand. -/
abbrev Pose := Side → List ℚ

/-- A step of a move sends each hand a target. -/
abbrev CommandSet := List (Side × List ℚ)

/-- What the motion does next. -/
inductive Action where
  | frame
  | publish (side : Side) (q : List ℚ)

namespace HandSetup

variable (setup : HandSetup)

/-- The pose at a fraction of every joint's range. -/
def fraction (frac : ℚ) : Pose := fun side =>
  (setup.hands.find? (·.side = side)).elim [] fun info =>
    List.zipWith (fun a b => clamp (a + frac * (b - a)) a b) info.qMin info.qMax

def lowTargets : Pose := setup.fraction setup.lowFrac

def highTargets : Pose := setup.fraction setup.highFrac

/-- The longest way of a joint. -/
def displacement (positions targets : Pose) : ℚ :=
  (setup.hands.flatMap fun info =>
    List.zipWith (fun target current => |target - current|) (targets info.side) (positions info.side)).foldr max 0

def stepCount (positions targets : Pose) : ℕ :=
  max 1 ⌈setup.displacement positions targets / setup.speed / PERIOD_S⌉.toNat

/-- The command of one hand in one step. -/
def commandAt (info : HandLimits) (positions targets : Pose) (steps step : ℕ) : List ℚ :=
  List.zipWith (fun way limits : ℚ × ℚ => clamp (way.1 + (way.2 - way.1) * step / steps) limits.1 limits.2)
    ((positions info.side).zip (targets info.side)) (info.qMin.zip info.qMax)

/-- The command set of one step. -/
def commandSet (positions targets : Pose) (steps step : ℕ) : CommandSet :=
  setup.hands.map fun info => (info.side, commandAt info positions targets steps step)

/-- The command sets of one move. -/
def moveSets (positions targets : Pose) : List CommandSet :=
  (List.range (setup.stepCount positions targets)).map fun step =>
    setup.commandSet positions targets (setup.stepCount positions targets) (step + 1)

/-- Every step and every dwell sample starts with a frame. -/
def moveActions (positions targets : Pose) : List Action :=
  ((setup.moveSets positions targets).flatMap fun set =>
    .frame :: set.map fun command => .publish command.1 command.2) ++
      List.replicate ⌈DWELL_S / PERIOD_S⌉.toNat .frame

/-- The low pose with one joint at its high target. -/
def raised (side : Side) (index : ℕ) : Pose :=
  Function.update setup.lowTargets side
    ((setup.lowTargets side).set index ((setup.highTargets side).getD index 0))

/-- The poses of the moves of one round, which starts and ends at the low pose. -/
def roundMoves : List (Pose × Pose) :=
  match setup.pattern with
  | .simultaneous => [(setup.lowTargets, setup.highTargets), (setup.highTargets, setup.lowTargets)]
  | .sequential =>
      setup.hands.flatMap fun info => (List.range info.dof).flatMap fun index =>
        [(setup.lowTargets, setup.raised info.side index), (setup.raised info.side index, setup.lowTargets)]

def roundSets : List CommandSet := setup.roundMoves.flatMap fun move => setup.moveSets move.1 move.2

def roundActions : List Action := setup.roundMoves.flatMap fun move => setup.moveActions move.1 move.2

end HandSetup

/-- An entry of `sent`. -/
structure Sent where
  sequence : ℕ
  progressTime : ℚ
  echoed : ℕ

/-- The entries of `last_hand` and `sent` for one hand. -/
structure Tracker where
  previousId : ℤ := 0
  changed : ℚ := 0
  rejects : ℤ := 0
  sent : Option Sent := none

/-- A command leaves the host, a frame sees the echo of a hand move on, or lets it expire. -/
inductive HandEvent where
  | published (side : Side) (q : List ℚ) (sequence : ℕ) (time : ℚ)
  | progressed (side : Side) (sequence : ℕ) (now : ℚ)
  | expired (side : Side) (now : ℚ)
  deriving DecidableEq

/-- The first checks of a frame for one hand. -/
def checkFeedback (info : HandLimits) (speed : ℚ) (moving : Bool) (tracker : Tracker) (feedback : HandFeedback)
    (now : ℚ) : Except Failure Tracker :=
  match validateHand info feedback moving speed with
  | .error failure => .error failure
  | .ok () =>
      if feedback.rejectCount ≠ tracker.rejects then .error (.runtimeError "hand reject_count changed")
      else if feedback.stateId ≠ tracker.previousId then
        .ok { tracker with previousId := feedback.stateId, changed := now }
      else if LOWSTATE_WINDOW_S ≤ now - tracker.changed then .error (.runtimeError "hand state became stale")
      else .ok tracker

/-- The echo belongs to this session and is higher than any before. -/
def Sent.advances (sent : Sent) (sessionId : ℤ) (feedback : HandFeedback) : Prop :=
  feedback.lastCmdSessionId = sessionId ∧ sent.echoed < feedback.lastCmdSequence

/-- The variable `pending_echo`. -/
def Sent.pending (sent : Sent) (sessionId : ℤ) (feedback : HandFeedback) : Prop :=
  feedback.lastCmdSessionId ≠ sessionId ∨ feedback.lastCmdSequence < sent.sequence

instance (sent : Sent) (sessionId : ℤ) (feedback : HandFeedback) : Decidable (sent.advances sessionId feedback) :=
  inferInstanceAs (Decidable (_ ∧ _))

instance (sent : Sent) (sessionId : ℤ) (feedback : HandFeedback) : Decidable (sent.pending sessionId feedback) :=
  inferInstanceAs (Decidable (_ ∨ _))

/-- The echo check of a frame for one hand. -/
def checkEcho (side : Side) (sessionId : ℤ) (timeout : ℚ) (sent : Sent) (feedback : HandFeedback) (now : ℚ) :
    Except Failure Sent × List HandEvent :=
  if feedback.lastCmdSessionId = sessionId ∧ sent.sequence < feedback.lastCmdSequence then
    (.error (.runtimeError "hand echoed an unsent sequence"), [])
  else if sent.advances sessionId feedback then
    let sent := { sent with echoed := feedback.lastCmdSequence, progressTime := now }
    let seen := HandEvent.progressed side feedback.lastCmdSequence now
    if sent.pending sessionId feedback ∧ timeout ≤ now - sent.progressTime then
      (.error (.timeoutError "hand command echo did not advance within --timeout"), [seen, .expired side now])
    else (.ok sent, [seen])
  else if sent.pending sessionId feedback ∧ timeout ≤ now - sent.progressTime then
    (.error (.timeoutError "hand command echo did not advance within --timeout"), [.expired side now])
  else (.ok sent, [])

/-- What a frame does with one hand. -/
def checkHand (setup : HandSetup) (info : HandLimits) (moving : Bool) (tracker : Tracker) (feedback : HandFeedback)
    (now : ℚ) : Except Failure Tracker × List HandEvent :=
  match checkFeedback info setup.speed moving tracker feedback now with
  | .error failure => (.error failure, [])
  | .ok tracker =>
      match tracker.sent with
      | none => (.ok tracker, [])
      | some sent =>
          let (result, events) :=
            checkEcho info.side (setup.sessionId info.side) setup.timeout sent feedback now
          (result.map fun sent => { tracker with sent := some sent }, events)

/-- The next statement of the motion. -/
inductive HandPhase where
  | learning (rest : List HandLimits)
  | dating (stateId : ℤ) (info : HandLimits) (rest : List HandLimits)
  | counting (stateId : ℤ) (changed : ℚ) (info : HandLimits) (rest : List HandLimits)
  | starting
  | framing (moving : Bool)
  | checking (moving : Bool) (now : ℚ) (rest : List HandLimits) (ready : Bool)
  | testing
  | posing (rest : List HandLimits)
  | publishing (side : Side) (q : List ℚ)
  | noting (side : Side) (sequence : ℕ)
  | rounding
  | finished
  | raised (failure : Failure)

/-- The variables of the motion, with the sequence counters of the clients. -/
structure HandMotion where
  phase : HandPhase
  nextPublish : ℚ := 0
  deadline : ℚ := 0
  trackers : Side → Tracker := fun _ => {}
  issued : Side → ℕ
  positions : Pose := fun _ => []
  script : List Action := []
  rounds : ℕ := 0

/-- A statement ends, or gets the state of a hand or its positions, or raises. -/
inductive HandInput where
  | clock
  | feedback (state : HandFeedback)
  | pose (q : List ℚ)
  | raises (failure : Failure)

namespace HandMotion

variable (setup : HandSetup) (motion : HandMotion)

/-- The next action of the script. -/
def next : HandMotion :=
  match motion.script with
  | [] => { motion with phase := .rounding }
  | .frame :: rest => { motion with script := rest, phase := .framing true }
  | .publish side q :: rest => { motion with script := rest, phase := .publishing side q }

def setTracker (side : Side) (tracker : Tracker) : HandMotion :=
  { motion with trackers := Function.update motion.trackers side tracker }

/-- One hand in a frame. -/
def check (info : HandLimits) (moving : Bool) (now : ℚ) (rest : List HandLimits) (ready : Bool)
    (feedback : HandFeedback) : HandMotion × List HandEvent :=
  match checkHand setup info moving (motion.trackers info.side) feedback now with
  | (.error failure, events) => ({ motion with phase := .raised failure }, events)
  | (.ok tracker, events) =>
      ({ motion.setTracker info.side tracker with
        phase := .checking moving now rest
          (ready && feedback.outputAllowed && feedback.inhibitReason = InhibitReason.NONE) }, events)

/-- The sequence of a published command is noted, at first with the time of the note. -/
def note (side : Side) (sequence : ℕ) (now : ℚ) : HandMotion :=
  let tracker := motion.trackers side
  motion.setTracker side { tracker with
    sent := some (tracker.sent.elim ⟨sequence, now, 0⟩ fun sent => { sent with sequence }) }

/-- The end of a frame. -/
def endFrame (moving ready : Bool) (now : ℚ) : HandMotion :=
  let motion := { motion with nextPublish := max (motion.nextPublish + PERIOD_S) (now + PERIOD_S) }
  if moving then motion.next
  else { motion with phase := if ready then .posing setup.hands else .testing }

/-- A statement with its clock reading. The next frame starts no earlier than it is due. -/
def advance (now : ℚ) (input : HandInput) : Option (HandMotion × List HandEvent) :=
  match motion.phase, input with
  | .finished, _ => none
  | .raised _, _ => none
  | _, .raises failure => some ({ motion with phase := .raised failure }, [])
  | .learning (info :: rest), .feedback state =>
      some ({ motion with phase := .dating state.stateId info rest }, [])
  | .dating stateId info rest, .clock => some ({ motion with phase := .counting stateId now info rest }, [])
  | .counting stateId changed info rest, .feedback state =>
      let tracker := motion.trackers info.side
      some ({ motion.setTracker info.side
          { tracker with previousId := stateId, changed, rejects := state.rejectCount } with
        phase := .learning rest }, [])
  | .learning [], .clock => some ({ motion with nextPublish := now, phase := .starting }, [])
  | .starting, .clock => some ({ motion with deadline := now + setup.timeout, phase := .framing false }, [])
  | .framing moving, .clock =>
      if motion.nextPublish ≤ now then
        some ({ motion with phase := .checking moving now setup.hands true }, [])
      else none
  | .checking moving read (info :: rest) ready, .feedback state =>
      some (motion.check setup info moving read rest ready state)
  | .checking moving _ [] ready, .clock => some (motion.endFrame setup moving ready now, [])
  | .testing, .clock =>
      if motion.deadline ≤ now then
        some ({ motion with
          phase := .raised (.timeoutError "hand output did not become enabled after EXTERNAL entry") }, [])
      else some ({ motion with phase := .framing false }, [])
  | .posing (info :: rest), .pose q =>
      some ({ motion with positions := Function.update motion.positions info.side q, phase := .posing rest }, [])
  | .posing [], .clock =>
      some ({ motion with script := setup.moveActions motion.positions setup.lowTargets }.next, [])
  | .publishing side q, .clock =>
      some ({ motion with
        issued := Function.update motion.issued side (motion.issued side + 1),
        phase := .noting side (motion.issued side + 1) }, [.published side q (motion.issued side + 1) now])
  | .noting side sequence, .clock => some ((motion.note side sequence now).next, [])
  | .rounding, .clock =>
      if motion.rounds = 0 ∨ setup.loop then
        some ({ motion with rounds := motion.rounds + 1, script := setup.roundActions }.next, [])
      else some ({ motion with phase := .finished }, [])
  | _, _ => none

end HandMotion

/-- The motion from the entry on, with the sequences that the clients have issued before. -/
def startMotion (setup : HandSetup) (issued : Side → ℕ) : HandMotion := { phase := .learning setup.hands, issued }

def handMotion (setup : HandSetup) : Machine (Timed ℚ HandMotion) (ℚ × HandInput) HandEvent :=
  clocked fun motion now input => motion.advance setup now input

end HumanoidSdk.Demo
