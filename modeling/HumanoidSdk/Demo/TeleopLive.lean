import Mathlib.Tactic.Linarith
import HumanoidSdk.Demo.LiveControl
import HumanoidSdk.Foundation.Cadence
import HumanoidSdk.Foundation.Tenure
import HumanoidSdk.Message.Body

/-
This file translates live and bodycmd of examples/teleop_policy/teleop_policy.py. Numbers are exact. The
observation, the inference and the decoding of the targets only return or raise.
-/

namespace HumanoidSdk.Demo
open Foundation

/-- The policy, the options and whether there is a recorder. -/
structure TeleopSetup where
  timeout : ℚ
  duration : ℚ
  period : ℚ
  recording : Bool

/-- A `BodyCmd` of the teleoperation. -/
structure TeleopCommand (Targets : Type) where
  joints : Targets
  action : ℤ
  inputStateId : ℤ
  inputStateTsRealUs : ℤ
  deriving DecidableEq

variable {Targets : Type}

def bodycmd (targets : Targets) (state : LiveFrame) : TeleopCommand Targets :=
  ⟨targets, EXTERNAL_ACTION, state.stateId, state.tsStateRealUs⟩

/-- The next statement outside of a cycle. -/
inductive AwaitPhase where
  | starting
  | testing
  | checking
  | timing
  | continuing (stateDeadline : ℚ)
  | waiting (stateDeadline : ℚ)
  | pausing (stateDeadline : ℚ)
  | napping (stateDeadline : ℚ) (since : ℚ) (remaining : ℚ)
  | adopting (state : LiveFrame)
  | scheduling
  | resting
  | sleeping (since : ℚ)
  deriving DecidableEq

/-- The next statement of a cycle, up to the return of the publication. -/
inductive WorkPhase (Targets : Type) where
  | computing
  | deciding (targets : Targets)
  | rechecking (targets : Targets)
  | publishing (targets : Targets)
  | returning
  deriving DecidableEq

/-- The next statement. In a cycle `last_state_id` is the number of the frame. When the call is over, it has
raised the failure of its outcome or has returned. -/
inductive TeleopPhase (Targets : Type) where
  | describing
  | assigning
  | receiving
  | validating (initial : LiveFrame)
  | admitting (lastStateId : ℤ)
  | entering (lastStateId : ℤ)
  | looping (entered : LiveStatus) (lastStateId : ℤ) (statement : AwaitPhase)
  | cycling (entered : LiveStatus) (state : LiveFrame) (statement : WorkPhase Targets)
  | logging (entered : LiveStatus) (state : LiveFrame) (after : AfterLog)
  | leaving (outcome : Option Failure)
  | exiting (outcome : Option Failure)
  | ended (attempted : Bool) (outcome : Option Failure)
  deriving DecidableEq

/-- The variables of `live`. -/
structure TeleopLive (Targets : Type) where
  phase : TeleopPhase Targets := .describing
  stop : Bool := false
  started : ℚ := 0
  deadline : ℚ := 0
  deriving DecidableEq

abbrev TeleopAct (Targets : Type) := Act LiveStatus LiveFrame Targets (TeleopCommand Targets) ℚ

/-- Where an exception leads to. A cycle writes its record on the way out, and the first exception stays
when the recorder raises one more. -/
def TeleopPhase.raise (failure : Failure) : TeleopPhase Targets → Option (TeleopPhase Targets)
  | .entering _ | .looping _ _ _ => some (.leaving (some failure))
  | .cycling entered state _ => some (.logging entered state (.raises failure))
  | .logging _ _ (.raises first) => some (.leaving (some first))
  | .logging _ _ _ => some (.leaving (some failure))
  | .leaving _ | .ended _ _ => none
  | .exiting _ => some (.ended true (some failure))
  | _ => some (.ended false (some failure))

namespace TeleopLive

variable (setup : TeleopSetup) (live : TeleopLive Targets)

def goto (phase : TeleopPhase Targets) : TeleopLive Targets := { live with phase }

/-- The raise of an exception outside of a cycle of the loop. -/
def leave (failure : Failure) : TeleopLive Targets := live.goto (.leaving (some failure))

/-- The message of a reply that fails. -/
def infoFailure (reply : InfoReply) : Failure :=
  .runtimeError ("get_robot_info failed: status=" ++ reply.statusText ++ "; error_message=" ++ reply.errorText)

def stopsAdvancing : Failure := .timeoutError "BodyState did not advance within --timeout"

/-- One statement before a cycle and after it. -/
def await (entered : LiveStatus) (lastStateId : ℤ) (now : ℚ) :
    AwaitPhase → LiveInput Targets → Option (TeleopLive Targets × List (TeleopAct Targets))
  | .starting, .proceed =>
      some ({ live with started := now, deadline := now, phase := .looping entered lastStateId .testing }, [])
  | .testing, .proceed =>
      if live.stop || setup.duration ≠ 0 && setup.duration ≤ now - live.started then
        some (live.goto (.leaving none), [])
      else some (live.goto (.looping entered lastStateId .checking), [])
  | .checking, .status reading =>
      if reading.any (·.Owns entered) then
        some (live.goto (.looping entered lastStateId .timing), [.checked reading])
      else some (live.leave (.runtimeError "EXTERNAL ownership/status changed"), [.checked reading])
  | .timing, .proceed =>
      some (live.goto (.looping entered lastStateId (.continuing (now + setup.timeout))), [])
  | .continuing stateDeadline, .proceed =>
      if live.stop then some (live.goto (.leaving none), [])
      else if stateDeadline - now ≤ 0 then some (live.leave stopsAdvancing, [])
      else some (live.goto (.looping entered lastStateId (.waiting stateDeadline)), [])
  | .waiting stateDeadline, .frame state =>
      if lastStateId < state.stateId then
        some (live.goto (.looping entered lastStateId (.adopting state)), [])
      else some (live.goto (.looping entered lastStateId (.pausing stateDeadline)), [])
  | .pausing stateDeadline, .proceed =>
      if stateDeadline - now ≤ 0 then some (live.leave stopsAdvancing, [])
      else some (live.goto (.looping entered lastStateId (.napping stateDeadline now (stateDeadline - now))), [])
  | .napping stateDeadline since remaining, .proceed =>
      if since + min 0.001 remaining ≤ now then
        some (live.goto (.looping entered lastStateId (.continuing stateDeadline)), [])
      else none
  | .adopting state, .proceed =>
      if live.stop then some (live.goto (.leaving none), [])
      else some (live.goto (.cycling entered state .computing), [])
  | .scheduling, .proceed =>
      some ({ live with
        deadline := nextDeadline live.deadline setup.period now
        phase := .looping entered lastStateId .resting }, [])
  | .resting, .proceed => some (live.goto (.looping entered lastStateId (.sleeping now)), [])
  | .sleeping since, .proceed =>
      if since + max 0 (live.deadline - since) ≤ now then
        some (live.goto (.looping entered lastStateId .testing), [])
      else none
  | _, _ => none

/-- One statement of a cycle. -/
def work (entered : LiveStatus) (state : LiveFrame) (now : ℚ) :
    WorkPhase Targets → LiveInput Targets → Option (TeleopLive Targets × List (TeleopAct Targets))
  | .computing, .computed targets =>
      some (live.goto (.cycling entered state (.deciding targets)), [.computed state targets])
  | .deciding targets, .proceed =>
      if live.stop then some (live.goto (.logging entered state .breaks), [])
      else some (live.goto (.cycling entered state (.rechecking targets)), [])
  | .rechecking targets, .status reading =>
      if reading.any (·.Owns entered) then
        some (live.goto (.cycling entered state (.publishing targets)), [.checked reading])
      else some (live.goto (.logging entered state
        (.raises (.runtimeError "EXTERNAL state changed during state wait/inference"))), [.checked reading])
  | .publishing targets, .proceed =>
      some (live.goto (.cycling entered state .returning), [.published state (bodycmd targets state) now])
  | .returning, .proceed => some (live.goto (.logging entered state .continues), [])
  | _, _ => none

/-- One statement of `live`, which ends at the clock reading `now`. -/
def advance (now : ℚ) (input : LiveInput Targets) : Option (TeleopLive Targets × List (TeleopAct Targets)) :=
  match live.phase, input with
  | _, .stop => some ({ live with stop := true }, [])
  | .logging entered state after, .raises failure =>
      if setup.recording then
        ((TeleopPhase.logging entered state after).raise failure).map fun phase => (live.goto phase, [])
      else none
  | phase, .raises failure => (phase.raise failure).map fun phase => (live.goto phase, [])
  | .describing, .info reply =>
      if !reply.succeeded then some (live.goto (.ended false (some (infoFailure reply))), [])
      else if !reply.described then
        some (live.goto (.ended false
          (some (.runtimeError "get_robot_info did not return real body capabilities"))), [])
      else some (live.goto .assigning, [])
  | .assigning, .proceed => some (live.goto .receiving, [])
  | .receiving, .frame state => some (live.goto (.validating state), [.sighted state])
  | .validating initial, .proceed => some (live.goto (.admitting initial.stateId), [])
  | .admitting lastStateId, .proceed =>
      if live.stop then some (live.goto (.ended false none), [])
      else some (live.goto (.entering lastStateId), [.entering])
  | .entering lastStateId, .status (some entered) =>
      if entered.phase ≠ .RUNNING ∨ entered.currentAction ≠ "EXTERNAL" then
        some (live.leave (.runtimeError "PREPARE/ACK/COMMIT did not reach actual EXTERNAL RUNNING"),
          [.entered entered])
      else some (live.goto (.looping entered lastStateId .starting), [.entered entered])
  | .looping entered lastStateId statement, input => live.await setup entered lastStateId now statement input
  | .cycling entered state statement, input => live.work entered state now statement input
  | .logging entered state .continues, .proceed =>
      some (live.goto (.looping entered state.stateId .scheduling), [])
  | .logging _ _ .breaks, .proceed => some (live.goto (.leaving none), [])
  | .logging _ _ (.raises failure), .proceed => some (live.leave failure, [])
  | .leaving outcome, .proceed => some (live.goto (.exiting outcome), [.exiting])
  | .exiting outcome, .exited action =>
      if action ≠ "PASSIVE" then
        some (live.goto (.ended true (some (.runtimeError "CANCEL exit has not confirmed actual PASSIVE"))), [])
      else some (live.goto (.ended true outcome), [])
  | _, _ => none

end TeleopLive

def teleopTerms : Terms LiveStatus LiveFrame Targets (TeleopCommand Targets) where
  rank := LiveFrame.stateId
  owns := LiveStatus.Owns
  build := bodycmd

namespace TeleopPhase

/-- The place of a statement between two publications. -/
def tempo (deadline : ℚ) : TeleopPhase Targets → Tempo ℚ
  | .describing | .assigning | .receiving | .validating _ | .admitting _ | .entering _ => .idle
  | .looping _ _ .starting => .idle
  | .looping _ _ .scheduling => .beaten deadline
  | .looping _ _ .resting | .looping _ _ (.sleeping _) => .waiting deadline
  | .looping _ _ _ => .due deadline
  | .cycling _ _ .returning | .logging _ _ .continues => .beaten deadline
  | .cycling _ _ _ => .due deadline
  | .logging _ _ _ | .leaving _ | .exiting _ | .ended _ _ => .ended

/-- The place of a statement between the entry and the exit. -/
def tenure : TeleopPhase Targets → Tenure LiveStatus LiveFrame Targets
  | .describing | .assigning | .receiving => .fresh
  | .validating initial => .outside initial.stateId
  | .admitting lastStateId => .outside lastStateId
  | .entering lastStateId => .entering lastStateId
  | .looping entered _ (.adopting state) => .working entered state
  | .looping entered lastStateId _ => .holding entered lastStateId
  | .cycling entered state .computing => .working entered state
  | .cycling entered state (.deciding targets) | .cycling entered state (.rechecking targets) =>
      .ready entered state targets
  | .cycling entered state (.publishing targets) => .confirmed entered state targets
  | .cycling entered state .returning | .logging entered state .continues => .holding entered state.stateId
  | .logging _ _ _ | .leaving _ => .leaving
  | .exiting _ | .ended true _ => .released
  | .ended false _ => .declined

variable {phase next : TeleopPhase Targets} {deadline period now : ℚ}

/-- An exception ends the loop and leaves. -/
theorem raise_steps {failure : Failure} (raised : phase.raise failure = some next) :
    Tempo.Step period now (phase.tempo deadline) [] (next.tempo deadline) ∧
      Tenure.Step teleopTerms now phase.tenure [] next.tenure := by
  cases phase with
  | describing | assigning | receiving =>
      cases raised
      exact ⟨.stop _, .refuse⟩
  | validating initial =>
      cases raised
      exact ⟨.stop _, .decline _⟩
  | admitting lastStateId =>
      cases raised
      exact ⟨.stop _, .decline _⟩
  | entering lastStateId =>
      cases raised
      exact ⟨.stop _, .leave trivial⟩
  | looping entered lastStateId statement =>
      cases raised
      constructor
      · exact .stop _
      · cases statement with
        | _ => exact .leave trivial
  | cycling entered state statement =>
      cases raised
      constructor
      · exact .stop _
      · cases statement with
        | _ => exact .leave trivial
  | logging entered state after =>
      cases after with
      | continues =>
          cases raised
          exact ⟨.stop _, .leave trivial⟩
      | _ =>
          cases raised
          exact ⟨.stop _, .stay _⟩
  | leaving outcome => cases raised
  | exiting outcome =>
      cases raised
      exact ⟨.stop _, .stay _⟩
  | ended attempted outcome => cases raised

end TeleopPhase

namespace TeleopLive

def tempo (live : TeleopLive Targets) : Tempo ℚ := live.phase.tempo live.deadline

def tenure (live : TeleopLive Targets) : Tenure LiveStatus LiveFrame Targets := live.phase.tenure

/-- A statement that is a step of a paced loop and a step of a tenant. -/
def Steps (period now : ℚ) (live : TeleopLive Targets) (acts : List (TeleopAct Targets))
    (next : TeleopLive Targets) : Prop :=
  Tempo.Step period now live.tempo (acts.filterMap Act.publication) next.tempo ∧
    Tenure.Step teleopTerms now live.tenure acts next.tenure

variable {setup : TeleopSetup} {live next : TeleopLive Targets} {now : ℚ} {input : LiveInput Targets}
  {acts : List (TeleopAct Targets)}

theorem owns_of_any {reading : Option LiveStatus} {entered : LiveStatus} (owned : reading.any (·.Owns entered)) :
    ∃ status, reading = some status ∧ status.Owns entered := by
  cases reading with
  | none => cases owned
  | some status => exact ⟨status, rfl, of_decide_eq_true owned⟩

theorem await_steps {entered : LiveStatus} {lastStateId : ℤ} {statement : AwaitPhase}
    (phase : live.phase = .looping entered lastStateId statement)
    (advanced : live.await setup entered lastStateId now statement input = some (next, acts)) :
    live.Steps setup.period now acts next := by
  rw [Steps, tempo, tenure, phase]
  unfold await at advanced
  split at advanced
  · cases advanced
    exact ⟨.start, .stay _⟩
  · split at advanced
    · cases advanced
      exact ⟨.stop _, .leave trivial⟩
    · cases advanced
      exact ⟨.stay _, .stay _⟩
  · split at advanced
    · cases advanced
      exact ⟨.stay _, .check _ _ _⟩
    · cases advanced
      exact ⟨.stop _, .fail _ trivial⟩
  · cases advanced
    exact ⟨.stay _, .stay _⟩
  · split at advanced
    · cases advanced
      exact ⟨.stop _, .leave trivial⟩
    · split at advanced
      · cases advanced
        exact ⟨.stop _, .leave trivial⟩
      · cases advanced
        exact ⟨.stay _, .stay _⟩
  · split at advanced
    · rename_i newer
      cases advanced
      exact ⟨.stay _, .adopt newer⟩
    · cases advanced
      exact ⟨.stay _, .stay _⟩
  · split at advanced
    · cases advanced
      exact ⟨.stop _, .leave trivial⟩
    · cases advanced
      exact ⟨.stay _, .stay _⟩
  · obtain ⟨-, same⟩ := Option.ite_none_right_eq_some.mp advanced
    cases same
    exact ⟨.stay _, .stay _⟩
  · split at advanced
    · cases advanced
      exact ⟨.stop _, .leave trivial⟩
    · cases advanced
      exact ⟨.stay _, .stay _⟩
  · cases advanced
    exact ⟨.schedule _, .stay _⟩
  · cases advanced
    exact ⟨.stay _, .stay _⟩
  · rename_i since
    obtain ⟨woken, same⟩ := Option.ite_none_right_eq_some.mp advanced
    cases same
    have reached : live.deadline ≤ now := by
      have enough := le_max_right 0 (live.deadline - since)
      linarith
    exact ⟨.wake reached, .stay _⟩
  · cases advanced

theorem work_steps {entered : LiveStatus} {state : LiveFrame} {statement : WorkPhase Targets}
    (phase : live.phase = .cycling entered state statement)
    (advanced : live.work entered state now statement input = some (next, acts)) :
    live.Steps setup.period now acts next := by
  rw [Steps, tempo, tenure, phase]
  unfold work at advanced
  split at advanced
  · cases advanced
    exact ⟨.stay _, .compute _ _ _⟩
  · split at advanced
    · cases advanced
      exact ⟨.stop _, .leave trivial⟩
    · cases advanced
      exact ⟨.stay _, .stay _⟩
  · split at advanced
    · rename_i owned
      obtain ⟨status, rfl, owns⟩ := owns_of_any owned
      cases advanced
      exact ⟨.stay _, .confirm owns⟩
    · cases advanced
      exact ⟨.stop _, .fail _ trivial⟩
  · cases advanced
    exact ⟨.beat _, .publish _ _ _⟩
  · cases advanced
    exact ⟨.stay _, .stay _⟩
  · cases advanced

/-- Every statement is a step of a paced loop and of a tenant. -/
theorem advance_steps (advanced : live.advance setup now input = some (next, acts)) :
    live.Steps setup.period now acts next := by
  unfold advance at advanced
  split at advanced
  · cases advanced
    exact ⟨.stay _, .stay _⟩
  · rename_i entered state after failure phase
    obtain ⟨-, same⟩ := Option.ite_none_right_eq_some.mp advanced
    obtain ⟨target, raised, same⟩ := Option.map_eq_some_iff.mp same
    cases same
    rw [Steps, tempo, tenure, phase]
    exact TeleopPhase.raise_steps raised
  · obtain ⟨target, raised, same⟩ := Option.map_eq_some_iff.mp advanced
    cases same
    exact TeleopPhase.raise_steps raised
  · rename_i reply phase
    rw [Steps, tempo, tenure, phase]
    split at advanced
    · cases advanced
      exact ⟨.stop _, .refuse⟩
    · split at advanced
      · cases advanced
        exact ⟨.stop _, .refuse⟩
      · cases advanced
        exact ⟨.stay _, .stay _⟩
  · rename_i phase
    cases advanced
    rw [Steps, tempo, tenure, phase]
    exact ⟨.stay _, .stay _⟩
  · rename_i state phase
    cases advanced
    rw [Steps, tempo, tenure, phase]
    exact ⟨.stay _, .sight state⟩
  · rename_i initial phase
    cases advanced
    rw [Steps, tempo, tenure, phase]
    exact ⟨.stay _, .stay _⟩
  · rename_i lastStateId phase
    rw [Steps, tempo, tenure, phase]
    split at advanced
    · cases advanced
      exact ⟨.stop _, .decline _⟩
    · cases advanced
      exact ⟨.stay _, .enter _⟩
  · rename_i lastStateId entered phase
    rw [Steps, tempo, tenure, phase]
    split at advanced
    · cases advanced
      exact ⟨.stop _, .deny _ _⟩
    · cases advanced
      exact ⟨.stay _, .grant _ _⟩
  · rename_i phase _ _
    exact await_steps phase advanced
  · rename_i phase _ _
    exact work_steps phase advanced
  · rename_i entered state phase
    cases advanced
    rw [Steps, tempo, tenure, phase]
    exact ⟨.stay _, .stay _⟩
  · rename_i phase
    cases advanced
    rw [Steps, tempo, tenure, phase]
    exact ⟨.stop _, .stay _⟩
  · rename_i phase
    cases advanced
    rw [Steps, tempo, tenure, phase]
    exact ⟨.stop _, .stay _⟩
  · rename_i phase
    cases advanced
    rw [Steps, tempo, tenure, phase]
    exact ⟨.stop _, .release⟩
  · rename_i outcome action phase
    rw [Steps, tempo, tenure, phase]
    split at advanced
    · cases advanced
      exact ⟨.stop _, .stay _⟩
    · cases advanced
      exact ⟨.stop _, .stay _⟩
  · cases advanced

end TeleopLive

end HumanoidSdk.Demo
