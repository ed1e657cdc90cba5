import Mathlib.Tactic.Linarith
import HumanoidSdk.Demo.LiveControl
import HumanoidSdk.Foundation.Cadence
import HumanoidSdk.Foundation.Rounding
import HumanoidSdk.Foundation.Tenure

/-
This file translates wait_fresh and live of examples/wbc_tracking_mode/wbc_tracking_mode.py, with
feedback_age_ns of examples/policy_support.py. Numbers are exact. The reference session, the inference and
the recorder only return or raise.
-/

namespace HumanoidSdk.Demo
open Foundation

/-- The options and the period of the policy. -/
structure TrackingSetup where
  timeout : ℚ
  maxStateAgeMs : ℚ
  maxComputeMs : ℚ
  duration : ℚ
  period : ℚ

def TrackingSetup.maxAge (setup : TrackingSetup) : ℚ := setup.maxStateAgeMs / 1000

/-- A clock reading in whole nanoseconds. -/
def nanoseconds (now : ℚ) : ℤ := roundHalfEven (now * 1000000000)

def feedbackAgeNs (state : LiveFrame) (monotonicNs : ℤ) : Except Failure ℤ :=
  if state.receivedMonotonicNs = 0 then .error (.valueError "SDK must provide feedback receipt timestamps")
  else if monotonicNs - state.receivedMonotonicNs < 0 then
    .error (.timeoutError "feedback receipt timestamp is in the future")
  else .ok (monotonicNs - state.receivedMonotonicNs)

/-- The age check of a fresh state. -/
def checkAge (state : LiveFrame) (maxAge now : ℚ) : Except Failure Unit :=
  match feedbackAgeNs state (nanoseconds now) with
  | .error failure => .error failure
  | .ok age =>
      if 0 ≤ age ∧ (age : ℚ) ≤ maxAge * 1000000000 then .ok ()
      else .error (.timeoutError "feedback cache is stale or has a future timestamp")

/-- The three calls of `wait_fresh`. -/
inductive Place where
  | first
  | again (entered : LiveStatus) (initial : LiveFrame)
  | cycle (entered : LiveStatus) (previousNs : ℤ)
  deriving DecidableEq

/-- The argument `previous_ns`. -/
def Place.previousNs : Place → ℤ
  | .first => 0
  | .again _ initial => initial.stampNs
  | .cycle _ previousNs => previousNs

/-- The next statement of `wait_fresh`. -/
inductive FetchPhase where
  | timing
  | continuing (deadline : ℚ)
  | waiting (deadline : ℚ) (remaining : ℚ)
  | napping (deadline : ℚ) (since : ℚ) (remaining : ℚ)
  | aging (state : LiveFrame)
  | validating (state : LiveFrame)
  deriving DecidableEq

/-- The next statement between two cycles. -/
inductive TrackPhase where
  | starting
  | testing
  | checking
  | resting
  | sleeping (since : ℚ)
  deriving DecidableEq

/-- The next statement of a cycle that has its state. -/
inductive StepPhase (Command : Type) where
  | acquiring
  | computing (acquired : ℚ)
  | deciding (command : Command) (acquired : ℚ)
  | refusing
  | rechecking (command : Command)
  | publishing (command : Command)
  | failing (failure : Failure)
  | returning
  | accounting
  | recording (now : ℚ)
  deriving DecidableEq

/-- The next statement. In a cycle `previous_ns` is the stamp of the state. When the call is over, it has
raised the failure of its outcome or has returned. -/
inductive TrackingPhase (Command : Type) where
  | loading
  | fetching (place : Place) (statement : FetchPhase)
  | warming (initial : LiveFrame)
  | admitting (initial : LiveFrame)
  | entering (initial : LiveFrame)
  | preparing (entered : LiveStatus)
  | looping (entered : LiveStatus) (previousNs : ℤ) (statement : TrackPhase)
  | cycling (entered : LiveStatus) (state : LiveFrame) (statement : StepPhase Command)
  | leaving (original : Option Failure)
  | exiting (original : Option Failure)
  | reporting (original : Option Failure) (action : String)
  | noting (original : Option Failure) (failure : Failure)
  | ended (attempted : Bool) (outcome : Option Failure)
  deriving DecidableEq

variable {Command : Type}

namespace Place

/-- What follows when `wait_fresh` returns a state. -/
def received (state : LiveFrame) : Place → TrackingPhase Command
  | .first => .warming state
  | .again entered _ => .preparing entered
  | .cycle entered _ => .cycling entered state .acquiring

/-- What follows when `wait_fresh` returns none or raises. -/
def leave (outcome : Option Failure) : Place → TrackingPhase Command
  | .first => .ended false outcome
  | _ => .leaving outcome

end Place

/-- Where an exception leads to. A publication that raises is recorded on the way out, and so is an exit. -/
def TrackingPhase.raise (failure : Failure) : TrackingPhase Command → Option (TrackingPhase Command)
  | .fetching place _ => some (place.leave (some failure))
  | .entering _ | .preparing _ | .looping _ _ _ => some (.leaving (some failure))
  | .cycling entered state (.publishing _) | .cycling entered state .returning =>
      some (.cycling entered state (.failing failure))
  | .cycling _ _ (.failing first) => some (.leaving (some first))
  | .cycling _ _ _ => some (.leaving (some failure))
  | .leaving _ | .ended _ _ => none
  | .exiting original | .reporting original _ => some (.noting original failure)
  | .noting _ _ => some (.ended true (some failure))
  | _ => some (.ended false (some failure))

/-- The variables of `live`. -/
structure TrackingLive (Command : Type) where
  phase : TrackingPhase Command := .loading
  stop : Bool := false
  started : ℚ := 0
  deadline : ℚ := 0
  steps : ℕ := 0
  misses : ℕ := 0
  deriving DecidableEq

abbrev TrackingAct (Command : Type) := Act LiveStatus LiveFrame Command Command ℚ

namespace TrackingLive

variable (setup : TrackingSetup) (live : TrackingLive Command)

def goto (phase : TrackingPhase Command) : TrackingLive Command := { live with phase }

/-- The argument `timeout` of the call of `wait_fresh`. -/
def waitTimeout : Place → ℚ
  | .first => setup.timeout
  | _ => setup.maxAge

/-- One statement of `wait_fresh`. -/
def fetch (place : Place) (now : ℚ) :
    FetchPhase → LiveInput Command → Option (TrackingLive Command × List (TrackingAct Command))
  | .timing, .proceed => some (live.goto (.fetching place (.continuing (now + waitTimeout setup place))), [])
  | .continuing deadline, .proceed =>
      if live.stop then some (live.goto (place.leave none), [])
      else if deadline - now ≤ 0 then
        some (live.goto (place.leave
          (some (.timeoutError "feedback did not advance before the freshness deadline"))), [])
      else some (live.goto (.fetching place (.waiting deadline (deadline - now))), [])
  | .waiting deadline remaining, .frame state =>
      if place.previousNs < state.stampNs then some (live.goto (.fetching place (.aging state)), [])
      else some (live.goto (.fetching place (.napping deadline now remaining)), [])
  | .napping deadline since remaining, .proceed =>
      if since + min 0.001 remaining ≤ now then
        some (live.goto (.fetching place (.continuing deadline)), [])
      else none
  | .aging state, .proceed =>
      match checkAge state setup.maxAge now with
      | .error failure => some (live.goto (place.leave (some failure)), [])
      | .ok () => some (live.goto (.fetching place (.validating state)), [])
  | .validating state, .proceed => some (live.goto (place.received state), [])
  | _, _ => none

/-- One statement between two cycles. -/
def track (entered : LiveStatus) (previousNs : ℤ) (now : ℚ) :
    TrackPhase → LiveInput Command → Option (TrackingLive Command × List (TrackingAct Command))
  | .starting, .proceed =>
      some ({ live with started := now, deadline := now, phase := .looping entered previousNs .testing }, [])
  | .testing, .proceed =>
      if live.stop || setup.duration ≤ now - live.started then some (live.goto (.leaving none), [])
      else some (live.goto (.looping entered previousNs .checking), [])
  | .checking, .status reading =>
      if reading.any (·.OwnsAll entered) then
        some (live.goto (.fetching (.cycle entered previousNs) .timing), [.checked reading])
      else some (live.goto (.leaving (some (.runtimeError
        "EXTERNAL ownership, rejection/drop counters or running state changed"))), [.checked reading])
  | .resting, .proceed => some (live.goto (.looping entered previousNs (.sleeping now)), [])
  | .sleeping since, .proceed =>
      if since + max 0 (live.deadline - since) ≤ now then
        some (live.goto (.looping entered previousNs .testing), [])
      else none
  | _, _ => none

/-- One statement of a cycle. -/
def work (entered : LiveStatus) (state : LiveFrame) (now : ℚ) :
    StepPhase Command → LiveInput Command → Option (TrackingLive Command × List (TrackingAct Command))
  | .acquiring, .proceed => some (live.goto (.cycling entered state (.computing now)), [])
  | .computing acquired, .computed command =>
      some (live.goto (.cycling entered state (.deciding command acquired)), [.computed state command])
  | .deciding command acquired, .proceed =>
      if live.stop then some (live.goto (.leaving none), [])
      else if setup.maxComputeMs * 1000000 < (now - acquired) * 1000000000 then
        some (live.goto (.cycling entered state .refusing), [])
      else some (live.goto (.cycling entered state (.rechecking command)), [])
  | .refusing, .proceed =>
      some (live.goto (.leaving (some (.timeoutError "observation plus inference exceeded --max-compute-ms"))), [])
  | .rechecking command, .status reading =>
      if reading.any (·.OwnsAll entered) then
        some (live.goto (.cycling entered state (.publishing command)), [.checked reading])
      else some (live.goto (.leaving (some (.runtimeError "EXTERNAL state changed during inference"))),
        [.checked reading])
  | .publishing command, .proceed =>
      some (live.goto (.cycling entered state .returning), [.published state command now])
  | .failing failure, .proceed => some (live.goto (.leaving (some failure)), [])
  | .returning, .proceed =>
      some ({ live with steps := live.steps + 1, phase := .cycling entered state .accounting }, [])
  | .accounting, .proceed =>
      some ({ live with
        misses := if live.deadline + setup.period < now then live.misses + 1 else live.misses
        phase := .cycling entered state (.recording now) }, [])
  | .recording read, .proceed =>
      some ({ live with
        deadline := nextDeadline live.deadline setup.period read
        phase := .looping entered state.stampNs .resting }, [])
  | _, _ => none

/-- One statement of `live`, which ends at the clock reading `now`. -/
def advance (now : ℚ) (input : LiveInput Command) : Option (TrackingLive Command × List (TrackingAct Command)) :=
  match live.phase, input with
  | _, .stop => some ({ live with stop := true }, [])
  | phase, .raises failure => (phase.raise failure).map fun phase => (live.goto phase, [])
  | .loading, .proceed => some (live.goto (.fetching .first .timing), [])
  | .fetching place statement, input => live.fetch setup place now statement input
  | .warming initial, .proceed => some (live.goto (.admitting initial), [])
  | .admitting initial, .proceed =>
      if live.stop then some (live.goto (.ended false none), [])
      else some (live.goto (.entering initial), [.entering])
  | .entering initial, .status (some entered) =>
      if entered.currentAction ≠ "EXTERNAL" ∨ entered.phase ≠ .RUNNING then
        some (live.goto (.leaving (some (.runtimeError "entry did not confirm EXTERNAL/RUNNING"))),
          [.entered entered])
      else some (live.goto (.fetching (.again entered initial) .timing), [.entered entered])
  | .preparing entered, .proceed => some (live.goto (.looping entered 0 .starting), [])
  | .looping entered previousNs statement, input => live.track setup entered previousNs now statement input
  | .cycling entered state statement, input => live.work setup entered state now statement input
  | .leaving original, .proceed => some (live.goto (.exiting original), [.exiting])
  | .exiting original, .exited action => some (live.goto (.reporting original action), [])
  | .reporting original action, .proceed =>
      if action ≠ "PASSIVE" then
        some (live.goto (.noting original (.runtimeError "CANCEL has not confirmed PASSIVE")), [])
      else some (live.goto (.ended true original), [])
  | .noting original failure, .proceed => some (live.goto (.ended true (some (original.getD failure))), [])
  | _, _ => none

end TrackingLive

def trackingTerms : Terms LiveStatus LiveFrame Command Command where
  rank := LiveFrame.stampNs
  owns := LiveStatus.OwnsAll
  build command _ := command

namespace Place

/-- The place of a statement of `wait_fresh` between the entry and the exit. -/
def tenure : Place → FetchPhase → Tenure LiveStatus LiveFrame Command
  | .first, _ => .outside 0
  | .again entered _, _ => .holding entered 0
  | .cycle entered _, .aging state | .cycle entered _, .validating state => .working entered state
  | .cycle entered previousNs, _ => .holding entered previousNs

def tempo (deadline : ℚ) : Place → Tempo ℚ
  | .cycle _ _ => .due deadline
  | _ => .idle

end Place

namespace TrackingPhase

/-- The place of a statement between two publications. -/
def tempo (period deadline : ℚ) : TrackingPhase Command → Tempo ℚ
  | .loading | .warming _ | .admitting _ | .entering _ | .preparing _ | .looping _ _ .starting => .idle
  | .fetching place _ => place.tempo deadline
  | .looping _ _ .resting | .looping _ _ (.sleeping _) => .waiting deadline
  | .looping _ _ _ => .due deadline
  | .cycling _ _ .refusing | .cycling _ _ (.failing _) => .ended
  | .cycling _ _ .returning | .cycling _ _ .accounting => .beaten deadline
  | .cycling _ _ (.recording now) => .waiting (nextDeadline deadline period now)
  | .cycling _ _ _ => .due deadline
  | .leaving _ | .exiting _ | .reporting _ _ | .noting _ _ | .ended _ _ => .ended

/-- The place of a statement between the entry and the exit. -/
def tenure : TrackingPhase Command → Tenure LiveStatus LiveFrame Command
  | .loading | .warming _ | .admitting _ => .outside 0
  | .fetching place statement => place.tenure statement
  | .entering _ => .entering 0
  | .preparing entered => .holding entered 0
  | .looping entered previousNs _ => .holding entered previousNs
  | .cycling entered state .acquiring | .cycling entered state (.computing _) => .working entered state
  | .cycling entered state (.deciding command _) | .cycling entered state (.rechecking command) =>
      .ready entered state command
  | .cycling entered state (.publishing command) => .confirmed entered state command
  | .cycling _ _ .refusing | .cycling _ _ (.failing _) | .leaving _ => .leaving
  | .cycling entered state _ => .holding entered state.stampNs
  | .exiting _ | .reporting _ _ | .noting _ _ | .ended true _ => .released
  | .ended false _ => .declined

variable {phase next : TrackingPhase Command} {deadline period now : ℚ}

/-- A call of `wait_fresh` that does not return a state ends the loop and leaves. -/
theorem leave_steps {outcome : Option Failure} (place : Place) (statement : FetchPhase)
    (left : next = place.leave outcome) :
    Tempo.Step period now (place.tempo deadline) [] (next.tempo period deadline) ∧
      Tenure.Step trackingTerms now (place.tenure statement) [] next.tenure := by
  subst left
  cases place with
  | first => exact ⟨.stop _, .decline _⟩
  | again entered initial => exact ⟨.stop _, .leave trivial⟩
  | cycle entered previousNs =>
      constructor
      · exact .stop _
      · cases statement with
        | _ => exact .leave trivial

/-- An exception ends the loop and leaves. -/
theorem raise_steps {failure : Failure} (raised : phase.raise failure = some next) :
    Tempo.Step period now (phase.tempo period deadline) [] (next.tempo period deadline) ∧
      Tenure.Step trackingTerms now phase.tenure [] next.tenure := by
  cases phase with
  | loading =>
      cases raised
      exact ⟨.stop _, .decline _⟩
  | fetching place statement => exact leave_steps place statement (Option.some.inj raised).symm
  | warming initial =>
      cases raised
      exact ⟨.stop _, .decline _⟩
  | admitting initial =>
      cases raised
      exact ⟨.stop _, .decline _⟩
  | entering initial =>
      cases raised
      exact ⟨.stop _, .leave trivial⟩
  | preparing entered =>
      cases raised
      exact ⟨.stop _, .leave trivial⟩
  | looping entered previousNs statement =>
      cases raised
      exact ⟨.stop _, .leave trivial⟩
  | cycling entered state statement =>
      constructor
      · cases statement with
        | _ =>
            cases raised
            exact .stop _
      · cases statement with
        | refusing | failing =>
            cases raised
            exact .stay _
        | _ =>
            cases raised
            exact .leave trivial
  | leaving original => cases raised
  | exiting original =>
      cases raised
      exact ⟨.stop _, .stay _⟩
  | reporting original action =>
      cases raised
      exact ⟨.stop _, .stay _⟩
  | noting original first =>
      cases raised
      exact ⟨.stop _, .stay _⟩
  | ended attempted outcome => cases raised

end TrackingPhase

namespace TrackingLive

def tempo (period : ℚ) (live : TrackingLive Command) : Tempo ℚ := live.phase.tempo period live.deadline

def tenure (live : TrackingLive Command) : Tenure LiveStatus LiveFrame Command := live.phase.tenure

/-- A statement that is a step of a paced loop and a step of a tenant. -/
def Steps (period now : ℚ) (live : TrackingLive Command) (acts : List (TrackingAct Command))
    (next : TrackingLive Command) : Prop :=
  Tempo.Step period now (live.tempo period) (acts.filterMap Act.publication) (next.tempo period) ∧
    Tenure.Step trackingTerms now live.tenure acts next.tenure

variable {setup : TrackingSetup} {live next : TrackingLive Command} {now : ℚ} {input : LiveInput Command}
  {acts : List (TrackingAct Command)}

theorem ownsAll_of_any {reading : Option LiveStatus} {entered : LiveStatus}
    (owned : reading.any (·.OwnsAll entered)) : ∃ status, reading = some status ∧ status.OwnsAll entered := by
  cases reading with
  | none => cases owned
  | some status => exact ⟨status, rfl, of_decide_eq_true owned⟩

theorem fetch_steps {place : Place} {statement : FetchPhase} (phase : live.phase = .fetching place statement)
    (advanced : live.fetch setup place now statement input = some (next, acts)) :
    live.Steps setup.period now acts next := by
  rw [Steps, tempo, tenure, phase]
  unfold fetch at advanced
  split at advanced
  · cases advanced
    cases place with
    | _ => exact ⟨.stay _, .stay _⟩
  · split at advanced
    · cases advanced
      exact TrackingPhase.leave_steps place _ rfl
    · split at advanced
      · cases advanced
        exact TrackingPhase.leave_steps place _ rfl
      · cases advanced
        cases place with
        | _ => exact ⟨.stay _, .stay _⟩
  · split at advanced
    · rename_i newer
      cases advanced
      cases place with
      | cycle entered previousNs => exact ⟨.stay _, .adopt newer⟩
      | _ => exact ⟨.stay _, .stay _⟩
    · cases advanced
      cases place with
      | _ => exact ⟨.stay _, .stay _⟩
  · obtain ⟨-, same⟩ := Option.ite_none_right_eq_some.mp advanced
    cases same
    cases place with
    | _ => exact ⟨.stay _, .stay _⟩
  · split at advanced
    · cases advanced
      exact TrackingPhase.leave_steps place _ rfl
    · cases advanced
      cases place with
      | _ => exact ⟨.stay _, .stay _⟩
  · cases advanced
    cases place with
    | _ => exact ⟨.stay _, .stay _⟩
  · cases advanced

theorem track_steps {entered : LiveStatus} {previousNs : ℤ} {statement : TrackPhase}
    (phase : live.phase = .looping entered previousNs statement)
    (advanced : live.track setup entered previousNs now statement input = some (next, acts)) :
    live.Steps setup.period now acts next := by
  rw [Steps, tempo, tenure, phase]
  unfold track at advanced
  split at advanced
  · cases advanced
    exact ⟨.start, .stay _⟩
  · split at advanced
    · cases advanced
      exact ⟨.stop _, .leave trivial⟩
    · cases advanced
      exact ⟨.stay _, .stay _⟩
  · split at advanced
    · cases advanced
      exact ⟨.stay _, .check _ _ _⟩
    · cases advanced
      exact ⟨.stop _, .fail _ trivial⟩
  · cases advanced
    exact ⟨.stay _, .stay _⟩
  · rename_i since
    obtain ⟨woken, same⟩ := Option.ite_none_right_eq_some.mp advanced
    cases same
    have reached : live.deadline ≤ now := by
      have enough := le_max_right 0 (live.deadline - since)
      linarith
    exact ⟨.wake reached, .stay _⟩
  · cases advanced

theorem work_steps {entered : LiveStatus} {state : LiveFrame} {statement : StepPhase Command}
    (phase : live.phase = .cycling entered state statement)
    (advanced : live.work setup entered state now statement input = some (next, acts)) :
    live.Steps setup.period now acts next := by
  rw [Steps, tempo, tenure, phase]
  unfold work at advanced
  split at advanced
  · cases advanced
    exact ⟨.stay _, .stay _⟩
  · cases advanced
    exact ⟨.stay _, .compute _ _ _⟩
  · split at advanced
    · cases advanced
      exact ⟨.stop _, .leave trivial⟩
    · split at advanced
      · cases advanced
        exact ⟨.stop _, .leave trivial⟩
      · cases advanced
        exact ⟨.stay _, .stay _⟩
  · cases advanced
    exact ⟨.stop _, .stay _⟩
  · split at advanced
    · rename_i owned
      obtain ⟨status, rfl, owns⟩ := ownsAll_of_any owned
      cases advanced
      exact ⟨.stay _, .confirm owns⟩
    · cases advanced
      exact ⟨.stop _, .fail _ trivial⟩
  · cases advanced
    exact ⟨.beat _, .publish _ _ _⟩
  · cases advanced
    exact ⟨.stop _, .stay _⟩
  · cases advanced
    exact ⟨.stay _, .stay _⟩
  · cases advanced
    exact ⟨.schedule _, .stay _⟩
  · cases advanced
    exact ⟨.stay _, .stay _⟩
  · cases advanced

/-- Every statement is a step of a paced loop and of a tenant. -/
theorem advance_steps (advanced : live.advance setup now input = some (next, acts)) :
    live.Steps setup.period now acts next := by
  unfold advance at advanced
  split at advanced
  · cases advanced
    exact ⟨.stay _, .stay _⟩
  · obtain ⟨target, raised, same⟩ := Option.map_eq_some_iff.mp advanced
    cases same
    exact TrackingPhase.raise_steps raised
  · rename_i phase
    cases advanced
    rw [Steps, tempo, tenure, phase]
    exact ⟨.stay _, .stay _⟩
  · rename_i phase _ _
    exact fetch_steps phase advanced
  · rename_i initial phase
    cases advanced
    rw [Steps, tempo, tenure, phase]
    exact ⟨.stay _, .stay _⟩
  · rename_i initial phase
    rw [Steps, tempo, tenure, phase]
    split at advanced
    · cases advanced
      exact ⟨.stop _, .decline _⟩
    · cases advanced
      exact ⟨.stay _, .enter _⟩
  · rename_i initial entered phase
    rw [Steps, tempo, tenure, phase]
    split at advanced
    · cases advanced
      exact ⟨.stop _, .deny _ _⟩
    · cases advanced
      exact ⟨.stay _, .grant _ _⟩
  · rename_i entered phase
    cases advanced
    rw [Steps, tempo, tenure, phase]
    exact ⟨.stay _, .stay _⟩
  · rename_i phase _ _
    exact track_steps phase advanced
  · rename_i phase _ _
    exact work_steps phase advanced
  · rename_i original phase
    cases advanced
    rw [Steps, tempo, tenure, phase]
    exact ⟨.stop _, .release⟩
  · rename_i original action phase
    cases advanced
    rw [Steps, tempo, tenure, phase]
    exact ⟨.stop _, .stay _⟩
  · rename_i original action phase
    rw [Steps, tempo, tenure, phase]
    split at advanced
    · cases advanced
      exact ⟨.stop _, .stay _⟩
    · cases advanced
      exact ⟨.stop _, .stay _⟩
  · rename_i original failure phase
    cases advanced
    rw [Steps, tempo, tenure, phase]
    exact ⟨.stop _, .stay _⟩
  · cases advanced

end TrackingLive

end HumanoidSdk.Demo
