import HumanoidSdk.Demo.LiveControl
import HumanoidSdk.Foundation.Cadence
import HumanoidSdk.Foundation.Precondition

/-
This file translates run_cycles of examples/velocity_mode/velocity_mode.py. Times are whole nanoseconds.
The computation of a command only returns or raises, and so does the log.
-/

namespace HumanoidSdk.Demo
open Foundation

def PERIOD_NS : ℤ := 20000000

def LOWSTATE_WINDOW_NS : ℤ := 200000000

/-- The arguments of `run_cycles`. There is no controller in shadow mode. -/
structure CycleSetup where
  live : Bool
  durationNs : Option ℤ

/-- The entry `publish_result` of a record. -/
inductive PublishResult where
  | notCalled
  | shadowWouldPublish
  | returned
  | raised
  deriving DecidableEq

/-- The next statement. -/
inductive CyclePhase where
  | receiving
  | resetting (stateId : ℤ)
  | starting (stateId : ℤ)
  | expecting
  | testing
  | delaying
  | sleeping (since : ℤ)
  | stopping
  | framing
  | observing (stateId : ℤ)
  | guarding (stateId : ℤ) (now : ℤ)
  | requiring (stateId : ℤ)
  | computing (stateId : ℤ)
  | closing (stateId : ℤ)
  | rechecking (stateId : ℤ)
  | checking (stateId : ℤ)
  | publishing (stateId : ℤ)
  | returning
  | logging (result : PublishResult) (after : AfterLog)
  | scheduling (result : PublishResult)
  | finished
  | raised (failure : Failure)
  deriving DecidableEq

/-- The variables of `run_cycles`. -/
structure RunCycles where
  phase : CyclePhase := .receiving
  stop : Bool := false
  started : ℤ := 0
  expected : Option LiveStatus := none
  lastStateId : ℤ := 0
  lastAdvance : ℤ := 0
  nextCycle : ℤ := 0
  deriving DecidableEq

/-- A frame is stamped by the first clock reading after it. A check reads the clock before a publication. -/
inductive CycleEvent where
  | frame (stateId : ℤ) (time : ℤ)
  | checked (now : ℤ)
  | published (inputStateId : ℤ) (time : ℤ)
  deriving DecidableEq

/-- Where an exception leads to. A cycle writes its record on the way out. -/
def CyclePhase.raise (failure : Failure) : CyclePhase → CyclePhase
  | .computing _ | .closing _ | .rechecking _ | .checking _ => .logging .notCalled (.raises failure)
  | .publishing _ | .returning => .logging .raised (.raises failure)
  | _ => .raised failure

def stale : Failure := .timeoutError "BodyState did not advance within the live lowstate window"

namespace RunCycles

variable (setup : CycleSetup) (cycles : RunCycles)

def goto (phase : CyclePhase) : RunCycles := { cycles with phase }

def raise (failure : Failure) : RunCycles := cycles.goto (cycles.phase.raise failure)

/-- A frame at the clock reading `now`. -/
def observe (stateId now : ℤ) : RunCycles :=
  if cycles.lastStateId < stateId then { cycles with lastStateId := stateId, lastAdvance := now } else cycles

/-- One statement, with a status where it reads one. -/
def require (expected : Option LiveStatus) (status : Option LiveStatus) (next : LiveStatus → RunCycles) :
    RunCycles :=
  match requireRunning status expected with
  | .error failure => cycles.raise failure
  | .ok status => next status

/-- One statement of `run_cycles`, which ends at the clock reading `now`. -/
def advance (now : ℤ) (input : LiveInput Unit) : Option (RunCycles × List CycleEvent) :=
  match cycles.phase, input with
  | .finished, _ => none
  | .raised _, _ => none
  | _, .stop => some ({ cycles with stop := true }, [])
  | _, .raises failure => some (cycles.raise failure, [])
  | .receiving, .frame frame => some (cycles.goto (.resetting frame.stateId), [])
  | .resetting stateId, .proceed => some (cycles.goto (.starting stateId), [])
  | .starting stateId, .proceed =>
      let started := { cycles with started := now, lastStateId := stateId, lastAdvance := now, nextCycle := now }
      if setup.live then some (started.goto .expecting, [.frame stateId now])
      else some (started.goto .testing, [.frame stateId now])
  | .expecting, .status status =>
      some (cycles.require none status fun status => { cycles with phase := .testing, expected := some status }, [])
  | .testing, .proceed =>
      if cycles.stop || setup.durationNs.any (· ≤ now - cycles.started) then some (cycles.goto .finished, [])
      else some (cycles.goto .delaying, [])
  | .delaying, .proceed =>
      if 0 < cycles.nextCycle - now then some (cycles.goto (.sleeping now), [])
      else some (cycles.goto .stopping, [])
  | .sleeping since, .proceed =>
      if since + (cycles.nextCycle - since) ≤ now then some (cycles.goto .stopping, []) else none
  | .stopping, .proceed =>
      if cycles.stop then some (cycles.goto .finished, []) else some (cycles.goto .framing, [])
  | .framing, .frame frame => some (cycles.goto (.observing frame.stateId), [])
  | .observing stateId, .proceed =>
      some ((cycles.observe stateId now).goto (.guarding stateId now), [.frame stateId now])
  | .guarding stateId read, .proceed =>
      if LOWSTATE_WINDOW_NS ≤ read - cycles.lastAdvance then some (cycles.raise stale, [])
      else if setup.live then some (cycles.goto (.requiring stateId), [])
      else some (cycles.goto (.computing stateId), [])
  | .requiring stateId, .status status =>
      some (cycles.require cycles.expected status fun _ => cycles.goto (.computing stateId), [])
  | .computing stateId, .computed _ => some (cycles.goto (.closing stateId), [])
  | .closing stateId, .proceed =>
      if cycles.stop then some (cycles.goto (.logging .notCalled .breaks), [])
      else if setup.live then some (cycles.goto (.rechecking stateId), [])
      else some (cycles.goto (.logging .shadowWouldPublish .continues), [])
  | .rechecking stateId, .status status =>
      some (cycles.require cycles.expected status fun _ => cycles.goto (.checking stateId), [])
  | .checking stateId, .proceed =>
      if LOWSTATE_WINDOW_NS ≤ now - cycles.lastAdvance then some (cycles.raise stale, [.checked now])
      else some (cycles.goto (.publishing stateId), [.checked now])
  | .publishing stateId, .proceed => some (cycles.goto .returning, [.published stateId now])
  | .returning, .proceed => some (cycles.goto (.logging .returned .continues), [])
  | .logging result .continues, .proceed => some (cycles.goto (.scheduling result), [])
  | .logging _ .breaks, .proceed => some (cycles.goto .finished, [])
  | .logging _ (.raises failure), .proceed => some (cycles.goto (.raised failure), [])
  | .scheduling _, .proceed =>
      some ({ cycles with phase := .testing, nextCycle := nextDeadline cycles.nextCycle PERIOD_NS now }, [])
  | _, _ => none

end RunCycles

namespace RunCycles

/-- What a statement of `run_cycles` does. -/
inductive Step (now : ℤ) (cycles : RunCycles) : List CycleEvent → RunCycles → Prop
  | halt : Step now cycles [] { cycles with stop := true }
  | raise (failure : Failure) : Step now cycles [] (cycles.raise failure)
  | receive (phase : cycles.phase = .receiving) (stateId : ℤ) : Step now cycles [] (cycles.goto (.resetting stateId))
  | reset {stateId : ℤ} (phase : cycles.phase = .resetting stateId) :
      Step now cycles [] (cycles.goto (.starting stateId))
  | start {stateId : ℤ} (phase : cycles.phase = .starting stateId) {place : CyclePhase}
      (ahead : place = .expecting ∨ place = .testing) :
      Step now cycles [.frame stateId now]
        { cycles with phase := place, started := now, lastStateId := stateId, lastAdvance := now, nextCycle := now }
  | expect (phase : cycles.phase = .expecting) (status : LiveStatus) :
      Step now cycles [] { cycles with phase := .testing, expected := some status }
  | expire (phase : cycles.phase = .testing) : Step now cycles [] (cycles.goto .finished)
  | delay (phase : cycles.phase = .testing) : Step now cycles [] (cycles.goto .delaying)
  | sleep (phase : cycles.phase = .delaying) : Step now cycles [] (cycles.goto (.sleeping now))
  | go (phase : cycles.phase = .delaying) (due : cycles.nextCycle ≤ now) : Step now cycles [] (cycles.goto .stopping)
  | wake {since : ℤ} (phase : cycles.phase = .sleeping since) (due : cycles.nextCycle ≤ now) :
      Step now cycles [] (cycles.goto .stopping)
  | leave (phase : cycles.phase = .stopping) : Step now cycles [] (cycles.goto .finished)
  | proceed (phase : cycles.phase = .stopping) : Step now cycles [] (cycles.goto .framing)
  | frame (phase : cycles.phase = .framing) (stateId : ℤ) : Step now cycles [] (cycles.goto (.observing stateId))
  | observe {stateId : ℤ} (phase : cycles.phase = .observing stateId) :
      Step now cycles [.frame stateId now] ((cycles.observe stateId now).goto (.guarding stateId now))
  | guard {stateId read : ℤ} (phase : cycles.phase = .guarding stateId read) {place : CyclePhase}
      (ahead : place = .requiring stateId ∨ place = .computing stateId) : Step now cycles [] (cycles.goto place)
  | require {stateId : ℤ} (phase : cycles.phase = .requiring stateId) :
      Step now cycles [] (cycles.goto (.computing stateId))
  | compute {stateId : ℤ} (phase : cycles.phase = .computing stateId) :
      Step now cycles [] (cycles.goto (.closing stateId))
  | close {stateId : ℤ} (phase : cycles.phase = .closing stateId) {place : CyclePhase}
      (ahead : place = .rechecking stateId ∨ place = .logging .notCalled .breaks ∨
        place = .logging .shadowWouldPublish .continues) : Step now cycles [] (cycles.goto place)
  | recheck {stateId : ℤ} (phase : cycles.phase = .rechecking stateId) :
      Step now cycles [] (cycles.goto (.checking stateId))
  | refuse {stateId : ℤ} (phase : cycles.phase = .checking stateId) : Step now cycles [.checked now] (cycles.raise stale)
  | check {stateId : ℤ} (phase : cycles.phase = .checking stateId)
      (young : now - cycles.lastAdvance < LOWSTATE_WINDOW_NS) :
      Step now cycles [.checked now] (cycles.goto (.publishing stateId))
  | publish {stateId : ℤ} (phase : cycles.phase = .publishing stateId) :
      Step now cycles [.published stateId now] (cycles.goto .returning)
  | back (phase : cycles.phase = .returning) : Step now cycles [] (cycles.goto (.logging .returned .continues))
  | log {result : PublishResult} (phase : cycles.phase = .logging result .continues) :
      Step now cycles [] (cycles.goto (.scheduling result))
  | finish {result : PublishResult} (phase : cycles.phase = .logging result .breaks) :
      Step now cycles [] (cycles.goto .finished)
  | fail {result : PublishResult} {failure : Failure} (phase : cycles.phase = .logging result (.raises failure)) :
      Step now cycles [] (cycles.goto (.raised failure))
  | schedule {result : PublishResult} (phase : cycles.phase = .scheduling result) :
      Step now cycles []
        { cycles with phase := .testing, nextCycle := nextDeadline cycles.nextCycle PERIOD_NS now }

variable {setup : CycleSetup} {cycles next : RunCycles} {now : ℤ} {input : LiveInput Unit}
  {events : List CycleEvent}

/-- The read of a status raises or goes on. -/
theorem require_step {expected status : Option LiveStatus} {after : LiveStatus → RunCycles}
    (passes : ∀ status, Step now cycles [] (after status)) :
    Step now cycles [] (cycles.require expected status after) := by
  unfold RunCycles.require
  split
  · exact .raise _
  · exact passes _

/-- Every statement of `run_cycles` is one of these. -/
theorem step_of_advance (advanced : cycles.advance setup now input = some (next, events)) :
    Step now cycles events next := by
  unfold advance at advanced
  split at advanced
  case h_1 => cases advanced
  case h_2 => cases advanced
  case h_3 => cases advanced; exact .halt
  case h_4 => cases advanced; exact .raise _
  case h_5 phase => cases advanced; exact .receive phase _
  case h_6 phase => cases advanced; exact .reset phase
  case h_7 phase =>
    dsimp only at advanced
    split at advanced
    · cases advanced
      exact .start phase (.inl rfl)
    · cases advanced
      exact .start phase (.inr rfl)
  case h_8 phase =>
    cases advanced
    exact require_step fun status => .expect phase status
  case h_9 phase =>
    split at advanced
    · cases advanced
      exact .expire phase
    · cases advanced
      exact .delay phase
  case h_10 phase =>
    split at advanced
    · cases advanced
      exact .sleep phase
    · rename_i late
      cases advanced
      exact .go phase (by omega)
  case h_11 phase =>
    obtain ⟨reached, same⟩ := Option.ite_none_right_eq_some.mp advanced
    cases same
    exact .wake phase (by omega)
  case h_12 phase =>
    split at advanced
    · cases advanced
      exact .leave phase
    · cases advanced
      exact .proceed phase
  case h_13 phase => cases advanced; exact .frame phase _
  case h_14 phase => cases advanced; exact .observe phase
  case h_15 phase =>
    split at advanced
    · cases advanced
      exact .raise _
    · split at advanced
      · cases advanced
        exact .guard phase (.inl rfl)
      · cases advanced
        exact .guard phase (.inr rfl)
  case h_16 phase =>
    cases advanced
    exact require_step fun _ => .require phase
  case h_17 phase => cases advanced; exact .compute phase
  case h_18 phase =>
    split at advanced
    · cases advanced
      exact .close phase (.inr (.inl rfl))
    · split at advanced
      · cases advanced
        exact .close phase (.inl rfl)
      · cases advanced
        exact .close phase (.inr (.inr rfl))
  case h_19 phase =>
    cases advanced
    exact require_step fun _ => .recheck phase
  case h_20 phase =>
    split at advanced
    · cases advanced
      exact .refuse phase
    · rename_i young
      cases advanced
      exact .check phase (not_le.mp young)
  case h_21 phase => cases advanced; exact .publish phase
  case h_22 phase => cases advanced; exact .back phase
  case h_23 phase => cases advanced; exact .log phase
  case h_24 phase => cases advanced; exact .finish phase
  case h_25 phase => cases advanced; exact .fail phase
  case h_26 phase => cases advanced; exact .schedule phase
  case h_27 => cases advanced

end RunCycles

/-- The time of a publication. -/
def CycleEvent.publication : CycleEvent → Option ℤ
  | .published _ time => some time
  | _ => none

/-- The place of a cycle between two publications. -/
def CyclePhase.tempo (deadline : ℤ) : CyclePhase → Tempo ℤ
  | .receiving | .resetting _ | .starting _ => .idle
  | .expecting | .testing | .delaying | .sleeping _ => .waiting deadline
  | .stopping | .framing | .observing _ | .guarding _ _ | .requiring _ | .computing _ | .closing _ | .rechecking _
  | .checking _ | .publishing _ => .due deadline
  | .returning | .logging .returned .continues | .scheduling .returned => .beaten deadline
  | .logging _ .continues | .scheduling _ => .due deadline
  | .logging _ _ | .finished | .raised _ => .ended

theorem CyclePhase.raise_tempo {deadline : ℤ} (failure : Failure) (phase : CyclePhase) :
    (phase.raise failure).tempo deadline = .ended := by
  cases phase with
  | _ => rfl

namespace RunCycles

def tempo (cycles : RunCycles) : Tempo ℤ := cycles.phase.tempo cycles.nextCycle

variable {setup : CycleSetup} {cycles next : RunCycles} {now : ℤ} {input : LiveInput Unit}
  {events : List CycleEvent}

/-- An exception ends the loop. -/
theorem raise_steps (failure : Failure) :
    Tempo.Step PERIOD_NS now cycles.tempo [] (cycles.raise failure).tempo := by
  have ended : (cycles.raise failure).tempo = .ended := CyclePhase.raise_tempo failure cycles.phase
  rw [ended]
  exact .stop _

theorem observe_nextCycle {stateId : ℤ} : (cycles.observe stateId now).nextCycle = cycles.nextCycle := by
  unfold observe
  split
  · rfl
  · rfl

/-- Every statement is a step of a paced loop. -/
theorem Step.paces (step : Step now cycles events next) :
    Tempo.Step PERIOD_NS now cycles.tempo (events.filterMap CycleEvent.publication) next.tempo := by
  cases step with
  | halt => exact .stay _
  | raise failure => exact raise_steps failure
  | refuse phase => exact raise_steps stale
  | receive phase | reset phase | expect phase | delay phase | sleep phase | proceed phase | frame phase
  | require phase | compute phase | recheck phase | check phase | back phase =>
      rw [tempo, phase]
      exact .stay _
  | start phase ahead =>
      rw [tempo, phase]
      rcases ahead with rfl | rfl
      · exact .arm now
      · exact .arm now
  | expire phase | leave phase | finish phase | fail phase => exact .stop _
  | go phase due | wake phase due =>
      rw [tempo, phase]
      exact .wake due
  | @observe stateId phase =>
      have due : ((cycles.observe stateId now).goto (.guarding stateId now)).tempo = .due cycles.nextCycle :=
        congrArg Tempo.due observe_nextCycle
      rw [due, tempo, phase]
      exact .stay _
  | guard phase ahead =>
      rw [tempo, phase]
      rcases ahead with rfl | rfl
      · exact .stay _
      · exact .stay _
  | close phase ahead =>
      rw [tempo, phase]
      rcases ahead with rfl | rfl | rfl
      · exact .stay _
      · exact .stop _
      · exact .stay _
  | publish phase =>
      rw [tempo, phase]
      exact .beat _
  | @log result phase =>
      rw [tempo, phase]
      cases result with
      | _ => exact .stay _
  | @schedule result phase =>
      rw [tempo, phase]
      cases result with
      | returned => exact .schedule _
      | _ => exact .skip _

end RunCycles

/-- The newest state with the time at which it was first observed, after one more event. -/
def CycleEvent.note (newest : Option (ℤ × ℤ)) : CycleEvent → Option (ℤ × ℤ)
  | .frame stateId time =>
      match newest with
      | none => some (stateId, time)
      | some (last, advance) => if last < stateId then some (stateId, time) else some (last, advance)
  | _ => newest

/-- The newest state of a log with the time at which it was first observed. -/
def newestState (log : List CycleEvent) : Option (ℤ × ℤ) := log.foldl CycleEvent.note none

theorem newestState_append (log events : List CycleEvent) :
    newestState (log ++ events) = events.foldl CycleEvent.note (newestState log) := List.foldl_append

/-- A publication comes right after a check that found the newest state within the window. -/
def Recent (log : List CycleEvent) : CycleEvent → Prop
  | .published _ _ => ∃ past now stateId advance, log = past ++ [.checked now] ∧
      newestState past = some (stateId, advance) ∧ now - advance < LOWSTATE_WINDOW_NS
  | _ => True

namespace RunCycles

/-- What the log says at each statement. -/
def Sees (log : List CycleEvent) (cycles : RunCycles) : Prop :=
  match cycles.phase with
  | .receiving | .resetting _ | .starting _ => newestState log = none
  | .publishing _ => newestState log = some (cycles.lastStateId, cycles.lastAdvance) ∧
      ∃ past now, log = past ++ [.checked now] ∧ now - cycles.lastAdvance < LOWSTATE_WINDOW_NS
  | .logging _ (.raises _) | .finished | .raised _ => True
  | _ => newestState log = some (cycles.lastStateId, cycles.lastAdvance)

variable {setup : CycleSetup} {cycles next : RunCycles} {now : ℤ} {input : LiveInput Unit}
  {log events : List CycleEvent}

theorem raise_sees (failure : Failure) : (cycles.raise failure).Sees log := by
  have ended (phase : CyclePhase) : (cycles.goto (phase.raise failure)).Sees log := by
    cases phase with
    | _ => trivial
  exact ended cycles.phase

theorem observe_note {stateId : ℤ} (seen : newestState log = some (cycles.lastStateId, cycles.lastAdvance)) :
    newestState (log ++ [.frame stateId now]) =
      some ((cycles.observe stateId now).lastStateId, (cycles.observe stateId now).lastAdvance) := by
  rw [newestState_append, seen]
  show (if cycles.lastStateId < stateId then some (stateId, now)
    else some (cycles.lastStateId, cycles.lastAdvance)) = _
  unfold observe
  split
  · rfl
  · rfl

/-- One statement keeps what the log says, and its events are recent. -/
theorem Sees.step (sees : cycles.Sees log) (justified : Justified Recent log) (step : Step now cycles events next) :
    next.Sees (log ++ events) ∧ Justified Recent (log ++ events) := by
  have quiet : log ++ [] = log := List.append_nil _
  cases step with
  | halt =>
      rw [quiet]
      exact ⟨sees, justified⟩
  | raise failure =>
      rw [quiet]
      exact ⟨raise_sees _, justified⟩
  | receive phase | reset phase | expect phase | delay phase | sleep phase | go phase | wake phase | proceed phase
  | frame phase | require phase | compute phase | recheck phase | back phase | log phase | schedule phase =>
      rw [Sees, phase] at sees
      rw [quiet]
      exact ⟨sees, justified⟩
  | expire phase | leave phase | finish phase | fail phase =>
      rw [quiet]
      exact ⟨trivial, justified⟩
  | @start stateId phase place ahead =>
      rw [Sees, phase] at sees
      have first : newestState (log ++ [.frame stateId now]) = some (stateId, now) := by
        rw [newestState_append, sees]
        rfl
      rcases ahead with rfl | rfl
      · exact ⟨first, justified.snoc trivial⟩
      · exact ⟨first, justified.snoc trivial⟩
  | observe phase =>
      rw [Sees, phase] at sees
      exact ⟨observe_note sees, justified.snoc trivial⟩
  | guard phase ahead =>
      rw [Sees, phase] at sees
      rw [quiet]
      rcases ahead with rfl | rfl
      · exact ⟨sees, justified⟩
      · exact ⟨sees, justified⟩
  | close phase ahead =>
      rw [Sees, phase] at sees
      rw [quiet]
      rcases ahead with rfl | rfl | rfl
      · exact ⟨sees, justified⟩
      · exact ⟨sees, justified⟩
      · exact ⟨sees, justified⟩
  | refuse phase => exact ⟨raise_sees _, justified.snoc trivial⟩
  | check phase young =>
      rw [Sees, phase] at sees
      have seen : newestState (log ++ [.checked now]) = some (cycles.lastStateId, cycles.lastAdvance) := by
        rw [newestState_append, sees]
        rfl
      exact ⟨⟨seen, log, now, rfl, young⟩, justified.snoc trivial⟩
  | publish phase =>
      rw [Sees, phase] at sees
      obtain ⟨seen, past, read, rfl, young⟩ := sees
      constructor
      · show newestState _ = _
        rw [newestState_append, seen]
        rfl
      · rw [newestState_append] at seen
        exact justified.snoc ⟨past, read, cycles.lastStateId, cycles.lastAdvance, rfl, seen, young⟩

/-- The publications of a run come within the window after an advance of the state. -/
theorem run_recent {start final : Timed ℤ RunCycles} {moves : List (Move (Timed ℤ RunCycles) (ℤ × LiveInput Unit) CycleEvent)}
    (first : start.state = {}) (run : (clocked (advance setup)).Run start moves final) :
    Justified Recent (trace moves) := by
  have held : final.state.Sees (trace moves) ∧ Justified Recent (trace moves) := by
    apply clocked_invariant (fun log _ state => state.Sees log ∧ Justified Recent log) _ _ run
    · rw [first]
      exact ⟨rfl, .empty⟩
    · intro log time state now input next events held _ advanced
      exact held.1.step held.2 (step_of_advance advanced)
  exact held.2

end RunCycles

end HumanoidSdk.Demo
