import HumanoidSdk.Demo.ExternalRun

/-
This file says once what a statement of the external demo can do.
-/

namespace HumanoidSdk.Demo
open Foundation

/-- What a statement of the trajectory does. -/
inductive Trip.Step (info : BodyInfo) (now : ℚ) (trip : Trip) :
    TripPhase → List ExternalEvent → ExternalRun → Prop
  | raise (phase : TripPhase) (failure : Failure) : Step info now trip phase [] (leave failure)
  | finish (done : trip.script = []) : Step info now trip .tasking [] (.leaving none)
  | frame {q : List ℚ} {rest : List Task} (task : trip.script = .frame q :: rest) :
      Step info now trip .tasking [] (.running { trip with script := rest } (.delaying q))
  | settle {rest : List Task} (task : trip.script = .settle :: rest) :
      Step info now trip .tasking []
        (.running { trip with script := rest, settledSince := none, settled := false } .tasking)
  | observe {endpoint : Endpoint} {rest : List Task} (task : trip.script = .observe endpoint :: rest) :
      Step info now trip .tasking [] (.running { trip with script := rest } (.observing endpoint))
  | conclude {endpoint : Endpoint} {rest : List Task} (task : trip.script = .conclude endpoint :: rest)
      (settled : trip.settled = true) :
      Step info now trip .tasking [.settled endpoint] (.running { trip with script := rest } .tasking)
  | say {rest : List Task} (task : trip.script = .say :: rest) :
      Step info now trip .tasking [] (.running { trip with script := rest } .saying)
  | wait (q : List ℚ) : Step info now trip (.delaying q) [] (.running trip (.sleeping q now))
  | go (q : List ℚ) (due : trip.nextPublish ≤ now) :
      Step info now trip (.delaying q) [] (.running trip (.checking q))
  | wake (q : List ℚ) (since : ℚ) (due : trip.nextPublish ≤ now) :
      Step info now trip (.sleeping q since) [] (.running trip (.checking q))
  | disown (q : List ℚ) (reading : Option LiveStatus) (failure : Failure) :
      Step info now trip (.checking q) [.checked reading] (leave failure)
  | own (q : List ℚ) {status : LiveStatus} (same : status.Same trip.entered)
      (count : status.rejectCount = trip.entered.rejectCount) :
      Step info now trip (.checking q) [.checked (some status)] (.running trip (.receiving q))
  | receive (q : List ℚ) {state : BodyState} (valid : validateBodyState info state = .ok ()) :
      Step info now trip (.receiving q) [] (.running trip (.dating q state))
  | refuse (q : List ℚ) (state : BodyState) (failure : Failure) :
      Step info now trip (.dating q state) [.dated state.stateId now] (leave failure)
  | date {q : List ℚ} {state : BodyState} {dated : Trip} {joints : List PositionTarget}
      (fresh : trip.date state now = some dated) (built : positionCommand q = .ok joints) :
      Step info now trip (.dating q state) [.dated state.stateId now] (.running dated (.publishing joints state))
  | publish (joints : List PositionTarget) (state : BodyState) :
      Step info now trip (.publishing joints state) [.published joints state.stateId now]
        (.running trip (.returning state))
  | back (state : BodyState) : Step info now trip (.returning state) [] (.running trip (.scheduling state))
  | schedule (state : BodyState) :
      Step info now trip (.scheduling state) []
        (.running { trip with state, nextPublish := max (trip.nextPublish + PERIOD_S) (now + PERIOD_S) } .tasking)
  | look (endpoint : Endpoint) :
      Step info now trip (.observing endpoint) [.observed endpoint trip.state now]
        (.running (trip.observe info endpoint now) .tasking)
  | said : Step info now trip .saying [] (.running trip .tasking)

section Trip

variable {info : BodyInfo} {trip : Trip} {now : ℚ} {phase : TripPhase} {input : ExternalInput} {next : ExternalRun}
  {events : List ExternalEvent}

theorem checkOwned_ok {reading : Option LiveStatus} {entered : LiveStatus}
    (passed : checkOwned reading entered = .ok ()) :
    ∃ status, reading = some status ∧ status.Same entered ∧ status.rejectCount = entered.rejectCount := by
  unfold checkOwned at passed
  cases reading with
  | none => cases passed
  | some status =>
      dsimp only at passed
      split at passed
      · cases passed
      · rename_i same
        split at passed
        · cases passed
        · rename_i count
          exact ⟨status, rfl, not_not.mp same, not_not.mp count⟩

theorem Trip.next_step (trip : Trip) : trip.Step info now .tasking trip.next.2 trip.next.1 := by
  unfold Trip.next
  split
  · rename_i done
    exact .finish done
  · rename_i task
    exact .frame task
  · rename_i task
    exact .settle task
  · rename_i task
    exact .observe task
  · rename_i task
    split
    · rename_i settled
      exact .conclude task settled
    · exact .raise _ _
  · rename_i task
    exact .say task

/-- Every statement of the trajectory is one of these. -/
theorem Trip.step_of_advance (stepped : trip.advance info now phase input = some (next, events)) :
    trip.Step info now phase events next := by
  unfold Trip.advance at stepped
  split at stepped
  case h_1 => cases stepped; exact .raise _ _
  case h_2 =>
    have same : trip.next = (next, events) := Option.some.inj stepped
    have step : trip.Step info now .tasking trip.next.2 trip.next.1 := trip.next_step
    rwa [same] at step
  case h_3 q =>
    split at stepped
    · cases stepped
      exact .wait q
    · rename_i late
      cases stepped
      exact .go q (by linarith)
  case h_4 q since =>
    split at stepped
    · rename_i slept
      cases stepped
      exact .wake q since (by linarith)
    · cases stepped
  case h_5 q reading =>
    split at stepped
    · cases stepped
      exact .disown q _ _
    · rename_i passed
      cases stepped
      obtain ⟨status, rfl, same, count⟩ := checkOwned_ok passed
      exact .own q same count
  case h_6 q state =>
    split at stepped
    · cases stepped
      exact .raise _ _
    · rename_i valid
      cases stepped
      exact .receive q valid
  case h_7 q state =>
    split at stepped
    · cases stepped
      exact .refuse q state _
    · rename_i fresh
      split at stepped
      · cases stepped
        exact .refuse q state _
      · rename_i built
        cases stepped
        exact .date fresh built
  case h_8 joints state => cases stepped; exact .publish joints state
  case h_9 state => cases stepped; exact .back state
  case h_10 state => cases stepped; exact .schedule state
  case h_11 endpoint => cases stepped; exact .look endpoint
  case h_12 => cases stepped; exact .said
  case h_13 => cases stepped

end Trip

namespace ExternalRun

/-- The entry has not returned. -/
def Outside : ExternalRun → Prop
  | .describing | .gating _ | .announcing _ | .entering _ => True
  | _ => False

/-- The entry has returned and the trajectory has not begun. -/
def Inside : ExternalRun → Prop
  | .stamping _ _ | .arming _ _ _ => True
  | _ => False

/-- What a statement of the demo does. -/
inductive Step (setup : ExternalSetup) (now : ℚ) : ExternalRun → List ExternalEvent → ExternalRun → Prop
  | describe : Step setup now .describing [] (.gating {})
  | decline {run : ExternalRun} (failure : Failure) (outside : run.Outside) :
      Step setup now run [] (.ended (some failure))
  | gate {gate next : Gate} {input : GateInput} {observed : List Observation}
      (advanced : gate.advance setup.info setup.timeout now input = some (next, observed)) :
      Step setup now (.gating gate) [] (.gating next)
  | pass {gate next : Gate} {input : GateInput} {observed : List Observation} {start : BodyState}
      (advanced : gate.advance setup.info setup.timeout now input = some (next, observed))
      (returned : next.phase = .returned start) : Step setup now (.gating gate) [] (.announcing start)
  | announce (start : BodyState) : Step setup now (.announcing start) [] (.entering start)
  | enter (start : BodyState) (entered : LiveStatus) :
      Step setup now (.entering start) [.entered entered] (.stamping start entered)
  | stamp (start : BodyState) (entered : LiveStatus) :
      Step setup now (.stamping start entered) [.dated start.stateId now] (.arming start entered now)
  | arm (start : BodyState) (entered : LiveStatus) (lastStateChange : ℚ) :
      Step setup now (.arming start entered lastStateChange) [] (.running {
        entered
        state := start
        lastStateId := start.stateId
        lastStateChange
        nextPublish := now
        script := trajectory (startPose setup.info start) } .tasking)
  | interrupt {run : ExternalRun} (failure : Failure) (inside : run.Inside) :
      Step setup now run [] (.leaving (some failure))
  | move {trip : Trip} {phase : TripPhase} {events : List ExternalEvent} {next : ExternalRun}
      (step : trip.Step setup.info now phase events next) : Step setup now (.running trip phase) events next
  | leave (outcome : Option Failure) : Step setup now (.leaving outcome) [.exiting] (.exiting outcome)
  | confirm (outcome : Option Failure) : Step setup now (.exiting outcome) [] (.reporting outcome)
  | fail (outcome : Option Failure) (failure : Failure) :
      Step setup now (.exiting outcome) [] (.ended (some failure))
  | lose (outcome : Option Failure) (failure : Failure) :
      Step setup now (.reporting outcome) [] (.ended (some failure))
  | report (outcome : Option Failure) : Step setup now (.reporting outcome) [] (.ended outcome)

variable {setup : ExternalSetup} {run next : ExternalRun} {now : ℚ} {input : ExternalInput}
  {events : List ExternalEvent}

theorem gated_step {gate : Gate} {gateInput : GateInput}
    (stepped : (gate.advance setup.info setup.timeout now gateInput).map
      (fun next => (advance.gated next.1, ([] : List ExternalEvent))) = some (next, events)) :
    Step setup now (.gating gate) events next := by
  obtain ⟨⟨after, observed⟩, advanced, only⟩ := Option.map_eq_some_iff.mp stepped
  cases only
  unfold advance.gated
  split
  · rename_i returned
    exact .pass advanced returned
  · exact .decline _ trivial
  · exact .gate advanced

/-- Every statement of the demo is one of these. -/
theorem step_of_advance (stepped : run.advance setup now input = some (next, events)) :
    Step setup now run events next := by
  unfold advance at stepped
  split at stepped
  case h_1 => cases stepped; exact .describe
  case h_2 => cases stepped; exact .decline _ trivial
  case h_3 => exact gated_step stepped
  case h_4 => exact gated_step stepped
  case h_5 => exact gated_step stepped
  case h_6 start => cases stepped; exact .announce start
  case h_7 => cases stepped; exact .decline _ trivial
  case h_8 start entered => cases stepped; exact .enter start entered
  case h_9 => cases stepped; exact .decline _ trivial
  case h_10 start entered => cases stepped; exact .stamp start entered
  case h_11 => cases stepped; exact .interrupt _ trivial
  case h_12 start entered change => cases stepped; exact .arm start entered change
  case h_13 => cases stepped; exact .interrupt _ trivial
  case h_14 => exact .move (Trip.step_of_advance stepped)
  case h_15 outcome => cases stepped; exact .leave outcome
  case h_16 outcome action =>
    split at stepped
    · cases stepped
      exact .fail outcome _
    · cases stepped
      exact .confirm outcome
  case h_17 outcome failure => cases stepped; exact .fail outcome failure
  case h_18 outcome => cases stepped; exact .report outcome
  case h_19 outcome failure => cases stepped; exact .lose outcome failure
  case h_20 => cases stepped

end ExternalRun

end HumanoidSdk.Demo
