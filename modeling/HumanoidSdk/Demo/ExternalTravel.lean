import HumanoidSdk.Demo.ExternalStep

/-
This file shows what the external demo publishes and when.
-/

namespace HumanoidSdk.Demo
open Foundation

namespace ExternalEvent

/-- The time and the pose of a publication. -/
def sample : ExternalEvent → Option (ℚ × List ℚ)
  | .published joints _ time => some (time, joints.map PositionTarget.q)
  | _ => none

/-- The endpoint of a dwell that passed. -/
def ending : ExternalEvent → Option Endpoint
  | .settled endpoint => some endpoint
  | _ => none

end ExternalEvent

namespace Task

def pose : Task → Option (List ℚ)
  | .frame q => some q
  | _ => none

def ending : Task → Option Endpoint
  | .conclude endpoint => some endpoint
  | _ => none

end Task

def samples (log : List ExternalEvent) : List (ℚ × List ℚ) := log.filterMap ExternalEvent.sample

def endings (log : List ExternalEvent) : List Endpoint := log.filterMap ExternalEvent.ending

@[simp] theorem samples_append (log events : List ExternalEvent) :
    samples (log ++ events) = samples log ++ samples events := List.filterMap_append

@[simp] theorem endings_append (log events : List ExternalEvent) :
    endings (log ++ events) = endings log ++ endings events := List.filterMap_append

/-- A trajectory starts from a valid state at rest. -/
structure Measured (info : BodyInfo) (start : BodyState) : Prop where
  valid : validateBodyState info start = .ok ()
  still : Still info start

section Plan

variable {info : BodyInfo} {start : BodyState}

theorem startPose_length (measured : Measured info start) : (startPose info start).length = COMMAND_SLOTS := by
  rw [startPose, List.length_zipWith, (valid_slots measured.valid).1, info.slots, min_self]

/-- A command holds the pose it was built from. -/
theorem positionCommand_pose {q : List ℚ} {joints : List PositionTarget} (built : positionCommand q = .ok joints) :
    joints.map PositionTarget.q = q := by
  unfold positionCommand at built
  split at built
  · cases built
  · rename_i full
    cases built
    have gains : (DEMO_KP.zip FIXED_STAND_KD).length = COMMAND_SLOTS := by decide +kernel
    rw [List.map_zipWith]
    apply List.ext_getElem
    · rw [List.length_zipWith, gains, not_not.mp full, min_self]
    · intro slot _ _
      rw [List.getElem_zipWith]

theorem dwellTasks_poses (endpoint : Endpoint) :
    (dwellTasks endpoint).filterMap Task.pose = List.replicate dwellSamples endpoint.target := by
  have samples (count : ℕ) : (List.replicate count [Task.frame endpoint.target, .observe endpoint]).flatten.filterMap
      Task.pose = List.replicate count endpoint.target := by
    induction count with
    | zero => rfl
    | succ count ih =>
        rw [List.replicate_succ, List.flatten_cons, List.filterMap_append, ih]
        rfl
  calc (dwellTasks endpoint).filterMap Task.pose
      = (List.replicate dwellSamples [Task.frame endpoint.target, .observe endpoint]).flatten.filterMap Task.pose ++
        [] := List.filterMap_append
    _ = List.replicate dwellSamples endpoint.target := by rw [List.append_nil, samples]

theorem dwellTasks_endings (endpoint : Endpoint) : (dwellTasks endpoint).filterMap Task.ending = [endpoint] := by
  have samples (count : ℕ) : (List.replicate count [Task.frame endpoint.target, .observe endpoint]).flatten.filterMap
      Task.ending = [] := by
    induction count with
    | zero => rfl
    | succ count ih =>
        rw [List.replicate_succ, List.flatten_cons, List.filterMap_append, ih]
        rfl
  calc (dwellTasks endpoint).filterMap Task.ending
      = (List.replicate dwellSamples [Task.frame endpoint.target, .observe endpoint]).flatten.filterMap Task.ending ++
        [endpoint] := List.filterMap_append
    _ = [endpoint] := by rw [samples, List.nil_append]

theorem frames_poses (path : List (List ℚ)) : (path.map Task.frame).filterMap Task.pose = path := by
  rw [List.filterMap_map]
  exact List.filterMap_some

theorem frames_endings (path : List (List ℚ)) : (path.map Task.frame).filterMap Task.ending = [] := by
  rw [List.filterMap_map]
  exact List.filterMap_eq_nil_iff.mpr fun _ _ => rfl

/-- The frames of the trajectory are the planned poses. -/
theorem trajectory_poses (start : List ℚ) : (trajectory start).filterMap Task.pose = poses start := by
  unfold trajectory poses
  simp only [List.filterMap_append, List.filterMap_cons, frames_poses, dwellTasks_poses, Task.pose,
    List.filterMap_nil, List.cons_append, List.append_assoc, List.nil_append, List.append_nil]
  rfl

theorem trajectory_endings (start : List ℚ) :
    (trajectory start).filterMap Task.ending = [zeroEndpoint, returnEndpoint start] := by
  unfold trajectory
  simp only [List.filterMap_append, List.filterMap_cons, frames_endings, dwellTasks_endings, Task.ending,
    List.filterMap_nil, List.nil_append, List.append_nil, List.cons_append]

end Plan

namespace TripPhase

/-- The pose that a frame still has to publish. -/
def owed : TripPhase → List (List ℚ)
  | .delaying q | .sleeping q _ | .checking q | .receiving q | .dating q _ => [q]
  | .publishing joints _ => [joints.map PositionTarget.q]
  | _ => []

/-- The next publication is not before this time. -/
def earliest (nextPublish time : ℚ) : TripPhase → ℚ
  | .checking _ | .receiving _ | .dating _ _ | .publishing _ _ => time
  | .returning _ | .scheduling _ => time + PERIOD_S
  | _ => nextPublish

end TripPhase

/-- No two publications are closer than a period. -/
def Spaced (log : List ExternalEvent) : Prop :=
  ((samples log).map Prod.fst).IsChain fun before after => before + PERIOD_S ≤ after

/-- What a trajectory has published, what it still has to publish and when. -/
structure Underway (start : List ℚ) (log : List ExternalEvent) (time : ℚ) (trip : Trip) (phase : TripPhase) :
    Prop where
  plan : (samples log).map Prod.snd ++ (phase.owed ++ trip.script.filterMap Task.pose) = poses start
  endings : endings log ++ trip.script.filterMap Task.ending = [zeroEndpoint, returnEndpoint start]
  spaced : Spaced log
  gap : ∀ last ∈ ((samples log).map Prod.fst).getLast?, last + PERIOD_S ≤ phase.earliest trip.nextPublish time

/-- A beginning of the plan was published, and all of it unless there is a failure. -/
structure Covered (start : List ℚ) (log : List ExternalEvent) (outcome : Option Failure) : Prop where
  spaced : Spaced log
  planned : (samples log).map Prod.snd <+: poses start
  complete : outcome = none →
    (samples log).map Prod.snd = poses start ∧ endings log = [zeroEndpoint, returnEndpoint start]

/-- What was published before the end. -/
def Travelled (info : BodyInfo) (log : List ExternalEvent) (outcome : Option Failure) : Prop :=
  (samples log = [] ∧ outcome ≠ none) ∨ ∃ start, Measured info start ∧ Covered (startPose info start) log outcome

namespace Underway

variable {start : List ℚ} {log events : List ExternalEvent} {time now : ℚ} {trip after : Trip}
  {phase next : TripPhase}

/-- A statement that publishes nothing. -/
theorem move (underway : Underway start log time trip phase) (silent : samples events = [])
    (owes : next.owed ++ after.script.filterMap Task.pose = phase.owed ++ trip.script.filterMap Task.pose)
    (ends : HumanoidSdk.Demo.endings events ++ after.script.filterMap Task.ending =
      trip.script.filterMap Task.ending)
    (later : phase.earliest trip.nextPublish time ≤ next.earliest after.nextPublish now) :
    Underway start (log ++ events) now after next := by
  have same : samples (log ++ events) = samples log := by rw [samples_append, silent, List.append_nil]
  constructor
  · rw [same, owes, underway.plan]
  · rw [endings_append, List.append_assoc, ends, underway.endings]
  · rw [Spaced, same]
    exact underway.spaced
  · rw [same]
    intro last isLast
    exact (underway.gap last isLast).trans later

/-- A failure stops the trajectory where it is. -/
theorem halt (underway : Underway start log time trip phase) (silent : samples events = []) (failure : Failure) :
    Covered start (log ++ events) (some failure) := by
  have same : samples (log ++ events) = samples log := by rw [samples_append, silent, List.append_nil]
  constructor
  · rw [Spaced, same]
    exact underway.spaced
  · rw [same, ← underway.plan]
    exact List.prefix_append _ _
  · rintro ⟨⟩

/-- A trajectory without further tasks has published everything. -/
theorem done (underway : Underway start log time trip .tasking) (empty : trip.script = []) :
    Covered start log none := by
  obtain ⟨plan, ends, spaced, -⟩ := underway
  rw [empty] at plan ends
  have whole : (samples log).map Prod.snd = poses start := by rw [← plan]; exact (List.append_nil _).symm
  have settled : HumanoidSdk.Demo.endings log = [zeroEndpoint, returnEndpoint start] := by
    rw [← ends]
    exact (List.append_nil _).symm
  exact ⟨spaced, whole ▸ List.prefix_refl _, fun _ => ⟨whole, settled⟩⟩

/-- A publication is a period after the last one and takes the pose that was owed. -/
theorem publish {joints : List PositionTarget} {state : BodyState}
    (underway : Underway start log time trip (.publishing joints state)) (forward : time ≤ now) :
    Underway start (log ++ [.published joints state.stateId now]) now trip (.returning state) := by
  obtain ⟨plan, ends, spaced, gap⟩ := underway
  have grown : samples (log ++ [.published joints state.stateId now]) =
      samples log ++ [(now, joints.map PositionTarget.q)] := samples_append _ _
  constructor
  · rw [grown, List.map_append, List.append_assoc]
    exact plan
  · rw [endings_append]
    exact (List.append_assoc _ _ _).trans ends
  · rw [Spaced, grown, List.map_append]
    apply spaced.append (List.isChain_singleton _)
    intro last isLast first isFirst
    obtain rfl := Option.some.inj isFirst
    exact (gap last isLast).trans forward
  · rw [grown, List.map_append]
    intro last isLast
    obtain rfl : now = last := by simpa using isLast
    exact le_refl _

end Underway

/-- What the demo has published by a given statement. -/
def Progress (setup : ExternalSetup) (log : List ExternalEvent) (time : ℚ) : ExternalRun → Prop
  | .describing => log = []
  | .gating gate => log = [] ∧ ∃ observed, Watch setup.info observed time gate
  | .announcing start | .entering start => log = [] ∧ Measured setup.info start
  | .stamping start _ | .arming start _ _ => samples log = [] ∧ endings log = [] ∧ Measured setup.info start
  | .running trip phase => ∃ start, Measured setup.info start ∧
      Underway (startPose setup.info start) log time trip phase
  | .leaving outcome | .exiting outcome | .reporting outcome | .ended outcome => Travelled setup.info log outcome

section Steps

variable {setup : ExternalSetup} {log events : List ExternalEvent} {time now : ℚ}

/-- A failure that replaces an outcome. -/
theorem Travelled.fail {info : BodyInfo} {outcome : Option Failure} (travelled : Travelled info log outcome)
    (failure : Failure) : Travelled info log (some failure) := by
  rcases travelled with ⟨silent, -⟩ | ⟨start, measured, covered⟩
  · exact .inl ⟨silent, by rintro ⟨⟩⟩
  · exact .inr ⟨start, measured, covered.spaced, covered.planned, by rintro ⟨⟩⟩

/-- A state that the gate returns is valid and at rest. -/
theorem Watch.measured {info : BodyInfo} {observed : List Observation} {gate : Gate} {start : BodyState}
    (watch : Watch info observed time gate) (returned : gate.phase = .returned start) : Measured info start := by
  obtain ⟨before, last, since, rfl, rfl, still, -⟩ := watch.returned start returned
  exact ⟨watch.valid last (by simp), still⟩

theorem watch_start (info : BodyInfo) (time : ℚ) : Watch info [] time {} := by
  refine ⟨by rintro observation ⟨⟩, .nil, by rintro observation ⟨⟩, by rintro latest ⟨⟩, fun _ => ⟨?_, .nil⟩,
    by rintro state ⟨⟩⟩
  rintro last ⟨⟩

/-- A statement of the trajectory keeps the plan. -/
theorem Underway.step {start : BodyState} {trip : Trip} {phase : TripPhase} {next : ExternalRun}
    (measured : Measured setup.info start)
    (underway : Underway (startPose setup.info start) log time trip phase) (forward : time ≤ now)
    (step : trip.Step setup.info now phase events next) : Progress setup (log ++ events) now next := by
  have goes {after : Trip} {place : TripPhase}
      (kept : Underway (startPose setup.info start) (log ++ events) now after place) :
      Progress setup (log ++ events) now (.running after place) := ⟨start, measured, kept⟩
  have stops {failure : Failure} (silent : samples events = []) :
      Progress setup (log ++ events) now (.leaving (some failure)) :=
    .inr ⟨start, measured, underway.halt silent failure⟩
  cases step with
  | raise phase failure => exact stops rfl
  | disown q reading failure => exact stops rfl
  | refuse q state failure => exact stops rfl
  | finish done =>
      rw [List.append_nil]
      exact .inr ⟨start, measured, underway.done done⟩
  | frame task | settle task | observe task | conclude task settled | say task =>
      apply goes
      apply underway.move rfl
      · rw [task]
        rfl
      · rw [task]
        rfl
      · exact le_refl _
  | wait q => exact goes (underway.move rfl rfl rfl (le_refl _))
  | go q due => exact goes (underway.move rfl rfl rfl due)
  | wake q since due => exact goes (underway.move rfl rfl rfl due)
  | own q same count => exact goes (underway.move rfl rfl rfl forward)
  | receive q valid => exact goes (underway.move rfl rfl rfl forward)
  | @date q state dated joints fresh built =>
      have same : dated.script = trip.script := by
        unfold Trip.date at fresh
        split at fresh
        · cases fresh
          rfl
        · split at fresh
          · cases fresh
          · cases fresh
            rfl
      apply goes
      apply underway.move rfl
      · rw [same]
        show [joints.map PositionTarget.q] ++ _ = [q] ++ _
        rw [positionCommand_pose built]
      · rw [same]
        rfl
      · exact forward
  | publish joints state => exact goes (underway.publish forward)
  | back state => exact goes (underway.move rfl rfl rfl (add_le_add_left forward PERIOD_S))
  | schedule state =>
      have later : time + PERIOD_S ≤ max (trip.nextPublish + PERIOD_S) (now + PERIOD_S) :=
        le_max_of_le_right (add_le_add_left forward PERIOD_S)
      exact goes (underway.move rfl rfl rfl later)
  | look endpoint =>
      have same : (trip.observe setup.info endpoint now).script = trip.script ∧
          (trip.observe setup.info endpoint now).nextPublish = trip.nextPublish := by
        unfold Trip.observe
        split
        · split
          · exact ⟨rfl, rfl⟩
          · split
            · exact ⟨rfl, rfl⟩
            · exact ⟨rfl, rfl⟩
        · exact ⟨rfl, rfl⟩
      apply goes
      apply underway.move rfl
      · rw [same.1]
        rfl
      · rw [same.1]
        rfl
      · show trip.nextPublish ≤ (trip.observe setup.info endpoint now).nextPublish
        rw [same.2]
  | said => exact goes (underway.move rfl rfl rfl (le_refl _))

/-- Every statement keeps the progress. -/
theorem Progress.step {run next : ExternalRun} (progress : Progress setup log time run) (forward : time ≤ now)
    (step : ExternalRun.Step setup now run events next) : Progress setup (log ++ events) now next := by
  cases step with
  | describe =>
      obtain rfl : log = [] := progress
      exact ⟨rfl, [], watch_start setup.info now⟩
  | decline failure outside =>
      have empty : log = [] := by
        cases run with
        | describing => exact progress
        | gating gate | announcing start | entering start => exact progress.1
        | _ => exact outside.elim
      subst empty
      exact .inl ⟨rfl, by rintro ⟨⟩⟩
  | gate advanced =>
      obtain ⟨rfl, observed, watch⟩ := progress
      exact ⟨rfl, _, watch.advance forward advanced⟩
  | pass advanced returned =>
      obtain ⟨rfl, observed, watch⟩ := progress
      exact ⟨rfl, (watch.advance forward advanced).measured returned⟩
  | announce start =>
      rw [List.append_nil]
      exact progress
  | enter start entered =>
      obtain ⟨rfl, measured⟩ := progress
      exact ⟨rfl, rfl, measured⟩
  | stamp start entered =>
      obtain ⟨silent, unsettled, measured⟩ := progress
      refine ⟨?_, ?_, measured⟩
      · rw [samples_append, silent]
        rfl
      · rw [endings_append, unsettled]
        rfl
  | arm start entered change =>
      obtain ⟨silent, unsettled, measured⟩ := progress
      rw [List.append_nil]
      refine ⟨start, measured, ?_, ?_, ?_, ?_⟩
      · rw [silent]
        exact trajectory_poses _
      · rw [unsettled]
        exact trajectory_endings _
      · rw [Spaced, silent]
        exact .nil
      · rw [silent]
        rintro last ⟨⟩
  | interrupt failure inside =>
      have silent : samples log = [] := by
        cases run with
        | stamping start entered => exact progress.1
        | arming start entered change => exact progress.1
        | _ => exact inside.elim
      rw [List.append_nil]
      exact .inl ⟨silent, by rintro ⟨⟩⟩
  | move step =>
      obtain ⟨start, measured, underway⟩ := progress
      exact underway.step measured forward step
  | leave outcome =>
      rcases progress with ⟨silent, failed⟩ | ⟨start, measured, covered⟩
      · exact .inl ⟨by rw [samples_append, silent]; rfl, failed⟩
      · have same : samples (log ++ [.exiting]) = samples log := by
          rw [samples_append]
          exact List.append_nil _
        refine .inr ⟨start, measured, ?_, ?_, fun succeeded => ?_⟩
        · rw [Spaced, same]
          exact covered.spaced
        · rw [same]
          exact covered.planned
        · obtain ⟨whole, settled⟩ := covered.complete succeeded
          rw [same, endings_append, settled]
          exact ⟨whole, rfl⟩
  | confirm outcome | report outcome =>
      rw [List.append_nil]
      exact progress
  | fail outcome failure | lose outcome failure =>
      rw [List.append_nil]
      exact progress.fail failure

end Steps

section Runs

variable {setup : ExternalSetup} {begun : ℚ} {final : Timed ℚ ExternalRun}
  {moves : List (Move (Timed ℚ ExternalRun) (ℚ × ExternalInput) ExternalEvent)}

/-- Every run keeps the progress. -/
theorem progress_of_run (run : (externalMachine setup).Run ⟨begun, .describing⟩ moves final) :
    Progress setup (trace moves) final.time final.state := by
  refine clocked_invariant (Progress setup) ?_ ?_ run
  · show ([] : List ExternalEvent) = []
    rfl
  · intro log time state now input next events held forward advanced
    exact held.step forward (ExternalRun.step_of_advance advanced)

/-- What was published is a beginning of the plan, no faster than a pose a period. -/
theorem Progress.covered {log : List ExternalEvent} {time : ℚ} {state : ExternalRun}
    (progress : Progress setup log time state) : samples log = [] ∨
      ∃ start, Measured setup.info start ∧ Spaced log ∧
        (samples log).map Prod.snd <+: poses (startPose setup.info start) := by
  have ended {outcome : Option Failure} (travelled : Travelled setup.info log outcome) : samples log = [] ∨
      ∃ start, Measured setup.info start ∧ Spaced log ∧
        (samples log).map Prod.snd <+: poses (startPose setup.info start) := by
    rcases travelled with ⟨silent, -⟩ | ⟨start, measured, covered⟩
    · exact .inl silent
    · exact .inr ⟨start, measured, covered.spaced, covered.planned⟩
  cases state with
  | describing =>
      obtain rfl : log = [] := progress
      exact .inl rfl
  | gating gate | announcing start | entering start =>
      obtain rfl : log = [] := progress.1
      exact .inl rfl
  | stamping start entered | arming start entered change => exact .inl progress.1
  | running trip phase =>
      obtain ⟨start, measured, underway⟩ := progress
      refine .inr ⟨start, measured, underway.spaced, ?_⟩
      rw [← underway.plan]
      exact List.prefix_append _ _
  | leaving outcome | exiting outcome | reporting outcome | ended outcome => exact ended progress

/-- Between any two commands of the demo no slot moves faster than the peak speed. Every pose is one of the
plan from a measured state at rest, in its order, and lies slot by slot between zero and that state. -/
theorem external_moves_slowly (run : (externalMachine setup).Run ⟨begun, .describing⟩ moves final) :
    (samples (trace moves)).Pairwise (Slew MAX_PEAK_SPEED_RAD_S) ∧
      (samples (trace moves) = [] ∨ ∃ start, Measured setup.info start ∧
        (samples (trace moves)).map Prod.snd <+: poses (startPose setup.info start) ∧
        ∀ sample ∈ samples (trace moves), Within (startPose setup.info start) sample.2) := by
  rcases (progress_of_run run).covered with silent | ⟨start, measured, spaced, planned⟩
  · rw [silent]
    exact ⟨.nil, .inl rfl⟩
  · have full := startPose_length measured
    have near : ((samples (trace moves)).map Prod.snd).IsChain (NearBy (MAX_PEAK_SPEED_RAD_S * PERIOD_S)) := by
      obtain ⟨rest, whole⟩ := planned
      have chain := poses_near full
      rw [← whole] at chain
      exact chain.left_of_append
    refine ⟨Slew.pairwise (Slew.isChain (by decide +kernel) spaced near), .inr ⟨start, measured, planned, ?_⟩⟩
    intro sample published
    exact poses_within full (planned.subset (List.mem_map_of_mem published))

/-- A demo that ends without a failure has published its whole plan and both its dwells have passed. -/
theorem Progress.complete {log : List ExternalEvent} {time : ℚ}
    (progress : Progress setup log time (.ended none)) :
    ∃ start, Measured setup.info start ∧
      (samples log).map Prod.snd = poses (startPose setup.info start) ∧
        endings log = [zeroEndpoint, returnEndpoint (startPose setup.info start)] := by
  rcases progress with ⟨-, failed⟩ | ⟨start, measured, covered⟩
  · exact absurd rfl failed
  · exact ⟨start, measured, covered.complete rfl⟩

end Runs

end HumanoidSdk.Demo
