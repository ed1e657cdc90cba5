import Mathlib.Tactic.Linarith
import HumanoidSdk.Demo.GripperGuard
import HumanoidSdk.Foundation.Outstanding

/-
This file compares the timeout of the gripper guard with the time that its commands have really waited.
-/

namespace HumanoidSdk.Demo
open Foundation EndEffector

namespace Guard

/-- What the guard submits and sees come back. -/
def marks (log : List GuardEvent) : List (Mark ℚ) :=
  log.filterMap fun event => match event with
    | .submitted sequence time => some (.submitted sequence time)
    | .echoed sequence now => some (.echoed sequence now)
    | .expired _ => none

theorem marks_append (log events : List GuardEvent) : marks (log ++ events) = marks log ++ marks events :=
  List.filterMap_append

/-- The trace does not move on and the progress clock has run for the timeout. -/
def Alarm (setup : GuardSetup) (guard : Guard) (state : GripperFeedback) (now : ℚ) : Prop :=
  (state.traceSessionId = setup.sessionId → state.traceSequence ≤ guard.echoed ∧ ¬state.unaccepted) ∧
    guard.echoed < guard.submitted.getD 0 ∧ setup.timeout ≤ now - guard.lastEchoChange

/-- The guard knows the last number on each side. -/
structure Keeps (log : List GuardEvent) (now : ℚ) (guard : Guard) : Prop where
  watched : Watched (marks log) guard.echoed guard.lastEchoChange now
  submitted : (waiting (marks log)).submitted = guard.submitted.getD 0
  issued : guard.submitted.getD 0 ≤ guard.issued

variable {setup : GuardSetup} {log : List GuardEvent} {guard : Guard} {now : ℚ}

theorem checkTimeout_expired {submitted : ℕ} {time : ℚ} :
    .expired time ∈ (guard.checkTimeout setup submitted now).2 ↔
      time = now ∧ guard.echoed < submitted ∧ setup.timeout ≤ now - guard.lastEchoChange := by
  unfold checkTimeout
  split
  · rename_i late
    simp [late]
  · rename_i early
    simp [early]

theorem follow_expired {state : GripperFeedback} {time : ℚ} : .expired time ∉ (guard.follow state now).2 := by
  unfold follow
  split
  · simp
  · simp

/-- A reading expires exactly on an alarm. -/
theorem checkTrace_expired {submitted : ℕ} (isSubmitted : guard.submitted = some submitted)
    {state : GripperFeedback} {time : ℚ} :
    .expired time ∈ (guard.checkTrace setup submitted state now).2 ↔ time = now ∧ guard.Alarm setup state now := by
  have positive := setup.positive
  rw [Alarm, isSubmitted, Option.getD_some]
  unfold checkTrace
  split
  · rename_i own
    split
    · rename_i unsent
      simp only [List.not_mem_nil, false_iff]
      rintro ⟨-, silent, short, -⟩
      have known := (silent own).1
      omega
    · rename_i sent
      split
      · rename_i refused
        simp only [follow_expired, false_iff]
        rintro ⟨-, silent, -⟩
        exact (silent own).2 refused
      · rename_i accepted
        by_cases moves : guard.echoed < state.traceSequence
        · rw [follow, if_pos moves]
          have fresh : ¬setup.timeout ≤ now - now := by linarith
          simp only [checkTimeout, fresh, and_false, if_false, List.append_nil, List.mem_singleton, reduceCtorEq,
            false_iff]
          rintro ⟨-, silent, -⟩
          have known := (silent own).1
          omega
        · rw [follow, if_neg moves]
          simp only [List.nil_append]
          rw [checkTimeout_expired]
          simp [accepted, not_lt.mp moves]
  · rename_i foreign
    rw [checkTimeout_expired]
    simp [foreign]

theorem checkTimeout_ok {submitted : ℕ} {next : Guard} {events : List GuardEvent}
    (passed : guard.checkTimeout setup submitted now = (.ok next, events)) : next = guard ∧ events = [] := by
  unfold checkTimeout at passed
  split at passed
  · cases passed
  · cases passed
    exact ⟨rfl, rfl⟩

/-- A trace of a submitted command keeps the account. -/
theorem Keeps.follow {submitted : ℕ} (keeps : guard.Keeps log now) (isSubmitted : guard.submitted = some submitted)
    {state : GripperFeedback} (sent : state.traceSequence ≤ submitted) :
    (guard.follow state now).1.Keeps (log ++ (guard.follow state now).2) now := by
  unfold Guard.follow
  split
  · rename_i higher
    have known : state.traceSequence ≤ (waiting (marks log)).submitted := by
      rw [keeps.submitted, isSubmitted]
      exact sent
    constructor
    · rw [marks_append]
      exact keeps.watched.echo higher known
    · rw [marks_append]
      exact (congrArg Waiting.submitted (waiting_snoc _ _)).trans keeps.submitted
    · exact keeps.issued
  · rw [List.append_nil]
    exact keeps

theorem Keeps.checkTrace {submitted : ℕ} (keeps : guard.Keeps log now) (isSubmitted : guard.submitted = some submitted)
    {state : GripperFeedback} {next : Guard} {events : List GuardEvent}
    (passed : guard.checkTrace setup submitted state now = (.ok next, events)) : next.Keeps (log ++ events) now := by
  unfold Guard.checkTrace at passed
  split at passed
  · split at passed
    · cases passed
    · rename_i sent
      split at passed
      · cases passed
      · have kept := keeps.follow isSubmitted (not_lt.mp sent)
        generalize guard.follow state now = pair at passed kept
        obtain ⟨followed, seen⟩ := pair
        cases outcome : followed.checkTimeout setup submitted now with
        | mk result last =>
            simp only [outcome] at passed
            cases passed
            obtain ⟨rfl, rfl⟩ := checkTimeout_ok outcome
            rw [List.append_nil]
            exact kept
  · obtain ⟨rfl, rfl⟩ := checkTimeout_ok passed
    rw [List.append_nil]
    exact keeps

theorem Keeps.checkState (keeps : guard.Keeps log now) {state : GripperFeedback} {next : Guard}
    (passed : guard.checkState state now = .ok next) : next.Keeps log now := by
  unfold Guard.checkState at passed
  split at passed
  · cases passed
    exact ⟨keeps.watched, keeps.submitted, keeps.issued⟩
  · split at passed
    · cases passed
    · cases passed
      exact keeps

theorem Keeps.feedback (keeps : guard.Keeps log now) {state : GripperFeedback} {next : Guard}
    {events : List GuardEvent} (passed : guard.feedback setup state now = (.ok next, events)) :
    next.Keeps (log ++ events) now := by
  unfold Guard.feedback at passed
  split at passed
  · cases passed
  · rename_i refreshed isRefreshed
    split at passed
    · cases passed
      rw [List.append_nil]
      exact keeps.checkState isRefreshed
    · rename_i submitted isSubmitted
      exact (keeps.checkState isRefreshed).checkTrace isSubmitted passed

/-- One call of the guard. -/
theorem advance_keeps {events : List GuardEvent} {next : Guard} {time : ℚ} {input : GuardInput}
    (keeps : guard.failure = none → guard.Keeps log now) (forward : now ≤ time)
    (advanced : guard.advance setup time input = some (next, events)) :
    next.failure = none → next.Keeps (log ++ events) time := by
  intro going
  unfold Guard.advance at advanced
  split at advanced
  · cases advanced
  · cases advanced
    cases going
  · rename_i alive
    have held := keeps alive
    cases advanced
    have higher : (waiting (marks log)).submitted < guard.issued + 1 := by
      rw [held.submitted]
      exact Nat.lt_succ_of_le held.issued
    constructor
    · rw [marks_append]
      exact (held.watched.later forward).submit higher
    · rw [marks_append]
      exact congrArg Waiting.submitted (waiting_snoc _ _)
    · exact le_refl _
  · rename_i state moving alive
    have held := keeps alive
    split at advanced
    · cases advanced
      cases going
    · split at advanced
      · cases advanced
        cases going
      · rename_i passed
        cases advanced
        exact (Keeps.mk (held.watched.later forward) held.submitted held.issued).feedback passed

theorem checkState_alarm (setup : GuardSetup) (other : GripperFeedback) {state : GripperFeedback} {next : Guard}
    (passed : guard.checkState state now = .ok next) :
    next.submitted = guard.submitted ∧ (next.Alarm setup other now ↔ guard.Alarm setup other now) := by
  unfold checkState at passed
  split at passed
  · cases passed
    exact ⟨rfl, Iff.rfl⟩
  · split at passed
    · cases passed
    · cases passed
      exact ⟨rfl, Iff.rfl⟩

theorem feedback_expired {state : GripperFeedback} {time : ℚ} :
    .expired time ∈ (guard.feedback setup state now).2 ↔
      time = now ∧ (∃ next, guard.checkState state now = .ok next) ∧ guard.Alarm setup state now := by
  unfold feedback
  split
  · rename_i failure failed
    simp [failed]
  · rename_i next passed
    obtain ⟨same, alarm⟩ := checkState_alarm setup state passed
    split
    · rename_i none
      have silent : guard.submitted = Option.none := same.symm.trans none
      simp [Alarm, silent]
    · rename_i submitted isSubmitted
      rw [checkTrace_expired isSubmitted, alarm, passed]
      simp

/-- A reading passes the checks of the state and finds an alarm. -/
def Alarmed (setup : GuardSetup) (guard : Guard) (now : ℚ) (input : GuardInput) : Prop :=
  ∃ reading state moving, input = .feedback reading moving ∧
    validateState setup.numbers setup.info reading moving = .ok state ∧
    (∃ next, guard.checkState state now = .ok next) ∧ guard.Alarm setup state now

theorem advance_expired {input : GuardInput} {next : Guard} {events : List GuardEvent} {time : ℚ}
    (advanced : guard.advance setup now input = some (next, events)) :
    .expired time ∈ events ↔ time = now ∧ guard.Alarmed setup now input := by
  unfold advance at advanced
  split at advanced
  · cases advanced
  · cases advanced
    simp [Alarmed]
  · cases advanced
    simp [Alarmed]
  · rename_i reading moving alive
    cases valid : validateState setup.numbers setup.info reading moving with
    | error failure =>
        rw [valid] at advanced
        cases advanced
        simp only [List.not_mem_nil, false_iff]
        rintro ⟨-, reading', state', moving', same, valid', -⟩
        cases same
        rw [valid] at valid'
        cases valid'
    | ok state =>
        have same : events = (guard.feedback setup state now).2 := by
          rw [valid] at advanced
          dsimp only at advanced
          split at advanced
          · rename_i result
            cases advanced
            rw [result]
          · rename_i result
            cases advanced
            rw [result]
        rw [same, feedback_expired]
        constructor
        · rintro ⟨rfl, passed, alarm⟩
          exact ⟨rfl, reading, state, moving, rfl, valid, passed, alarm⟩
        · rintro ⟨rfl, reading', state', moving', same, valid', passed, alarm⟩
          cases same
          obtain rfl := Except.ok.inj (valid.symm.trans valid')
          exact ⟨rfl, passed, alarm⟩

/-- The alarm of a reading is false: nothing is outstanding for the whole timeout. -/
def FalseAlarm (setup : GuardSetup) (earlier : List (Move (Timed ℚ Guard) (ℚ × GuardInput) GuardEvent))
    (move : Move (Timed ℚ Guard) (ℚ × GuardInput) GuardEvent) : Prop :=
  move.before.state.Alarmed setup move.input.1 move.input.2 ∧
    ∀ begun, (waiting (marks (trace earlier))).since = some begun → move.input.1 < begun + setup.timeout

theorem run_keeps {initialId : ℤ} {issued : ℕ} {start : ℚ} {final : Timed ℚ Guard}
    {moves : List (Move (Timed ℚ Guard) (ℚ × GuardInput) GuardEvent)}
    (run : (gripperGuard setup).Run ⟨start, startGuard initialId issued start⟩ moves final)
    (alive : final.state.failure = none) : final.state.Keeps (trace moves) final.time := by
  refine clocked_invariant (fun log time guard => guard.failure = none → guard.Keeps log time) ?_
    (fun _ _ _ _ _ _ _ keeps forward advanced => advance_keeps keeps forward advanced) run alive
  intro _
  exact ⟨.start _ _, rfl, Nat.zero_le _⟩

/-- A timeout of the guard tells of a waiting command unless the alarm is false. -/
theorem expired_waited {initialId : ℤ} {issued : ℕ} {start : ℚ} {final : Timed ℚ Guard}
    {moves earlier later : List (Move (Timed ℚ Guard) (ℚ × GuardInput) GuardEvent)}
    {move : Move (Timed ℚ Guard) (ℚ × GuardInput) GuardEvent}
    (run : (gripperGuard setup).Run ⟨start, startGuard initialId issued start⟩ moves final)
    (cut : moves = earlier ++ move :: later) :
    (∀ now, .expired now ∈ move.events → Waited setup.timeout now (marks (trace earlier))) ↔
      ¬FalseAlarm setup earlier move := by
  obtain ⟨before, accepted, -⟩ := run.at_move cut
  obtain ⟨forward, -, advanced⟩ := clocked_cases accepted
  have alive : move.before.state.failure = none := by
    unfold advance at advanced
    split at advanced
    · cases advanced
    all_goals assumption
  have watched := (run_keeps before alive).watched.later forward
  constructor
  · rintro waits ⟨alarmed, early⟩
    have ⟨_, _, _, _, _, _, _, _, late⟩ := alarmed
    have waited := waits _ ((advance_expired advanced).mpr ⟨rfl, alarmed⟩)
    obtain ⟨begun, since, passed⟩ := (watched.waited_iff (by linarith)).mp waited
    exact absurd passed (not_le.mpr (early begun since))
  · intro true' now expired
    obtain ⟨rfl, alarmed⟩ := (advance_expired advanced).mp expired
    have ⟨_, _, _, _, _, _, _, _, late⟩ := alarmed
    by_contra waits
    refine true' ⟨alarmed, fun begun since => not_le.mp fun passed => waits ?_⟩
    exact (watched.waited_iff (by linarith)).mpr ⟨begun, since, passed⟩

end Guard

end HumanoidSdk.Demo
