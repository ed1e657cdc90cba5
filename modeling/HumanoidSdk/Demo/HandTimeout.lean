import Mathlib.Tactic.Linarith
import HumanoidSdk.Demo.HandStep
import HumanoidSdk.Foundation.Outstanding

/-
This file compares the timeout of the hand motion with the time that its commands have really waited.
-/

namespace HumanoidSdk.Demo
open Foundation EndEffector

/-- What the motion submits to one hand and sees come back. -/
def handMarks (side : Side) (log : List HandEvent) : List (Mark ℚ) :=
  log.filterMap fun event => match event with
    | .published other _ sequence time => if other = side then some (.submitted sequence time) else none
    | .progressed other sequence now => if other = side then some (.echoed sequence now) else none
    | .expired _ _ => none

theorem handMarks_append (side : Side) (log events : List HandEvent) :
    handMarks side (log ++ events) = handMarks side log ++ handMarks side events := List.filterMap_append

/-- The motion knows the last number of one hand in each direction. -/
structure Followed (side : Side) (log : List HandEvent) (now : ℚ) (sent : Option Sent) (last issued : ℕ) : Prop where
  watched : Watched (handMarks side log) (sent.elim 0 Sent.echoed) (sent.elim 0 Sent.progressTime) now
  submitted : (waiting (handMarks side log)).submitted = last
  issued : last ≤ issued

namespace Followed

variable {side : Side} {log : List HandEvent} {now : ℚ} {sent : Option Sent} {last issued : ℕ}

theorem later (followed : Followed side log now sent last issued) {time : ℚ} (forward : now ≤ time) :
    Followed side log time sent last issued :=
  ⟨followed.watched.later forward, followed.submitted, followed.issued⟩

/-- A command to the hand. -/
theorem publish (followed : Followed side log now sent last issued) (q : List ℚ) :
    Followed side (log ++ [.published side q (issued + 1) now]) now sent (issued + 1) (issued + 1) := by
  have mark : handMarks side (log ++ [.published side q (issued + 1) now]) =
      handMarks side log ++ [.submitted (issued + 1) now] := by
    rw [handMarks_append]
    exact congrArg _ (List.filterMap_cons_some (if_pos rfl))
  constructor
  · rw [mark]
    apply followed.watched.submit
    rw [followed.submitted]
    exact Nat.lt_succ_of_le followed.issued
  · rw [mark, waiting_snoc]
    rfl
  · exact le_refl _

/-- A higher echo of the hand. -/
theorem echo {entry : Sent} (followed : Followed side log now (some entry) entry.sequence issued) {number : ℕ}
    (higher : entry.echoed < number) (known : number ≤ entry.sequence) :
    Followed side (log ++ [.progressed side number now]) now
      (some { entry with echoed := number, progressTime := now }) entry.sequence issued := by
  have mark : handMarks side (log ++ [.progressed side number now]) =
      handMarks side log ++ [.echoed number now] := by
    rw [handMarks_append]
    exact congrArg _ (List.filterMap_cons_some (if_pos rfl))
  constructor
  · rw [mark]
    apply followed.watched.echo higher
    rw [followed.submitted]
    exact known
  · rw [mark, waiting_snoc]
    exact followed.submitted
  · exact followed.issued

/-- What concerns another hand. -/
theorem other (followed : Followed side log now sent last issued) {events : List HandEvent}
    (silent : handMarks side events = []) : Followed side (log ++ events) now sent last issued := by
  have same : handMarks side (log ++ events) = handMarks side log := by
    rw [handMarks_append, silent, List.append_nil]
  exact ⟨same ▸ followed.watched, same ▸ followed.submitted, followed.issued⟩

/-- The note of a command, with the present time if it is the first one. -/
theorem note {entry : Option Sent} (followed : Followed side log now entry last issued) :
    Followed side log now (some (entry.elim ⟨last, now, 0⟩ fun sent => { sent with sequence := last })) last issued := by
  cases entry with
  | none => exact ⟨followed.watched.restart, followed.submitted, followed.issued⟩
  | some sent => exact ⟨followed.watched, followed.submitted, followed.issued⟩

end Followed

/-- The echo does not move on, is not the last command and the progress clock has run for the timeout. -/
def Sent.Alarm (sessionId : ℤ) (timeout : ℚ) (sent : Sent) (feedback : HandFeedback) (now : ℚ) : Prop :=
  (feedback.lastCmdSessionId = sessionId → feedback.lastCmdSequence ≤ sent.echoed) ∧
    ¬(feedback.lastCmdSessionId = sessionId ∧ sent.sequence < feedback.lastCmdSequence) ∧
    sent.pending sessionId feedback ∧ timeout ≤ now - sent.progressTime

variable {setup : HandSetup} {side : Side} {log events : List HandEvent} {now : ℚ}

theorem checkEcho_expired {sessionId : ℤ} {timeout : ℚ} (positive : 0 < timeout) {sent : Sent}
    {feedback : HandFeedback} {other : Side} {time : ℚ} :
    .expired other time ∈ (checkEcho side sessionId timeout sent feedback now).2 ↔
      other = side ∧ time = now ∧ sent.Alarm sessionId timeout feedback now := by
  have fresh : ¬timeout ≤ now - now := by linarith
  unfold checkEcho
  split
  · rename_i unsent
    simp [Sent.Alarm, unsent]
  · rename_i known
    split
    · rename_i moves
      have higher : ¬(feedback.lastCmdSessionId = sessionId → feedback.lastCmdSequence ≤ sent.echoed) :=
        fun silent => absurd moves.2 (not_lt.mpr (silent moves.1))
      dsimp only
      rw [if_neg fun late => fresh late.2]
      simp [Sent.Alarm, higher]
    · rename_i stays
      have silent : feedback.lastCmdSessionId = sessionId → feedback.lastCmdSequence ≤ sent.echoed :=
        fun own => not_lt.mp fun higher => stays ⟨own, higher⟩
      split
      · rename_i late
        rw [List.mem_singleton, HandEvent.expired.injEq]
        exact ⟨fun ⟨same, moment⟩ => ⟨same, moment, silent, known, late⟩, fun ⟨same, moment, _⟩ => ⟨same, moment⟩⟩
      · rename_i early
        simp [Sent.Alarm, early]

/-- An echo that passes the check keeps the account. -/
theorem Followed.checkEcho {sessionId : ℤ} {timeout : ℚ} {sent next : Sent} {feedback : HandFeedback} {issued : ℕ}
    (followed : Followed side log now (some sent) sent.sequence issued)
    (passed : checkEcho side sessionId timeout sent feedback now = (.ok next, events)) :
    Followed side (log ++ events) now (some next) next.sequence issued := by
  unfold Demo.checkEcho at passed
  split at passed
  · cases passed
  · rename_i known
    split at passed
    · rename_i moves
      dsimp only at passed
      split at passed
      · cases passed
      · cases passed
        exact followed.echo moves.2 (not_lt.mp fun unsent => known ⟨moves.1, unsent⟩)
    · split at passed
      · cases passed
      · cases passed
        exact followed.other rfl

theorem checkFeedback_sent {info : HandLimits} {speed : ℚ} {moving : Bool} {tracker next : Tracker}
    {feedback : HandFeedback} (passed : checkFeedback info speed moving tracker feedback now = .ok next) :
    next.sent = tracker.sent := by
  unfold checkFeedback at passed
  split at passed
  · cases passed
  · split at passed
    · cases passed
    · split at passed
      · cases passed
        rfl
      · split at passed
        · cases passed
        · cases passed
          rfl

/-- The sequence of the noted command. -/
def Tracker.last (tracker : Tracker) : ℕ := tracker.sent.elim 0 Sent.sequence

/-- A reading passes the checks of the feedback and finds an alarm. -/
def Tracker.Alarmed (setup : HandSetup) (info : HandLimits) (moving : Bool) (tracker : Tracker)
    (feedback : HandFeedback) (now : ℚ) : Prop :=
  (∃ next, checkFeedback info setup.speed moving tracker feedback now = .ok next) ∧
    ∃ sent, tracker.sent = some sent ∧ sent.Alarm (setup.sessionId info.side) setup.timeout feedback now

theorem checkHand_expired {info : HandLimits} {moving : Bool} {tracker : Tracker} {feedback : HandFeedback}
    {other : Side} {time : ℚ} :
    .expired other time ∈ (checkHand setup info moving tracker feedback now).2 ↔
      other = info.side ∧ time = now ∧ tracker.Alarmed setup info moving feedback now := by
  unfold checkHand
  split
  · rename_i failure failed
    simp [Tracker.Alarmed, failed]
  · rename_i next passed
    have same := checkFeedback_sent passed
    split
    · rename_i none
      simp [Tracker.Alarmed, same.symm.trans none]
    · rename_i sent isSent
      dsimp only
      rw [checkEcho_expired setup.positive]
      simp [Tracker.Alarmed, passed, same.symm.trans isSent]

theorem checkEcho_other {other : Side} {sessionId : ℤ} {timeout : ℚ} {sent : Sent} {feedback : HandFeedback}
    (differs : other ≠ side) : handMarks side (checkEcho other sessionId timeout sent feedback now).2 = [] := by
  unfold checkEcho
  split
  · rfl
  · split
    · dsimp only
      split
      · simp [handMarks, differs]
      · simp [handMarks, differs]
    · split
      · rfl
      · rfl

/-- The events of a check concern the checked hand. -/
theorem checkHand_other {info : HandLimits} {moving : Bool} {tracker : Tracker} {feedback : HandFeedback}
    (differs : info.side ≠ side) : handMarks side (checkHand setup info moving tracker feedback now).2 = [] := by
  unfold checkHand
  split
  · rfl
  · split
    · rfl
    · exact checkEcho_other differs

/-- A hand that passes the checks keeps its account. -/
theorem Followed.checkHand {info : HandLimits} {moving : Bool} {tracker next : Tracker} {feedback : HandFeedback}
    {issued : ℕ} (followed : Followed info.side log now tracker.sent tracker.last issued)
    (passed : checkHand setup info moving tracker feedback now = (.ok next, events)) :
    Followed info.side (log ++ events) now next.sent next.last issued := by
  unfold Demo.checkHand at passed
  split at passed
  · cases passed
  · rename_i fresh isFresh
    have same := checkFeedback_sent isFresh
    split at passed
    · cases passed
      rw [Tracker.last, same]
      exact followed.other rfl
    · rename_i sent isSent
      cases outcome : Demo.checkEcho info.side (setup.sessionId info.side) setup.timeout sent feedback now with
      | mk result seen =>
          simp only [outcome] at passed
          cases result with
          | error failure => cases passed
          | ok entry =>
              cases passed
              rw [Tracker.last, same.symm.trans isSent] at followed
              exact followed.checkEcho outcome

namespace HandMotion

/-- The account of one hand with what it has at each statement. A frame holds the clock reading of its start. -/
def Keeps (side : Side) (log : List HandEvent) (time : ℚ) (motion : HandMotion) : Prop :=
  match motion.phase with
  | .finished | .raised _ => True
  | .checking _ read _ _ => read ≤ time ∧
      Followed side log read (motion.trackers side).sent (motion.trackers side).last (motion.issued side)
  | .noting other sequence => Followed side log time (motion.trackers side).sent
      (if other = side then sequence else (motion.trackers side).last) (motion.issued side)
  | _ => Followed side log time (motion.trackers side).sent (motion.trackers side).last (motion.issued side)

variable {motion next : HandMotion} {time : ℚ}

/-- The next action of the script starts a frame or a command. -/
theorem next_keeps (followed : Followed side log time (motion.trackers side).sent (motion.trackers side).last
    (motion.issued side)) : motion.next.Keeps side log time := by
  unfold HandMotion.next
  split
  · exact followed
  · exact followed
  · exact followed

/-- One hand in a frame. -/
theorem check_keeps {info : HandLimits} {moving : Bool} {read : ℚ} {rest : List HandLimits} {ready : Bool}
    {feedback : HandFeedback} (before : read ≤ time)
    (followed : Followed side log read (motion.trackers side).sent (motion.trackers side).last (motion.issued side)) :
    (motion.check setup info moving read rest ready feedback).1.Keeps side
      (log ++ (motion.check setup info moving read rest ready feedback).2) time := by
  unfold HandMotion.check
  split
  · trivial
  · rename_i tracker events passed
    have kept : Followed side (log ++ events) read (Function.update motion.trackers info.side tracker side).sent
        (Function.update motion.trackers info.side tracker side).last (motion.issued side) := by
      by_cases same : info.side = side
      · subst same
        rw [Function.update_self]
        exact followed.checkHand passed
      · rw [Function.update_of_ne (Ne.symm same)]
        apply followed.other
        calc handMarks side events
            = handMarks side (checkHand setup info moving (motion.trackers info.side) feedback read).2 := by
              rw [passed]
          _ = [] := checkHand_other same
    exact ⟨before, kept⟩

theorem note_sent {sequence : ℕ} {now : ℚ} : ((motion.note side sequence now).trackers side).sent =
    some ((motion.trackers side).sent.elim ⟨sequence, now, 0⟩ fun sent => { sent with sequence }) :=
  congrArg Tracker.sent (Function.update_self side _ motion.trackers)

theorem note_other {other : Side} {sequence : ℕ} {now : ℚ} (differs : side ≠ other) :
    (motion.note other sequence now).trackers side = motion.trackers side :=
  Function.update_of_ne differs _ motion.trackers

/-- One statement of the motion. -/
theorem Keeps.step {now : ℚ} {input : HandInput} (keeps : motion.Keeps side log time) (forward : time ≤ now)
    (step : motion.Step setup now input events next) : next.Keeps side (log ++ events) now := by
  have quiet : log ++ [] = log := List.append_nil _
  cases step with
  | raise failure | expire phase | finish phase => trivial
  | identify phase | date phase | learned phase | start phase | retry phase | pose phase =>
      rw [Keeps, phase] at keeps
      rw [quiet]
      exact keeps.later forward
  | @count stateId changed info rest phase state =>
      rw [Keeps, phase] at keeps
      rw [quiet]
      have kept (tracker : Tracker) (same : tracker.sent = (motion.trackers info.side).sent) :
          Followed side log now (Function.update motion.trackers info.side tracker side).sent
            (Function.update motion.trackers info.side tracker side).last (motion.issued side) := by
        by_cases here : info.side = side
        · subst here
          rw [Function.update_self, Tracker.last, same]
          exact keeps.later forward
        · rw [Function.update_of_ne (Ne.symm here)]
          exact keeps.later forward
      exact kept _ rfl
  | frame phase =>
      rw [Keeps, phase] at keeps
      rw [quiet]
      exact ⟨le_refl now, keeps.later forward⟩
  | check phase state =>
      rw [Keeps, phase] at keeps
      exact check_keeps (keeps.1.trans forward) keeps.2
  | @close moving read ready phase =>
      rw [Keeps, phase] at keeps
      rw [quiet]
      have followed := keeps.2.later (keeps.1.trans forward)
      cases moving with
      | false =>
          cases ready with
          | false => exact followed
          | true => exact followed
      | true => exact next_keeps followed
  | depart phase | round phase =>
      rw [Keeps, phase] at keeps
      rw [quiet]
      exact next_keeps (keeps.later forward)
  | @publish other q phase =>
      rw [Keeps, phase] at keeps
      have followed := keeps.later forward
      have kept : Followed side (log ++ [.published other q (motion.issued other + 1) now]) now
          (motion.trackers side).sent (if other = side then motion.issued other + 1 else (motion.trackers side).last)
          (Function.update motion.issued other (motion.issued other + 1) side) := by
        by_cases same : other = side
        · subst same
          rw [if_pos rfl, Function.update_self]
          exact followed.publish q
        · rw [if_neg same, Function.update_of_ne (Ne.symm same)]
          exact followed.other (List.filterMap_cons_none (if_neg same))
      exact kept
  | @note other sequence phase =>
      rw [Keeps, phase] at keeps
      rw [quiet]
      apply next_keeps
      have followed := keeps.later forward
      by_cases same : other = side
      · subst same
        rw [if_pos rfl] at followed
        rw [Tracker.last, note_sent]
        cases entry : (motion.trackers other).sent with
        | none =>
            rw [entry] at followed
            exact followed.note
        | some sent =>
            rw [entry] at followed
            exact followed.note
      · rw [if_neg same] at followed
        rw [note_other (Ne.symm same)]
        exact followed

/-- The frame reads an alarm of one hand, with the clock reading of the frame. -/
def Alarmed (setup : HandSetup) (motion : HandMotion) (side : Side) (now : ℚ) (input : HandInput) : Prop :=
  ∃ moving info rest ready feedback, motion.phase = .checking moving now (info :: rest) ready ∧
    input = .feedback feedback ∧ info.side = side ∧
    (motion.trackers info.side).Alarmed setup info moving feedback now

theorem Keeps.checking {info : HandLimits} {moving : Bool} {read : ℚ} {rest : List HandLimits} {ready : Bool}
    (keeps : motion.Keeps side log time) (phase : motion.phase = .checking moving read (info :: rest) ready) :
    Followed side log read (motion.trackers side).sent (motion.trackers side).last (motion.issued side) := by
  rw [Keeps, phase] at keeps
  exact keeps.2

theorem check_expired {info : HandLimits} {moving : Bool} {read : ℚ} {rest : List HandLimits} {ready : Bool}
    {feedback : HandFeedback} {moment : ℚ} :
    .expired side moment ∈ (motion.check setup info moving read rest ready feedback).2 ↔
      side = info.side ∧ moment = read ∧ (motion.trackers info.side).Alarmed setup info moving feedback read := by
  rw [← checkHand_expired]
  unfold check
  split
  · rename_i passed
    rw [passed]
  · rename_i passed
    rw [passed]

/-- Only a frame that reads an alarm lets an echo expire. -/
theorem Step.expired {now moment : ℚ} {input : HandInput} (step : motion.Step setup now input events next) :
    .expired side moment ∈ events ↔ motion.Alarmed setup side moment input := by
  cases step with
  | identify phase | count phase => simp [Alarmed, phase]
  | @check moving read info rest ready phase feedback =>
      rw [check_expired, Alarmed, phase]
      constructor
      · rintro ⟨rfl, rfl, alarmed⟩
        exact ⟨moving, info, rest, ready, feedback, rfl, rfl, rfl, alarmed⟩
      · rintro ⟨_, _, _, _, _, same, input, rfl, alarmed⟩
        cases same
        cases input
        exact ⟨rfl, rfl, alarmed⟩
  | _ => simp [Alarmed]

/-- The alarm of a reading is false: nothing is outstanding for the whole timeout. -/
def FalseAlarm (setup : HandSetup) (side : Side)
    (earlier : List (Move (Timed ℚ HandMotion) (ℚ × HandInput) HandEvent))
    (move : Move (Timed ℚ HandMotion) (ℚ × HandInput) HandEvent) : Prop :=
  ∃ now, move.before.state.Alarmed setup side now move.input.2 ∧
    ∀ begun, (waiting (handMarks side (trace earlier))).since = some begun → now < begun + setup.timeout

theorem run_keeps {issued : Side → ℕ} {start : ℚ} {final : Timed ℚ HandMotion}
    {moves : List (Move (Timed ℚ HandMotion) (ℚ × HandInput) HandEvent)} (side : Side)
    (run : (handMotion setup).Run ⟨start, startMotion setup issued⟩ moves final) :
    final.state.Keeps side (trace moves) final.time := by
  refine clocked_invariant (fun log time motion => motion.Keeps side log time) ?_
    (fun _ _ _ _ _ _ _ keeps forward advanced => keeps.step forward (step_of_advance advanced)) run
  exact ⟨.start _ _, rfl, Nat.zero_le _⟩

/-- A timeout of a hand tells of a waiting command unless the alarm is false. -/
theorem expired_waited {issued : Side → ℕ} {start : ℚ} {final : Timed ℚ HandMotion}
    {moves earlier later : List (Move (Timed ℚ HandMotion) (ℚ × HandInput) HandEvent)}
    {move : Move (Timed ℚ HandMotion) (ℚ × HandInput) HandEvent} (side : Side)
    (run : (handMotion setup).Run ⟨start, startMotion setup issued⟩ moves final)
    (cut : moves = earlier ++ move :: later) :
    (∀ now, .expired side now ∈ move.events → Waited setup.timeout now (handMarks side (trace earlier))) ↔
      ¬FalseAlarm setup side earlier move := by
  obtain ⟨before, accepted, -⟩ := run.at_move cut
  obtain ⟨-, -, advanced⟩ := clocked_cases accepted
  have expired_iff (now : ℚ) :
      .expired side now ∈ move.events ↔ move.before.state.Alarmed setup side now move.input.2 :=
    (step_of_advance advanced).expired
  have keeps := run_keeps side before
  have waited_iff (now : ℚ) (alarmed : move.before.state.Alarmed setup side now move.input.2) :
      Waited setup.timeout now (handMarks side (trace earlier)) ↔
        ∃ begun, (waiting (handMarks side (trace earlier))).since = some begun ∧ begun + setup.timeout ≤ now := by
    obtain ⟨moving, info, rest, ready, feedback, phase, -, rfl, -, sent, isSent, -, -, -, late⟩ := alarmed
    have watched := (keeps.checking phase).watched
    rw [isSent] at watched
    apply watched.waited_iff
    change sent.progressTime + setup.timeout ≤ now
    linarith
  constructor
  · rintro waits ⟨now, alarmed, early⟩
    have waited := waits now ((expired_iff now).mpr alarmed)
    obtain ⟨begun, since, passed⟩ := (waited_iff now alarmed).mp waited
    exact absurd passed (not_le.mpr (early begun since))
  · intro true' now expired
    have alarmed := (expired_iff now).mp expired
    by_contra waits
    refine true' ⟨now, alarmed, fun begun since => not_le.mp fun passed => waits ?_⟩
    exact (waited_iff now alarmed).mpr ⟨begun, since, passed⟩

end HandMotion

end HumanoidSdk.Demo
