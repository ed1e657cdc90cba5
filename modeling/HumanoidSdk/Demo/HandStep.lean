import HumanoidSdk.Demo.HandMotion

/-
This file says once what a statement of the hand motion can do.
-/

namespace HumanoidSdk.Demo
open Foundation EndEffector

namespace HandMotion

/-- What a statement of the motion does. -/
inductive Step (setup : HandSetup) (now : ℚ) (motion : HandMotion) : HandInput → List HandEvent → HandMotion → Prop
  | raise (failure : Failure) : Step setup now motion (.raises failure) [] { motion with phase := .raised failure }
  | identify {info : HandLimits} {rest : List HandLimits} (phase : motion.phase = .learning (info :: rest))
      (state : HandFeedback) :
      Step setup now motion (.feedback state) [] { motion with phase := .dating state.stateId info rest }
  | date {stateId : ℤ} {info : HandLimits} {rest : List HandLimits} (phase : motion.phase = .dating stateId info rest) :
      Step setup now motion .clock [] { motion with phase := .counting stateId now info rest }
  | count {stateId : ℤ} {changed : ℚ} {info : HandLimits} {rest : List HandLimits}
      (phase : motion.phase = .counting stateId changed info rest) (state : HandFeedback) :
      Step setup now motion (.feedback state) []
        { motion.setTracker info.side
            { motion.trackers info.side with previousId := stateId, changed, rejects := state.rejectCount } with
          phase := .learning rest }
  | learned (phase : motion.phase = .learning []) :
      Step setup now motion .clock [] { motion with nextPublish := now, phase := .starting }
  | start (phase : motion.phase = .starting) :
      Step setup now motion .clock [] { motion with deadline := now + setup.timeout, phase := .framing false }
  | frame {moving : Bool} (phase : motion.phase = .framing moving) (due : motion.nextPublish ≤ now) :
      Step setup now motion .clock [] { motion with phase := .checking moving now setup.hands true }
  | check {moving : Bool} {read : ℚ} {info : HandLimits} {rest : List HandLimits} {ready : Bool}
      (phase : motion.phase = .checking moving read (info :: rest) ready) (state : HandFeedback) :
      Step setup now motion (.feedback state) (motion.check setup info moving read rest ready state).2
        (motion.check setup info moving read rest ready state).1
  | close {moving : Bool} {read : ℚ} {ready : Bool} (phase : motion.phase = .checking moving read [] ready) :
      Step setup now motion .clock [] (motion.endFrame setup moving ready now)
  | expire (phase : motion.phase = .testing) (late : motion.deadline ≤ now) (failure : Failure) :
      Step setup now motion .clock [] { motion with phase := .raised failure }
  | retry (phase : motion.phase = .testing) :
      Step setup now motion .clock [] { motion with phase := .framing false }
  | pose {info : HandLimits} {rest : List HandLimits} (phase : motion.phase = .posing (info :: rest)) (q : List ℚ) :
      Step setup now motion (.pose q) []
        { motion with positions := Function.update motion.positions info.side q, phase := .posing rest }
  | depart (phase : motion.phase = .posing []) :
      Step setup now motion .clock []
        { motion with script := setup.moveActions motion.positions setup.lowTargets }.next
  | publish {side : Side} {q : List ℚ} (phase : motion.phase = .publishing side q) :
      Step setup now motion .clock [.published side q (motion.issued side + 1) now]
        { motion with
          issued := Function.update motion.issued side (motion.issued side + 1),
          phase := .noting side (motion.issued side + 1) }
  | note {side : Side} {sequence : ℕ} (phase : motion.phase = .noting side sequence) :
      Step setup now motion .clock [] (motion.note side sequence now).next
  | round (phase : motion.phase = .rounding) (more : motion.rounds = 0 ∨ setup.loop) :
      Step setup now motion .clock [] { motion with rounds := motion.rounds + 1, script := setup.roundActions }.next
  | finish (phase : motion.phase = .rounding) : Step setup now motion .clock [] { motion with phase := .finished }

variable {setup : HandSetup} {motion next : HandMotion} {now : ℚ} {input : HandInput} {events : List HandEvent}

/-- Every statement of the motion is one of these. -/
theorem step_of_advance (advanced : motion.advance setup now input = some (next, events)) :
    motion.Step setup now input events next := by
  unfold HandMotion.advance at advanced
  split at advanced
  case h_1 => cases advanced
  case h_2 => cases advanced
  case h_3 failure _ _ => cases advanced; exact .raise failure
  case h_4 phase => cases advanced; exact .identify phase _
  case h_5 phase => cases advanced; exact .date phase
  case h_6 phase => cases advanced; exact .count phase _
  case h_7 phase => cases advanced; exact .learned phase
  case h_8 phase => cases advanced; exact .start phase
  case h_9 phase =>
    obtain ⟨due, same⟩ := Option.ite_none_right_eq_some.mp advanced
    cases same
    exact .frame phase due
  case h_10 moving read info rest ready state phase =>
    have step : motion.Step setup now (.feedback state) (motion.check setup info moving read rest ready state).2
        (motion.check setup info moving read rest ready state).1 := .check phase state
    rwa [Option.some.inj advanced] at step
  case h_11 phase => cases advanced; exact .close phase
  case h_12 phase =>
    split at advanced
    · rename_i late
      cases advanced
      exact .expire phase late _
    · cases advanced
      exact .retry phase
  case h_13 phase => cases advanced; exact .pose phase _
  case h_14 phase => cases advanced; exact .depart phase
  case h_15 phase => cases advanced; exact .publish phase
  case h_16 phase => cases advanced; exact .note phase
  case h_17 phase =>
    split at advanced
    · rename_i more
      cases advanced
      exact .round phase more
    · cases advanced
      exact .finish phase
  case h_18 => cases advanced

end HandMotion

end HumanoidSdk.Demo
