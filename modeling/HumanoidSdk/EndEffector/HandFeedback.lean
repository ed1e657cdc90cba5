import HumanoidSdk.EndEffector.Failure

/-
This file states what the feedback of HandClient guarantees on whole runs: the cached messages agree
with each other, and a failure ends all access.
-/

namespace HumanoidSdk.EndEffector
open Foundation

namespace HandClient

variable {config : HandConfig}

def sideOf : (kind : Kind) → HandMessage kind → ℤ
  | .info, message => HandInfo.side message
  | .state, message => HandState.side message
  | .touch, message => HandTouch.side message

theorem onSide_ok {side : ℤ} {result : Unit} (passed : onSide config side = .ok result) : side = config.side.wire := by
  by_contra other
  rw [onSide, if_neg other] at passed
  cases passed

/-- A decoded message has the side of its client. -/
theorem decode_side {kind : Kind} {view : config.View} {message : HandMessage kind}
    (decodes : decode config kind view = .ok message) : sideOf kind message = config.side.wire := by
  cases kind with
  | info =>
      simp only [decode, bind_ok] at decodes
      obtain ⟨value, -, side, onSide, -, -, same⟩ := decodes
      cases same
      exact onSide_ok onSide
  | state | touch =>
      simp only [decode, bind_ok] at decodes
      obtain ⟨value, -, side, onSide, same⟩ := decodes
      cases same
      exact onSide_ok onSide

theorem decode_valid {view : config.View} {info : HandInfo} (decodes : decode config .info view = .ok info) :
    validateInfo (some info) = .ok () := by
  simp only [decode, bind_ok] at decodes
  obtain ⟨value, -, -, -, ⟨⟩, valid, same⟩ := decodes
  cases same
  exact valid

/-- The locked section lets messages through that agree with Info. -/
theorem agrees_iff {latest : Latest HandMessage} : agrees latest = .ok () ↔
    ∀ info, latest .info = some info → (∀ state, latest .state = some state → stateAgrees info state = true) ∧
      ∀ touch, latest .touch = some touch → touchAgrees info touch = true := by
  cases isInfo : latest .info with
  | none => simp [agrees, isInfo]
  | some info =>
      simp only [agrees, isInfo, ↓check_ok, ↓last_check_ok, Bool.not_eq_true', Bool.not_eq_false,
        Option.all_eq_true, Option.some.injEq, forall_eq']
      exact and_congr_right fun _ => and_iff_left rfl

/-- The cached messages belong to the side of the client and agree with the cached Info. -/
structure Consistent (config : HandConfig) (latest : Latest HandMessage) : Prop where
  side : ∀ kind message, latest kind = some message → sideOf kind message = config.side.wire
  valid : ∀ info, latest .info = some info → validateInfo (some info) = .ok ()
  state : ∀ info state, latest .info = some info → latest .state = some state →
    state.handType = info.handType ∧ state.joints.length = info.dof
  touch : ∀ info touch, latest .info = some info → latest .touch = some touch →
    touch.handType = info.handType ∧ touch.fingers.length = info.touchFingers ∧
      touch.rawWords.length = info.touchFingers * info.touchWordsPerFinger

variable {Thread : Type*} [DecidableEq Thread]

/-- What a run guarantees about the feedback of a hand. -/
structure FeedbackLaw (moves : List (ClientMove (handClient config) Thread))
    (final : ClientPool (handClient config) Thread) : Prop where
  consistent : Consistent config final.shared.latest
  rejected : ∀ move ∈ moves, ∀ kind stored, .rejected kind stored ∈ move.events →
    stored = false ∧ move.after.shared.latest = move.before.shared.latest
  fails : ∀ move ∈ moves, ∀ thread choice kind stored phase below, move.input = .run thread choice →
    move.before.threads thread = .receive kind stored phase :: below →
      ((.rejected kind stored ∈ move.events ∨ (∃ message, phase = .calling message) ∧ choice = .raise →
        move.after.threads thread = .receive kind stored .fail :: below) ∧
      (phase = .fail → move.events = [.failed]))
  pulls : ∀ move ∈ moves, ∀ thread choice waiting phase below, move.input = .run thread choice →
    move.before.threads thread = .poll waiting phase :: below → choice = .raise ∨ choice = .spoil →
      move.events = [.failed]
  sticky : .failed ∈ trace moves → ∀ thread call below, call.isAccess = true →
    final.threads thread = call.frame :: below → ∀ more last,
      ((clientProgram (handClient config)).machine Thread).Run final more last →
        HasRaised thread below more ∨ (StillEntering thread call below more last ∧
          ((last.shared.step (last.threads thread) .go).isSome = true ∨ last.shared.publishing = true))

variable {moves : List (ClientMove (handClient config) Thread)} {final : ClientPool (handClient config) Thread}

/-- The cached messages always agree. -/
theorem agrees_run (run : ((clientProgram (handClient config)).machine Thread).Run (freshClient _ Thread) moves final) :
    agrees final.shared.latest = .ok () := by
  refine run.stateInvariant (fun pool => agrees pool.shared.latest = .ok ()) rfl ?_
  intro pool input next events agreed accepted
  cases Program.machine_cases accepted with
  | call ready => exact agreed
  | run stepped =>
      rename_i thread choice shared there
      generalize pool.threads thread = stack at stepped
      cases step_reception stepped with
      | kept kept =>
          rw [kept.latest]
          exact agreed
      | stored agrees => exact agrees
      | decoded | undecoded | disagreed | raised | recorded => exact agreed
  | signal signal =>
      cases signal with
      | arrive kind view => exact agreed

theorem consistent_run
    (run : ((clientProgram (handClient config)).machine Thread).Run (freshClient _ Thread) moves final) :
    Consistent config final.shared.latest := by
  have decoded {kind : Kind} {message : HandMessage kind} (cached : final.shared.latest kind = some message) :
      ∃ view, decode config kind view = .ok message := by
    rw [(remembered_run run).1 kind] at cached
    exact (decoded_run run).1 kind message (mem_stores (List.mem_of_getLast? cached))
  have agreed := agrees_iff.mp (agrees_run run)
  refine ⟨fun kind message cached => ?_, fun info cached => ?_, fun info state isInfo isState => ?_,
    fun info touch isInfo isTouch => ?_⟩
  · obtain ⟨view, decodes⟩ := decoded cached
    exact decode_side decodes
  · obtain ⟨view, decodes⟩ := decoded cached
    exact decode_valid decodes
  · simpa [stateAgrees] using (agreed info isInfo).1 state isState
  · simpa [touchAgrees, and_assoc] using (agreed info isInfo).2 touch isTouch

/-- A rejected delivery leaves the cache as it was. -/
theorem rejected_move {pool next : ClientPool (handClient config) Thread}
    {input : PoolInput Thread (Request (handClient config)) (Choice (handClient config)) (Signal (handClient config))}
    {events : List (Event (handClient config))} {kind : Kind} {stored : Bool}
    (genuine : ∀ thread, ∀ frame ∈ pool.threads thread, frame.Genuine)
    (accepted : ((clientProgram (handClient config)).machine Thread).step pool input = some (next, events))
    (rejected : .rejected kind stored ∈ events) : stored = false ∧ next.shared.latest = pool.shared.latest := by
  cases Program.machine_cases accepted with
  | call ready => cases rejected
  | run stepped =>
      rename_i thread choice shared there
      have own := genuine thread
      generalize pool.threads thread = stack at own stepped
      cases step_reception stepped with
      | kept kept => cases kept.silent _ rejected
      | undecoded =>
          cases List.mem_singleton.mp rejected
          exact ⟨own _ List.mem_cons_self, rfl⟩
      | disagreed =>
          cases List.mem_singleton.mp rejected
          exact ⟨(own _ List.mem_cons_self).1, rfl⟩
      | decoded | raised | stored | recorded => simp at rejected
  | signal signal =>
      cases signal with
      | arrive => cases rejected

variable {shared after : Shared (handClient config)} {below next : List (Frame (handClient config))}
  {choice : Choice (handClient config)} {events : List (Event (handClient config))}

/-- A delivery that is rejected or whose callback raises goes on to record the failure, and nothing
else ends it. -/
theorem receive_fails {kind : Kind} {stored : Bool} {phase : ReceivePhase (handClient config) kind}
    (stepped : shared.step (.receive kind stored phase :: below) choice = some (after, next, events)) :
    (.rejected kind stored ∈ events ∨ (∃ message, phase = .calling message) ∧ choice = .raise →
      next = .receive kind stored .fail :: below) ∧ (phase = .fail → events = [.failed]) := by
  constructor
  · rintro (rejected | ⟨⟨message, rfl⟩, rfl⟩)
    · cases step_reception stepped with
      | kept kept => cases kept.silent _ rejected
      | undecoded | disagreed => rfl
      | decoded | raised | stored | recorded => simp at rejected
    · obtain ⟨rfl, rfl, rfl⟩ : after = shared ∧ next = .receive kind stored .fail :: below ∧ events = [] := by
        simpa [Shared.step, Shared.frameStep, Shared.receiveStep, Answer.stack, eq_comm] using stepped
      rfl
  · rintro rfl
    cases choice with
    | go =>
        simp only [Shared.step, Shared.frameStep, Shared.receiveStep, Option.map_some, Option.some.injEq,
          Prod.mk.injEq] at stepped
        exact stepped.2.2.symm
    | raise | spoil | expire | clock | call => simp [Shared.step, Shared.frameStep, Shared.receiveStep] at stepped

/-- What raises in a poll is recorded at once. -/
theorem poll_fails {waiting : Option Kind} {phase : PollPhase} (raises : choice = .raise ∨ choice = .spoil)
    (stepped : shared.step (.poll waiting phase :: below) choice = some (after, next, events)) :
    events = [.failed] := by
  simp only [Shared.step, Shared.frameStep, Option.map_eq_some_iff, Prod.mk.injEq] at stepped
  obtain ⟨outcome, stepped, -, -, rfl⟩ := stepped
  rcases raises with rfl | rfl
  · cases phase with
    | enter => simp [Shared.pollStep] at stepped
    | next todo =>
        cases todo with
        | nil => simp [Shared.pollStep] at stepped
        | cons kind todo =>
            obtain rfl := Option.some.inj stepped
            rfl
    | receiving kind todo =>
        obtain rfl := Option.some.inj stepped
        rfl
  · cases phase with
    | enter => simp [Shared.pollStep] at stepped
    | next todo =>
        cases todo with
        | nil => simp [Shared.pollStep] at stepped
        | cons kind todo =>
            obtain rfl := Option.some.inj stepped
            rfl
    | receiving kind todo =>
        obtain rfl := Option.some.inj stepped
        rfl

/-- The step of a thread at a move of a run. -/
theorem step_at {move : ClientMove (handClient config) Thread}
    (run : ((clientProgram (handClient config)).machine Thread).Run (freshClient _ Thread) moves final)
    (member : move ∈ moves) {thread : Thread} (isInput : move.input = .run thread choice) :
    move.before.shared.step (move.before.threads thread) choice =
      some (move.after.shared, move.after.threads thread, move.events) := by
  obtain ⟨earlier, later, cut⟩ := List.append_of_mem member
  have accepted := (run.at_move cut).2.1
  rw [isInput] at accepted
  simp only [Program.machine, Option.map_eq_some_iff, Prod.mk.injEq] at accepted
  obtain ⟨⟨shared, there, emitted⟩, stepped, isAfter, rfl⟩ := accepted
  rw [← isAfter]
  dsimp only
  rw [Function.update_self]
  exact stepped

/-- On every run the feedback of a hand is consistent and its failure is sticky. -/
theorem feedback_consistent (config : HandConfig) {moves : List (ClientMove (handClient config) Thread)}
    {final : ClientPool (handClient config) Thread}
    (run : ((clientProgram (handClient config)).machine Thread).Run (freshClient _ Thread) moves final) :
    FeedbackLaw moves final where
  consistent := consistent_run run
  rejected move member kind stored rejected := by
    obtain ⟨earlier, later, cut⟩ := List.append_of_mem member
    obtain ⟨before, accepted, -⟩ := run.at_move cut
    exact rejected_move (decoded_run before).2 accepted rejected
  fails move member thread choice kind stored phase below isInput isTop := by
    have stepped := step_at run member isInput
    rw [isTop] at stepped
    exact receive_fails stepped
  pulls move member thread choice waiting phase below isInput isTop raises := by
    have stepped := step_at run member isInput
    rw [isTop] at stepped
    exact poll_fails raises stepped
  sticky recorded thread call below access isTop more last again := by
    have failed := failed_run run recorded
    rcases entering_run ⟨_, rfl⟩ failed access isTop again with raised | still
    · exact .inl raised
    · obtain ⟨frame, isFrame, entering, -⟩ := id still
      refine .inr ⟨still, ?_⟩
      rw [isFrame]
      exact entering_progress entering below

/-- A hand with subscriber workers whose state has one joint as its Info says, or none. -/
def fedHand : HandConfig where
  View := Bool
  codec := {
    decodeInfo := fun _ => .ok ⟨1, 1, 1, ["thumb"], [.finite 0], [.finite 1], [.finite 1], 0, 0⟩
    decodeState := fun whole => .ok ⟨1, 1, 1, if whole then [⟨.finite 0, .finite 0⟩] else [], 0⟩
    decodeTouch := fun _ => .error (valueError "touch") }
  side := .left
  sessionId := 1
  readOnly := false
  pullFeedback := false
  hasCallback _ := false

/-- A state without joints follows a whole one, and a user asks for Info afterwards. -/
def conflictingState : List (PoolInput Bool (Request (handClient fedHand)) (Choice (handClient fedHand))
    (Signal (handClient fedHand))) :=
  .call false (.deliver .info true) :: steps false [.go, .go] ++
    .call false (.deliver .state true) :: steps false [.go, .go] ++
    .call false (.deliver .state false) :: steps false [.go, .go, .go] ++
    .call true (.user (.get .info)) :: steps true [.go]

/-- What happened to the deliveries and to the user of a run. -/
def outline : Event (handClient fedHand) → Option (Kind × ℕ)
  | .stored kind _ => some (kind, 0)
  | .rejected kind _ => some (kind, 1)
  | .failed => some (.info, 2)
  | .raised _ => some (.info, 3)
  | _ => none

/-- The conflicting state is rejected, the failure recorded and the user refused. -/
theorem feedback_consistent_conflict :
    ∃ (moves : List (ClientMove (handClient fedHand) Bool)) (final : ClientPool (handClient fedHand) Bool),
      (trace moves).filterMap outline = [(.info, 0), (.state, 0), (.state, 1), (.info, 2), (.info, 3)] ∧
        FeedbackLaw moves final := by
  obtain ⟨moves, final, run, -, seen⟩ :=
    ((clientProgram (handClient fedHand)).machine Bool).exists_run (freshClient _ Bool) conflictingState
      (fun moves _ => (trace moves).filterMap outline =
        [(.info, 0), (.state, 0), (.state, 1), (.info, 2), (.info, 3)]) (by decide +kernel)
  exact ⟨moves, final, seen, feedback_consistent fedHand run⟩

end HandClient

end HumanoidSdk.EndEffector
