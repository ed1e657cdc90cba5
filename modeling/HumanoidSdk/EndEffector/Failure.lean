import HumanoidSdk.EndEffector.Memory

/-
This file shows that a recorded failure stays: a call that begins afterwards reaches `_ensure_open`
with its first or second step and raises there.
-/

namespace HumanoidSdk.EndEffector
open Foundation

variable {client : Client} {shared after : Shared client} {stack next below : List (Frame client)}
  {events : List (Event client)}

theorem Reception.failed (reception : Reception shared stack events after next) (failed : shared.failed = true) :
    after.failed = true := by
  cases reception with
  | kept kept => exact kept.failed failed
  | decoded | undecoded | disagreed | raised | stored => exact failed
  | recorded => rfl

/-- A recorded failure is in the state. -/
theorem Reception.records (reception : Reception shared stack events after next) (recorded : .failed ∈ events) :
    after.failed = true := by
  cases reception with
  | kept kept => exact kept.recorded recorded
  | recorded => rfl
  | decoded | undecoded | disagreed | raised | stored => simp at recorded

/-- The calls that give access to the feedback or publish. -/
def UserCall.isAccess : UserCall client → Bool
  | .get _ | .wait .. | .publish _ => true
  | .close => false

/-- A call is at its first step or at the one that reaches `_ensure_open`. -/
inductive Entering : UserCall client → ℕ → Frame client → Prop
  | get (kind : Kind) : Entering (.get kind) 0 (.get kind false)
  | begin (kind : Kind) (request : WaitRequest) : Entering (.wait kind request) 0 (.wait kind request .begin)
  | loop (kind : Kind) (request : WaitRequest) : Entering (.wait kind request) 1 (.wait kind request .loop)
  | acquire (args : client.Args) : Entering (.publish args) 0 (.publish (.acquire args))
  | held (args : client.Args) (ticket : ℕ) (scratch : client.Scratch) (polled : Bool)
      (rest : List (Statement client.Message client.Scratch)) :
      Entering (.publish args) 1 (.publish (.preparing ticket args scratch polled (.plain .ensureOpen :: rest)))

theorem entering_start {call : UserCall client} (access : call.isAccess = true) : Entering call 0 call.frame := by
  cases call with
  | get kind => exact .get kind
  | wait kind request => exact .begin kind request
  | publish args => exact .acquire args
  | close => cases access

/-- A step ends its call with an exception. -/
def Raises (below : List (Frame client)) (events : List (Event client)) (next : List (Frame client)) : Prop :=
  next = below.modifyHead (Frame.resume true) ∧
    ((∃ error, events = [.raised error]) ∨ ∃ ticket error, events = [.refused ticket error])

theorem ensureOpen_failed (failed : shared.failed = true) : ∃ error, shared.ensureOpen = .error error := by
  unfold Shared.ensureOpen
  cases closed : shared.closed with
  | true => exact ⟨_, rfl⟩
  | false => exact ⟨client.feedbackError, by simp [failed]⟩

theorem guarded_failed (failed : shared.failed = true) (other : Shared.Outcome client) :
    ∃ error, shared.guarded other = (shared, .pop true, [.raised error]) := by
  obtain ⟨error, raises⟩ := ensureOpen_failed failed
  exact ⟨error, by rw [Shared.guarded, raises]⟩

theorem testWait_failed (failed : shared.failed = true) {kind : Kind} {request : WaitRequest}
    {choice : Choice client} {outcome : Shared.Outcome client}
    (stepped : shared.testWait kind request choice = some outcome) :
    ∃ error, outcome = (shared, .pop true, [.raised error]) := by
  cases choice with
  | go =>
      simp only [Shared.testWait] at stepped
      split at stepped <;> obtain rfl := Option.some.inj stepped <;> exact guarded_failed failed _
  | expire =>
      simp only [Shared.testWait, Option.ite_none_left_eq_some, Option.some.injEq] at stepped
      obtain ⟨-, rfl⟩ := stepped
      exact guarded_failed failed _
  | raise =>
      simp only [Shared.testWait, Option.ite_none_right_eq_some, Option.some.injEq] at stepped
      obtain ⟨-, rfl⟩ := stepped
      exact guarded_failed failed _
  | spoil | clock | call => simp [Shared.testWait] at stepped

/-- After a failure a call raises with its first step or with the one after it. -/
theorem entering_step (opens : ∃ rest, client.preparing = .plain .ensureOpen :: rest)
    (failed : shared.failed = true) {call : UserCall client} {stage : ℕ} {frame : Frame client}
    {choice : Choice client} (entering : Entering call stage frame)
    (stepped : shared.step (frame :: below) choice = some (after, next, events)) :
    Raises below events next ∨
      (stage = 0 ∧ events = [] ∧ ∃ frame', next = frame' :: below ∧ Entering call 1 frame') := by
  have popped {error : PyError} : Raises below [.raised error] ((.pop true : Answer client).stack below) :=
    ⟨rfl, .inl ⟨error, rfl⟩⟩
  simp only [Shared.step, Option.map_eq_some_iff, Prod.mk.injEq] at stepped
  obtain ⟨outcome, stepped, rfl, rfl, rfl⟩ := stepped
  cases entering with
  | get kind =>
      cases choice with
      | go =>
          obtain rfl := Option.some.inj stepped
          obtain ⟨error, raises⟩ := guarded_failed failed
            (if client.pullFeedback && !false then (shared, .push (.get kind true) (.poll none .enter), [])
            else (shared, .pop true, [.returned kind (shared.latest kind)]))
          rw [raises]
          exact .inl popped
      | raise | spoil | expire | clock | call => simp [Shared.frameStep, Shared.getStep] at stepped
  | begin kind request =>
      cases choice with
      | go =>
          simp only [Shared.frameStep, Shared.waitStep] at stepped
          split at stepped <;> obtain rfl := Option.some.inj stepped
          · exact .inl popped
          · exact .inr ⟨rfl, rfl, _, rfl, .loop kind request⟩
      | raise | spoil | expire | clock | call => simp [Shared.frameStep, Shared.waitStep] at stepped
  | loop kind request =>
      simp only [Shared.frameStep, Shared.waitStep] at stepped
      split at stepped
      · cases choice with
        | go =>
            obtain rfl := Option.some.inj stepped
            obtain ⟨error, raises⟩ := guarded_failed failed
              (shared, .push (.wait kind request .test) (.poll none .enter), [])
            rw [raises]
            exact .inl popped
        | raise | spoil | expire | clock | call => simp at stepped
      · obtain ⟨error, rfl⟩ := testWait_failed failed stepped
        exact .inl popped
  | acquire args =>
      obtain ⟨rest, same⟩ := opens
      cases choice with
      | go =>
          simp only [Shared.frameStep, Shared.publishStep, Option.ite_none_left_eq_some, Option.some.injEq] at stepped
          obtain ⟨-, rfl⟩ := stepped
          rw [same]
          exact .inr ⟨rfl, rfl, _, rfl, .held args _ _ _ rest⟩
      | raise | spoil | expire | clock | call => simp [Shared.frameStep, Shared.publishStep] at stepped
  | held args ticket scratch polled rest =>
      cases choice with
      | go =>
          obtain ⟨error, raises⟩ := ensureOpen_failed failed
          simp only [Shared.frameStep, Shared.publishStep, Shared.plainStep, raises, Except.map, Option.map_some,
            Option.some.injEq] at stepped
          obtain rfl := stepped
          exact .inl ⟨rfl, .inr ⟨ticket, error, rfl⟩⟩
      | raise | spoil | expire | clock | call =>
          simp [Shared.frameStep, Shared.publishStep, Shared.plainStep] at stepped

/-- Such a call is never stuck, except that a publish waits for the lock. -/
theorem entering_progress {call : UserCall client} {stage : ℕ} {frame : Frame client}
    (entering : Entering call stage frame) (below : List (Frame client)) :
    (shared.step (frame :: below) .go).isSome = true ∨ shared.publishing = true := by
  simp only [Shared.step, Option.isSome_map]
  cases entering with
  | get kind => exact .inl rfl
  | begin kind request =>
      refine .inl ?_
      simp only [Shared.frameStep, Shared.waitStep]
      split <;> rfl
  | loop kind request =>
      refine .inl ?_
      simp only [Shared.frameStep, Shared.waitStep, Shared.testWait]
      split_ifs <;> rfl
  | acquire args =>
      cases free : shared.publishing with
      | true => exact .inr rfl
      | false => exact .inl (by simp [Shared.frameStep, Shared.publishStep, free])
  | held args ticket scratch polled rest => exact .inl (by simp [Shared.frameStep, Shared.publishStep, Shared.plainStep])

section Run

variable {Thread : Type*} [DecidableEq Thread] {moves more : List (ClientMove client Thread)}
  {start middle final : ClientPool client Thread}

/-- The input lets this thread act. -/
def isOwn (thread : Thread) : PoolInput Thread (Request client) (Choice client) (Signal client) → Bool
  | .call other _ | .run other _ => other = thread
  | .signal _ => false

/-- A failure stays in the state. -/
theorem failed_stays (run : ((clientProgram client).machine Thread).Run start moves final)
    (failed : start.shared.failed = true) : final.shared.failed = true := by
  refine run.stateInvariant (fun pool => pool.shared.failed = true) failed ?_
  intro pool input next events failed accepted
  cases Program.machine_cases accepted with
  | call ready => exact failed
  | run stepped => exact (step_reception stepped).failed failed
  | signal signal =>
      cases signal with
      | arrive kind view => exact failed

theorem failed_move {pool next : ClientPool client Thread}
    {input : PoolInput Thread (Request client) (Choice client) (Signal client)}
    (accepted : ((clientProgram client).machine Thread).step pool input = some (next, events))
    (recorded : .failed ∈ events) : next.shared.failed = true := by
  cases Program.machine_cases accepted with
  | call ready => cases recorded
  | run stepped => exact (step_reception stepped).records recorded
  | signal signal =>
      cases signal with
      | arrive kind view => cases recorded

/-- A failure in the log is in the state. -/
theorem failed_run (run : ((clientProgram client).machine Thread).Run start moves final)
    (recorded : .failed ∈ trace moves) : final.shared.failed = true := by
  obtain ⟨move, member, emitted⟩ := mem_trace.mp recorded
  obtain ⟨earlier, later, cut⟩ := List.append_of_mem member
  obtain ⟨-, accepted, rest⟩ := run.at_move cut
  exact failed_stays rest (failed_move accepted emitted)

/-- The thread has raised: all its earlier moves were silent steps of the call. -/
def HasRaised (thread : Thread) (below : List (Frame client)) (more : List (ClientMove client Thread)) : Prop :=
  ∃ first move second, more = first ++ move :: second ∧ isOwn thread move.input = true ∧
    Raises below move.events (move.after.threads thread) ∧
    ∀ other ∈ first, isOwn thread other.input = true → other.events = []

/-- The thread is still before `_ensure_open` and has taken at most one silent step. -/
def StillEntering (thread : Thread) (call : UserCall client) (below : List (Frame client))
    (more : List (ClientMove client Thread)) (final : ClientPool client Thread) : Prop :=
  ∃ frame, final.threads thread = frame :: below ∧
    Entering call (more.countP fun move => isOwn thread move.input) frame ∧
    ∀ move ∈ more, isOwn thread move.input = true → move.events = []

section Extend

variable {thread : Thread} {call : UserCall client} {move : ClientMove client Thread}

/-- Moves of others leave a call where it is. -/
theorem StillEntering.other (still : StillEntering thread call below more middle)
    (other : isOwn thread move.input = false) (same : move.after.threads thread = middle.threads thread) :
    StillEntering thread call below (more ++ [move]) move.after := by
  obtain ⟨frame, isTop, entering, silent⟩ := still
  refine ⟨frame, same.trans isTop, ?_, fun member inside own => ?_⟩
  · rw [List.countP_append, List.countP_singleton, other]
    exact entering
  · rcases List.mem_append.mp inside with old | new
    · exact silent member old own
    · rw [List.mem_singleton.mp new, other] at own
      cases own

/-- The first step of a call may be silent. -/
theorem StillEntering.advance (still : StillEntering thread call below more middle)
    (fresh : more.countP (fun move => isOwn thread move.input) = 0) (own : isOwn thread move.input = true)
    (quiet : move.events = []) {frame : Frame client} (isTop : move.after.threads thread = frame :: below)
    (entering : Entering call 1 frame) : StillEntering thread call below (more ++ [move]) move.after := by
  obtain ⟨-, -, -, silent⟩ := still
  refine ⟨frame, isTop, ?_, fun member inside isOwn' => ?_⟩
  · rw [List.countP_append, List.countP_singleton, own, fresh]
    exact entering
  · rcases List.mem_append.mp inside with old | new
    · exact silent member old isOwn'
    · rw [List.mem_singleton.mp new, quiet]

end Extend

/-- On every run after a failure an access that begins raises, and until it raises it has taken at
most one step and returned nothing. -/
theorem entering_run (opens : ∃ rest, client.preparing = .plain .ensureOpen :: rest)
    (failed : middle.shared.failed = true) {thread : Thread} {call : UserCall client}
    (access : call.isAccess = true) (top : middle.threads thread = call.frame :: below)
    (run : ((clientProgram client).machine Thread).Run middle more final) :
    HasRaised thread below more ∨ StillEntering thread call below more final := by
  refine run.invariant (fun more final => HasRaised thread below more ∨ StillEntering thread call below more final)
    (.inr ⟨call.frame, top, entering_start access, by simp⟩) ?_
  intro more pool input next events earlier held accepted
  have broken := failed_stays earlier failed
  rcases held with ⟨first, move, second, rfl, own, raises, silent⟩ | still
  · refine .inl ⟨first, move, second ++ [⟨pool, input, next, events⟩], ?_, own, raises, silent⟩
    rw [List.append_assoc, List.cons_append]
  obtain ⟨frame, isTop, entering, silent⟩ := still
  cases Program.machine_cases accepted with
  | @call other request ready =>
      have apart : other ≠ thread := by
        rintro rfl
        rw [isTop] at ready
        cases ready
      refine .inr (StillEntering.other ⟨frame, isTop, entering, silent⟩ (by simpa [isOwn] using apart) ?_)
      exact Function.update_of_ne apart.symm _ _
  | run stepped =>
      rename_i other choice shared there
      by_cases same : other = thread
      · subst same
        rw [isTop] at stepped
        rcases entering_step opens broken entering stepped with raises | ⟨fresh, quiet, frame', isNext, entering'⟩
        · refine .inl ⟨more, _, [], rfl, by simp [isOwn], ?_, silent⟩
          simpa using raises
        · refine .inr (StillEntering.advance ⟨frame, isTop, entering, silent⟩ fresh (by simp [isOwn]) quiet ?_ entering')
          simpa using isNext
      · refine .inr (StillEntering.other ⟨frame, isTop, entering, silent⟩ (by simpa [isOwn] using same) ?_)
        exact Function.update_of_ne (Ne.symm same) _ _
  | signal signal =>
      exact .inr (StillEntering.other ⟨frame, isTop, entering, silent⟩ rfl rfl)

end Run

end HumanoidSdk.EndEffector
