import HumanoidSdk.Foundation.Clocked
import HumanoidSdk.Foundation.Precondition
import Mathlib.Algebra.Order.Group.Defs
import Mathlib.Logic.Function.Basic

namespace HumanoidSdk.Foundation

/-- What threads wait for on a condition variable. An update tells whether it notifies them. -/
structure Room (State Update Request Result : Type*) where
  answer : Request → State → Option Result
  apply : State → Update → State × Bool

/-- A thread in a room. It tests under the lock, and it sleeps until a notification or until a time. -/
inductive Waiter (Request Time : Type*)
  | idle
  | testing (request : Request) (deadline : Time)
  | sleeping (request : Request) (deadline wake : Time) (seen : ℕ)
  deriving DecidableEq

structure Crowd (Thread State Request Time : Type*) where
  state : State
  notifications : ℕ := 0
  threads : Thread → Waiter Request Time := fun _ => .idle

/-- A thread starts to wait, tests or wakes, or the state changes. -/
inductive WaitInput (Thread Update Request Time : Type*)
  | call (thread : Thread) (request : Request) (timeout : Time)
  | test (thread : Thread)
  | wake (thread : Thread)
  | update (update : Update)

inductive WaitEvent (Thread Update Request Result Time : Type*)
  | called (thread : Thread) (request : Request) (deadline : Time)
  | returned (thread : Thread) (request : Request) (result : Result)
  | expired (thread : Thread) (request : Request) (now : Time)
  | updated (update : Update)
  deriving DecidableEq

variable {Thread State Update Request Result Time : Type*} [DecidableEq Thread]

namespace Crowd

section Steps

variable [AddCommGroup Time] [LinearOrder Time] (room : Room State Update Request Result)
  (crowd : Crowd Thread State Request Time)

def place (thread : Thread) (waiter : Waiter Request Time) : Crowd Thread State Request Time :=
  { crowd with threads := Function.update crowd.threads thread waiter }

/-- A test finds an answer, or that the time is up, or sleeps for the time that is left. -/
def test (thread : Thread) (request : Request) (deadline now : Time) :
    Crowd Thread State Request Time × List (WaitEvent Thread Update Request Result Time) :=
  match room.answer request crowd.state with
  | some result => (crowd.place thread .idle, [.returned thread request result])
  | none =>
      if deadline - now ≤ 0 then (crowd.place thread .idle, [.expired thread request now])
      else (crowd.place thread (.sleeping request deadline (now + (deadline - now)) crowd.notifications), [])

/-- One step, which ends at the clock reading `now`. -/
def advance (now : Time) : WaitInput Thread Update Request Time →
    Option (Crowd Thread State Request Time × List (WaitEvent Thread Update Request Result Time))
  | .call thread request timeout =>
      match crowd.threads thread with
      | .idle => some (crowd.place thread (.testing request (now + timeout)),
          [.called thread request (now + timeout)])
      | _ => none
  | .test thread =>
      match crowd.threads thread with
      | .testing request deadline => some (crowd.test room thread request deadline now)
      | _ => none
  | .wake thread =>
      match crowd.threads thread with
      | .sleeping request deadline wake seen =>
          if seen < crowd.notifications ∨ wake ≤ now then some (crowd.place thread (.testing request deadline), [])
          else none
      | _ => none
  | .update update =>
      some ({ crowd with
        state := (room.apply crowd.state update).1
        notifications := crowd.notifications + (room.apply crowd.state update).2.toNat }, [.updated update])

end Steps

end Crowd

/-- All interleavings of the threads and the updates. -/
def Room.machine [AddCommGroup Time] [LinearOrder Time] (room : Room State Update Request Result)
    (Thread : Type*) [DecidableEq Thread] :
    Machine (Timed Time (Crowd Thread State Request Time)) (Time × WaitInput Thread Update Request Time)
      (WaitEvent Thread Update Request Result Time) :=
  clocked fun crowd now input => crowd.advance room now input

/-- No update answers a request in silence. -/
def Room.Announces (room : Room State Update Request Result) (request : Request) : Prop :=
  ∀ state update, room.answer request state = none → room.answer request (room.apply state update).1 ≠ none →
    (room.apply state update).2 = true

/-- Updates that change nothing unless they notify. -/
theorem Room.announces_of_unchanged {room : Room State Update Request Result} (request : Request)
    (unchanged : ∀ state update, (room.apply state update).2 = false → (room.apply state update).1 = state) :
    room.Announces request := by
  intro state update unanswered answered
  by_contra silent
  rw [unchanged state update (Bool.eq_false_iff.mpr silent)] at answered
  exact answered unanswered

section Steps

variable [AddCommGroup Time] [LinearOrder Time] {room : Room State Update Request Result}
  {crowd next : Crowd Thread State Request Time} {now : Time}
  {input : WaitInput Thread Update Request Time} {events : List (WaitEvent Thread Update Request Result Time)}

/-- What a step of a room does. -/
inductive Crowd.Step (room : Room State Update Request Result) (now : Time)
    (crowd : Crowd Thread State Request Time) :
    List (WaitEvent Thread Update Request Result Time) → Crowd Thread State Request Time → Prop
  | call {thread : Thread} (request : Request) (timeout : Time) (idle : crowd.threads thread = .idle) :
      Step room now crowd [.called thread request (now + timeout)]
        (crowd.place thread (.testing request (now + timeout)))
  | answer {thread : Thread} {request : Request} {deadline : Time} {result : Result}
      (tests : crowd.threads thread = .testing request deadline)
      (answered : room.answer request crowd.state = some result) :
      Step room now crowd [.returned thread request result] (crowd.place thread .idle)
  | expire {thread : Thread} {request : Request} {deadline : Time}
      (tests : crowd.threads thread = .testing request deadline)
      (unanswered : room.answer request crowd.state = none) (late : deadline ≤ now) :
      Step room now crowd [.expired thread request now] (crowd.place thread .idle)
  | sleep {thread : Thread} {request : Request} {deadline : Time}
      (tests : crowd.threads thread = .testing request deadline)
      (unanswered : room.answer request crowd.state = none) (early : now < deadline) :
      Step room now crowd [] (crowd.place thread (.sleeping request deadline deadline crowd.notifications))
  | wake {thread : Thread} {request : Request} {deadline wake : Time} {seen : ℕ}
      (sleeps : crowd.threads thread = .sleeping request deadline wake seen)
      (woken : seen < crowd.notifications ∨ wake ≤ now) :
      Step room now crowd [] (crowd.place thread (.testing request deadline))
  | update (update : Update) :
      Step room now crowd [.updated update]
        { crowd with
          state := (room.apply crowd.state update).1
          notifications := crowd.notifications + (room.apply crowd.state update).2.toNat }

theorem Crowd.step_of_advance [IsOrderedAddMonoid Time]
    (stepped : crowd.advance room now input = some (next, events)) : crowd.Step room now events next := by
  unfold Crowd.advance at stepped
  cases input with
  | call thread request timeout =>
      dsimp only at stepped
      split at stepped
      · rename_i idle
        cases stepped
        exact .call request timeout idle
      · cases stepped
  | test thread =>
      dsimp only at stepped
      split at stepped
      · rename_i request deadline tests
        unfold Crowd.test at stepped
        split at stepped
        · rename_i answered
          cases stepped
          exact .answer tests answered
        · rename_i unanswered
          split at stepped
          · rename_i late
            cases stepped
            exact .expire tests unanswered (sub_nonpos.mp late)
          · rename_i early
            cases stepped
            rw [add_sub_cancel]
            exact .sleep tests unanswered (sub_pos.mp (not_le.mp early))
      · cases stepped
  | wake thread =>
      dsimp only at stepped
      split at stepped
      · rename_i sleeps
        split at stepped
        · rename_i woken
          cases stepped
          exact .wake sleeps woken
        · cases stepped
      · cases stepped
  | update update =>
      cases stepped
      exact .update update

end Steps

section Laws

variable {room : Room State Update Request Result}

namespace Crowd

section Places

variable {crowd : Crowd Thread State Request Time} {thread other : Thread} {waiter : Waiter Request Time}

@[simp] theorem place_same : (crowd.place thread waiter).threads thread = waiter := Function.update_self ..

theorem place_other (different : other ≠ thread) : (crowd.place thread waiter).threads other = crowd.threads other :=
  Function.update_of_ne different ..

end Places

/-- A sleeping thread sleeps to its deadline, and nothing has answered it since it last saw the notifications. -/
structure Asleep (room : Room State Update Request Result) (crowd : Crowd Thread State Request Time)
    (request : Request) (deadline wake : Time) (seen : ℕ) : Prop where
  bounded : wake = deadline
  past : seen ≤ crowd.notifications
  unanswered : room.Announces request → seen = crowd.notifications → room.answer request crowd.state = none

/-- Every sleeping thread has a reason to sleep. -/
def Alert (room : Room State Update Request Result) (crowd : Crowd Thread State Request Time) : Prop :=
  ∀ thread request deadline wake seen, crowd.threads thread = .sleeping request deadline wake seen →
    crowd.Asleep room request deadline wake seen

variable {crowd next : Crowd Thread State Request Time}

omit [DecidableEq Thread] in
/-- A sleeping thread whose answer is there has been notified. -/
theorem Alert.notified (alert : crowd.Alert room)
    {thread : Thread} {request : Request} {deadline wake : Time} {seen : ℕ}
    (sleeps : crowd.threads thread = .sleeping request deadline wake seen) (announces : room.Announces request)
    (answered : room.answer request crowd.state ≠ none) : seen < crowd.notifications := by
  obtain ⟨-, past, unanswered⟩ := alert thread request deadline wake seen sleeps
  rcases past.eq_or_lt with same | less
  · exact absurd (unanswered announces same) answered
  · exact less

/-- A thread that is placed awake leaves the others as they are. -/
theorem Alert.awake (alert : crowd.Alert room) {thread : Thread} {waiter : Waiter Request Time}
    (awake : ∀ request deadline wake seen, waiter ≠ .sleeping request deadline wake seen) :
    (crowd.place thread waiter).Alert room := by
  intro other request deadline wake seen sleeps
  by_cases same : other = thread
  · subst same
    rw [place_same] at sleeps
    exact absurd sleeps (awake request deadline wake seen)
  · rw [place_other same] at sleeps
    obtain ⟨bounded, past, unanswered⟩ := alert other request deadline wake seen sleeps
    exact ⟨bounded, past, unanswered⟩

/-- A step leaves no thread asleep without a reason. -/
theorem Alert.step [AddCommGroup Time] [LinearOrder Time] {now : Time}
    {events : List (WaitEvent Thread Update Request Result Time)} (alert : crowd.Alert room)
    (step : crowd.Step room now events next) : next.Alert room := by
  cases step with
  | call request timeout idle => exact alert.awake (by rintro _ _ _ _ ⟨⟩)
  | answer tests answered => exact alert.awake (by rintro _ _ _ _ ⟨⟩)
  | expire tests unanswered late => exact alert.awake (by rintro _ _ _ _ ⟨⟩)
  | wake sleeps woken => exact alert.awake (by rintro _ _ _ _ ⟨⟩)
  | @sleep thread request deadline tests unanswered early =>
      intro other asked until' wake seen sleeps
      by_cases same : other = thread
      · subst same
        rw [place_same] at sleeps
        cases sleeps
        exact ⟨rfl, le_refl _, fun _ _ => unanswered⟩
      · rw [place_other same] at sleeps
        obtain ⟨bounded, past, still⟩ := alert other asked until' wake seen sleeps
        exact ⟨bounded, past, still⟩
  | update update =>
      intro thread request deadline wake seen sleeps
      obtain ⟨bounded, past, unanswered⟩ := alert thread request deadline wake seen sleeps
      refine ⟨bounded, Nat.le_add_right_of_le past, fun announces same => ?_⟩
      dsimp only at same ⊢
      have silent : (room.apply crowd.state update).2 = false := by
        cases told : (room.apply crowd.state update).2 with
        | false => rfl
        | true =>
            rw [told, Bool.toNat_true] at same
            omega
      rw [silent, Bool.toNat_false, Nat.add_zero] at same
      by_contra answered
      have told := announces crowd.state update (unanswered announces same) answered
      rw [silent] at told
      cases told

end Crowd

/-- The thread of an event of a call. -/
def WaitEvent.caller : WaitEvent Thread Update Request Result Time → Option Thread
  | .called thread _ _ | .returned thread _ _ | .expired thread _ _ => some thread
  | .updated _ => none

/-- A thread is in a call with a deadline. -/
def InCall (log : List (WaitEvent Thread Update Request Result Time)) (thread : Thread) (request : Request)
    (deadline : Time) : Prop :=
  ∃ past rest, log = past ++ .called thread request deadline :: rest ∧ ∀ event ∈ rest, event.caller ≠ some thread

/-- What an event does to the state of a room. -/
def Room.follow (room : Room State Update Request Result) (state : State) :
    WaitEvent Thread Update Request Result Time → State
  | .updated update => (room.apply state update).1
  | _ => state

/-- The state that the updates of a log lead to. -/
def Room.after (room : Room State Update Request Result) (start : State)
    (log : List (WaitEvent Thread Update Request Result Time)) : State :=
  log.foldl room.follow start

omit [DecidableEq Thread] in
theorem Room.after_snoc (room : Room State Update Request Result) (start : State)
    (log : List (WaitEvent Thread Update Request Result Time)) (event : WaitEvent Thread Update Request Result Time) :
    room.after start (log ++ [event]) = room.follow (room.after start log) event := by
  rw [after, List.foldl_append]
  rfl

/-- A call that ends is the one of its thread. It returns what answers it at that moment, and it expires only
without an answer and past its deadline. -/
def Punctual [LE Time] (room : Room State Update Request Result) (start : State)
    (log : List (WaitEvent Thread Update Request Result Time)) : WaitEvent Thread Update Request Result Time → Prop
  | .returned thread request result => room.answer request (room.after start log) = some result ∧
      ∃ deadline, InCall log thread request deadline
  | .expired thread request now => room.answer request (room.after start log) = none ∧
      ∃ deadline ≤ now, InCall log thread request deadline
  | .called .. | .updated _ => True

section Calls

variable {log : List (WaitEvent Thread Update Request Result Time)} {thread other : Thread} {request : Request}
  {deadline : Time}

omit [DecidableEq Thread] in
/-- An event of another thread leaves a call open. -/
theorem InCall.snoc {event : WaitEvent Thread Update Request Result Time} (inCall : InCall log thread request deadline)
    (foreign : event.caller ≠ some thread) : InCall (log ++ [event]) thread request deadline := by
  obtain ⟨past, rest, rfl, others⟩ := inCall
  refine ⟨past, rest ++ [event], by rw [List.append_assoc, List.cons_append], fun entry member => ?_⟩
  rcases List.mem_append.mp member with old | new
  · exact others entry old
  · rwa [List.mem_singleton.mp new]

omit [DecidableEq Thread] in
theorem inCall_called : InCall (log ++ [.called thread request deadline]) thread request deadline :=
  ⟨log, [], rfl, by rintro event ⟨⟩⟩

end Calls

namespace Crowd

/-- What a thread is busy with is the call that it is in, and the state is the one that the updates lead to. -/
structure Calling (room : Room State Update Request Result) (start : State)
    (log : List (WaitEvent Thread Update Request Result Time)) (crowd : Crowd Thread State Request Time) : Prop where
  same : crowd.state = room.after start log
  busy : ∀ thread request deadline, (crowd.threads thread = .testing request deadline ∨
    ∃ wake seen, crowd.threads thread = .sleeping request deadline wake seen) → InCall log thread request deadline

variable {crowd next : Crowd Thread State Request Time} {start : State}
  {log : List (WaitEvent Thread Update Request Result Time)}

/-- A thread that takes its place in silence. -/
theorem Calling.quiet (calling : crowd.Calling room start log) {thread : Thread} {waiter : Waiter Request Time}
    (own : ∀ request deadline, (waiter = .testing request deadline ∨
      ∃ wake seen, waiter = .sleeping request deadline wake seen) → InCall log thread request deadline) :
    (crowd.place thread waiter).Calling room start (log ++ []) := by
  rw [List.append_nil]
  refine ⟨calling.same, fun other request deadline busy => ?_⟩
  by_cases same : other = thread
  · subst same
    rw [place_same] at busy
    exact own request deadline busy
  · rw [place_other same] at busy
    exact calling.busy other request deadline busy

/-- A thread that takes its place with an event of its own. -/
theorem Calling.place (calling : crowd.Calling room start log) {thread : Thread} {waiter : Waiter Request Time}
    {event : WaitEvent Thread Update Request Result Time} (mine : event.caller = some thread)
    (own : ∀ request deadline, (waiter = .testing request deadline ∨
      ∃ wake seen, waiter = .sleeping request deadline wake seen) →
        InCall (log ++ [event]) thread request deadline) :
    (crowd.place thread waiter).Calling room start (log ++ [event]) := by
  constructor
  · rw [room.after_snoc, ← calling.same]
    cases event with
    | updated update => cases mine
    | _ => rfl
  · intro other request deadline busy
    by_cases same : other = thread
    · subst same
      rw [place_same] at busy
      exact own request deadline busy
    · rw [place_other same] at busy
      apply (calling.busy other request deadline busy).snoc
      rw [mine]
      exact fun other' => same (Option.some.inj other').symm

/-- A step ends only calls that are open, with what answers them. -/
theorem Calling.step [AddCommGroup Time] [LinearOrder Time] {now : Time}
    {events : List (WaitEvent Thread Update Request Result Time)} (calling : crowd.Calling room start log)
    (justified : Justified (Punctual room start) log) (step : crowd.Step room now events next) :
    Justified (Punctual room start) (log ++ events) ∧ next.Calling room start (log ++ events) := by
  have quiet : Justified (Punctual room start) (log ++ []) := by rwa [List.append_nil]
  cases step with
  | call request timeout idle =>
      refine ⟨justified.snoc trivial, calling.place rfl fun asked until' busy => ?_⟩
      rcases busy with same | ⟨wake, seen, same⟩
      · cases same
        exact inCall_called
      · cases same
  | answer tests answered =>
      refine ⟨justified.snoc ⟨?_, _, calling.busy _ _ _ (.inl tests)⟩, calling.place rfl fun asked until' busy => ?_⟩
      · rw [← calling.same]
        exact answered
      · rcases busy with same | ⟨wake, seen, same⟩
        · cases same
        · cases same
  | expire tests unanswered late =>
      refine ⟨justified.snoc ⟨?_, _, late, calling.busy _ _ _ (.inl tests)⟩,
        calling.place rfl fun asked until' busy => ?_⟩
      · rw [← calling.same]
        exact unanswered
      · rcases busy with same | ⟨wake, seen, same⟩
        · cases same
        · cases same
  | sleep tests unanswered early =>
      refine ⟨quiet, calling.quiet fun asked until' busy => ?_⟩
      rcases busy with same | ⟨wake, seen, same⟩
      · cases same
      · cases same
        exact calling.busy _ _ _ (.inl tests)
  | wake sleeps woken =>
      refine ⟨quiet, calling.quiet fun asked until' busy => ?_⟩
      rcases busy with same | ⟨wake, seen, same⟩
      · cases same
        exact calling.busy _ _ _ (.inr ⟨_, _, sleeps⟩)
      · cases same
  | update update =>
      refine ⟨justified.snoc trivial, ?_, fun thread request deadline busy => ?_⟩
      · rw [room.after_snoc, ← calling.same]
        rfl
      · exact (calling.busy thread request deadline busy).snoc (by rintro ⟨⟩)

end Crowd

end Laws

section Runs

variable [AddCommGroup Time] [LinearOrder Time] [IsOrderedAddMonoid Time] {room : Room State Update Request Result}
  {state : State} {begun : Time} {final : Timed Time (Crowd Thread State Request Time)}
  {moves : List (Move (Timed Time (Crowd Thread State Request Time)) (Time × WaitInput Thread Update Request Time)
    (WaitEvent Thread Update Request Result Time))}

/-- In every run each sleeping thread has a reason to sleep, and calls end as they should. -/
theorem Room.run (run : (room.machine Thread).Run ⟨begun, { state }⟩ moves final) :
    final.state.Alert room ∧ Justified (Punctual room state) (trace moves) := by
  have held : final.state.Alert room ∧ Justified (Punctual room state) (trace moves) ∧
      final.state.Calling room state (trace moves) := by
    refine clocked_invariant (fun log _ crowd => crowd.Alert room ∧ Justified (Punctual room state) log ∧
      crowd.Calling room state log) ?_ ?_ run
    · refine ⟨?_, .empty, rfl, ?_⟩
      · intro thread request deadline wake seen sleeps
        cases sleeps
      · intro thread request deadline busy
        rcases busy with tests | ⟨wake, seen, sleeps⟩
        · cases tests
        · cases sleeps
    · intro log time crowd now input next events ⟨alert, justified, calling⟩ _ advanced
      have step := Crowd.step_of_advance advanced
      exact ⟨alert.step step, calling.step justified step⟩
  exact ⟨held.1, held.2.1⟩

/-- Calls end as they should in every run. A thread that sleeps does so to its deadline at most, and it has been
notified when its answer is there. -/
def Room.Attentive (room : Room State Update Request Result) (Time : Type*) [AddCommGroup Time] [LinearOrder Time]
    (wants : Request → Prop) : Prop :=
  ∀ (Thread : Type) [DecidableEq Thread] (state : State) (begun : Time) moves final,
    (room.machine Thread).Run ⟨begun, { state }⟩ moves final →
      Justified (Punctual room state) (trace moves) ∧
        ∀ thread request deadline wake seen, wants request →
          final.state.threads thread = .sleeping request deadline wake seen →
            wake = deadline ∧ (room.answer request final.state.state ≠ none → seen < final.state.notifications)

omit [DecidableEq Thread] in
/-- A room is attentive to the requests that no update answers in silence. -/
theorem Room.attentive {wants : Request → Prop} (announces : ∀ request, wants request → room.Announces request) :
    room.Attentive Time wants := by
  intro Thread _ state begun moves final run
  obtain ⟨alert, punctual⟩ := Room.run run
  refine ⟨punctual, fun thread request deadline wake seen wanted sleeps => ?_⟩
  exact ⟨(alert thread request deadline wake seen sleeps).bounded, alert.notified sleeps (announces request wanted)⟩

end Runs

end HumanoidSdk.Foundation
