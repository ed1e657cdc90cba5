import HumanoidSdk.Mock.ProtocolInvariant

namespace HumanoidSdk.Mock
open Foundation

/-- An accepted PREPARE starts the first deadline. -/
def isPrepare : ProtocolEvent → Bool
  | .armed .. => true
  | _ => false

/-- An accepted COMMIT and every accepted command start the second deadline. -/
def isLive : ProtocolEvent → Bool
  | .started .. => true
  | .accepted _ => true
  | _ => false

/-- The events of a run carry the clock reading of their call. -/
def stamps (moves : List (Move Robot Call ProtocolEvent)) : List (UInt64 × ProtocolEvent) :=
  moves.flatMap fun move => move.events.map (Prod.mk move.input.now)

@[simp] theorem stamps_snoc (moves : List (Move Robot Call ProtocolEvent))
    (move : Move Robot Call ProtocolEvent) :
    stamps (moves ++ [move]) = stamps moves ++ move.events.map (Prod.mk move.input.now) := by
  simp [stamps]

/-- The clock reading of the last event of one kind. -/
def lastTime (select : ProtocolEvent → Bool) (log : List (UInt64 × ProtocolEvent)) : Option UInt64 :=
  ((log.filter fun stamp => select stamp.2).map Prod.fst).getLast?

@[simp] theorem lastTime_snoc (select : ProtocolEvent → Bool) (log : List (UInt64 × ProtocolEvent))
    (now : UInt64) (event : ProtocolEvent) :
    lastTime select (log ++ [(now, event)]) = if select event then some now else lastTime select log := by
  cases chosen : select event with
  | true => simp [lastTime, chosen]
  | false => simp [lastTime, chosen]

namespace Protocol

/-- The start of each running deadline is the reading of the event that set it. -/
structure Dated (log : List (UInt64 × ProtocolEvent)) (p : Protocol) : Prop where
  armed : p.status.phase = 2 → lastTime isPrepare log = some p.preparedNs
  running : p.status.phase = 4 → lastTime isLive log = some p.status.lastValidNs

theorem Primitive.dated {now : UInt64} {log : List (UInt64 × ProtocolEvent)} {p q : Protocol}
    {event : ProtocolEvent} (held : p.Dated log) (step : Primitive now p event q) :
    q.Dated (log ++ [(now, event)]) := by
  cases step with
  | expired | cancelled => exact ⟨by simp [clear, invalidateApplied], by simp [clear, invalidateApplied]⟩
  | held => exact ⟨by simp [hold, invalidateApplied], by simp [hold, invalidateApplied]⟩
  | armed => exact ⟨by simp [arm, isPrepare], by simp [arm]⟩
  | started => exact ⟨by simp [start], by simp [start, isLive]⟩
  | refused => exact ⟨by simpa [isPrepare, refuse] using held.armed, by simpa [isLive, refuse] using held.running⟩
  | applied => exact ⟨by simpa [isPrepare, apply] using held.armed, by simpa [isLive, apply] using held.running⟩
  | accepted => exact ⟨by simp [store], by simp [store, isLive]⟩

/-- Neither deadline starts after the present reading. -/
structure Past (now : UInt64) (p : Protocol) : Prop where
  prepared : p.preparedNs ≤ now
  valid : p.status.lastValidNs ≤ now

theorem Past.later {before now : UInt64} {p : Protocol} (past : p.Past before) (order : before ≤ now) :
    p.Past now := ⟨UInt64.le_trans past.prepared order, UInt64.le_trans past.valid order⟩

theorem Primitive.past {now : UInt64} {p q : Protocol} {event : ProtocolEvent} (past : p.Past now)
    (step : Primitive now p event q) : q.Past now := by
  have zero : (0 : UInt64) ≤ now := UInt64.zero_le
  cases step with
  | expired | cancelled => exact ⟨zero, zero⟩
  | armed => exact ⟨UInt64.le_refl now, past.valid⟩
  | started | accepted => exact ⟨past.prepared, UInt64.le_refl now⟩
  | held | refused | applied => exact ⟨past.prepared, past.valid⟩

/-- No primitive changes the two timeouts. -/
theorem Primitive.timeouts {now : UInt64} {p q : Protocol} {event : ProtocolEvent}
    (step : Primitive now p event q) :
    q.prepareTimeoutNs = p.prepareTimeoutNs ∧ q.commandTimeoutNs = p.commandTimeoutNs := by
  cases step with
  | _ => exact ⟨rfl, rfl⟩

theorem Path.timeouts {now : UInt64} {p q : Protocol} {events : List ProtocolEvent}
    (path : Path now p events q) :
    q.prepareTimeoutNs = p.prepareTimeoutNs ∧ q.commandTimeoutNs = p.commandTimeoutNs := by
  induction path with
  | nil => exact ⟨rfl, rfl⟩
  | snoc _ last ih => exact ⟨last.timeouts.1.trans ih.1, last.timeouts.2.trans ih.2⟩

/-- The time since the start of a deadline stays below its timeout. -/
structure InTime (now : UInt64) (p : Protocol) : Prop extends Past now p where
  prepareLeft : p.status.phase = 2 → now.toNat - p.preparedNs.toNat < p.prepareTimeoutNs.toNat
  commandLeft : p.status.phase = 4 → now.toNat - p.status.lastValidNs.toNat < p.commandTimeoutNs.toNat

/-- A subtraction that does not wrap is due exactly when its true value reaches the timeout. -/
theorem due_iff {now begun timeout : UInt64} (past : begun ≤ now) :
    now - begun ≥ timeout ↔ timeout.toNat ≤ now.toNat - begun.toNat := by
  rw [ge_iff_le, UInt64.le_iff_toNat_le, UInt64.toNat_sub_of_le _ _ past]

/-- What every primitive keeps about the Protocol, every path keeps. -/
theorem Path.keeps {now : UInt64} {p q : Protocol} {events : List ProtocolEvent} (holds : Protocol → Prop)
    (preserved : ∀ p event q, holds p → Primitive now p event q → holds q) (initial : holds p)
    (path : Path now p events q) : holds q := by
  induction path with
  | nil => exact initial
  | snoc _ last ih => exact preserved _ _ _ ih last

theorem watchdog_past {p : Protocol} {now : UInt64} (past : p.Past now) : (p.watchdog now).Past now :=
  (p.watchdog_path now).keeps (Past now) (fun _ _ _ held step => step.past held) past

/-- The watchdog leaves no deadline that has passed. -/
theorem watchdog_inTime {p : Protocol} {now : UInt64} (past : p.Past now) : (p.watchdog now).InTime now := by
  refine { watchdog_past past with prepareLeft := ?_, commandLeft := ?_ }
  all_goals
    rcases p.watchdog_cases now with ⟨kept, _, early, live⟩ | ⟨_, _, fired, _⟩ | ⟨_, _, fired, _⟩
  · rw [kept]
    intro phase
    have notDue := early phase
    rw [due_iff past.prepared] at notDue
    omega
  · simp [fired, clear, invalidateApplied]
  · simp [fired, hold, invalidateApplied]
  · rw [kept]
    intro phase
    have notDue := live phase
    rw [due_iff past.valid] at notDue
    omega
  · simp [fired, clear, invalidateApplied]
  · simp [fired, hold, invalidateApplied]

/-- A deadline that starts now has all its time left. -/
theorem Primitive.inTime {now : UInt64} {p q : Protocol} {event : ProtocolEvent}
    (positive : p.prepareTimeoutNs ≠ 0 ∧ p.commandTimeoutNs ≠ 0) (held : p.InTime now)
    (step : Primitive now p event q) : q.InTime now := by
  have first : 0 < p.prepareTimeoutNs.toNat := UInt64.pos_iff_ne_zero.mpr positive.1
  have second : 0 < p.commandTimeoutNs.toNat := UInt64.pos_iff_ne_zero.mpr positive.2
  refine { step.past held.toPast with prepareLeft := ?_, commandLeft := ?_ }
  · cases step with
    | expired | cancelled => simp [clear, invalidateApplied]
    | held => simp [hold, invalidateApplied]
    | armed => simpa [arm] using first
    | started => simp [start]
    | refused | applied => exact held.prepareLeft
    | accepted => simp [store]
  · cases step with
    | expired | cancelled => simp [clear, invalidateApplied]
    | held => simp [hold, invalidateApplied]
    | armed => simp [arm]
    | started => simpa [start] using second
    | refused | applied => exact held.commandLeft
    | accepted => simpa [store] using second

/-- After its watchdog a call runs at most one more primitive. -/
theorem call_tail (p : Protocol) (c : Call) :
    ∃ events, Path c.now (p.watchdog c.now) events (p.call c) := by
  cases c with
  | requestControl r now => exact ⟨_, answer_path (.nil (p.watchdog now)) r⟩
  | accept cmd now =>
      cases valid : (p.watchdog now).valid cmd with
      | true => exact ⟨_, by simpa [call, accept, valid, Call.now] using Path.single (.accepted valid)⟩
      | false => exact ⟨_, by simpa [call, accept, valid, Call.now] using Path.single (.refused valid)⟩
  | tick now wallUs =>
      by_cases idle : (p.watchdog now).hasPending = false ∨ (p.watchdog now).status.phase ≠ 4
      · exact ⟨[], by simpa [call, tick, idle, Call.now] using Path.nil (p.watchdog now)⟩
      · obtain ⟨full, running⟩ := not_or.mp idle
        have applied : Path now (p.watchdog now) _ ((p.watchdog now).apply wallUs) :=
          .single (.applied (by simpa using full) (not_not.mp running))
        exact ⟨_, by simpa [call, tick, idle, Call.now] using applied⟩
  | watchdog now => exact ⟨[], .nil (p.watchdog now)⟩

/-- What every call keeps about the clock, the log and the timeouts. -/
structure Timed (moves : List (Move Robot Call ProtocolEvent)) (now : UInt64) (p : Protocol) : Prop where
  dated : p.Dated (stamps moves)
  inTime : p.InTime now
  positive : p.prepareTimeoutNs ≠ 0 ∧ p.commandTimeoutNs ≠ 0

/-- A call at a later reading keeps the facts about time. -/
theorem call_timed {moves : List (Move Robot Call ProtocolEvent)} {robot : Robot} {c : Call}
    (held : robot.protocol.Timed moves robot.clock) (order : robot.clock ≤ c.now) :
    (robot.protocol.call c).Timed (moves ++ [⟨robot, c, ⟨robot.protocol.call c, c.now⟩,
      robot.protocol.callEvents c⟩]) c.now := by
  obtain ⟨events, tail⟩ := robot.protocol.call_tail c
  have watched : (robot.protocol.watchdog c.now).prepareTimeoutNs ≠ 0 ∧
      (robot.protocol.watchdog c.now).commandTimeoutNs ≠ 0 := by
    rw [(robot.protocol.watchdog_path c.now).timeouts.1, (robot.protocol.watchdog_path c.now).timeouts.2]
    exact held.positive
  constructor
  · have start : robot.protocol.Dated (stamps moves ++ ([] : List ProtocolEvent).map (Prod.mk c.now)) := by
      simpa using held.dated
    have dated := (robot.protocol.call_path c).invariant
      (fun log p => p.Dated (stamps moves ++ log.map (Prod.mk c.now)))
      (fun log p event q before step => by simpa using step.dated before) start
    simpa using dated
  · refine (tail.keeps (fun p => (p.prepareTimeoutNs ≠ 0 ∧ p.commandTimeoutNs ≠ 0) ∧ p.InTime c.now)
      (fun _ _ _ before step => ⟨?_, step.inTime before.1 before.2⟩)
      ⟨watched, watchdog_inTime (held.inTime.toPast.later order)⟩).2
    rw [step.timeouts.1, step.timeouts.2]
    exact before.1
  · rw [(robot.protocol.call_path c).timeouts.1, (robot.protocol.call_path c).timeouts.2]
    exact held.positive

/-- The facts about time hold after every run from the constructor. -/
theorem timed_run {seed streamTimeout prepareTimeout : UInt64} {rejectOperation : Int} {p : Protocol}
    (created : create seed streamTimeout prepareTimeout rejectOperation = some p)
    {moves : List (Move Robot Call ProtocolEvent)} {robot : Robot}
    (run : robotMachine.Run ⟨p, 0⟩ moves robot) :
    robot.protocol.Timed moves robot.clock ∧ robot.protocol.prepareTimeoutNs = prepareTimeout ∧
      robot.protocol.commandTimeoutNs = streamTimeout := by
  unfold create at created
  split at created
  · simp at created
  · rename_i positive
    simp only [not_or] at positive
    obtain rfl := Option.some.inj created
    refine run.invariant (fun moves robot => robot.protocol.Timed moves robot.clock ∧
      robot.protocol.prepareTimeoutNs = prepareTimeout ∧
      robot.protocol.commandTimeoutNs = streamTimeout) ?_ ?_
    · refine ⟨⟨⟨by simp, by simp⟩, ⟨⟨UInt64.le_refl 0, UInt64.le_refl 0⟩, by simp, by simp⟩, ?_⟩, rfl, rfl⟩
      exact ⟨positive.2.2, positive.2.1⟩
    · intro moves robot c next events _ held accepted
      obtain ⟨order, rfl, rfl⟩ := robotMachine_step accepted
      have same := (robot.protocol.call_path c).timeouts
      exact ⟨call_timed held.1 order, same.1.trans held.2.1, same.2.trans held.2.2⟩

/-- The reading from which the watchdog ends the present phase. -/
def deadline (p : Protocol) : Option Nat :=
  if p.status.phase = 2 then some (p.preparedNs.toNat + p.prepareTimeoutNs.toNat)
  else if p.status.phase = 4 then some (p.status.lastValidNs.toNat + p.commandTimeoutNs.toNat)
  else none

theorem deadline_armed {p : Protocol} (armed : p.status.phase = 2) :
    p.deadline = some (p.preparedNs.toNat + p.prepareTimeoutNs.toNat) := if_pos armed

theorem deadline_running {p : Protocol} (running : p.status.phase = 4) :
    p.deadline = some (p.status.lastValidNs.toNat + p.commandTimeoutNs.toNat) := by
  rw [deadline, if_neg (by omega), if_pos running]

/-- The request repeats what is already done. -/
def Repeats (p : Protocol) (r : Request) : Prop :=
  r.operation = 1 ∧ p.status.clientId ≠ "" ∨
    r.operation = 2 ∧ (p.status.phase = 4 ∨ p.status.phase = 5) ∨
    r.operation = 3 ∧ p.status.clientId = ""

/-- Rejected commands, rejected requests and idempotent retries change nothing about time. -/
def Ineffective (p : Protocol) : Call → Prop
  | .requestControl r now => (p.requestControl r now).1.accepted = false ∨ (p.watchdog now).Repeats r
  | .accept cmd now => (p.accept cmd now).1 = false
  | .tick _ _ => True
  | .watchdog _ => True

/-- An ineffective call leaves the deadline where its watchdog left it. -/
theorem ineffective_deadline {p : Protocol} {c : Call} (ineffective : p.Ineffective c) :
    (p.call c).deadline = (p.watchdog c.now).deadline := by
  cases c with
  | requestControl r now =>
      have answered := (p.watchdog now).answer_cases r now
      change ((p.watchdog now).answer r now).1.accepted = false ∨ _ at ineffective
      change ((p.watchdog now).answer r now).2.deadline = _
      generalize (p.watchdog now).answer r now = result at answered ineffective
      cases answered with
      | refused | preparedAgain | alreadyIdle | committedAgain => rfl
      | armed prepare idle =>
          rcases ineffective with refused | repeats
          · simp [reply] at refused
          · simp [Repeats, prepare, idle] at repeats
      | cancelled cancel busy =>
          rcases ineffective with refused | repeats
          · simp [reply] at refused
          · simp [Repeats, cancel, busy] at repeats
      | started commit owner phase =>
          rcases ineffective with refused | repeats
          · simp [reply] at refused
          · simp [Repeats, commit, phase] at repeats
  | accept cmd now =>
      have refused : (p.watchdog now).valid cmd = false := by
        cases valid : (p.watchdog now).valid cmd with
        | true => simp [Ineffective, accept, valid] at ineffective
        | false => rfl
      have kept : (p.watchdog now).refuse.deadline = (p.watchdog now).deadline := rfl
      simpa [call, accept, refused, Call.now] using kept
  | tick now wallUs =>
      by_cases idle : (p.watchdog now).hasPending = false ∨ (p.watchdog now).status.phase ≠ 4
      · simp [call, tick, idle, Call.now]
      · have kept : ((p.watchdog now).apply wallUs).deadline = (p.watchdog now).deadline := rfl
        simpa [call, tick, idle, Call.now] using kept
  | watchdog now => rfl

/-- The watchdog keeps a deadline that lies ahead and removes one that has passed. -/
theorem watchdog_deadline {p : Protocol} {now : UInt64} (past : p.Past now) :
    (p.watchdog now).deadline = p.deadline ∧ (∀ due, p.deadline = some due → now.toNat < due) ∨
      (p.watchdog now).deadline = none ∧ ∃ due, p.deadline = some due ∧ due ≤ now.toNat := by
  have prepared := UInt64.le_iff_toNat_le.mp past.prepared
  have valid := UInt64.le_iff_toNat_le.mp past.valid
  rcases p.watchdog_cases now with ⟨kept, _, early, live⟩ | ⟨armed, due, fired, _⟩ | ⟨running, due, fired, _⟩
  · rw [kept]
    refine Or.inl ⟨rfl, fun due ends => ?_⟩
    by_cases armed : p.status.phase = 2
    · have notDue := early armed
      rw [due_iff past.prepared] at notDue
      rw [deadline_armed armed, Option.some.injEq] at ends
      omega
    · by_cases running : p.status.phase = 4
      · have notDue := live running
        rw [due_iff past.valid] at notDue
        rw [deadline_running running, Option.some.injEq] at ends
        omega
      · simp [deadline, armed, running] at ends
  · rw [due_iff past.prepared] at due
    refine Or.inr ⟨by simp [fired, deadline, clear, invalidateApplied], _, deadline_armed armed, ?_⟩
    omega
  · rw [due_iff past.valid] at due
    refine Or.inr ⟨by simp [fired, deadline, hold, invalidateApplied], _, deadline_running running, ?_⟩
    omega

/-- No primitive after the watchdog of a call enters TIMEOUT_HOLD. -/
theorem call_hold {p : Protocol} {c : Call} (past : p.Past c.now)
    (positive : p.prepareTimeoutNs ≠ 0 ∧ p.commandTimeoutNs ≠ 0)
    (watched : (p.watchdog c.now).status.phase ≠ 5) : (p.call c).status.phase ≠ 5 := by
  obtain ⟨events, tail⟩ := p.call_tail c
  have before : (p.watchdog c.now).prepareTimeoutNs ≠ 0 ∧ (p.watchdog c.now).commandTimeoutNs ≠ 0 := by
    rwa [(p.watchdog_path c.now).timeouts.1, (p.watchdog_path c.now).timeouts.2]
  refine (tail.keeps (fun p => (p.prepareTimeoutNs ≠ 0 ∧ p.commandTimeoutNs ≠ 0) ∧
    p.InTime c.now ∧ p.status.phase ≠ 5) (fun p event q held step => ?_)
    ⟨before, watchdog_inTime past, watched⟩).2.2
  refine ⟨by rw [step.timeouts.1, step.timeouts.2]; exact held.1, step.inTime held.1 held.2.1, ?_⟩
  cases step with
  | expired | cancelled => simp [clear, invalidateApplied]
  | held running due =>
      rw [due_iff held.2.1.valid] at due
      exact absurd (held.2.1.commandLeft running) (by omega)
  | armed => simp [arm]
  | started => simp [start]
  | refused | applied => exact held.2.2
  | accepted => simp [store]

/-- What the two watchdogs guarantee about one call of a run. -/
structure Exact (streamTimeout prepareTimeout : UInt64) (earlier : List (Move Robot Call ProtocolEvent))
    (p : Protocol) (c : Call) : Prop where
  unwrapped : p.preparedNs ≤ c.now ∧ p.status.lastValidNs ≤ c.now
  prepareLeft : (p.call c).status.phase = 2 → (p.call c).preparedNs ≤ c.now ∧
    c.now.toNat - (p.call c).preparedNs.toNat < prepareTimeout.toNat
  commandLeft : (p.call c).status.phase = 4 → (p.call c).status.lastValidNs ≤ c.now ∧
    c.now.toNat - (p.call c).status.lastValidNs.toNat < streamTimeout.toNat
  expiry : p.status.phase = 2 → (p.watchdog c.now).status.phase ≠ 2 →
    ∃ prepared, lastTime isPrepare (stamps earlier) = some prepared ∧ prepared ≤ c.now ∧
      prepareTimeout.toNat ≤ c.now.toNat - prepared.toNat
  timeoutHold : p.status.phase = 4 →
    (p.watchdog c.now).status.phase ≠ 4 ∨ (p.call c).status.phase = 5 →
    ∃ live, lastTime isLive (stamps earlier) = some live ∧ live ≤ c.now ∧
      streamTimeout.toNat ≤ c.now.toNat - live.toNat
  notPostponed : p.Ineffective c →
    (p.call c).deadline = p.deadline ∧ (∀ due, p.deadline = some due → c.now.toNat < due) ∨
      (p.call c).deadline = none ∧ ∃ due, p.deadline = some due ∧ due ≤ c.now.toNat

theorem call_exact {earlier : List (Move Robot Call ProtocolEvent)} {robot : Robot} {c : Call}
    (held : robot.protocol.Timed earlier robot.clock) (order : robot.clock ≤ c.now) :
    Exact robot.protocol.commandTimeoutNs robot.protocol.prepareTimeoutNs earlier robot.protocol c := by
  have past := held.inTime.toPast.later order
  have after := (call_timed held order).inTime
  have same := (robot.protocol.call_path c).timeouts
  constructor
  · exact ⟨past.prepared, past.valid⟩
  · intro armed
    exact ⟨after.prepared, same.1 ▸ after.prepareLeft armed⟩
  · intro running
    exact ⟨after.valid, same.2 ▸ after.commandLeft running⟩
  · intro armed left
    refine ⟨_, held.dated.armed armed, past.prepared, ?_⟩
    rcases robot.protocol.watchdog_cases c.now with ⟨kept, _⟩ | ⟨_, due, _⟩ | ⟨running, _⟩
    · exact absurd armed (kept ▸ left)
    · exact (due_iff past.prepared).mp due
    · omega
  · intro running left
    refine ⟨_, held.dated.running running, past.valid, ?_⟩
    rcases robot.protocol.watchdog_cases c.now with ⟨kept, _⟩ | ⟨armed, _⟩ | ⟨_, due, _⟩
    · have watched : (robot.protocol.watchdog c.now).status.phase = 4 := by rw [kept, running]
      rcases left with left | left
      · exact absurd watched left
      · exact absurd left (call_hold past held.positive (by omega))
    · omega
    · exact (due_iff past.valid).mp due
  · intro ineffective
    rw [ineffective_deadline ineffective]
    exact watchdog_deadline past

end Protocol

/-- In every run of calls with readings that never go back, both watchdogs are exact at every call. -/
theorem watchdogs_exact {seed streamTimeout prepareTimeout : UInt64} {rejectOperation : Int}
    {p : Protocol} (created : Protocol.create seed streamTimeout prepareTimeout rejectOperation = some p)
    {moves : List (Move Robot Call ProtocolEvent)} {robot : Robot}
    (run : robotMachine.Run ⟨p, 0⟩ moves robot) {earlier later : List (Move Robot Call ProtocolEvent)}
    {move : Move Robot Call ProtocolEvent} (cut : moves = earlier ++ move :: later) :
    Protocol.Exact streamTimeout prepareTimeout earlier move.before.protocol move.input ∧
      move.after.protocol = move.before.protocol.call move.input := by
  obtain ⟨before, accepted, _⟩ := run.at_move cut
  obtain ⟨order, after, _⟩ := robotMachine_step accepted
  obtain ⟨held, rfl, rfl⟩ := Protocol.timed_run created before
  exact ⟨Protocol.call_exact held order, by rw [after]⟩

/-- A refused command and a repeated COMMIT do not save the stream from its timeout. -/
theorem watchdogs_exact_hold :
    ∃ p moves robot earlier move later, Protocol.create 10 100 50 0 = some p ∧
      robotMachine.Run ⟨p, 0⟩ moves robot ∧ moves = earlier ++ move :: later ∧
      move.before.protocol.status.phase = 4 ∧ move.after.protocol.status.phase = 5 ∧
      ∃ live, lastTime isLive (stamps earlier) = some live ∧ live ≤ move.input.now ∧
        100 ≤ move.input.now.toNat - live.toNat := by
  obtain ⟨moves, robot, run, _, length, running, holding⟩ := robotMachine.exists_run
    ⟨{ generation := 10, commandTimeoutNs := 100, prepareTimeoutNs := 50, rejectOperation := 0 }, 0⟩
    [.requestControl ⟨2, 1, "req", "client", "", "EXTERNAL"⟩ 1000,
      .requestControl ⟨2, 2, "req", "client", "mock-lease-11", "EXTERNAL"⟩ 1004,
      .accept { session := 12, sequence := 1, inputStateRealUs := 1 } 1010,
      .accept { session := 12, sequence := 1, inputStateRealUs := 1 } 1080,
      .requestControl ⟨2, 2, "req", "client", "mock-lease-11", "EXTERNAL"⟩ 1090,
      .tick 1110 2000]
    (fun moves _ => moves.length = 6 ∧ (moves[5]?.map fun move => move.before.protocol.status.phase) = some 4 ∧
      (moves[5]?.map fun move => move.after.protocol.status.phase) = some 5) (by decide +kernel)
  have last : 5 < moves.length := by omega
  have cut : moves = moves.take 5 ++ moves[5] :: moves.drop 6 := by
    rw [List.getElem_cons_drop, List.take_append_drop]
  have created : Protocol.create 10 100 50 0 = some _ := rfl
  obtain ⟨exact', after⟩ := watchdogs_exact created run cut
  rw [List.getElem?_eq_getElem last] at running holding
  simp only [Option.map_some, Option.some.injEq] at running holding
  rw [after] at holding
  refine ⟨_, moves, robot, _, _, _, created, run, cut, running, by rw [after, holding], ?_⟩
  exact exact'.timeoutHold running (Or.inr holding)

end HumanoidSdk.Mock
