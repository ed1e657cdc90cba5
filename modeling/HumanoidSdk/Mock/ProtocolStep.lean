import HumanoidSdk.Mock.Protocol

namespace HumanoidSdk.Mock

/-- An event names one primitive change of the mock robot. -/
inductive ProtocolEvent where
  | expired
  | held (dropped : Option Command)
  | armed (number : UInt64) (clientId requestId : String)
  | started (number : UInt64) (clientId leaseId : String)
  | cancelled (dropped : Option Command)
  | refused (cmd : Command)
  | accepted (cmd : Command)
  | applied (cmd : Command)

namespace Protocol

/-- The slot holds a command only while the flag is set. -/
def pendingCommand (p : Protocol) : Option Command :=
  if p.hasPending then some p.pending else none

/-- A primitive lists every change a call can make, with the guards it passed. -/
inductive Primitive (now : UInt64) : Protocol → ProtocolEvent → Protocol → Prop
  | expired {p : Protocol} (armed : p.status.phase = 2)
      (due : now - p.preparedNs ≥ p.prepareTimeoutNs) : Primitive now p .expired p.clear
  | held {p : Protocol} (running : p.status.phase = 4)
      (due : now - p.status.lastValidNs ≥ p.commandTimeoutNs) :
      Primitive now p (.held p.pendingCommand) p.hold
  | armed {p : Protocol} {r : Request} (idle : p.status.clientId = "")
      (named : r.requestId ≠ "" ∧ r.clientId ≠ "") (room : p.generation ≠ maxUint64)
      (prepare : r.operation = 1) :
      Primitive now p (.armed (p.generation + 1) r.clientId r.requestId) (p.arm r now)
  | started {p : Protocol} {r : Request} (armed : p.status.phase = 2)
      (owner : p.status.clientId = r.clientId ∧ p.status.requestId = r.requestId ∧
        r.leaseId = p.status.leaseId) (room : p.generation ≠ maxUint64)
      (commit : r.operation = 2) :
      Primitive now p (.started (p.generation + 1) p.status.clientId p.status.leaseId) (p.start now)
  | cancelled {p : Protocol} {r : Request} (busy : p.status.clientId ≠ "")
      (owner : p.status.clientId = r.clientId ∧ p.status.requestId = r.requestId ∧
        r.leaseId = p.status.leaseId) (cancel : r.operation = 3) :
      Primitive now p (.cancelled p.pendingCommand) p.clear
  | refused {p : Protocol} {cmd : Command} (invalid : p.valid cmd = false) :
      Primitive now p (.refused cmd) p.refuse
  | accepted {p : Protocol} {cmd : Command} (valid : p.valid cmd = true) :
      Primitive now p (.accepted cmd) (p.store cmd now)
  | applied {p : Protocol} {wallUs : UInt64} (full : p.hasPending = true)
      (running : p.status.phase = 4) : Primitive now p (.applied p.pending) (p.apply wallUs)

/-- The watchdog changes the phase exactly when one of its branches runs. -/
def watchdogEvents (p : Protocol) (now : UInt64) : List ProtocolEvent :=
  if (p.watchdog now).status.phase = p.status.phase then []
  else if p.status.phase = 2 then [.expired] else [.held p.pendingCommand]

/-- The watchdog does nothing, expires a lease or enters TIMEOUT_HOLD. -/
theorem watchdog_cases (p : Protocol) (now : UInt64) :
    (p.watchdog now = p ∧ p.watchdogEvents now = [] ∧
      (p.status.phase = 2 → ¬ now - p.preparedNs ≥ p.prepareTimeoutNs) ∧
      (p.status.phase = 4 → ¬ now - p.status.lastValidNs ≥ p.commandTimeoutNs)) ∨
    (p.status.phase = 2 ∧ now - p.preparedNs ≥ p.prepareTimeoutNs ∧
      p.watchdog now = p.clear ∧ p.watchdogEvents now = [.expired]) ∨
    (p.status.phase = 4 ∧ now - p.status.lastValidNs ≥ p.commandTimeoutNs ∧
      p.watchdog now = p.hold ∧ p.watchdogEvents now = [.held p.pendingCommand]) := by
  by_cases armed : p.status.phase = 2
  · by_cases due : now - p.preparedNs ≥ p.prepareTimeoutNs
    · have fired : p.watchdog now = p.clear := by simp [watchdog, armed, due, clear, invalidateApplied]
      refine Or.inr (Or.inl ⟨armed, due, fired, ?_⟩)
      simp [watchdogEvents, fired, armed, clear, invalidateApplied]
    · have kept : p.watchdog now = p := by simp [watchdog, armed, due]
      exact Or.inl ⟨kept, by simp [watchdogEvents, kept], fun _ => due, fun running => by omega⟩
  · by_cases due : p.status.phase = 4 ∧ now - p.status.lastValidNs ≥ p.commandTimeoutNs
    · have fired : p.watchdog now = p.hold := by simp [watchdog, due]
      refine Or.inr (Or.inr ⟨due.1, due.2, fired, ?_⟩)
      simp [watchdogEvents, fired, due.1, hold, invalidateApplied]
    · have kept : p.watchdog now = p := by simp [watchdog, armed, due]
      refine Or.inl ⟨kept, by simp [watchdogEvents, kept], fun phase => absurd phase armed, ?_⟩
      exact fun running late => due ⟨running, late⟩

/-- The checks refuse, confirm again or make exactly one of three changes. -/
inductive Answered (p : Protocol) (r : Request) (now : UInt64) : Ack × Protocol → Prop
  | refused {error : Int} {reason : String} (code : error ≠ 0) :
      Answered p r now (p.reply r error reason, p)
  | preparedAgain (prepare : r.operation = 1) (owner : p.status.clientId ≠ "" ∧
        r.clientId = p.status.clientId ∧ r.requestId = p.status.requestId) :
      Answered p r now (p.reply r 0 "idempotent PREPARE", p)
  | alreadyIdle (cancel : r.operation = 3) (idle : p.status.clientId = "") :
      Answered p r now (p.reply r 0 "already idle", p)
  | committedAgain (commit : r.operation = 2) (owner : p.status.clientId = r.clientId ∧
        p.status.requestId = r.requestId ∧ r.leaseId = p.status.leaseId)
      (live : p.status.phase = 4 ∨ p.status.phase = 5) :
      Answered p r now (p.reply r 0 "idempotent COMMIT", p)
  | armed (prepare : r.operation = 1) (idle : p.status.clientId = "")
      (named : r.requestId ≠ "" ∧ r.clientId ≠ "") (room : p.generation ≠ maxUint64)
      (sized : r.requestId.utf8ByteSize ≤ 256 ∧ r.clientId.utf8ByteSize ≤ 256) :
      Answered p r now
        ((p.arm r now).reply r 0 "armed; no automatic running lease expiry", p.arm r now)
  | cancelled (cancel : r.operation = 3) (busy : p.status.clientId ≠ "")
      (owner : p.status.clientId = r.clientId ∧ p.status.requestId = r.requestId ∧
        r.leaseId = p.status.leaseId) :
      Answered p r now (p.reply r 0 "cancelled to PASSIVE", p.clear)
  | started (commit : r.operation = 2) (owner : p.status.clientId = r.clientId ∧
        p.status.requestId = r.requestId ∧ r.leaseId = p.status.leaseId)
      (phase : p.status.phase = 2) (room : p.generation ≠ maxUint64) :
      Answered p r now ((p.start now).reply r 0 "EXTERNAL RUNNING", p.start now)

theorem answer_cases (p : Protocol) (r : Request) (now : UInt64) :
    Answered p r now (p.answer r now) := by
  unfold answer
  refine iteInduction (fun _ => .refused (by decide)) fun _ => ?_
  refine iteInduction (fun _ => .refused (by decide)) fun identity => ?_
  refine iteInduction (fun _ => .refused (by decide)) fun _ => ?_
  refine iteInduction (fun _ => .refused (by decide)) fun _ => ?_
  have named : r.requestId ≠ "" ∧ r.clientId ≠ "" :=
    ⟨fun empty => identity (Or.inl empty), fun empty => identity (Or.inr (Or.inl empty))⟩
  have sized : r.requestId.utf8ByteSize ≤ 256 ∧ r.clientId.utf8ByteSize ≤ 256 := by
    simp only [not_or] at identity
    omega
  refine iteInduction (fun prepare => ?_) fun notPrepare => ?_
  · refine iteInduction (fun busy => ?_) fun idle => ?_
    · refine iteInduction (fun _ => .refused (by decide)) fun client => ?_
      refine iteInduction (fun _ => .refused (by decide)) fun request => ?_
      exact .preparedAgain prepare ⟨busy, not_not.mp client, not_not.mp request⟩
    · refine iteInduction (fun _ => .refused (by decide)) fun room => ?_
      exact .armed prepare (not_not.mp idle) named room sized
  refine iteInduction (fun idle => .alreadyIdle idle.1 idle.2) fun busy => ?_
  refine iteInduction (fun _ => .refused (by decide)) fun client => ?_
  refine iteInduction (fun _ => .refused (by decide)) fun request => ?_
  refine iteInduction (fun _ => .refused (by decide)) fun lease => ?_
  have owner : p.status.clientId = r.clientId ∧ p.status.requestId = r.requestId ∧
      r.leaseId = p.status.leaseId := ⟨not_not.mp client, not_not.mp request, not_not.mp lease⟩
  refine iteInduction (fun cancel => ?_) fun notCancel => ?_
  · exact .cancelled cancel (fun idle => busy ⟨cancel, idle⟩) owner
  have commit : r.operation = 2 := by omega
  refine iteInduction (fun live => .committedAgain commit owner live) fun _ => ?_
  refine iteInduction (fun _ => .refused (by decide)) fun armed => ?_
  refine iteInduction (fun _ => .refused (by decide)) fun room => ?_
  exact .started commit owner (not_not.mp armed) room

/-- The events of the checks are read from the states around them. -/
def answerEvents (p : Protocol) (r : Request) (now : UInt64) : List ProtocolEvent :=
  let next := (p.answer r now).2
  if next.generation ≠ p.generation then
    if next.status.phase = 2 then
      [.armed next.generation next.status.clientId next.status.requestId]
    else [.started next.generation next.status.clientId next.status.leaseId]
  else if next.status.statusSeq ≠ p.status.statusSeq then [.cancelled p.pendingCommand] else []

end Protocol

/-- A call carries the arguments of one public method. -/
inductive Call where
  | requestControl (r : Request) (now : UInt64)
  | accept (cmd : Command) (now : UInt64)
  | tick (now wallUs : UInt64)
  | watchdog (now : UInt64)

def Call.now : Call → UInt64
  | .requestControl _ now | .accept _ now | .tick now _ | .watchdog now => now

namespace Protocol

def call (p : Protocol) : Call → Protocol
  | .requestControl r now => (p.requestControl r now).2
  | .accept cmd now => (p.accept cmd now).2
  | .tick now wallUs => (p.tick now wallUs).2
  | .watchdog now => p.watchdog now

/-- The watchdog events come first in every call. -/
def callEvents (p : Protocol) (c : Call) : List ProtocolEvent :=
  p.watchdogEvents c.now ++ match c with
  | .requestControl r now => (p.watchdog now).answerEvents r now
  | .accept cmd now => if (p.accept cmd now).1 then [.accepted cmd] else [.refused cmd]
  | .tick now wallUs => if (p.tick now wallUs).1 then [.applied (p.watchdog now).pending] else []
  | .watchdog _ => []

/-- A path chains primitives at one call time. -/
inductive Path (now : UInt64) : Protocol → List ProtocolEvent → Protocol → Prop
  | nil (p : Protocol) : Path now p [] p
  | snoc {p q next : Protocol} {events : List ProtocolEvent} {event : ProtocolEvent}
      (earlier : Path now p events q) (last : Primitive now q event next) :
      Path now p (events ++ [event]) next

variable {now : UInt64} {p q : Protocol} {event : ProtocolEvent} {log events : List ProtocolEvent}

theorem Path.single (step : Primitive now p event q) : Path now p [event] q := (Path.nil p).snoc step

/-- What every primitive keeps, every path keeps. -/
theorem Path.invariant (holds : List ProtocolEvent → Protocol → Prop)
    (preserved : ∀ log p event q, holds log p → Primitive now p event q → holds (log ++ [event]) q)
    (initial : holds log p) (path : Path now p events q) : holds (log ++ events) q := by
  induction path with
  | nil => simpa using initial
  | snoc _ last ih =>
      rw [← List.append_assoc]
      exact preserved _ _ _ _ ih last

theorem watchdog_path (p : Protocol) (now : UInt64) :
    Path now p (p.watchdogEvents now) (p.watchdog now) := by
  rcases p.watchdog_cases now with ⟨kept, none, _⟩ | ⟨armed, due, fired, one⟩ | ⟨running, due, fired, one⟩
  · rw [kept, none]
    exact .nil p
  · rw [fired, one]
    exact .single (.expired armed due)
  · rw [fired, one]
    exact .single (.held running due)

/-- The checks run at most one primitive. -/
theorem answer_path (path : Path now p log q) (r : Request) :
    Path now p (log ++ q.answerEvents r now) (q.answer r now).2 := by
  have bumped (n : UInt64) : n + 1 ≠ n := by simp
  have answered := q.answer_cases r now
  unfold answerEvents
  generalize q.answer r now = result at answered
  cases answered with
  | refused | preparedAgain | alreadyIdle | committedAgain => simpa using path
  | armed prepare idle named room sized => simpa [arm, bumped] using path.snoc (.armed idle named room prepare)
  | cancelled cancel busy owner =>
      simpa [clear, invalidateApplied, bumped] using path.snoc (.cancelled busy owner cancel)
  | started commit owner phase room =>
      simpa [start, bumped] using path.snoc (.started phase owner room commit)

/-- Every call is its watchdog followed by at most one primitive. -/
theorem call_path (p : Protocol) (c : Call) : Path c.now p (p.callEvents c) (p.call c) := by
  have first := p.watchdog_path c.now
  cases c with
  | requestControl r now => exact answer_path first r
  | accept cmd now =>
      by_cases valid : (p.watchdog now).valid cmd = true
      · simpa [callEvents, call, accept, Call.now, valid] using first.snoc (.accepted valid)
      · simpa [callEvents, call, accept, Call.now, valid] using first.snoc (.refused (by simpa [Call.now] using valid))
  | tick now wallUs =>
      by_cases idle : (p.watchdog now).hasPending = false ∨ (p.watchdog now).status.phase ≠ 4
      · simpa [callEvents, call, tick, Call.now, idle] using first
      · obtain ⟨full, running⟩ := not_or.mp idle
        simpa [callEvents, call, tick, Call.now, idle] using
          first.snoc (.applied (by simpa [Call.now] using full) (not_not.mp running))
  | watchdog now => simpa [callEvents, call, Call.now] using first

end Protocol

end HumanoidSdk.Mock
