import HumanoidSdk.Foundation.Ledger
import HumanoidSdk.Foundation.Run
import HumanoidSdk.Mock.ProtocolStep

namespace HumanoidSdk.Mock
open Foundation

/-- The caller passes clock readings that never go back. -/
structure Robot where
  protocol : Protocol
  clock : UInt64 := 0

def robotMachine : Machine Robot Call ProtocolEvent where
  step robot c :=
    if c.now < robot.clock then none
    else some (⟨robot.protocol.call c, c.now⟩, robot.protocol.callEvents c)

/-- An accepted call runs its primitives at its own clock reading. -/
theorem robotMachine_step {robot next : Robot} {c : Call} {events : List ProtocolEvent}
    (accepted : robotMachine.step robot c = some (next, events)) :
    robot.clock ≤ c.now ∧ next = ⟨robot.protocol.call c, c.now⟩ ∧
      events = robot.protocol.callEvents c := by
  by_cases late : c.now < robot.clock
  · simp [robotMachine, late] at accepted
  · simp only [robotMachine, late, if_false, Option.some.injEq, Prod.mk.injEq] at accepted
    exact ⟨UInt64.not_lt.mp late, accepted.1.symm, accepted.2.symm⟩

/-- What every primitive keeps, every run of calls keeps. -/
theorem robotMachine_invariant (holds : List ProtocolEvent → Protocol → Prop)
    {robot final : Robot} {moves : List (Move Robot Call ProtocolEvent)}
    (initial : holds [] robot.protocol)
    (preserved : ∀ now log p event q, holds log p → Protocol.Primitive now p event q →
      holds (log ++ [event]) q)
    (run : robotMachine.Run robot moves final) : holds (trace moves) final.protocol := by
  refine run.traceInvariant (fun log robot => holds log robot.protocol) initial ?_
  intro log state c next events held accepted
  obtain ⟨_, rfl, rfl⟩ := robotMachine_step accepted
  exact Protocol.Path.invariant holds (preserved c.now) held (state.protocol.call_path c)

namespace Protocol

theorem counter_next {number : UInt64} (room : number ≠ maxUint64) :
    (number + 1).toNat = number.toNat + 1 := by
  have below := number.toNat_lt
  have notLast : number.toNat ≠ 18446744073709551615 := fun same => room (UInt64.toNat_inj.mp same)
  rw [UInt64.toNat_add]
  simp only [UInt64.toNat_one]
  omega

theorem leaseName_ne (number : UInt64) : leaseName number ≠ "" := by
  intro empty
  have length := congrArg String.length empty
  simp [leaseName, String.length_append] at length

/-- These facts hold of the mock robot between any two calls. -/
structure Sound (p : Protocol) : Prop where
  phases : p.status.phase = 0 ∨ p.status.phase = 2 ∨ p.status.phase = 4 ∨ p.status.phase = 5
  idle : p.status.phase = 0 ↔
    p.status.clientId = "" ∧ p.status.requestId = "" ∧ p.status.leaseId = ""
  armed : p.status.phase = 2 →
    p.status.generation = 0 ∧ p.status.acceptedSequence = 0 ∧ p.hasPending = false
  live : p.status.phase = 4 ∨ p.status.phase = 5 → 0 < p.status.generation
  pending : p.hasPending = true → p.status.phase = 4 ∧
    p.pending.session = p.status.generation ∧ p.pending.sequence = p.status.acceptedSequence
  outputZero : p.output.session = 0 ↔ p.output.sequence = 0
  output : p.output.session ≠ 0 → p.status.phase = 4 ∧
    p.output.session = p.status.generation ∧ p.output.sequence ≤ p.status.acceptedSequence

/-- The invariant adds the facts that its own preservation needs. -/
structure Invariant (p : Protocol) : Prop extends Sound p where
  named : p.status.phase ≠ 0 →
    p.status.clientId ≠ "" ∧ p.status.requestId ≠ "" ∧ p.status.leaseId ≠ ""
  idleClean : p.status.phase = 0 → p.status.generation = 0 ∧ p.status.acceptedSequence = 0
  pendingKey : p.hasPending = true → p.pending.sequence ≠ 0

theorem Invariant.phase_of_client {p : Protocol} (inv : p.Invariant) (idle : p.status.clientId = "") :
    p.status.phase = 0 := by
  by_contra busy
  exact (inv.named busy).1 idle

theorem Invariant.outputClear {p : Protocol} (inv : p.Invariant) (notRunning : p.status.phase ≠ 4) :
    p.output.session = 0 := by
  by_contra nonzero
  exact notRunning (inv.output nonzero).1

theorem valid_iff {p : Protocol} {cmd : Command} (valid : p.valid cmd = true) :
    (p.status.phase = 4 ∨ p.status.phase = 5) ∧ cmd.session = p.status.generation ∧
      p.status.acceptedSequence < cmd.sequence ∧ cmd.sequence ≠ 0 := by
  simp only [Protocol.valid, Bool.and_eq_true, Bool.or_eq_true, decide_eq_true_eq] at valid
  tauto

theorem clear_invariant (p : Protocol) : p.clear.Invariant := by
  constructor <;> try constructor
  all_goals simp [clear, invalidateApplied]

theorem hold_invariant {p : Protocol} (inv : p.Invariant) (running : p.status.phase = 4) :
    p.hold.Invariant := by
  have named := inv.named (by omega)
  have live := inv.live (Or.inl running)
  constructor <;> try constructor
  all_goals simp [hold, invalidateApplied, named, live]

theorem arm_invariant {p : Protocol} {r : Request} (inv : p.Invariant) (now : UInt64)
    (idle : p.status.clientId = "") (named : r.requestId ≠ "" ∧ r.clientId ≠ "") :
    (p.arm r now).Invariant := by
  have phase := inv.phase_of_client idle
  have clean := inv.idleClean phase
  have empty : p.hasPending = false := by
    by_contra full
    have := (inv.pending (by simpa using full)).1
    omega
  have output := inv.outputClear (by omega)
  constructor <;> try constructor
  all_goals simp [arm, named, clean, empty, leaseName_ne, inv.outputZero.mp output, output]

theorem start_invariant {p : Protocol} (inv : p.Invariant) (now : UInt64)
    (armed : p.status.phase = 2) (room : p.generation ≠ maxUint64) : (p.start now).Invariant := by
  have named := inv.named (by omega)
  have clean := inv.armed armed
  have output := inv.outputClear (by omega)
  have positive : (0 : UInt64) < p.generation + 1 := by
    rw [UInt64.lt_iff_toNat_lt, counter_next room]
    simp
  constructor <;> try constructor
  all_goals simp [start, named, clean, positive, inv.outputZero.mp output, output]

theorem refuse_invariant {p : Protocol} (inv : p.Invariant) : p.refuse.Invariant :=
  { phases := inv.phases, idle := inv.idle, armed := inv.armed, live := inv.live,
    pending := inv.pending, outputZero := inv.outputZero, output := inv.output,
    named := inv.named, idleClean := inv.idleClean, pendingKey := inv.pendingKey }

theorem store_invariant {p : Protocol} {cmd : Command} (inv : p.Invariant) (now : UInt64)
    (valid : p.valid cmd = true) : (p.store cmd now).Invariant := by
  obtain ⟨phase, session, newer, nonzero⟩ := valid_iff valid
  have named := inv.named (by omega)
  have live := inv.live phase
  have shown : p.output.session ≠ 0 →
      p.output.session = p.status.generation ∧ p.output.sequence ≤ cmd.sequence := by
    intro present
    obtain ⟨_, same, reached⟩ := inv.output present
    exact ⟨same, UInt64.le_trans reached (UInt64.le_of_lt newer)⟩
  constructor <;> try constructor
  all_goals simp [store, named, live, session, nonzero, inv.outputZero]
  all_goals simpa [inv.outputZero] using shown

theorem apply_invariant {p : Protocol} (inv : p.Invariant) (wallUs : UInt64)
    (full : p.hasPending = true) : (p.apply wallUs).Invariant := by
  obtain ⟨running, session, sequence⟩ := inv.pending full
  have named := inv.named (by omega)
  have live := inv.live (Or.inl running)
  have key := inv.pendingKey full
  have nonzero : p.pending.session ≠ 0 := by
    rw [session]
    exact (UInt64.ne_of_lt live).symm
  constructor <;> try constructor
  all_goals simp [apply, named, live, running, session, ← sequence, key]
  all_goals simpa [session] using nonzero

/-- Every primitive keeps the invariant. -/
theorem Primitive.invariant {now : UInt64} {p q : Protocol} {event : ProtocolEvent}
    (inv : p.Invariant) (step : Primitive now p event q) : q.Invariant := by
  cases step with
  | expired | cancelled => exact clear_invariant p
  | held running => exact hold_invariant inv running
  | armed idle named => exact arm_invariant inv now idle named
  | started armed _ room => exact start_invariant inv now armed room
  | refused => exact refuse_invariant inv
  | accepted valid => exact store_invariant inv now valid
  | applied full => exact apply_invariant inv _ full

theorem Path.stateInvariant {now : UInt64} {p q : Protocol} {events : List ProtocolEvent}
    (path : Path now p events q) (inv : p.Invariant) : q.Invariant := by
  induction path with
  | nil => exact inv
  | snoc _ last ih => exact last.invariant ih

/-- A fresh mock robot is idle. -/
theorem create_invariant {seed streamTimeout prepareTimeout : UInt64} {rejectOperation : Int}
    {p : Protocol} (created : create seed streamTimeout prepareTimeout rejectOperation = some p) :
    p.Invariant ∧ p.status = {} ∧ p.generation = seed := by
  unfold create at created
  split at created
  · cases created
  · cases created
    refine ⟨?_, rfl, rfl⟩
    constructor <;> try constructor
    all_goals simp

/-- An issued number belongs to a lease or to a generation. -/
inductive Issue where
  | lease (clientId requestId : String)
  | generation (clientId leaseId : String)

/-- Two events take a number from the counter. -/
def issue : ProtocolEvent → Option (Nat × Issue)
  | .armed number clientId requestId => some (number.toNat, .lease clientId requestId)
  | .started number clientId leaseId => some (number.toNat, .generation clientId leaseId)
  | _ => none

def issues (log : List ProtocolEvent) : List (Nat × Issue) := log.filterMap issue

@[simp] theorem issues_append (first second : List ProtocolEvent) :
    issues (first ++ second) = issues first ++ issues second := List.filterMap_append

/-- The present lease and generation are entries of the ledger of issued numbers. -/
structure Numbered (log : List ProtocolEvent) (p : Protocol) : Prop where
  ledger : Ledger (issues log) p.generation.toNat
  lease : p.status.leaseId ≠ "" → ∃ number : UInt64, p.status.leaseId = leaseName number ∧
    (number.toNat, .lease p.status.clientId p.status.requestId) ∈ issues log
  generation : p.status.generation ≠ 0 →
    (p.status.generation.toNat, .generation p.status.clientId p.status.leaseId) ∈ issues log

/-- Every primitive keeps the ledger, and only two of them extend it. -/
theorem Primitive.numbered {now : UInt64} {log : List ProtocolEvent} {p q : Protocol}
    {event : ProtocolEvent} (inv : p.Invariant) (numbered : Numbered log p)
    (step : Primitive now p event q) : Numbered (log ++ [event]) q := by
  have kept (same : issue event = none) : issues (log ++ [event]) = issues log := by
    simp [issues, same]
  cases step with
  | expired | cancelled => exact ⟨(kept rfl) ▸ numbered.ledger, fun h => absurd rfl h, fun h => absurd rfl h⟩
  | held | refused | accepted | applied =>
      exact ⟨(kept rfl) ▸ numbered.ledger, (kept rfl) ▸ numbered.lease, (kept rfl) ▸ numbered.generation⟩
  | @armed r idle named room prepare =>
      have above : p.generation.toNat < (p.generation + 1).toNat := by
        rw [counter_next room]
        exact Nat.lt_succ_self _
      have ledger := numbered.ledger.issue above (.lease r.clientId r.requestId)
      have clean := (inv.idleClean (inv.phase_of_client idle)).1
      refine ⟨?_, fun _ => ⟨p.generation + 1, rfl, ?_⟩, fun nonzero => absurd clean nonzero⟩
      · simpa [issues, issue, arm] using ledger
      · simp [issues, issue, arm]
  | started armed owner room =>
      have above : p.generation.toNat < (p.generation + 1).toNat := by
        rw [counter_next room]
        exact Nat.lt_succ_self _
      have ledger := numbered.ledger.issue above (.generation p.status.clientId p.status.leaseId)
      refine ⟨?_, fun nonempty => ?_, fun _ => ?_⟩
      · simpa [issues, issue, start] using ledger
      · obtain ⟨number, same, member⟩ := numbered.lease nonempty
        exact ⟨number, same, by simpa [issues, start] using Or.inl member⟩
      · simp [issues, issue, start]

/-- The checks reach the allocation of a number for this request. -/
def NeedsNumber (p : Protocol) (r : Request) : Prop :=
  r.version = 2 ∧ r.requestId ≠ "" ∧ r.clientId ≠ "" ∧ r.requestId.utf8ByteSize ≤ 256 ∧
    r.clientId.utf8ByteSize ≤ 256 ∧ r.action = "EXTERNAL" ∧ r.operation ≠ p.rejectOperation ∧
    (r.operation = 1 ∧ p.status.clientId = "" ∨
      r.operation = 2 ∧ p.status.clientId = r.clientId ∧ p.status.requestId = r.requestId ∧
        r.leaseId = p.status.leaseId ∧ p.status.phase = 2)

/-- An exhausted counter answers 1009 and changes nothing. -/
theorem answer_exhausted {p : Protocol} {r : Request} (needs : p.NeedsNumber r)
    (last : p.generation = maxUint64) (now : UInt64) :
    p.answer r now = (p.reply r 1009 "generation exhausted", p) := by
  obtain ⟨version, request, client, requestSize, clientSize, action, scripted, operation⟩ := needs
  rcases operation with ⟨prepare, idle⟩ | ⟨commit, sameClient, sameRequest, sameLease, armed⟩
  · have size : ¬ (r.requestId.utf8ByteSize > 256) ∧ ¬ (r.clientId.utf8ByteSize > 256) := by omega
    rw [prepare] at scripted
    simp only [answer, version, request, client, size, action, scripted, prepare, idle, last]
    simp
  · have size : ¬ (r.requestId.utf8ByteSize > 256) ∧ ¬ (r.clientId.utf8ByteSize > 256) := by omega
    rw [commit] at scripted
    simp only [answer, version, request, client, size, action, scripted, commit, sameClient,
      sameRequest, sameLease, armed, last]
    simp

/-- Every primitive counts one status, except the apply, which keeps the status. -/
theorem Primitive.statusSeq {now : UInt64} {p q : Protocol} {event : ProtocolEvent}
    (step : Primitive now p event q) :
    q.status = p.status ∨ q.status.statusSeq = p.status.statusSeq + 1 := by
  cases step with
  | applied => exact Or.inl rfl
  | _ => exact Or.inr rfl

theorem callEvents_length (p : Protocol) (c : Call) : (p.callEvents c).length ≤ 2 := by
  have watchdog (now : UInt64) : (p.watchdogEvents now).length ≤ 1 := by
    unfold watchdogEvents
    split <;> try split
    all_goals simp
  have checks (q : Protocol) (r : Request) (now : UInt64) : (q.answerEvents r now).length ≤ 1 := by
    simp only [answerEvents]
    split <;> split <;> simp
  have first := watchdog c.now
  cases c with
  | requestControl r now =>
      have second := checks (p.watchdog now) r now
      simp only [callEvents, Call.now, List.length_append] at *
      omega
  | accept | tick =>
      simp only [callEvents, Call.now, List.length_append] at *
      split
      all_goals simp
      all_goals omega
  | watchdog =>
      simp only [callEvents, Call.now, List.append_nil] at *
      omega

/-- A path advances the status counter by at most its length, and by zero only in place. -/
theorem Path.statusSeq {now : UInt64} {p q : Protocol} {events : List ProtocolEvent}
    (path : Path now p events q) : ∃ count ≤ events.length,
      q.status.statusSeq.toNat = (p.status.statusSeq.toNat + count) % 2 ^ 64 ∧
        (count = 0 → q.status = p.status) := by
  induction path with
  | nil =>
      have below := p.status.statusSeq.toNat_lt
      exact ⟨0, le_rfl, by omega, fun _ => rfl⟩
  | snoc earlier last ih =>
      obtain ⟨count, bound, reached, same⟩ := ih
      rcases last.statusSeq with kept | counted
      · refine ⟨count, by simp; omega, kept ▸ reached, fun zero => kept.trans (same zero)⟩
      · refine ⟨count + 1, by simpa using bound, ?_, by simp⟩
        rw [counted, UInt64.toNat_add, reached, UInt64.toNat_one]
        omega

end Protocol

/-- The calls of the moves advance the status counter by this number in total. -/
def statusSeqAdvance (moves : List (Move Robot Call ProtocolEvent)) : Nat :=
  (moves.map fun move => (move.after.protocol.status.statusSeq -
    move.before.protocol.status.statusSeq).toNat).sum

@[simp] theorem statusSeqAdvance_append (first second : List (Move Robot Call ProtocolEvent)) :
    statusSeqAdvance (first ++ second) = statusSeqAdvance first + statusSeqAdvance second := by
  simp [statusSeqAdvance]

/-- A call advances the counter by its difference, which is zero only in place. -/
theorem call_statusSeq (p : Protocol) (c : Call) :
    (p.call c).status.statusSeq.toNat = (p.status.statusSeq.toNat +
        ((p.call c).status.statusSeq - p.status.statusSeq).toNat) % 2 ^ 64 ∧
      (((p.call c).status.statusSeq - p.status.statusSeq).toNat = 0 →
        (p.call c).status = p.status) := by
  obtain ⟨count, bound, reached, same⟩ := (p.call_path c).statusSeq
  have short := p.callEvents_length c
  have before := p.status.statusSeq.toNat_lt
  have after := (p.call c).status.statusSeq.toNat_lt
  have difference : ((p.call c).status.statusSeq - p.status.statusSeq).toNat = count := by
    rw [UInt64.toNat_sub, reached]
    omega
  exact ⟨difference ▸ reached, fun zero => same (difference ▸ zero)⟩

/-- Along a run the counter follows its total advance, and it stands still only in place. -/
theorem run_statusSeq {robot final : Robot} {moves : List (Move Robot Call ProtocolEvent)}
    (run : robotMachine.Run robot moves final) :
    final.protocol.status.statusSeq.toNat =
        (robot.protocol.status.statusSeq.toNat + statusSeqAdvance moves) % 2 ^ 64 ∧
      (statusSeqAdvance moves = 0 → final.protocol.status = robot.protocol.status) := by
  induction run with
  | nil =>
      have below := robot.protocol.status.statusSeq.toNat_lt
      exact ⟨by simp only [statusSeqAdvance, List.map_nil, List.sum_nil]; omega, fun _ => rfl⟩
  | @snoc moves state next c events earlier accepted ih =>
      obtain ⟨_, rfl, rfl⟩ := robotMachine_step accepted
      obtain ⟨advance, kept⟩ := call_statusSeq state.protocol c
      have last : statusSeqAdvance (moves ++ [⟨state, c, ⟨state.protocol.call c, c.now⟩,
          state.protocol.callEvents c⟩]) = statusSeqAdvance moves +
          ((state.protocol.call c).status.statusSeq - state.protocol.status.statusSeq).toNat := by
        simp [statusSeqAdvance]
      rw [last]
      constructor
      · rw [advance, ih.1]
        omega
      · intro still
        exact (kept (by omega)).trans (ih.2 (by omega))

/-- Along a run from its creation the robot keeps its invariant, and its ledger its numbers. -/
theorem run_numbered {seed streamTimeout prepareTimeout : UInt64} {rejectOperation : Int} {p : Protocol}
    (created : Protocol.create seed streamTimeout prepareTimeout rejectOperation = some p)
    {moves : List (Move Robot Call ProtocolEvent)} {robot : Robot}
    (run : robotMachine.Run ⟨p, 0⟩ moves robot) :
    robot.protocol.Invariant ∧ Protocol.Numbered (trace moves) robot.protocol := by
  obtain ⟨initial, fresh, _⟩ := Protocol.create_invariant created
  refine robotMachine_invariant (fun log p => p.Invariant ∧ Protocol.Numbered log p) ?_ ?_ run
  · exact ⟨initial, ⟨Ledger.empty, by simp [fresh], by simp [fresh]⟩⟩
  · exact fun now log p event q held step => ⟨step.invariant held.1, step.numbered held.1 held.2⟩

/-- At every moment of every run the mock robot is sound, its issued numbers increase, an
exhausted counter answers 1009, and the status counter identifies the status while it has not
reached its last value. -/
theorem protocol_reachable {seed streamTimeout prepareTimeout : UInt64} {rejectOperation : Int}
    {p : Protocol} (created : Protocol.create seed streamTimeout prepareTimeout rejectOperation = some p)
    {moves : List (Move Robot Call ProtocolEvent)} {robot : Robot}
    (run : robotMachine.Run ⟨p, 0⟩ moves robot) :
    robot.protocol.Sound ∧
    ((Protocol.issues (trace moves)).map Prod.fst).Pairwise (· < ·) ∧
    (robot.protocol.status.leaseId ≠ "" → ∃ number : UInt64,
      robot.protocol.status.leaseId = leaseName number ∧
      number.toNat ∈ (Protocol.issues (trace moves)).map Prod.fst) ∧
    (robot.protocol.status.generation ≠ 0 →
      robot.protocol.status.generation.toNat ∈ (Protocol.issues (trace moves)).map Prod.fst) ∧
    (∀ r now, (robot.protocol.watchdog now).NeedsNumber r →
      (robot.protocol.watchdog now).generation = maxUint64 →
      robot.protocol.requestControl r now =
        ((robot.protocol.watchdog now).reply r 1009 "generation exhausted", robot.protocol.watchdog now)) ∧
    (1 + statusSeqAdvance moves < 2 ^ 64 → ∀ earlier later middle, moves = earlier ++ later →
      robotMachine.Run ⟨p, 0⟩ earlier middle → robotMachine.Run middle later robot →
      middle.protocol.status.statusSeq ≤ robot.protocol.status.statusSeq ∧
      (middle.protocol.status.statusSeq = robot.protocol.status.statusSeq →
        middle.protocol.status = robot.protocol.status)) := by
  obtain ⟨_, fresh, _⟩ := Protocol.create_invariant created
  obtain ⟨inv, numbered⟩ := run_numbered created run
  refine ⟨inv.toSound, numbered.ledger.keys_increasing, ?_, ?_, ?_, ?_⟩
  · intro leased
    obtain ⟨number, same, member⟩ := numbered.lease leased
    exact ⟨number, same, List.mem_map_of_mem member⟩
  · exact fun started => List.mem_map_of_mem (numbered.generation started)
  · exact fun r now needs last => Protocol.answer_exhausted needs last now
  · intro bound earlier later middle cut first second
    obtain ⟨reached, _⟩ := run_statusSeq first
    obtain ⟨advanced, kept⟩ := run_statusSeq second
    rw [cut, statusSeqAdvance_append] at bound
    simp only [fresh, UInt64.toNat_one] at reached
    constructor
    · rw [UInt64.le_iff_toNat_le]
      omega
    · intro same
      have equal := congrArg UInt64.toNat same
      exact (kept (by omega)).symm

/-- PREPARE, COMMIT, one command and one tick give an applied command in a sound state. -/
theorem protocol_reachable_applied :
    ∃ p moves robot, Protocol.create 10 100 50 0 = some p ∧ robotMachine.Run ⟨p, 0⟩ moves robot ∧
      robot.protocol.output.sequence = 1 ∧ robot.protocol.Sound := by
  obtain ⟨moves, robot, run, _, applied⟩ := robotMachine.exists_run
    ⟨{ generation := 10, commandTimeoutNs := 100, prepareTimeoutNs := 50, rejectOperation := 0 }, 0⟩
    [.requestControl ⟨2, 1, "req", "client", "", "EXTERNAL"⟩ 1000,
      .requestControl ⟨2, 2, "req", "client", "mock-lease-11", "EXTERNAL"⟩ 1004,
      .accept { session := 12, sequence := 1, inputStateRealUs := 1 } 1010,
      .tick 1012 2000]
    (fun _ robot => robot.protocol.output.sequence = 1) (by decide +kernel)
  have created : Protocol.create 10 100 50 0 = some _ := rfl
  exact ⟨_, moves, robot, created, run, applied, (protocol_reachable created run).1⟩

end HumanoidSdk.Mock
