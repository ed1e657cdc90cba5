import HumanoidSdk.Foundation.Mailbox
import HumanoidSdk.Mock.ProtocolInvariant

namespace HumanoidSdk.Mock
open Foundation

def acceptedCommands (log : List ProtocolEvent) : List Command :=
  log.filterMap fun | .accepted cmd => some cmd | _ => none

def appliedCommands (log : List ProtocolEvent) : List Command :=
  log.filterMap fun | .applied cmd => some cmd | _ => none

/-- A pending command is dropped by CANCEL or by TIMEOUT_HOLD. -/
def droppedCommands (log : List ProtocolEvent) : List Command :=
  log.filterMap fun | .held dropped | .cancelled dropped => dropped | _ => none

/-- These events end the session or the stream that a pending command belongs to. -/
def ProtocolEvent.Invalidates : ProtocolEvent → Prop
  | .expired | .held _ | .cancelled _ => True
  | _ => False

/-- The pending slot is a mailbox between Accept and Tick. -/
def mailActions : ProtocolEvent → List (MailAction Command)
  | .accepted cmd => [.put cmd]
  | .applied _ => [.take]
  | .expired | .held _ | .cancelled _ => [.drop]
  | _ => []

def mailbox (log : List ProtocolEvent) : Mailbox Command :=
  ({} : Mailbox Command).acts (log.flatMap mailActions)

@[simp] theorem mailbox_append (first second : List ProtocolEvent) :
    mailbox (first ++ second) = (mailbox first).acts (second.flatMap mailActions) := by
  simp [mailbox]

theorem mailbox_balanced (log : List ProtocolEvent) : (mailbox log).Balanced :=
  Mailbox.acts_balanced (by simp [Mailbox.Balanced]) _

theorem mailbox_ordered (log : List ProtocolEvent) : (mailbox log).Ordered :=
  Mailbox.acts_ordered (by simp [Mailbox.Ordered]) _

/-- The mailbox puts are the accepted commands. -/
theorem mailbox_puts (log : List ProtocolEvent) : (mailbox log).puts = acceptedCommands log := by
  induction log using List.reverseRecOn with
  | nil => rfl
  | append_singleton log event ih =>
      cases event <;> simp [acceptedCommands, mailActions, Mailbox.act, ih]

namespace Protocol

/-- The robot and its history agree on what became of every accepted command. -/
structure Accounted (log : List ProtocolEvent) (p : Protocol) : Prop where
  slot : (mailbox log).slot = p.pendingCommand
  takes : (mailbox log).takes = appliedCommands log
  dropped : (mailbox log).dropped = (droppedCommands log).length
  overwritten : p.overwritten.toNat = (mailbox log).overwritten % 2 ^ 64
  counted : p.status.generation.toNat ≤ p.generation.toNat
  known : ∀ cmd ∈ acceptedCommands log, cmd.session.toNat ≤ p.generation.toNat ∧
    (cmd.session = p.status.generation → p.status.generation ≠ 0 →
      cmd.sequence ≤ p.status.acceptedSequence)
  increasing : (acceptedCommands log).Pairwise fun first second =>
    first.session = second.session → first.sequence < second.sequence

@[simp] theorem arm_pendingCommand (p : Protocol) (r : Request) (now : UInt64) :
    (p.arm r now).pendingCommand = p.pendingCommand := rfl

@[simp] theorem start_pendingCommand (p : Protocol) (now : UInt64) :
    (p.start now).pendingCommand = p.pendingCommand := rfl

@[simp] theorem refuse_pendingCommand (p : Protocol) : p.refuse.pendingCommand = p.pendingCommand := rfl

theorem pendingCommand_length (p : Protocol) :
    p.pendingCommand.toList.length = if p.hasPending then 1 else 0 := by
  unfold pendingCommand
  split <;> rfl

/-- An invalidation drops the slot and leaves the accepted commands behind it. -/
theorem Accounted.clear {log : List ProtocolEvent} {p : Protocol} {event : ProtocolEvent}
    (account : Accounted log p) (mail : mailActions event = [.drop])
    (quiet : acceptedCommands [event] = [] ∧ appliedCommands [event] = [])
    (drops : (droppedCommands [event]).length = p.pendingCommand.toList.length) :
    Accounted (log ++ [event]) p.clear := by
  have accepted : acceptedCommands (log ++ [event]) = acceptedCommands log := by
    simpa [acceptedCommands] using quiet.1
  have applied : appliedCommands (log ++ [event]) = appliedCommands log := by
    simpa [appliedCommands] using quiet.2
  have lost : (droppedCommands (log ++ [event])).length =
      (droppedCommands log).length + p.pendingCommand.toList.length := by
    simpa [droppedCommands] using drops
  constructor
  · simp [mail, Mailbox.act, Protocol.clear, invalidateApplied, pendingCommand]
  · simpa [mail, Mailbox.act, applied] using account.takes
  · simp [mail, Mailbox.act, lost, account.dropped, account.slot]
  · simpa [mail, Mailbox.act, Protocol.clear, invalidateApplied] using account.overwritten
  · simp [Protocol.clear, invalidateApplied]
  · rw [accepted]
    exact fun cmd member => ⟨(account.known cmd member).1, fun _ live => absurd rfl live⟩
  · rw [accepted]
    exact account.increasing

/-- Entering TIMEOUT_HOLD drops the slot and keeps the generation. -/
theorem Accounted.hold {log : List ProtocolEvent} {p : Protocol} (account : Accounted log p) :
    Accounted (log ++ [.held p.pendingCommand]) p.hold := by
  have accepted : acceptedCommands (log ++ [.held p.pendingCommand]) = acceptedCommands log := by
    simp [acceptedCommands]
  constructor
  · simp [mailActions, Mailbox.act, Protocol.hold, invalidateApplied, pendingCommand]
  · simpa [mailActions, Mailbox.act, appliedCommands] using account.takes
  · have drops : (droppedCommands [.held p.pendingCommand]).length =
        p.pendingCommand.toList.length := by
      cases p.pendingCommand <;> rfl
    simpa [mailActions, Mailbox.act, account.dropped, account.slot, droppedCommands] using drops.symm
  · simpa [mailActions, Mailbox.act, Protocol.hold, invalidateApplied] using account.overwritten
  · exact account.counted
  · rw [accepted]
    exact account.known
  · rw [accepted]
    exact account.increasing

/-- An accepted command is above every command of its generation. -/
theorem Accounted.store {log : List ProtocolEvent} {p : Protocol} {cmd : Command}
    (account : Accounted log p) (inv : p.Invariant) (valid : p.valid cmd = true) (now : UInt64) :
    Accounted (log ++ [.accepted cmd]) (p.store cmd now) := by
  obtain ⟨phase, session, newer, _⟩ := valid_iff valid
  have accepted : acceptedCommands (log ++ [.accepted cmd]) = acceptedCommands log ++ [cmd] := by
    simp [acceptedCommands]
  have live := UInt64.ne_of_lt (inv.live phase)
  constructor
  · simp [mailActions, Mailbox.act, Protocol.store, pendingCommand]
  · simpa [mailActions, Mailbox.act, appliedCommands] using account.takes
  · simpa [mailActions, Mailbox.act, droppedCommands] using account.dropped
  · have before := account.overwritten
    simp only [mailbox_append, List.flatMap_cons, List.flatMap_nil, mailActions, List.append_nil,
      Mailbox.acts_singleton, Mailbox.act, Protocol.store, account.slot, pendingCommand_length]
    split
    · rw [UInt64.toNat_add, before, UInt64.toNat_one]
      omega
    · simpa using before
  · exact account.counted
  · rw [accepted]
    intro old member
    rcases List.mem_append.mp member with earlier | last
    · refine ⟨(account.known old earlier).1, fun same nonzero => ?_⟩
      exact UInt64.le_of_lt (UInt64.lt_of_le_of_lt ((account.known old earlier).2 same nonzero) newer)
    · obtain rfl := List.mem_singleton.mp last
      exact ⟨session ▸ account.counted, fun _ _ => UInt64.le_refl _⟩
  · rw [accepted]
    refine List.pairwise_append.mpr ⟨account.increasing, List.pairwise_singleton _ _, ?_⟩
    intro old earlier last isLast same
    obtain rfl := List.mem_singleton.mp isLast
    exact UInt64.lt_of_le_of_lt
      ((account.known old earlier).2 (same.trans session) (Ne.symm live)) newer

/-- Every primitive keeps the account. -/
theorem Primitive.accounted {now : UInt64} {log : List ProtocolEvent} {p q : Protocol}
    {event : ProtocolEvent} (inv : p.Invariant) (account : Accounted log p)
    (step : Primitive now p event q) : Accounted (log ++ [event]) q := by
  cases step with
  | expired armed =>
      have empty : p.pendingCommand = none := by simp [pendingCommand, (inv.armed armed).2.2]
      exact account.clear rfl ⟨rfl, rfl⟩ (by simp [droppedCommands, empty])
  | cancelled =>
      refine account.clear rfl ⟨rfl, rfl⟩ ?_
      cases p.pendingCommand <;> rfl
  | held => exact account.hold
  | accepted valid => exact account.store inv valid now
  | applied full running =>
      have slot : p.pendingCommand = some p.pending := by simp [pendingCommand, full]
      constructor
      · simp [mailActions, Mailbox.act, Protocol.apply, pendingCommand]
      · simp [mailActions, Mailbox.act, appliedCommands, account.takes, account.slot, slot]
      · simpa [mailActions, Mailbox.act, droppedCommands] using account.dropped
      · simpa [mailActions, Mailbox.act, Protocol.apply] using account.overwritten
      · exact account.counted
      · simpa [acceptedCommands, Protocol.apply] using account.known
      · simpa [acceptedCommands] using account.increasing
  | armed idle named room prepare =>
      have clean := (inv.idleClean (inv.phase_of_client idle)).1
      have next := counter_next room
      constructor
      · simpa [mailActions] using account.slot
      · simpa [mailActions, appliedCommands] using account.takes
      · simpa [mailActions, droppedCommands] using account.dropped
      · simpa [mailActions, Protocol.arm] using account.overwritten
      · simp [Protocol.arm, clean]
      · intro cmd member
        have old := account.known cmd (by simpa [acceptedCommands] using member)
        refine ⟨?_, fun _ live => absurd clean live⟩
        simp only [Protocol.arm, next]
        omega
      · simpa [acceptedCommands] using account.increasing
  | started armed owner room =>
      have next := counter_next room
      constructor
      · simpa [mailActions] using account.slot
      · simpa [mailActions, appliedCommands] using account.takes
      · simpa [mailActions, droppedCommands] using account.dropped
      · simpa [mailActions, Protocol.start] using account.overwritten
      · simp [Protocol.start]
      · intro cmd member
        have old := (account.known cmd (by simpa [acceptedCommands] using member)).1
        simp only [Protocol.start, next]
        refine ⟨by omega, fun same _ => ?_⟩
        rw [same, next] at old
        omega
      · simpa [acceptedCommands] using account.increasing
  | refused =>
      constructor
      · simpa [mailActions] using account.slot
      · simpa [mailActions, appliedCommands] using account.takes
      · simpa [mailActions, droppedCommands] using account.dropped
      · simpa [mailActions, Protocol.refuse] using account.overwritten
      · exact account.counted
      · simpa [acceptedCommands, Protocol.refuse] using account.known
      · simpa [acceptedCommands] using account.increasing

/-- The watchdog and the checks of a control request never accept or apply a command. -/
theorem quiet_events (p : Protocol) (r : Request) (now : UInt64) (cmd : Command) :
    (.accepted cmd ∉ p.watchdogEvents now ∧ .applied cmd ∉ p.watchdogEvents now) ∧
      .accepted cmd ∉ p.answerEvents r now ∧ .applied cmd ∉ p.answerEvents r now := by
  constructor
  · rcases p.watchdog_cases now with ⟨_, none, _⟩ | ⟨_, _, _, one⟩ | ⟨_, _, _, one⟩
    · simp [none]
    · simp [one]
    · simp [one]
  · simp only [answerEvents]
    split <;> split <;> simp

/-- A command is accepted and applied while its session is the present generation. -/
theorem callEvents_session {p : Protocol} (inv : p.Invariant) (c : Call) (cmd : Command)
    (present : .accepted cmd ∈ p.callEvents c ∨ .applied cmd ∈ p.callEvents c) :
    cmd.session = (p.call c).status.generation := by
  have watched : (p.watchdog c.now).Invariant :=
    (p.watchdog_path c.now).stateInvariant inv
  have quiet := p.quiet_events
  cases c with
  | requestControl r now =>
      simp only [callEvents, List.mem_append, Call.now] at present
      have first := (quiet r now cmd).1
      have second := ((p.watchdog now).quiet_events r now cmd).2
      tauto
  | accept cmd' now =>
      have first := (quiet {} now cmd).1
      by_cases valid : (p.watchdog now).valid cmd' = true
      · have same : cmd = cmd' := by simpa [callEvents, Call.now, accept, valid, first] using present
        simpa [call, accept, valid, store, same] using (valid_iff valid).2.1
      · simp [callEvents, Call.now, accept, valid, first] at present
  | tick now wallUs =>
      have first := (quiet {} now cmd).1
      by_cases idle : (p.watchdog now).hasPending = false ∨ (p.watchdog now).status.phase ≠ 4
      · simp [callEvents, Call.now, tick, idle, first] at present
      · have same : cmd = (p.watchdog now).pending := by
          simpa [callEvents, Call.now, tick, idle, first] using present
        have full : (p.watchdog now).hasPending = true := by simpa using (not_or.mp idle).1
        simpa [call, tick, idle, apply, same, Call.now] using (watched.pending full).2.1
  | watchdog now =>
      have first := (quiet {} now cmd).1
      simp [callEvents, Call.now, first] at present

end Protocol

/-- The commands in the mailbox slot are never older than the last invalidation. -/
theorem applied_after_invalidation {earlier later : List ProtocolEvent} {event : ProtocolEvent}
    (invalidates : event.Invalidates) (account : ∀ log, log <+: earlier ++ event :: later →
      (mailbox log).takes = appliedCommands log) :
    (appliedCommands later).Sublist (acceptedCommands later) := by
  have cut : earlier ++ event :: later = (earlier ++ [event]) ++ later := by simp
  have drop : mailActions event = [.drop] := by
    cases event with
    | expired | held | cancelled => rfl
    | _ => exact invalidates.elim
  have slot : (mailbox (earlier ++ [event])).slot = none := by simp [drop, Mailbox.act]
  have before := account (earlier ++ [event]) ⟨later, cut.symm⟩
  have whole := account (earlier ++ event :: later) (List.prefix_refl _)
  have extended := ((mailbox (earlier ++ [event])).acts_extend (later.flatMap mailActions)).2.1
  rw [cut, mailbox_append, extended, before, slot] at whole
  have split : appliedCommands ((earlier ++ [event]) ++ later) =
      appliedCommands (earlier ++ [event]) ++ appliedCommands later := List.filterMap_append
  have same : (mailbox later).takes = appliedCommands later := List.append_cancel_left (whole.trans split)
  have ordered := (List.sublist_append_left _ _).trans (mailbox_ordered later)
  rwa [same, mailbox_puts] at ordered

/-- The account holds after every event of every run. -/
theorem run_accounted {seed streamTimeout prepareTimeout : UInt64} {rejectOperation : Int}
    {p : Protocol} (created : Protocol.create seed streamTimeout prepareTimeout rejectOperation = some p)
    {moves : List (Move Robot Call ProtocolEvent)} {robot : Robot}
    (run : robotMachine.Run ⟨p, 0⟩ moves robot) :
    robot.protocol.Invariant ∧ Protocol.Accounted (trace moves) robot.protocol ∧
      ∀ log, log <+: trace moves → (mailbox log).takes = appliedCommands log := by
  refine robotMachine_invariant (fun log p => p.Invariant ∧ Protocol.Accounted log p ∧
    ∀ past, past <+: log → (mailbox past).takes = appliedCommands past) ?_ ?_ run
  · obtain ⟨initial, fresh, _⟩ := Protocol.create_invariant created
    have empty : p.pendingCommand = none ∧ p.overwritten = 0 := by
      unfold Protocol.create at created
      split at created <;> cases created
      exact ⟨rfl, rfl⟩
    refine ⟨initial, ?_, fun past isPrefix => ?_⟩
    · constructor
      · exact empty.1.symm
      · rfl
      · rfl
      · rw [empty.2]
        rfl
      · simp [fresh]
      · simp [acceptedCommands]
      · exact .nil
    · rw [List.prefix_nil.mp isPrefix]
      rfl
  · rintro now log p event q ⟨inv, account, past⟩ step
    have next := step.accounted inv account
    refine ⟨step.invariant inv, next, fun log' isPrefix => ?_⟩
    rcases List.prefix_concat_iff.mp isPrefix with whole | earlier
    · rw [whole]
      exact next.takes
    · exact past log' earlier

/-- In every run the accepted and the applied sequences increase within a generation, every
accepted command is applied once, replaced, dropped or pending, no applied command is older than
the last invalidation, and the overwrite counter counts the replaced commands modulo 2^64. -/
theorem command_account {seed streamTimeout prepareTimeout : UInt64} {rejectOperation : Int}
    {p : Protocol} (created : Protocol.create seed streamTimeout prepareTimeout rejectOperation = some p)
    {moves : List (Move Robot Call ProtocolEvent)} {robot : Robot}
    (run : robotMachine.Run ⟨p, 0⟩ moves robot) :
    ((acceptedCommands (trace moves)).Pairwise fun first second =>
      first.session = second.session → first.sequence < second.sequence) ∧
    ((appliedCommands (trace moves)).Pairwise fun first second =>
      first.session = second.session → first.sequence < second.sequence) ∧
    (appliedCommands (trace moves)).Sublist (acceptedCommands (trace moves)) ∧
    (∀ move ∈ moves, ∀ cmd, .accepted cmd ∈ move.events ∨ .applied cmd ∈ move.events →
      cmd.session = move.after.protocol.status.generation) ∧
    (∀ earlier event later, trace moves = earlier ++ event :: later → event.Invalidates →
      (appliedCommands later).Sublist (acceptedCommands later)) ∧
    (acceptedCommands (trace moves)).length = (appliedCommands (trace moves)).length +
      (mailbox (trace moves)).overwritten + (droppedCommands (trace moves)).length +
      (if robot.protocol.hasPending then 1 else 0) ∧
    robot.protocol.overwritten.toNat = (mailbox (trace moves)).overwritten % 2 ^ 64 := by
  obtain ⟨_, account, past⟩ := run_accounted created run
  have subset : (appliedCommands (trace moves)).Sublist (acceptedCommands (trace moves)) := by
    have ordered := (List.sublist_append_left _ _).trans (mailbox_ordered (trace moves))
    rwa [account.takes, mailbox_puts] at ordered
  refine ⟨account.increasing, account.increasing.sublist subset, subset, ?_, ?_, ?_, account.overwritten⟩
  · intro move member cmd present
    obtain ⟨earlier, later, cut⟩ := List.append_of_mem member
    obtain ⟨before, accepted, _⟩ := run.at_move cut
    obtain ⟨inv, _⟩ := run_accounted created before
    obtain ⟨_, after, events⟩ := robotMachine_step accepted
    rw [events] at present
    rw [after]
    exact Protocol.callEvents_session inv move.input cmd present
  · exact fun earlier event later cut invalidates =>
      applied_after_invalidation invalidates (cut ▸ past)
  · have balanced := mailbox_balanced (trace moves)
    rwa [Mailbox.Balanced, mailbox_puts, account.takes, account.dropped, account.slot,
      Protocol.pendingCommand_length] at balanced

/-- The last of three accepted commands is applied after it replaced the second one. -/
theorem command_account_overwritten :
    ∃ p moves robot, Protocol.create 10 100 50 0 = some p ∧ robotMachine.Run ⟨p, 0⟩ moves robot ∧
      (acceptedCommands (trace moves)).length = 3 ∧ robot.protocol.overwritten = 1 ∧
      (appliedCommands (trace moves)).Sublist (acceptedCommands (trace moves)) := by
  obtain ⟨moves, robot, run, _, accepted, overwritten⟩ := robotMachine.exists_run
    ⟨{ generation := 10, commandTimeoutNs := 100, prepareTimeoutNs := 50, rejectOperation := 0 }, 0⟩
    [.requestControl ⟨2, 1, "req", "client", "", "EXTERNAL"⟩ 1000,
      .requestControl ⟨2, 2, "req", "client", "mock-lease-11", "EXTERNAL"⟩ 1004,
      .accept { session := 12, sequence := 1, inputStateRealUs := 1 } 1010,
      .tick 1012 2000,
      .accept { session := 12, sequence := 2, inputStateRealUs := 1 } 1014,
      .accept { session := 12, sequence := 3, inputStateRealUs := 1 } 1016,
      .tick 1018 2004]
    (fun moves robot => (acceptedCommands (trace moves)).length = 3 ∧ robot.protocol.overwritten = 1)
    (by decide +kernel)
  have created : Protocol.create 10 100 50 0 = some _ := rfl
  exact ⟨_, moves, robot, created, run, accepted, overwritten, (command_account created run).2.2.1⟩

/-- A valid command with all positions at zero. -/
def restCommand (session sequence : UInt64) : Command :=
  { session := session, sequence := sequence, inputStateRealUs := 1 }

theorem restCommand_slots (session sequence : UInt64) :
    ((List.finRange kSlots).all fun slot =>
      slot.val = 14 || Protocol.slotValid (restCommand session sequence) slot) = true := by
  have rest : ((List.finRange kSlots).all fun slot =>
      slot.val = 14 || Protocol.slotValid {} slot) = true := by decide +kernel
  exact rest

/-- The robot after the commands 1, …, replaced + 1 of generation 3, with no tick between them. -/
def streamedRobot (replaced : UInt64) : Robot where
  protocol :=
    { status := { requestId := "req", clientId := "client", leaseId := "mock-lease-2", phase := 4,
                  generation := 3, lastValidNs := 1, acceptedSequence := 1 + replaced,
                  statusSeq := 4 + replaced }
      pending := restCommand 3 (1 + replaced)
      hasPending := true
      generation := 3
      commandTimeoutNs := 100
      prepareTimeoutNs := 100
      preparedNs := 1
      overwritten := replaced
      rejectOperation := 0 }
  clock := 1

/-- One more command replaces the waiting one. -/
theorem streamedRobot_step (replaced : UInt64) (fits : replaced.toNat + 2 < 2 ^ 64) :
    robotMachine.step (streamedRobot replaced) (.accept (restCommand 3 (1 + (replaced + 1))) 1) =
      some (streamedRobot (replaced + 1), [.accepted (restCommand 3 (1 + (replaced + 1)))]) := by
  have following : (1 + (replaced + 1)).toNat = replaced.toNat + 2 := by
    simp only [UInt64.toNat_add, UInt64.toNat_one]
    omega
  have newer : 1 + replaced < 1 + (replaced + 1) := by
    rw [UInt64.lt_iff_toNat_lt, following, UInt64.toNat_add, UInt64.toNat_one]
    omega
  have nonzero : 1 + (replaced + 1) ≠ 0 := by
    intro zero
    rw [zero] at following
    simp at following
  have still : (streamedRobot replaced).protocol.watchdog 1 = (streamedRobot replaced).protocol := by
    simp [Protocol.watchdog, streamedRobot]
  have quiet : (streamedRobot replaced).protocol.watchdogEvents 1 = [] := by
    simp [Protocol.watchdogEvents, still]
  have valid : (streamedRobot replaced).protocol.valid (restCommand 3 (1 + (replaced + 1))) = true := by
    have slots := restCommand_slots 3 (1 + (replaced + 1))
    simp only [Protocol.valid, slots, Bool.and_true]
    simp only [streamedRobot, restCommand, gt_iff_lt, newer, ne_eq, nonzero]
    simp
  simp only [robotMachine, Call.now, Protocol.call, Protocol.callEvents, Protocol.accept, still, valid,
    quiet]
  simp [streamedRobot, Protocol.store, restCommand, UInt64.add_assoc]

theorem streamedRobot_run (count : Nat) (fits : count + 1 < 2 ^ 64) :
    ∃ moves, robotMachine.Run (streamedRobot 0) moves (streamedRobot (.ofNat count)) ∧
      moves.map Move.input = (List.range count).map
        (fun index => .accept (restCommand 3 (1 + (.ofNat index + 1))) 1) ∧
      (acceptedCommands (trace moves)).length = count ∧
      (appliedCommands (trace moves)).length = 0 ∧ (droppedCommands (trace moves)).length = 0 := by
  induction count with
  | zero => exact ⟨[], .nil, rfl, rfl, rfl, rfl⟩
  | succ count ih =>
      obtain ⟨moves, run, inputs, accepted, applied, dropped⟩ := ih (by omega)
      have value : (UInt64.ofNat count).toNat = count := UInt64.toNat_ofNat_of_lt' (by unfold UInt64.size; omega)
      have step := streamedRobot_step (.ofNat count) (by omega)
      rw [← UInt64.ofNat_one, ← UInt64.ofNat_add] at step
      refine ⟨_, run.snoc step, ?_, ?_, ?_, ?_⟩
      · simp [inputs, List.range_succ]
      · simpa [acceptedCommands] using accepted
      · simpa [appliedCommands] using applied
      · simpa [droppedCommands] using dropped

def wrapOpening : List Call :=
  [.requestControl ⟨2, 1, "req", "client", "", "EXTERNAL"⟩ 1,
    .requestControl ⟨2, 2, "req", "client", "mock-lease-2", "EXTERNAL"⟩ 1,
    .accept (restCommand 3 1) 1]

def wrapClosing : List Call :=
  [.requestControl ⟨2, 3, "req", "client", "mock-lease-2", "EXTERNAL"⟩ 1,
    .requestControl ⟨2, 1, "again", "client", "", "EXTERNAL"⟩ 1,
    .requestControl ⟨2, 2, "again", "client", "mock-lease-4", "EXTERNAL"⟩ 1,
    .accept (restCommand 5 1) 1, .accept (restCommand 5 2) 1, .accept (restCommand 5 3) 1]

/-- Two generations that together replace 2^64 commands bring the overwrite counter back to zero. -/
theorem command_account_wraps :
    ∃ p moves robot, Protocol.create 1 100 100 0 = some p ∧ robotMachine.Run ⟨p, 0⟩ moves robot ∧
      moves.map Move.input = wrapOpening ++ (List.range (2 ^ 64 - 2)).map
        (fun index => .accept (restCommand 3 (1 + (.ofNat index + 1))) 1) ++ wrapClosing ∧
      (acceptedCommands (trace moves)).length ≠ (appliedCommands (trace moves)).length +
        robot.protocol.overwritten.toNat + (droppedCommands (trace moves)).length +
        (if robot.protocol.hasPending then 1 else 0) := by
  obtain ⟨opening, _, openRun, openInputs, rfl, openAccepted, openApplied, openDropped⟩ :=
    robotMachine.exists_run
      ⟨{ generation := 1, commandTimeoutNs := 100, prepareTimeoutNs := 100, rejectOperation := 0 }, 0⟩
      wrapOpening (fun moves robot => robot = streamedRobot 0 ∧
        (acceptedCommands (trace moves)).length = 1 ∧ (appliedCommands (trace moves)).length = 0 ∧
        (droppedCommands (trace moves)).length = 0) ⟨_, rfl, rfl, rfl, rfl, rfl⟩
  obtain ⟨stream, streamRun, streamInputs, streamAccepted, streamApplied, streamDropped⟩ :=
    streamedRobot_run (2 ^ 64 - 2) (by norm_num)
  obtain ⟨closing, robot, closeRun, closeInputs, closeAccepted, closeApplied, closeDropped,
      zero, full⟩ :=
    robotMachine.exists_run (streamedRobot (.ofNat (2 ^ 64 - 2))) wrapClosing
      (fun moves robot => (acceptedCommands (trace moves)).length = 3 ∧
        (appliedCommands (trace moves)).length = 0 ∧ (droppedCommands (trace moves)).length = 1 ∧
        robot.protocol.overwritten = 0 ∧ robot.protocol.hasPending = true) (by decide +kernel)
  have counts {Value : Type} (pick : ProtocolEvent → Option Value) :
      ((trace (opening ++ stream ++ closing)).filterMap pick).length =
        ((trace opening).filterMap pick).length + ((trace stream).filterMap pick).length +
          ((trace closing).filterMap pick).length := by simp [Nat.add_assoc]
  refine ⟨_, opening ++ stream ++ closing, robot, rfl, (openRun.append streamRun).append closeRun, ?_, ?_⟩
  · rw [List.map_append, List.map_append, openInputs, streamInputs, closeInputs]
  · unfold acceptedCommands appliedCommands droppedCommands at *
    rw [counts, counts, counts, openAccepted, openApplied, openDropped, streamAccepted, streamApplied,
      streamDropped, closeAccepted, closeApplied, closeDropped, zero, full]
    decide

end HumanoidSdk.Mock
