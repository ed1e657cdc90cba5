import HumanoidSdk.Mock.Context

namespace HumanoidSdk.Mock
open Foundation

/-- The least multiple above a number adds what its remainder leaves of the period. -/
theorem mul_ceilDiv {number period : ℕ} (positive : 0 < period) :
    period * (number ⌈/⌉ period) =
      number + if number % period = 0 then 0 else period - number % period := by
  have parts := Nat.div_add_mod number period
  have rest := Nat.mod_lt number positive
  by_cases whole : number % period = 0
  · have quotient : number ⌈/⌉ period = number / period := by
      apply le_antisymm
      · exact (ceilDiv_le_iff_le_mul positive).mpr (by omega)
      · rw [← Nat.floorDiv_eq_div]
        exact floorDiv_le_ceilDiv
    rw [quotient, if_pos whole]
    omega
  · have quotient : number ⌈/⌉ period = number / period + 1 := by
      apply le_antisymm
      · rw [ceilDiv_le_iff_le_mul positive, Nat.mul_succ]
        omega
      · by_contra less
        have below : number ⌈/⌉ period ≤ number / period := by omega
        rw [ceilDiv_le_iff_le_mul positive] at below
        omega
    rw [quotient, if_neg whole, Nat.mul_succ]
    omega

/-- The tick is the least multiple of the period that the acceptance does not exceed. -/
theorem nextApplyTick_ceil {accepted period tick : UInt64} (due : nextApplyTick accepted period = .ok tick) :
    0 < period.toNat ∧ tick.toNat = period.toNat * (accepted.toNat ⌈/⌉ period.toNat) := by
  have nonzero : period ≠ 0 := by
    rintro rfl
    simp [nextApplyTick] at due
  have positive : 0 < period.toNat := UInt64.pos_iff_ne_zero.mpr nonzero
  have rest := Nat.mod_lt accepted.toNat positive
  have remainder := UInt64.toNat_mod accepted period
  have delta : (if accepted % period ≠ 0 then period - accepted % period else 0).toNat =
      if accepted.toNat % period.toNat = 0 then 0 else period.toNat - accepted.toNat % period.toNat := by
    have inside : accepted % period ≤ period := by
      rw [UInt64.le_iff_toNat_le, remainder]
      exact rest.le
    rw [← remainder]
    by_cases whole : accepted % period = 0
    · simp [whole]
    · have left : (accepted % period).toNat ≠ 0 := fun zero => whole (UInt64.toNat_inj.mp zero)
      rw [if_pos whole, if_neg left, UInt64.toNat_sub_of_le _ _ inside]
  rw [nextApplyTick, if_neg nonzero] at due
  dsimp only at due
  generalize (if accepted % period ≠ 0 then period - accepted % period else 0) = added at delta due
  by_cases fits : accepted > maxUint64 - added
  · rw [if_pos fits] at due
    cases due
  · rw [if_neg fits] at due
    obtain rfl := Except.ok.inj due
    have largest : maxUint64.toNat = 18446744073709551615 := rfl
    have small := added.toNat_lt
    have room : added ≤ maxUint64 := by
      rw [UInt64.le_iff_toNat_le, largest]
      omega
    rw [gt_iff_lt, UInt64.not_lt, UInt64.le_iff_toNat_le, UInt64.toNat_sub_of_le _ _ room] at fits
    refine ⟨positive, ?_⟩
    rw [mul_ceilDiv positive, ← delta, UInt64.toNat_add]
    exact Nat.mod_eq_of_lt (by omega)

/-- The last multiple of the period that the wall clock has reached. -/
def lastGridPoint (wall period : UInt64) : UInt64 := wall / period * period

theorem lastGridPoint_toNat (wall period : UInt64) :
    (lastGridPoint wall period).toNat = wall.toNat / period.toNat * period.toNat := by
  have below := Nat.div_mul_le_self wall.toNat period.toNat
  have bound := wall.toNat_lt
  rw [lastGridPoint, UInt64.toNat_mul, UInt64.toNat_div]
  exact Nat.mod_eq_of_lt (by omega)

/-- A tick has come exactly when its command was accepted up to the last grid point. -/
theorem nextApplyTick_le_iff {accepted period tick : UInt64} (due : nextApplyTick accepted period = .ok tick)
    (wall : UInt64) : tick ≤ wall ↔ accepted ≤ lastGridPoint wall period := by
  obtain ⟨positive, value⟩ := nextApplyTick_ceil due
  rw [UInt64.le_iff_toNat_le, UInt64.le_iff_toNat_le, value, lastGridPoint_toNat, Nat.mul_comm,
    ← Nat.le_div_iff_mul_le positive, ceilDiv_le_iff_le_mul positive, Nat.mul_comm]

theorem nextApplyTick_mono {first second period tick next : UInt64}
    (due : nextApplyTick first period = .ok tick) (later : nextApplyTick second period = .ok next)
    (order : first ≤ second) : tick ≤ next := by
  rw [nextApplyTick_le_iff due]
  exact UInt64.le_trans order ((nextApplyTick_le_iff later next).mp (UInt64.le_refl next))

theorem nextApplyTick_eq_zero {accepted period tick : UInt64} (due : nextApplyTick accepted period = .ok tick) :
    tick = 0 ↔ accepted = 0 := by
  obtain ⟨positive, value⟩ := nextApplyTick_ceil due
  have zero : accepted.toNat ⌈/⌉ period.toNat ≤ 0 ↔ accepted.toNat ≤ 0 := by
    rw [ceilDiv_le_iff_le_mul positive, Nat.mul_zero]
  rw [← UInt64.toNat_inj, ← UInt64.toNat_inj, value, UInt64.toNat_zero, Nat.mul_eq_zero]
  omega

/-- A watchdog that leaves the robot RUNNING has done nothing. -/
theorem Protocol.watchdog_running {p : Protocol} {now : UInt64}
    (after : (p.watchdog now).status.phase = 4) : p.watchdog now = p := by
  rcases p.watchdog_cases now with ⟨kept, _⟩ | ⟨_, _, fired, _⟩ | ⟨_, _, fired, _⟩
  · exact kept
  · simp [fired, clear, invalidateApplied] at after
  · simp [fired, hold, invalidateApplied] at after

/-- A request that leaves a RUNNING robot RUNNING has done nothing. -/
theorem Protocol.requestControl_running {p : Protocol} {r : Request} {now : UInt64}
    (before : p.status.phase = 4) (after : (p.requestControl r now).2.status.phase = 4) :
    (p.requestControl r now).2 = p := by
  have answered := (p.watchdog now).answer_cases r now
  change ((p.watchdog now).answer r now).2.status.phase = 4 at after
  change ((p.watchdog now).answer r now).2 = p
  generalize (p.watchdog now).answer r now = result at answered after
  cases answered with
  | refused | preparedAgain | alreadyIdle | committedAgain => exact watchdog_running after
  | armed => simp [arm] at after
  | cancelled => simp [clear, invalidateApplied] at after
  | started commit owner armed =>
      rcases p.watchdog_cases now with ⟨kept, _⟩ | ⟨_, _, fired, _⟩ | ⟨_, _, fired, _⟩
      · rw [kept] at armed
        omega
      · simp [fired, clear, invalidateApplied] at armed
      · simp [fired, hold, invalidateApplied] at armed

theorem Protocol.accept_true {p : Protocol} {cmd : Command} {now : UInt64}
    (valid : (p.accept cmd now).1 = true) : (p.accept cmd now).2 = (p.watchdog now).store cmd now := by
  cases accepts : (p.watchdog now).valid cmd with
  | true => simp [accept, accepts]
  | false => simp [accept, accepts] at valid

theorem Protocol.accept_false {p : Protocol} {cmd : Command} {now : UInt64}
    (invalid : (p.accept cmd now).1 = false) : (p.accept cmd now).2 = (p.watchdog now).refuse := by
  cases accepts : (p.watchdog now).valid cmd with
  | true => simp [accept, accepts] at invalid
  | false => simp [accept, accepts]

/-- A command with a tick is stored together with it. -/
theorem Context.receiveCommand_due {ctx : Context} {cmd : Command} {mono wall tick : UInt64}
    (valid : (ctx.protocol.accept cmd mono).1 = true) (due : nextApplyTick wall ctx.applyPeriodNs = .ok tick) :
    ctx.receiveCommand cmd mono wall =
      { ctx with
        protocol := (ctx.protocol.watchdog mono).store cmd mono
        pendingTickNs := tick
        accepted := ctx.accepted + 1 } := by
  simp [receiveCommand, valid, due, Protocol.accept_true valid]

/-- An acceptance is a command with the wall reading after it. -/
def acceptanceOf : ContextEvent → Option (Command × UInt64)
  | .accepted cmd wall => some (cmd, wall)
  | .applied _ => none

def acceptances (log : List ContextEvent) : List (Command × UInt64) := log.filterMap acceptanceOf

@[simp] theorem acceptances_append (first second : List ContextEvent) :
    acceptances (first ++ second) = acceptances first ++ acceptances second := List.filterMap_append

/-- No turn changes the period. -/
theorem Context.turn_applyPeriodNs (ctx : Context) (turn : Turn) :
    (ctx.turn turn).applyPeriodNs = ctx.applyPeriodNs := by
  obtain ⟨act, mono, wall⟩ := turn
  cases act with
  | unreadable | statusPass => rfl
  | receiveCommand cmd =>
      simp only [Context.turn, receiveCommand]
      split
      · split <;> rfl
      · rfl
  | receiveRequest request sent => cases sent <;> rfl
  | applyPass =>
      simp only [Context.turn, applyPass]
      split
      · split <;> rfl
      · rfl

/-- The pending command and its tick belong to the acceptances since the command in question. -/
structure Waiting (taken : List (Command × UInt64)) (host : MockHost) : Prop where
  running : host.context.protocol.status.phase = 4
  full : host.context.protocol.hasPending = true
  pending : ∃ acceptance ∈ taken, acceptance.1 = host.context.protocol.pending
  tick : ∃ acceptance ∈ taken,
    nextApplyTick acceptance.2 host.context.applyPeriodNs = .ok host.context.pendingTickNs
  latest : ∀ acceptance ∈ taken, ∀ tick,
    nextApplyTick acceptance.2 host.context.applyPeriodNs = .ok tick → tick ≤ host.context.pendingTickNs
  past : ∀ acceptance ∈ taken, acceptance.2 ≤ host.wall

theorem Waiting.later {taken : List (Command × UInt64)} {host next : MockHost} (held : Waiting taken host)
    (running : next.context.protocol.status.phase = 4)
    (pending : next.context.protocol.hasPending = host.context.protocol.hasPending ∧
      next.context.protocol.pending = host.context.protocol.pending)
    (tick : next.context.pendingTickNs = host.context.pendingTickNs)
    (period : next.context.applyPeriodNs = host.context.applyPeriodNs) (order : host.wall ≤ next.wall) :
    Waiting taken next where
  running := running
  full := pending.1.trans held.full
  pending := pending.2 ▸ held.pending
  tick := by rw [tick, period]; exact held.tick
  latest := by rw [tick, period]; exact held.latest
  past acceptance member := UInt64.le_trans (held.past acceptance member) order

/-- An accepted command and its tick replace the pending ones. -/
theorem Waiting.accepted {taken : List (Command × UInt64)} {host : MockHost} (held : Waiting taken host)
    {cmd : Command} {mono wall : UInt64} (order : host.wall ≤ wall)
    (valid : (host.context.protocol.accept cmd mono).1 = true) :
    Waiting (taken ++ [(cmd, wall)]) ⟨host.context.receiveCommand cmd mono wall, mono, wall⟩ := by
  have last : (cmd, wall) ∈ taken ++ [(cmd, wall)] := by simp
  have past : ∀ acceptance ∈ taken ++ [(cmd, wall)], acceptance.2 ≤ wall := by
    intro acceptance member
    rcases List.mem_append.mp member with old | new
    · exact UInt64.le_trans (held.past acceptance old) order
    · rw [List.mem_singleton.mp new]
      exact UInt64.le_refl wall
  cases due : nextApplyTick wall host.context.applyPeriodNs with
  | error text =>
      have after : host.context.receiveCommand cmd mono wall =
          Context.unreadable { host.context with
            protocol := (host.context.protocol.watchdog mono).store cmd mono } := by
        simp [Context.receiveCommand, valid, due, Protocol.accept_true valid]
      rw [after]
      obtain ⟨setter, member, set⟩ := held.tick
      refine ⟨rfl, rfl, ⟨_, last, rfl⟩, ⟨setter, List.mem_append_left _ member, set⟩, ?_, past⟩
      intro acceptance either tick has
      rcases List.mem_append.mp either with old | new
      · exact held.latest acceptance old tick has
      · rw [List.mem_singleton.mp new] at has
        exact absurd (due.symm.trans has) (by simp)
  | ok tick =>
      rw [Context.receiveCommand_due valid due]
      refine ⟨rfl, rfl, ⟨_, last, rfl⟩, ⟨_, last, due⟩, ?_, past⟩
      intro acceptance either other has
      exact nextApplyTick_mono has due (past acceptance either)

/-- A command that the stream starts with waits by itself. -/
theorem waiting_first {host : MockHost} {cmd : Command} {mono wall tick : UInt64}
    (valid : (host.context.protocol.accept cmd mono).1 = true)
    (due : nextApplyTick wall host.context.applyPeriodNs = .ok tick) :
    Waiting [(cmd, wall)] ⟨host.context.receiveCommand cmd mono wall, mono, wall⟩ ∧
      (host.context.receiveCommand cmd mono wall).pendingTickNs = tick := by
  rw [Context.receiveCommand_due valid due]
  refine ⟨⟨rfl, rfl, ⟨_, List.mem_singleton_self _, rfl⟩, ⟨_, List.mem_singleton_self _, due⟩, ?_, ?_⟩, rfl⟩
  · intro acceptance member other has
    rw [List.mem_singleton.mp member] at has
    exact Except.ok.inj (has.symm.trans due) ▸ UInt64.le_refl tick
  · intro acceptance member
    rw [List.mem_singleton.mp member]
    exact UInt64.le_refl wall

/-- A turn that is no due apply pass keeps the pending command or replaces it by a newer one. -/
theorem Waiting.turn {taken : List (Command × UInt64)} {host next : MockHost} {turn : Turn}
    {events : List ContextEvent} (held : Waiting taken host)
    (moved : mockMachine.step host turn = some (next, events))
    (running : next.context.protocol.status.phase = 4)
    (early : turn.act = .applyPass → host.context.dueAt turn.wall = false) :
    Waiting (taken ++ acceptances events) next ∧ host.context.pendingTickNs ≤ next.context.pendingTickNs ∧
      ∀ cmd, .applied cmd ∉ events := by
  obtain ⟨⟨_, order⟩, rfl, rfl⟩ := mockMachine_step moved
  obtain ⟨act, mono, wall⟩ := turn
  cases act with
  | unreadable =>
      refine ⟨?_, UInt64.le_refl _, by simp [Context.turnEvents]⟩
      have kept : Waiting taken ⟨host.context.unreadable, mono, wall⟩ :=
        held.later held.running ⟨rfl, rfl⟩ rfl rfl order
      simpa [Context.turnEvents, Context.turn, acceptances] using kept
  | statusPass =>
      have still := Protocol.watchdog_running running
      refine ⟨?_, UInt64.le_refl _, by simp [Context.turnEvents]⟩
      have kept := held.later running (by simp [Context.turn, Context.statusPass, still]) rfl rfl order
      simpa [Context.turnEvents, acceptances] using kept
  | receiveRequest request sent =>
      have still : (host.context.turn ⟨.receiveRequest request sent, mono, wall⟩).protocol =
          host.context.protocol := by
        cases sent with
        | true => exact Protocol.requestControl_running held.running running
        | false => rfl
      have tick : (host.context.turn ⟨.receiveRequest request sent, mono, wall⟩).pendingTickNs =
          host.context.pendingTickNs := by cases sent <;> rfl
      have period := host.context.turn_applyPeriodNs ⟨.receiveRequest request sent, mono, wall⟩
      refine ⟨?_, UInt64.le_of_eq tick.symm, by simp [Context.turnEvents]⟩
      have kept := held.later running ⟨by rw [still], by rw [still]⟩ tick period order
      simpa [Context.turnEvents, acceptances] using kept
  | applyPass =>
      have idle : host.context.applyPass mono wall = host.context := by
        simp [Context.applyPass, early rfl]
      have quiet : host.context.turnEvents ⟨.applyPass, mono, wall⟩ = [] := by
        simp [Context.turnEvents, early rfl]
      rw [quiet]
      have same : host.context.turn ⟨.applyPass, mono, wall⟩ = host.context := idle
      rw [same] at running ⊢
      have kept : Waiting taken ⟨host.context, mono, wall⟩ := held.later running ⟨rfl, rfl⟩ rfl rfl order
      exact ⟨by simpa [acceptances] using kept, UInt64.le_refl _, by simp⟩
  | receiveCommand cmd =>
      cases valid : (host.context.protocol.accept cmd mono).1 with
      | true =>
          have waits := held.accepted order valid
          have one : host.context.turnEvents ⟨.receiveCommand cmd, mono, wall⟩ = [.accepted cmd wall] := by
            simp [Context.turnEvents, valid]
          rw [one]
          refine ⟨waits, ?_, by simp⟩
          obtain ⟨setter, member, set⟩ := held.tick
          have period := host.context.turn_applyPeriodNs ⟨.receiveCommand cmd, mono, wall⟩
          exact waits.latest setter (List.mem_append_left _ member) _ (period ▸ set)
      | false =>
          have refused : host.context.receiveCommand cmd mono wall =
              { host.context with
                protocol := (host.context.protocol.watchdog mono).refuse
                rejected := host.context.rejected + 1 } := by
            simp [Context.receiveCommand, valid, Protocol.accept_false valid]
          have quiet : host.context.turnEvents ⟨.receiveCommand cmd, mono, wall⟩ = [] := by
            simp [Context.turnEvents, valid]
          have same : host.context.turn ⟨.receiveCommand cmd, mono, wall⟩ = _ := refused
          rw [quiet, same]
          rw [same] at running
          have still : host.context.protocol.watchdog mono = host.context.protocol :=
            Protocol.watchdog_running running
          refine ⟨?_, UInt64.le_refl _, by simp⟩
          have kept : Waiting taken ⟨_, mono, wall⟩ :=
            held.later running ⟨by rw [still]; rfl, by rw [still]; rfl⟩ rfl rfl order
          simpa [acceptances] using kept

/-- Until a pass finds the tick due, nothing is applied and the waiting command stays or is replaced. -/
theorem Waiting.window {taken : List (Command × UInt64)} {start host : MockHost}
    {window : List (Move MockHost Turn ContextEvent)} {tick : UInt64} (held : Waiting taken start)
    (run : mockMachine.Run start window host)
    (running : ∀ move ∈ window, move.after.context.protocol.status.phase = 4)
    (early : ∀ move ∈ window, move.input.act = .applyPass → move.input.wall < tick)
    (due : tick ≤ start.context.pendingTickNs) :
    Waiting (taken ++ acceptances (trace window)) host ∧ tick ≤ host.context.pendingTickNs ∧
      ∀ cmd, .applied cmd ∉ trace window := by
  induction run with
  | nil => exact ⟨by simpa [acceptances] using held, due, by simp⟩
  | @snoc window host next turn events past moved ih =>
      obtain ⟨waits, late, quiet⟩ := ih (fun move member => running move (by simp [member]))
        (fun move member => early move (by simp [member]))
      have notDue : turn.act = .applyPass → host.context.dueAt turn.wall = false := by
        intro pass
        have before := early _ (List.mem_append_right _ (List.mem_singleton_self _)) pass
        have order : ¬ host.context.pendingTickNs ≤ turn.wall :=
          UInt64.not_le.mpr (UInt64.lt_of_lt_of_le before late)
        simp [Context.dueAt, order]
      have phase := running ⟨host, turn, next, events⟩ (by simp)
      obtain ⟨after, later, silent⟩ := waits.turn moved phase notDue
      refine ⟨?_, UInt64.le_trans late later, fun cmd => ?_⟩
      · simpa [List.append_assoc] using after
      · simpa using ⟨quiet cmd, silent cmd⟩

/-- A pass applies the waiting command exactly when its tick is set and has come. -/
theorem Waiting.pass {taken : List (Command × UInt64)} {host next : MockHost} {turn : Turn}
    {events : List ContextEvent} (held : Waiting taken host)
    (moved : mockMachine.step host turn = some (next, events)) (pass : turn.act = .applyPass)
    (running : next.context.protocol.status.phase = 4) :
    events = if host.context.dueAt turn.wall then [.applied host.context.protocol.pending] else [] := by
  obtain ⟨_, rfl, rfl⟩ := mockMachine_step moved
  obtain ⟨act, mono, wall⟩ := turn
  obtain rfl : act = .applyPass := pass
  cases due : host.context.dueAt wall with
  | false => simp [Context.turnEvents, due]
  | true =>
      have watched : (host.context.protocol.watchdog mono).status.phase = 4 := by
        simp only [Context.turn, Context.applyPass, due, if_true] at running
        by_cases idle : (host.context.protocol.watchdog mono).hasPending = false ∨
            (host.context.protocol.watchdog mono).status.phase ≠ 4
        · simpa [Protocol.tick, idle] using running
        · exact not_not.mp (not_or.mp idle).2
      have still := Protocol.watchdog_running watched
      simp [Context.turnEvents, due, Protocol.tick, still, held.full, held.running]

/-- Every command with a tick was accepted up to the last grid point before the pass, and one of
them at a wall time other than zero. -/
def Settled (taken : List (Command × UInt64)) (wall period : UInt64) : Prop :=
  (∀ acceptance ∈ taken, (∃ tick, nextApplyTick acceptance.2 period = .ok tick) →
    acceptance.2 ≤ lastGridPoint wall period) ∧
  ∃ acceptance ∈ taken, (∃ tick, nextApplyTick acceptance.2 period = .ok tick) ∧ acceptance.2 ≠ 0

theorem Waiting.due_iff {taken : List (Command × UInt64)} {host : MockHost} (held : Waiting taken host)
    (wall : UInt64) :
    host.context.dueAt wall = true ↔ Settled taken wall host.context.applyPeriodNs := by
  obtain ⟨setter, member, set⟩ := held.tick
  simp only [Context.dueAt, Bool.and_eq_true, decide_eq_true_eq]
  constructor
  · rintro ⟨nonzero, come⟩
    constructor
    · rintro acceptance other ⟨tick, has⟩
      rw [← nextApplyTick_le_iff has]
      exact UInt64.le_trans (held.latest acceptance other tick has) come
    · exact ⟨setter, member, ⟨_, set⟩, mt (nextApplyTick_eq_zero set).mpr nonzero⟩
  · rintro ⟨settled, acceptance, other, ⟨tick, has⟩, nonzero⟩
    constructor
    · intro zero
      have least := held.latest acceptance other tick has
      rw [zero, UInt64.le_zero_iff] at least
      exact nonzero ((nextApplyTick_eq_zero has).mp least)
    · rw [nextApplyTick_le_iff set]
      exact settled setter member ⟨_, set⟩

theorem mockMachine_applyPeriodNs {start host : MockHost} {moves : List (Move MockHost Turn ContextEvent)}
    (run : mockMachine.Run start moves host) : host.context.applyPeriodNs = start.context.applyPeriodNs := by
  refine run.stateInvariant (fun host => host.context.applyPeriodNs = start.context.applyPeriodNs) rfl ?_
  intro host turn next events held moved
  obtain ⟨_, rfl, _⟩ := mockMachine_step moved
  exact (host.context.turn_applyPeriodNs turn).trans held

/-- A command is accepted, the robot stays RUNNING, and this is the first apply pass of the main
loop at or after the tick of the command. -/
structure FirstDuePass (start : MockHost) (moves : List (Move MockHost Turn ContextEvent))
    (taken : Move MockHost Turn ContextEvent) (window : List (Move MockHost Turn ContextEvent))
    (pass : Move MockHost Turn ContextEvent) (cmd : Command) : Prop where
  cut : ∃ before later, moves = before ++ taken :: (window ++ pass :: later)
  command : taken.input.act = .receiveCommand cmd
  valid : (taken.before.context.protocol.accept cmd taken.input.mono).1 = true
  running : ∀ move ∈ window ++ [pass], move.after.context.protocol.status.phase = 4
  isPass : pass.input.act = .applyPass
  due : ∃ tick, nextApplyTick taken.input.wall start.context.applyPeriodNs = .ok tick ∧
    tick ≤ pass.input.wall ∧ ∀ move ∈ window, move.input.act = .applyPass → move.input.wall < tick

/-- The command or one that was accepted after it has been applied by the end of the pass. -/
def AppliedBy (cmd : Command) (window : List (Move MockHost Turn ContextEvent))
    (pass : Move MockHost Turn ContextEvent) : Prop :=
  ∃ applied ∈ cmd :: (acceptances (trace window)).map Prod.fst,
    .applied applied ∈ trace (window ++ [pass])

/-- The first due pass applies the command or a later one exactly when no command with a tick was
accepted after the last grid point before that pass. -/
theorem dueCommand_applied_iff {start final : MockHost} {moves : List (Move MockHost Turn ContextEvent)}
    (run : mockMachine.Run start moves final) {window : List (Move MockHost Turn ContextEvent)}
    {taken pass : Move MockHost Turn ContextEvent} {cmd : Command}
    (first : FirstDuePass start moves taken window pass cmd) :
    AppliedBy cmd window pass ↔
      Settled ((cmd, taken.input.wall) :: acceptances (trace window)) pass.input.wall
        start.context.applyPeriodNs := by
  obtain ⟨before, later, cut⟩ := first.cut
  obtain ⟨tick, due, _, early⟩ := first.due
  obtain ⟨head, moved, rest⟩ := run.at_move cut
  obtain ⟨middle, passed, _⟩ := rest.at_move rfl
  obtain ⟨_, after, _⟩ := mockMachine_step moved
  have period := mockMachine_applyPeriodNs head
  obtain ⟨waits, exact'⟩ := waiting_first first.valid (period.symm ▸ due)
  have same : taken.after = ⟨taken.before.context.receiveCommand cmd taken.input.mono taken.input.wall,
      taken.input.mono, taken.input.wall⟩ := by
    rw [after, Context.turn, first.command]
  rw [← same] at waits
  have tickSet : tick ≤ taken.after.context.pendingTickNs := by
    rw [same]
    exact UInt64.le_of_eq exact'.symm
  obtain ⟨waiting, _, quiet⟩ := waits.window middle
    (fun move member => first.running move (List.mem_append_left _ member)) early tickSet
  have events := waiting.pass passed first.isPass (first.running pass (by simp))
  have periods : pass.before.context.applyPeriodNs = start.context.applyPeriodNs := by
    rw [mockMachine_applyPeriodNs middle, same]
    exact (taken.before.context.turn_applyPeriodNs ⟨.receiveCommand cmd, taken.input.mono,
      taken.input.wall⟩).trans period
  have ready := waiting.due_iff pass.input.wall
  rw [periods, List.singleton_append] at ready
  rw [← ready]
  constructor
  · rintro ⟨applied, _, member⟩
    rw [trace_append, trace_cons, trace_nil, List.append_nil, List.mem_append] at member
    rcases member with old | new
    · exact absurd old (quiet applied)
    · by_contra idle
      simp [events, idle] at new
  · intro dueNow
    obtain ⟨acceptance, member, pending⟩ := waiting.pending
    refine ⟨pass.before.context.protocol.pending, ?_, by simp [events, dueNow]⟩
    rw [← pending]
    exact List.mem_map.mpr ⟨acceptance, member, rfl⟩

/-- A fresh mock robot that applies commands at 1 kHz. -/
def freshMock : MockHost where
  context := {
    protocol := {
      generation := 10, commandTimeoutNs := 100000000, prepareTimeoutNs := 500000000, rejectOperation := 0 }
    applyPeriodNs := 1000000 }

/-- PREPARE and COMMIT lead the fresh mock robot to RUNNING. -/
def enterRunning : List Turn := [
  ⟨.receiveRequest ⟨2, 1, "req", "client", "", "EXTERNAL"⟩ true, 100000, 100000⟩,
  ⟨.receiveRequest ⟨2, 2, "req", "client", "mock-lease-11", "EXTERNAL"⟩ true, 200000, 200000⟩]

def commandNumber (sequence : UInt64) : Command :=
  { session := 12, sequence := sequence, inputStateRealUs := 1 }

def isApplied : ContextEvent → Bool
  | .accepted .. => false
  | .applied _ => true

/-- A command accepted at 0.5 ms is applied by the pass at 1.2 ms. -/
theorem dueCommand_applied_once :
    ∃ moves final taken pass, mockMachine.Run freshMock moves final ∧
      FirstDuePass freshMock moves taken [] pass (commandNumber 1) ∧ AppliedBy (commandNumber 1) [] pass := by
  obtain ⟨before, middle, moves, final, enter, run, inputs, valid, running⟩ := mockMachine.exists_runs freshMock
    enterRunning [⟨.receiveCommand (commandNumber 1), 500000, 500000⟩, ⟨.applyPass, 1200000, 1200000⟩]
    (fun _ moves _ =>
      (∀ move ∈ moves.head?, (move.before.context.protocol.accept (commandNumber 1) 500000).1 = true) ∧
      ∀ move ∈ moves, move.after.context.protocol.status.phase = 4) (by decide +kernel)
  obtain ⟨taken, rest, rfl, first, others⟩ := List.map_eq_cons_iff.mp inputs
  obtain ⟨pass, none', rfl, second, empty⟩ := List.map_eq_cons_iff.mp others
  obtain rfl := List.map_eq_nil_iff.mp empty
  have setting : FirstDuePass freshMock (before ++ [taken, pass]) taken [] pass (commandNumber 1) := by
    refine ⟨⟨before, [], rfl⟩, by rw [first], ?_, ?_, by rw [second], 1000000, ?_⟩
    · rw [first]
      exact valid taken rfl
    · exact fun move member => running move (List.mem_cons_of_mem _ member)
    · rw [first, second]
      exact ⟨rfl, by decide, by simp⟩
  refine ⟨_, _, taken, pass, enter.append run, setting, ?_⟩
  refine (dueCommand_applied_iff (enter.append run) setting).mpr ?_
  rw [first, second]
  refine ⟨fun acceptance member _ => ?_, _, List.mem_cons_self, ⟨1000000, rfl⟩, by decide⟩
  rw [List.mem_singleton.mp member]
  decide

/-- A command accepted at 1.1 ms postpones the one of the tick at 1 ms beyond the pass at 1.2 ms. -/
theorem dueCommand_postponed :
    ∃ moves final taken window pass, mockMachine.Run freshMock moves final ∧
      FirstDuePass freshMock moves taken window pass (commandNumber 1) ∧
      ¬ AppliedBy (commandNumber 1) window pass := by
  obtain ⟨before, middle, moves, final, enter, run, inputs, valid, running, idle⟩ :=
    mockMachine.exists_runs freshMock enterRunning
    [⟨.receiveCommand (commandNumber 1), 500000, 500000⟩, ⟨.receiveCommand (commandNumber 2), 1100000, 1100000⟩,
      ⟨.applyPass, 1200000, 1200000⟩]
    (fun _ moves _ =>
      (∀ move ∈ moves.head?, (move.before.context.protocol.accept (commandNumber 1) 500000).1 = true) ∧
      (∀ move ∈ moves, move.after.context.protocol.status.phase = 4) ∧
      ∀ event ∈ trace moves, isApplied event = false) (by decide +kernel)
  obtain ⟨taken, rest, rfl, first, others⟩ := List.map_eq_cons_iff.mp inputs
  obtain ⟨next, last, rfl, second, lasts⟩ := List.map_eq_cons_iff.mp others
  obtain ⟨pass, none', rfl, third, empty⟩ := List.map_eq_cons_iff.mp lasts
  obtain rfl := List.map_eq_nil_iff.mp empty
  have setting : FirstDuePass freshMock (before ++ [taken, next, pass]) taken [next] pass (commandNumber 1) := by
    refine ⟨⟨before, [], rfl⟩, by rw [first], ?_, ?_, by rw [third], 1000000, ?_⟩
    · rw [first]
      exact valid taken rfl
    · exact fun move member => running move (List.mem_cons_of_mem _ member)
    · rw [first, third]
      exact ⟨rfl, by decide, by simp [second]⟩
  refine ⟨_, _, taken, [next], pass, enter.append run, setting, ?_⟩
  rintro ⟨applied, _, member⟩
  have never := idle (.applied applied) (by
    rw [trace_cons]
    exact List.mem_append_right _ member)
  simp [isApplied] at never

end HumanoidSdk.Mock
