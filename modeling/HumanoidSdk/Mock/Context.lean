import HumanoidSdk.Mock.Watchdog
import Mathlib.Algebra.Order.Floor.Div

/-
This file translates the shared context of tools/production_topic_mock/mock.cpp: the sections of
its callbacks and of its main loop that hold the mutex.
-/

namespace HumanoidSdk.Mock
open Foundation

/-- The next multiple of the period, which the source computes by the remainder. -/
def nextApplyTick (acceptedWallNs periodNs : UInt64) : Except String UInt64 :=
  if periodNs = 0 then .error "nonzero apply period required"
  else
    let remainder := acceptedWallNs % periodNs
    let delta := if remainder ≠ 0 then periodNs - remainder else 0
    if acceptedWallNs > maxUint64 - delta then .error "synthetic apply tick overflow"
    else .ok (acceptedWallNs + delta)

structure Context where
  protocol : Protocol
  accepted : UInt64 := 0
  rejected : UInt64 := 0
  applied : UInt64 := 0
  controls : UInt64 := 0
  parseErrors : UInt64 := 0
  ackSequence : UInt64 := 0
  applyPeriodNs : UInt64 := 0
  pendingTickNs : UInt64 := 0
  endpointFailed : Bool := false

/-- An accepted command carries the wall reading from which its tick is computed. -/
inductive ContextEvent where
  | accepted (cmd : Command) (wall : UInt64)
  | applied (cmd : Command)

namespace Context

/-- A payload that cannot be decoded only counts. -/
def unreadable (ctx : Context) : Context := { ctx with parseErrors := ctx.parseErrors + 1 }

/-- The tick may throw after the protocol has already stored the command. -/
def receiveCommand (ctx : Context) (cmd : Command) (mono wall : UInt64) : Context :=
  let valid := (ctx.protocol.accept cmd mono).1
  let ctx := { ctx with protocol := (ctx.protocol.accept cmd mono).2 }
  if valid then
    match nextApplyTick wall ctx.applyPeriodNs with
    | .error _ => ctx.unreadable
    | .ok tick => { ctx with pendingTickNs := tick, accepted := ctx.accepted + 1 }
  else { ctx with rejected := ctx.rejected + 1 }

/-- The proposed state is committed only after its ACK was published. -/
def receiveRequest (ctx : Context) (request : Request) (mono : UInt64) (sent : Bool) : Context :=
  let proposed := (ctx.protocol.requestControl request mono).2
  let ctx := { ctx with ackSequence := ctx.ackSequence + 1, controls := ctx.controls + 1 }
  if sent then { ctx with protocol := proposed } else { ctx with endpointFailed := true }

/-- The tick is read before the Protocol, whose clock is read later. -/
def dueAt (ctx : Context) (wall : UInt64) : Bool := ctx.pendingTickNs ≠ 0 && ctx.pendingTickNs ≤ wall

/-- The apply pass of the main loop. -/
def applyPass (ctx : Context) (mono wall : UInt64) : Context :=
  let tick := ctx.pendingTickNs
  if ctx.dueAt wall then
    let ticked := ctx.protocol.tick mono (tick / 1000)
    let ctx := { ctx with protocol := ticked.2 }
    if ticked.1 then { ctx with applied := ctx.applied + 1, pendingTickNs := 0 } else ctx
  else ctx

/-- The status pass of the main loop. -/
def statusPass (ctx : Context) (mono : UInt64) : Context :=
  { ctx with protocol := ctx.protocol.watchdog mono }

end Context

/-- A section that holds the mutex. -/
inductive Section where
  | unreadable
  | receiveCommand (cmd : Command)
  | receiveRequest (request : Request) (sent : Bool)
  | applyPass
  | statusPass

/-- A turn takes the mutex once and reads both clocks while it holds it. -/
structure Turn where
  act : Section
  mono : UInt64
  wall : UInt64

namespace Context

def turn (ctx : Context) (turn : Turn) : Context :=
  match turn.act with
  | .unreadable => ctx.unreadable
  | .receiveCommand cmd => ctx.receiveCommand cmd turn.mono turn.wall
  | .receiveRequest request sent => ctx.receiveRequest request turn.mono sent
  | .applyPass => ctx.applyPass turn.mono turn.wall
  | .statusPass => ctx.statusPass turn.mono

/-- The events are read from the answers of the Protocol. -/
def turnEvents (ctx : Context) (turn : Turn) : List ContextEvent :=
  match turn.act with
  | .receiveCommand cmd => if (ctx.protocol.accept cmd turn.mono).1 then [.accepted cmd turn.wall] else []
  | .applyPass =>
      if ctx.dueAt turn.wall && (ctx.protocol.tick turn.mono (ctx.pendingTickNs / 1000)).1 then
        [.applied (ctx.protocol.watchdog turn.mono).pending]
      else []
  | _ => []

end Context

/-- The context is shared under one mutex, so that clock readings never go back. -/
structure MockHost where
  context : Context
  mono : UInt64 := 0
  wall : UInt64 := 0

def mockMachine : Machine MockHost Turn ContextEvent where
  step host turn :=
    if turn.mono < host.mono ∨ turn.wall < host.wall then none
    else some (⟨host.context.turn turn, turn.mono, turn.wall⟩, host.context.turnEvents turn)

theorem mockMachine_step {host next : MockHost} {turn : Turn} {events : List ContextEvent}
    (accepted : mockMachine.step host turn = some (next, events)) :
    (host.mono ≤ turn.mono ∧ host.wall ≤ turn.wall) ∧
      next = ⟨host.context.turn turn, turn.mono, turn.wall⟩ ∧ events = host.context.turnEvents turn := by
  by_cases early : turn.mono < host.mono ∨ turn.wall < host.wall
  · simp [mockMachine, early] at accepted
  · simp only [mockMachine, early, if_false, Option.some.injEq, Prod.mk.injEq] at accepted
    rw [not_or, UInt64.not_lt, UInt64.not_lt] at early
    exact ⟨early, accepted.1.symm, accepted.2.symm⟩

/-- The call that a turn makes on the Protocol it leaves behind. -/
def Context.callOf (ctx : Context) (turn : Turn) : Option Call :=
  match turn.act with
  | .receiveCommand cmd => some (.accept cmd turn.mono)
  | .receiveRequest request sent => if sent then some (.requestControl request turn.mono) else none
  | .applyPass => if ctx.dueAt turn.wall then some (.tick turn.mono (ctx.pendingTickNs / 1000)) else none
  | .statusPass => some (.watchdog turn.mono)
  | .unreadable => none

/-- A turn leaves the Protocol of its call, or the old one when it makes none. -/
theorem Context.turn_protocol (ctx : Context) (turn : Turn) :
    (ctx.turn turn).protocol = ((ctx.callOf turn).elim ctx.protocol ctx.protocol.call) := by
  obtain ⟨act, mono, wall⟩ := turn
  cases act with
  | unreadable | statusPass => rfl
  | receiveCommand cmd =>
      simp only [Context.turn, receiveCommand, callOf, Option.elim_some, Protocol.call]
      split
      · split <;> rfl
      · rfl
  | receiveRequest request sent =>
      cases sent with
      | true => rfl
      | false => rfl
  | applyPass =>
      simp only [Context.turn, applyPass, callOf]
      split
      · split <;> rfl
      · rfl

theorem Context.callOf_now {ctx : Context} {turn : Turn} {c : Call} (made : ctx.callOf turn = some c) :
    c.now = turn.mono := by
  obtain ⟨act, mono, wall⟩ := turn
  cases act with
  | unreadable => simp [callOf] at made
  | statusPass | receiveCommand =>
      obtain rfl := Option.some.inj made
      rfl
  | receiveRequest request sent =>
      cases sent with
      | true =>
          obtain rfl := Option.some.inj made
          rfl
      | false => simp [callOf] at made
  | applyPass =>
      simp only [callOf, Option.ite_none_right_eq_some, Option.some.injEq] at made
      obtain rfl := made.2
      rfl

/-- Every run of the shared context drives its Protocol through a run of calls. -/
theorem mockMachine_protocol {start host : MockHost} {moves : List (Move MockHost Turn ContextEvent)}
    (run : mockMachine.Run start moves host) :
    ∃ calls clock, robotMachine.Run ⟨start.context.protocol, start.mono⟩ calls
      ⟨host.context.protocol, clock⟩ ∧ clock ≤ host.mono := by
  induction run with
  | nil => exact ⟨[], start.mono, .nil, UInt64.le_refl _⟩
  | @snoc moves host next turn events earlier accepted ih =>
      obtain ⟨calls, clock, before, late⟩ := ih
      obtain ⟨⟨order, _⟩, rfl, _⟩ := mockMachine_step accepted
      have after := host.context.turn_protocol turn
      cases made : host.context.callOf turn with
      | none =>
          rw [made, Option.elim_none] at after
          exact ⟨calls, clock, after.symm ▸ before, UInt64.le_trans late order⟩
      | some c =>
          rw [made, Option.elim_some] at after
          have now := Context.callOf_now made
          have ready : ¬ c.now < clock := UInt64.not_lt.mpr (now ▸ UInt64.le_trans late order)
          have moved : robotMachine.step ⟨host.context.protocol, clock⟩ c =
              some (⟨host.context.protocol.call c, c.now⟩, host.context.protocol.callEvents c) :=
            if_neg ready
          exact ⟨_, c.now, after ▸ before.snoc moved, now ▸ UInt64.le_refl _⟩

/-- In every run of the mock robot its Protocol is sound and in time at its last clock reading. -/
theorem mockMachine_sound {seed streamTimeout prepareTimeout : UInt64} {rejectOperation : Int}
    {ctx : Context} (created : Protocol.create seed streamTimeout prepareTimeout rejectOperation =
      some ctx.protocol) {host : MockHost} {moves : List (Move MockHost Turn ContextEvent)}
    (run : mockMachine.Run ⟨ctx, 0, 0⟩ moves host) :
    host.context.protocol.Sound ∧ ∃ clock ≤ host.mono, host.context.protocol.InTime clock := by
  obtain ⟨calls, clock, called, early⟩ := mockMachine_protocol run
  have timed := Protocol.timed_run created called
  exact ⟨(run_numbered created called).1.toSound, clock, early, timed.1.inTime⟩

end HumanoidSdk.Mock
