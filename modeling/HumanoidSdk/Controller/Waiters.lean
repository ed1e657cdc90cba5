import HumanoidSdk.Controller.ProgramStep
import HumanoidSdk.Foundation.Waiting

/-
This file translates who waits in `_wait_for` of ExternalController in python/locomotion_aorta/controller.py
and which sections under `_condition` notify them.
-/

namespace HumanoidSdk.Controller
open Foundation

/-- The controller with the body state that its callback keeps. -/
structure Backed (Body : Type) where
  controller : ExternalController
  latestBodyState : Option Body := none

/-- What a method waits for. -/
inductive Wanted where
  | ack (requestId : String) (operation : ControlOperation)
  | running (before : Option ControlStatus)
  | exited
  | bodyState
  deriving DecidableEq

inductive Found (Body : Type)
  | ack (ack : ControlAck)
  | status (status : ControlStatus)
  | body (body : Body)
  deriving DecidableEq

/-- A section under the lock that changes what is waited for, or what decides about it. -/
inductive Section (Body : Type)
  | enter (requestId : String)
  | learnLease (ack : ControlAck)
  | establish (status : ControlStatus)
  | claimCancel
  | publish (command : Option BodyCmd) (createdUs sendUs : ℤ)
  | clearSession
  | learnInfo (info : Option RobotInfo)
  | close
  | onAck (ack : ControlAck)
  | onStatus (status : ControlStatus)
  | onBodyState (body : Body)

namespace ExternalController

variable (c : ExternalController)

/-- The acknowledgement is stored. -/
def storesAck (ack : ControlAck) : Bool :=
  ack.protocolVersion = PROTOCOL_VERSION && !c.closed && some ack.requestId = c.requestId &&
    (c.lookupAck ack.requestId ack.operation).isNone

/-- The status is stored. -/
def storesStatus (status : ControlStatus) : Bool :=
  status.protocolVersion = PROTOCOL_VERSION && !c.closed && statusIsNewer status c.latestStatus

theorem onAck_unstored {c : ExternalController} {ack : ControlAck} (ignored : c.storesAck ack = false) :
    c.onAck ack = c := by
  unfold onAck
  split
  · rfl
  · rename_i accepted
    simp only [not_or, Decidable.not_not, Bool.not_eq_true] at accepted
    obtain ⟨version, opened, current, unknown⟩ := accepted
    simp [storesAck, version, opened, current, Option.isSome_eq_false_iff.mp unknown] at ignored

theorem onStatus_unstored {c : ExternalController} {status : ControlStatus}
    (ignored : c.storesStatus status = false) : c.onStatus status = c := by
  unfold onStatus
  split
  · rfl
  · rename_i accepted
    simp only [not_or, Decidable.not_not, Bool.not_eq_true, Bool.not_eq_false] at accepted
    obtain ⟨version, opened, newer⟩ := accepted
    simp [storesStatus, version, opened, newer] at ignored

end ExternalController

namespace Backed

variable {Body : Type} (backed : Backed Body)

/-- A section with the controller that it leaves. -/
def withController (c : ExternalController) : Backed Body := { backed with controller := c }

/-- What a section does, and whether it notifies. -/
def apply : Section Body → Backed Body × Bool
  | .enter requestId =>
      match backed.controller.beginRequest requestId with
      | .error _ => (backed, false)
      | .ok c => (backed.withController c, false)
  | .learnLease ack => (backed.withController (backed.controller.learnLease ack), false)
  | .establish status => (backed.withController (backed.controller.establish status), false)
  | .claimCancel =>
      match backed.controller.claimCancel with
      | none => (backed, false)
      | some (_, c) => (backed.withController c, false)
  | .publish command createdUs sendUs =>
      match backed.controller.publishSection command createdUs sendUs with
      | .error _ => (backed, false)
      | .ok (_, c) => (backed.withController c, false)
  | .clearSession => (backed.withController backed.controller.clearSession, false)
  | .learnInfo info =>
      match backed.controller.learnInfo info with
      | .error _ => (backed, false)
      | .ok c => (backed.withController c, false)
  | .close => (backed.withController backed.controller.closeSection.2, !backed.controller.closed)
  | .onAck ack => (backed.withController (backed.controller.onAck ack), backed.controller.storesAck ack)
  | .onStatus status =>
      (backed.withController (backed.controller.onStatus status), backed.controller.storesStatus status)
  | .onBodyState body =>
      if backed.controller.closed then (backed, false) else ({ backed with latestBodyState := some body }, true)

/-- The lambda that a method passes to `_wait_for`. -/
def value : Wanted → Option (Found Body)
  | .ack requestId operation => (backed.controller.lookupAck requestId operation).map .ack
  | .running before => (backed.controller.ownedRunningStatusAfter before).map .status
  | .exited => backed.controller.exitStatus.map .status
  | .bodyState => backed.latestBodyState.map .body

end Backed

/-- The threads that wait in `_wait_for`. -/
def controllerRoom (Body : Type) : Room (Backed Body) (Section Body) Wanted (Except PyError (Found Body)) where
  answer wanted backed := waitFor backed.controller (backed.value wanted) false ""
  apply := Backed.apply

section Announces

variable {Body : Type} {backed after : Backed Body}

theorem unanswered_iff {wanted : Wanted} : (controllerRoom Body).answer wanted backed = none ↔
    backed.controller.closed = false ∧ backed.value wanted = none := by
  show waitFor _ _ _ _ = none ↔ _
  unfold waitFor ExternalController.ensureOpen
  cases closed : backed.controller.closed with
  | true => simp
  | false =>
      cases found : backed.value wanted with
      | none => simp
      | some value => simp

/-- What ends a wait before its deadline: the controller is closed, or what is waited for came. -/
inductive Backed.Ends (backed : Backed Body) (wanted : Wanted) : Except PyError (Found Body) → Prop
  | closed (shut : backed.controller.closed = true) :
      Ends backed wanted (.error ⟨.controllerClosed, "controller is closed"⟩)
  | came (opened : backed.controller.closed = false) {found : Found Body}
      (there : backed.value wanted = some found) : Ends backed wanted (.ok found)

theorem controller_ends {wanted : Wanted} {result : Except PyError (Found Body)}
    (answered : (controllerRoom Body).answer wanted backed = some result) : backed.Ends wanted result := by
  change waitFor backed.controller (backed.value wanted) false "" = some result at answered
  unfold waitFor ExternalController.ensureOpen at answered
  cases closed : backed.controller.closed with
  | true =>
      simp only [closed, if_true, Option.some.injEq] at answered
      subst answered
      exact .closed closed
  | false =>
      simp only [closed, Bool.false_eq_true, if_false] at answered
      cases there : backed.value wanted with
      | none =>
          rw [there] at answered
          cases answered
      | some found =>
          rw [there] at answered
          cases answered
          exact .came closed there

/-- A silent section opens nothing, and what it leaves for a wait was there before. -/
structure Silent (backed after : Backed Body) : Prop where
  closed : after.controller.closed = backed.controller.closed
  acks : after.controller.acks = backed.controller.acks ∨ after.controller.acks = []
  status : after.controller.latestStatus = backed.controller.latestStatus
  body : after.latestBodyState = backed.latestBodyState

theorem silent_rfl (backed : Backed Body) : Silent backed backed := ⟨rfl, .inl rfl, rfl, rfl⟩

/-- A section of an open controller that does not notify is silent. -/
theorem silent_apply {update : Section Body} (opened : backed.controller.closed = false)
    (quiet : (backed.apply update).2 = false) : Silent backed (backed.apply update).1 := by
  cases update with
  | enter requestId =>
      unfold Backed.apply
      dsimp only
      split
      · exact silent_rfl backed
      · rename_i began
        obtain ⟨-, -, rfl⟩ := ExternalController.beginRequest_ok began
        exact ⟨rfl, .inr rfl, rfl, rfl⟩
  | learnLease ack => exact ⟨rfl, .inl rfl, rfl, rfl⟩
  | establish status => exact ⟨rfl, .inl rfl, rfl, rfl⟩
  | claimCancel =>
      unfold Backed.apply
      dsimp only
      split
      · exact silent_rfl backed
      · rename_i claimed
        obtain ⟨-, -, -, rfl⟩ := ExternalController.claimCancel_some claimed
        exact ⟨rfl, .inl rfl, rfl, rfl⟩
  | publish command createdUs sendUs =>
      unfold Backed.apply
      dsimp only
      split
      · exact silent_rfl backed
      · rename_i published
        obtain ⟨_, _, session, -, -, -, -, kept, -, -, rfl⟩ := ExternalController.publishSection_ok published
        obtain ⟨-, -, -, status, acks, -, -, closed⟩ := ExternalController.publishSession_kept kept
        exact ⟨closed, .inl acks, status, rfl⟩
  | clearSession => exact ⟨rfl, .inl rfl, rfl, rfl⟩
  | learnInfo info =>
      unfold Backed.apply
      dsimp only
      split
      · exact silent_rfl backed
      · rename_i learned
        obtain rfl := ExternalController.learnInfo_ok learned
        exact ⟨rfl, .inl rfl, rfl, rfl⟩
  | close =>
      change (!backed.controller.closed) = false at quiet
      rw [opened] at quiet
      cases quiet
  | onAck ack =>
      change backed.controller.storesAck ack = false at quiet
      show Silent backed (backed.withController (backed.controller.onAck ack))
      rw [ExternalController.onAck_unstored quiet]
      exact silent_rfl backed
  | onStatus status =>
      change backed.controller.storesStatus status = false at quiet
      show Silent backed (backed.withController (backed.controller.onStatus status))
      rw [ExternalController.onStatus_unstored quiet]
      exact silent_rfl backed
  | onBodyState body =>
      unfold Backed.apply at quiet
      dsimp only at quiet
      rw [opened, if_neg (by decide)] at quiet
      cases quiet

/-- No section answers in silence who waits for an acknowledgement, for the exit or for a body state. -/
theorem controller_announces {wanted : Wanted} (known : ∀ before, wanted ≠ .running before) :
    (controllerRoom Body).Announces wanted := by
  intro backed update unanswered answered
  by_contra quiet
  obtain ⟨opened, nothing⟩ := unanswered_iff.mp unanswered
  obtain ⟨closed, acks, status, body⟩ := silent_apply opened (Bool.eq_false_iff.mpr quiet)
  apply answered
  show (controllerRoom Body).answer wanted (backed.apply update).1 = none
  refine unanswered_iff.mpr ⟨closed.trans opened, ?_⟩
  cases wanted with
  | running before => exact absurd rfl (known before)
  | ack requestId operation =>
      change (backed.controller.lookupAck requestId operation).map Found.ack = none at nothing
      show ((backed.apply update).1.controller.lookupAck requestId operation).map Found.ack = none
      unfold ExternalController.lookupAck at nothing ⊢
      rcases acks with same | empty
      · rw [same]
        exact nothing
      · rw [empty]
        rfl
  | exited =>
      change backed.controller.exitStatus.map Found.status = none at nothing
      show (backed.apply update).1.controller.exitStatus.map Found.status = none
      unfold ExternalController.exitStatus at nothing ⊢
      rw [status]
      exact nothing
  | bodyState =>
      change backed.latestBodyState.map Found.body = none at nothing
      show (backed.apply update).1.latestBodyState.map Found.body = none
      rw [body]
      exact nothing

end Announces

end HumanoidSdk.Controller
