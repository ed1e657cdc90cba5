import Mathlib.Data.Rat.Defs
import Mathlib.Algebra.Order.Ring.Unbundled.Rat
import Mathlib.Algebra.Order.Group.Unbundled.Abs
import HumanoidSdk.Foundation.Outcome

/-
This file translates the constants and _validate_body_state of
examples/external_control/external_control.py, which the other examples share. Numbers are exact.
-/

namespace HumanoidSdk.Demo

/-- An exception of an example or of what it calls. -/
inductive Failure where
  | valueError (message : String)
  | runtimeError (message : String)
  | timeoutError (message : String)
  | osError (message : String)
  | external (message : String)
  deriving DecidableEq

def COMMAND_SLOTS : ℕ := 31

def PERIOD_S : ℚ := 0.02

def DWELL_S : ℚ := 1

def STATIONARY_DQ_RAD_S : ℚ := 0.05

def LOWSTATE_WINDOW_S : ℚ := 0.2

namespace InhibitReason

def NONE : ℤ := 0

def EMERGENCY : ℤ := 2

def DOMAIN_FAULT : ℤ := 3

def NOT_READY : ℤ := 4

end InhibitReason

/-- A floating-point number by its exact value. -/
inductive Reading where
  | finite (value : ℚ)
  | infinite
  | nan
  deriving DecidableEq

namespace Reading

def isFinite : Reading → Bool
  | .finite _ => true
  | _ => false

/-- The comparison `abs(reading) > limit`. -/
def exceeds (reading : Reading) (limit : ℚ) : Bool :=
  match reading with
  | .finite value => limit < |value|
  | .infinite => true
  | .nan => false

end Reading

/-- The columns of a body state are filled slot by slot. -/
structure BodyState where
  stateId : ℤ
  attitudeValid : Bool
  q : List Reading
  dq : List Reading
  errorCode : List ℤ
  velocities : dq.length = q.length
  errors : errorCode.length = q.length
  deriving DecidableEq

/-- A body of `require_body_info` tells of each of its slots whether a motor is there. -/
structure BodyInfo where
  populated : List Bool
  slots : populated.length = COMMAND_SLOTS

/-- The number of `JointError.NONE`. -/
def NONE : ℤ := 0

variable (info : BodyInfo)

/-- One slot of the loop. -/
def validateSlot (index : ℕ) (slot : (Reading × Reading × ℤ) × Bool) : Except Failure Unit :=
  let ((position, velocity, error), populated) := slot
  if !populated then .ok ()
  else if error ≠ NONE then
    .error (.runtimeError ("body state motor[" ++ toString index ++ "] error_code=" ++ toString error))
  else if !position.isFinite || !velocity.isFinite then
    .error (.runtimeError ("body state motor[" ++ toString index ++ "] q/dq is not finite"))
  else .ok ()

/-- The slots of a state beside those of the body. -/
def slotsOf (state : BodyState) : List ((Reading × Reading × ℤ) × Bool) :=
  (state.q.zip (state.dq.zip state.errorCode)).zip info.populated

/-- The check without the option `require_stationary`. -/
def validateBodyState (state : BodyState) : Except Failure Unit :=
  if !state.attitudeValid then .error (.runtimeError "body state attitude is invalid")
  else if state.q.length ≠ COMMAND_SLOTS then
    .error (.runtimeError ("body state has " ++ toString state.q.length ++ " motor slots; " ++
      toString COMMAND_SLOTS ++ " required"))
  else (slotsOf info state).zipIdx.forM fun entry => validateSlot entry.2 entry.1

/-- A populated joint moves too fast. -/
def moving (state : BodyState) : Bool :=
  (state.dq.zip info.populated).any fun entry => entry.2 && entry.1.exceeds STATIONARY_DQ_RAD_S

/-- The velocity of every populated joint is a small number. -/
def Still (state : BodyState) : Prop :=
  ∀ slot : ℕ, info.populated[slot]? = some true →
    ∃ velocity, state.dq[slot]? = some (Reading.finite velocity) ∧ |velocity| ≤ STATIONARY_DQ_RAD_S

variable {info} {state : BodyState}

/-- A check over a list passes only if it passes on every member. -/
theorem forM_ok {Item : Type} {check : Item → Except Failure Unit} {items : List Item}
    (passed : items.forM check = .ok ()) : ∀ item ∈ items, check item = .ok () := by
  rw [List.forM_eq_forM] at passed
  induction items with
  | nil => exact fun item member => absurd member List.not_mem_nil
  | cons head rest ih =>
      intro item member
      rw [List.forM_cons] at passed
      obtain ⟨_, first, later⟩ := Foundation.bind_eq_ok.mp passed
      rcases List.mem_cons.mp member with rfl | inside
      · exact first
      · exact ih later item inside

theorem validateSlot_finite {index : ℕ} {position velocity : Reading} {error : ℤ}
    (passed : validateSlot index ((position, velocity, error), true) = .ok ()) :
    ∃ value, velocity = .finite value := by
  cases velocity with
  | finite value => exact ⟨value, rfl⟩
  | infinite | nan =>
      unfold validateSlot at passed
      dsimp only at passed
      rw [if_neg (by decide)] at passed
      split at passed
      · cases passed
      · cases position <;> cases passed

/-- A valid state fills all slots. -/
theorem valid_slots (valid : validateBodyState info state = .ok ()) :
    state.q.length = COMMAND_SLOTS ∧
      ∀ entry ∈ (slotsOf info state).zipIdx, validateSlot entry.2 entry.1 = .ok () := by
  unfold validateBodyState at valid
  split at valid
  · cases valid
  · split at valid
    · cases valid
    · rename_i full
      exact ⟨not_not.mp full, forM_ok valid⟩

/-- A valid state tells a finite velocity of every populated joint. -/
theorem valid_velocity (valid : validateBodyState info state = .ok ()) {slot : ℕ}
    (populated : info.populated[slot]? = some true) :
    ∃ velocity, state.dq[slot]? = some (Reading.finite velocity) := by
  obtain ⟨full, passed⟩ := valid_slots valid
  have inside : slot < state.q.length := by
    rw [full, ← info.slots]
    exact (List.getElem?_eq_some_iff.mp populated).1
  obtain ⟨position, isPosition⟩ : ∃ position, state.q[slot]? = some position :=
    ⟨_, List.getElem?_eq_getElem inside⟩
  obtain ⟨velocity, isVelocity⟩ : ∃ velocity, state.dq[slot]? = some velocity :=
    ⟨_, List.getElem?_eq_getElem (state.velocities.symm ▸ inside)⟩
  obtain ⟨error, isError⟩ : ∃ error, state.errorCode[slot]? = some error :=
    ⟨_, List.getElem?_eq_getElem (state.errors.symm ▸ inside)⟩
  have entry : (slotsOf info state)[slot]? = some ((position, velocity, error), true) :=
    List.getElem?_zip_eq_some.mpr ⟨List.getElem?_zip_eq_some.mpr
      ⟨isPosition, List.getElem?_zip_eq_some.mpr ⟨isVelocity, isError⟩⟩, populated⟩
  obtain ⟨value, rfl⟩ := validateSlot_finite (passed _ (List.mk_mem_zipIdx_iff_getElem?.mpr entry))
  exact ⟨value, isVelocity⟩

theorem moving_eq_true : moving info state = true ↔
    ∃ (slot : ℕ) (reading : Reading), state.dq[slot]? = some reading ∧ info.populated[slot]? = some true ∧
      reading.exceeds STATIONARY_DQ_RAD_S = true := by
  rw [moving, List.any_eq_true]
  constructor
  · rintro ⟨⟨reading, populated⟩, member, fast⟩
    obtain ⟨slot, found⟩ := List.mem_iff_getElem?.mp member
    obtain ⟨isReading, isPopulated⟩ := List.getElem?_zip_eq_some.mp found
    obtain ⟨rfl, exceeds⟩ := Bool.and_eq_true_iff.mp fast
    exact ⟨slot, reading, isReading, isPopulated, exceeds⟩
  · rintro ⟨slot, reading, isReading, isPopulated, exceeds⟩
    refine ⟨(reading, true), List.mem_of_getElem? (List.getElem?_zip_eq_some.mpr ⟨isReading, isPopulated⟩), ?_⟩
    exact exceeds

/-- A valid state is still when no populated joint moves too fast. -/
theorem still_iff (valid : validateBodyState info state = .ok ()) :
    Still info state ↔ moving info state = false := by
  rw [← Bool.not_eq_true, moving_eq_true]
  constructor
  · rintro still ⟨slot, reading, isReading, populated, fast⟩
    obtain ⟨velocity, isVelocity, slow⟩ := still slot populated
    obtain rfl := Option.some.inj (isReading.symm.trans isVelocity)
    exact absurd (of_decide_eq_true fast) (not_lt.mpr slow)
  · intro resting slot populated
    obtain ⟨velocity, isVelocity⟩ := valid_velocity valid populated
    refine ⟨velocity, isVelocity, not_lt.mp fun fast => resting ⟨slot, _, isVelocity, populated, ?_⟩⟩
    exact decide_eq_true fast

end HumanoidSdk.Demo
