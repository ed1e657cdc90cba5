import HumanoidSdk.Foundation.Rounding
import HumanoidSdk.Message.Body

/-
This file translates Float and Encode of demo_onnx/cpp/body_cmd_encoder.cpp up to the flat buffer,
which holds the converted fields and cannot fail. Casts of Python objects follow pybind11: a cast to
`double` takes what `float()` takes without parsing, a cast to an unsigned type what `__index__`
yields within its range.
-/

namespace HumanoidSdk.Native
open Foundation

def binary64 : BinaryFormat := ⟨53, -1074, by decide⟩

def binary32 : BinaryFormat := ⟨24, -149, by decide⟩

/-- The cast to `double` rounds an integer and refuses it when it has no double. -/
def castDouble : PyValue → Except String FloatValue
  | .bool value => .ok (.finite (if value then 1 else 0))
  | .int value | .index value =>
      if 2 ^ 1024 ≤ binary64.roundSize |(value : ℚ)| then
        .error "Unable to cast Python instance to C++ type"
      else .ok (.finite (binary64.round value))
  | .float value | .real value => .ok value
  | .none | .other _ => .error "Unable to cast Python instance to C++ type"

/-- `static_cast<float>` of a double becomes infinite from two to the power 128 on. -/
def castFloat : FloatValue → FloatValue
  | .finite value =>
      if 2 ^ 128 ≤ binary32.roundSize |value| then .infinity (value < 0)
      else .finite (binary32.round value)
  | value => value

def isInfinite : FloatValue → Bool
  | .infinity _ => true
  | _ => false

/-- A finite number that becomes infinite is an overflow. -/
def float (value : PyValue) : Except String FloatValue := do
  let number ← castDouble value
  if number.isFinite && isInfinite (castFloat number) then
    .error "float too large to pack with f format"
  return castFloat number

structure EncodedJoint where
  q : FloatValue
  dq : FloatValue
  tau : FloatValue
  kp : FloatValue
  kd : FloatValue
  deriving DecidableEq

structure EncodedCmd where
  joints : List EncodedJoint
  protocolVersion : ℕ
  sessionId : ℕ
  sequence : ℕ
  inputStateId : ℕ
  inputStateTsRealUs : ℕ
  tsClientCreatedUs : ℕ
  tsClientSendUs : ℕ
  action : ℕ
  rootQuat : Option (FloatValue × FloatValue × FloatValue × FloatValue)
  deriving DecidableEq

/-- A slot that holds no joint lacks the attributes. -/
def encodeJoint (joint : Option BodyJointCmd) : Except String EncodedJoint := do
  let some joint := joint | .error "object has no attribute 'q'"
  return ⟨← float joint.q, ← float joint.dq, ← float joint.tau, ← float joint.kp, ← float joint.kd⟩

def castUnsigned (bits : ℕ) (value : PyValue) : Except String ℕ :=
  match value.asIndex with
  | some number =>
      if 0 ≤ number ∧ number < 2 ^ bits then .ok number.toNat
      else .error "Unable to cast Python instance to C++ type"
  | none => .error "Unable to cast Python instance to C++ type"

/-- Every slot is converted, whether it is populated or not. -/
def encode (command : BodyCmd) : Except String EncodedCmd := do
  let some joints := command.joints | .error "BodyCmd requires a 31-slot tuple"
  if joints.length ≠ BODY_SLOTS then .error "BodyCmd requires a 31-slot tuple"
  let values ← joints.mapM encodeJoint
  let protocol ← castUnsigned 32 (.int command.protocolVersion)
  let sessionId ← castUnsigned 64 (.int command.sessionId)
  let sequence ← castUnsigned 64 (.int command.sequence)
  let inputStateId ← castUnsigned 64 command.inputStateId
  let inputStateTsRealUs ← castUnsigned 64 command.inputStateTsRealUs
  let tsClientCreatedUs ← castUnsigned 64 command.tsClientCreatedUs
  let tsClientSendUs ← castUnsigned 64 command.tsClientSendUs
  let action ← castUnsigned 8 command.action
  let quat ← match command.rootQuat with
    | none => pure none
    | some (w, x, y, z) => do pure (some (← float w, ← float x, ← float y, ← float z))
  return ⟨values, protocol, sessionId, sequence, inputStateId, inputStateTsRealUs, tsClientCreatedUs,
    tsClientSendUs, action, quat⟩

/-- The size from which a double no longer rounds to a finite `float`. -/
def singleLimit : ℚ := 2 ^ 128 - 2 ^ 103

/-- The size from which an integer no longer rounds to a double below that limit. -/
def integerLimit : ℕ := 2 ^ 128 - 2 ^ 103 - 2 ^ 74

/-- The numbers that `Float` packs. -/
def Fits : PyValue → Prop
  | .bool _ => True
  | .int value | .index value => value.natAbs < integerLimit
  | .float (.finite value) | .real (.finite value) => |value| < singleLimit
  | .float _ | .real _ => True
  | .none | .other _ => False

/-- Rounding to single precision overflows from the limit on. -/
theorem single_overflow {size : ℚ} (sign : 0 ≤ size) :
    2 ^ 128 ≤ binary32.roundSize size ↔ singleLimit ≤ size := by
  have reaches : (2 : ℚ) ^ (128 : ℤ) ≤ binary32.roundSize size ↔
      (2 : ℚ) ^ (128 : ℤ) - 2 ^ ((128 : ℤ) - (24 : ℕ) - 1) ≤ size :=
    BinaryFormat.power_le_roundSize_iff (by decide) (by decide) sign
  norm_num [singleLimit] at reaches ⊢
  exact reaches

/-- Rounding to double precision reaches the limit of single precision half a place below it. -/
theorem double_reaches_single {size : ℚ} (sign : 0 ≤ size) :
    singleLimit ≤ binary64.roundSize size ↔ (integerLimit : ℚ) ≤ size := by
  have reaches : ((2 ^ 53 - 2 ^ 28 : ℤ) : ℚ) * 2 ^ ((128 : ℤ) - (53 : ℕ)) ≤ binary64.roundSize size ↔
      (((2 ^ 53 - 2 ^ 28 : ℤ) : ℚ) - 1 / 2) * 2 ^ ((128 : ℤ) - (53 : ℕ)) ≤ size :=
    BinaryFormat.multiple_le_roundSize (by decide) (by decide) (by decide) (by decide) (by decide) sign
  norm_num [singleLimit, integerLimit] at reaches ⊢
  exact reaches

theorem abs_cast (value : ℤ) : |(value : ℚ)| = (value.natAbs : ℚ) := by
  rw [Nat.cast_natAbs, Int.cast_abs]

/-- The integers without a double are those on which `math.isfinite` raises. -/
theorem double_overflow (value : ℤ) :
    2 ^ 1024 ≤ binary64.roundSize |(value : ℚ)| ↔ PyValue.doubleOverflows value = true := by
  have reaches : (2 : ℚ) ^ (1024 : ℤ) ≤ binary64.roundSize |(value : ℚ)| ↔
      (2 : ℚ) ^ (1024 : ℤ) - 2 ^ ((1024 : ℤ) - (53 : ℕ) - 1) ≤ |(value : ℚ)| :=
    BinaryFormat.power_le_roundSize_iff (by decide) (by decide) (abs_nonneg _)
  have limit : (2 : ℚ) ^ (1024 : ℤ) - 2 ^ ((1024 : ℤ) - (53 : ℕ) - 1) =
      ((2 ^ 1024 - 2 ^ 970 : ℕ) : ℚ) := by
    rw [Nat.cast_sub (pow_le_pow_right₀ one_le_two (by decide)), Nat.cast_pow, Nat.cast_pow]
    simp only [Nat.cast_ofNat]
    rw [show (1024 : ℤ) - 53 - 1 = 970 from rfl, zpow_ofNat, zpow_ofNat]
  rw [limit, abs_cast, Nat.cast_le] at reaches
  rw [PyValue.doubleOverflows, decide_eq_true_iff, ← reaches, abs_cast]
  norm_cast

/-- An `Except` computation accepts when it yields a value. -/
def Accepts {Value : Type} (computation : Except String Value) : Prop := ∃ value, computation = .ok value

@[simp] theorem accepts_ok {Value : Type} (value : Value) : Accepts (.ok value) := ⟨value, rfl⟩

@[simp] theorem accepts_error {Value : Type} (message : String) :
    ¬ Accepts (.error message : Except String Value) := by
  rintro ⟨value, accepted⟩
  cases accepted

theorem accepts_bind {Value Next : Type} (first : Except String Value) (rest : Value → Except String Next) :
    Accepts (first >>= rest) ↔ ∃ value, first = .ok value ∧ Accepts (rest value) := by
  cases first with
  | error message => simp [bind, Except.bind]
  | ok value => simp [bind, Except.bind]

theorem accepts_mapM {Value Next : Type} (convert : Value → Except String Next) (values : List Value) :
    Accepts (values.mapM convert) ↔ ∀ value ∈ values, Accepts (convert value) := by
  induction values with
  | nil => simp [pure, Except.pure]
  | cons value rest ih =>
      rw [List.mapM_cons, accepts_bind, List.forall_mem_cons, ← ih]
      constructor
      · rintro ⟨first, converted, accepted⟩
        obtain ⟨results, mapped, _⟩ := (accepts_bind _ _).mp accepted
        exact ⟨⟨first, converted⟩, results, mapped⟩
      · rintro ⟨⟨first, converted⟩, results, mapped⟩
        exact ⟨first, converted, (accepts_bind _ _).mpr ⟨results, mapped, accepts_ok _⟩⟩

/-- A finite double is packed unless its single rounding overflows. -/
theorem castFloat_finite (value : ℚ) :
    isInfinite (castFloat (.finite value)) = true ↔ singleLimit ≤ |value| := by
  rw [← single_overflow (abs_nonneg value), castFloat]
  split <;> simp_all [isInfinite]

theorem float_cast {value : PyValue} {number : FloatValue} (cast : castDouble value = .ok number) :
    Accepts (float value) ↔ (number.isFinite && isInfinite (castFloat number)) = false := by
  rw [float, accepts_bind, cast]
  cases overflows : number.isFinite && isInfinite (castFloat number) <;>
    simp [-Bool.and_eq_true, overflows, bind, Except.bind, pure, Except.pure]

theorem float_uncast {value : PyValue} {message : String} (refused : castDouble value = .error message) :
    ¬ Accepts (float value) := by
  rw [float, accepts_bind, refused]
  simp

/-- An integer is packed below the integer limit. -/
theorem float_whole {value : PyValue} {number : ℤ} (whole : castDouble value =
    if 2 ^ 1024 ≤ binary64.roundSize |(number : ℚ)| then .error "Unable to cast Python instance to C++ type"
    else .ok (.finite (binary64.round number))) :
    Accepts (float value) ↔ number.natAbs < integerLimit := by
  have reaches := double_reaches_single (abs_nonneg (number : ℚ))
  rw [abs_cast, Nat.cast_le, ← abs_cast] at reaches
  by_cases overflows : 2 ^ 1024 ≤ binary64.roundSize |(number : ℚ)|
  · have large : singleLimit ≤ binary64.roundSize |(number : ℚ)| :=
      ((sub_le_self _ (by norm_num)).trans (pow_le_pow_right₀ one_le_two (by decide))).trans overflows
    rw [if_pos overflows] at whole
    exact iff_of_false (float_uncast whole) (not_lt.mpr (reaches.mp large))
  · rw [if_neg overflows] at whole
    rw [float_cast whole, FloatValue.isFinite, Bool.true_and, ← Bool.not_eq_true, castFloat_finite,
      BinaryFormat.abs_round, reaches, not_le]

/-- `Float` packs exactly the numbers that fit. -/
theorem float_accepts (value : PyValue) : Accepts (float value) ↔ Fits value := by
  cases value with
  | none | other => exact iff_of_false (float_uncast rfl) not_false
  | bool flag =>
      refine iff_of_true ((float_cast rfl).mpr ?_) trivial
      rw [FloatValue.isFinite, Bool.true_and, ← Bool.not_eq_true, castFloat_finite, not_le]
      cases flag <;> norm_num [singleLimit]
  | int number | index number => exact float_whole rfl
  | float number | real number =>
      rw [float_cast rfl]
      cases number with
      | nan | infinity => exact iff_of_true rfl trivial
      | finite size =>
          rw [FloatValue.isFinite, Bool.true_and, ← Bool.not_eq_true, castFloat_finite, not_le]
          rfl

end HumanoidSdk.Native
