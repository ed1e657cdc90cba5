import HumanoidSdk.EndEffector.Gripper

/-
This file states what validate_target accepts and shows that the conversion of an accepted target to
doubles is accepted too, because the limits of an Info are doubles and rounding keeps the order.
-/

namespace HumanoidSdk.EndEffector
open Foundation

section Checks

variable {Value Result : Type} {failing : Prop} [Decidable failing] {error : PyError} {result : Result}

theorem bind_ok {computation : Except PyError Value} {rest : Value → Except PyError Result} :
    (computation >>= rest) = .ok result ↔ ∃ value, computation = .ok value ∧ rest value = .ok result := by
  cases computation <;> simp [bind, Except.bind]

/-- A check that raises is passed on the way to a result. -/
theorem check_ok {skipped : Value → Except PyError Result} {rest : Except PyError Result} :
    (if failing then Except.error error >>= skipped else rest) = .ok result ↔ ¬failing ∧ rest = .ok result := by
  by_cases fails : failing <;> simp [fails, bind, Except.bind]

theorem last_check_ok {rest : Except PyError Result} :
    (if failing then Except.error error else rest) = .ok result ↔ ¬failing ∧ rest = .ok result := by
  by_cases fails : failing <;> simp [fails]

end Checks

/-- The number that a field of a command has after `float`; other values stay. -/
def floatOf (value : PyValue) : PyValue :=
  match pyFloat value with
  | .ok number => .float number
  | .error _ => value

/-- A finite number has a double that stays on its side of every double. -/
theorem pyFloat_finite {value : PyValue} (finite : pyFinite value = .ok true) :
    ∃ number double, exact value = some number ∧ pyFloat value = .ok (.finite double) ∧
      ∀ limit, Native.binary64.round limit = limit →
        (limit ≤ number → limit ≤ double) ∧ (number ≤ limit → double ≤ limit) ∧
          (|number| ≤ limit → |double| ≤ limit) := by
  cases value with
  | int value =>
      have small : PyValue.doubleOverflows value = false := by
        by_contra large
        rw [Bool.not_eq_false] at large
        simp [pyFinite, PyValue.isNumber, pyIsfinite, PyValue.isfinite, large] at finite
      have fits : ¬2 ^ 1024 ≤ Native.binary64.roundSize |(value : ℚ)| := by
        rw [Native.double_overflow, small]
        exact Bool.false_ne_true
      refine ⟨value, Native.binary64.round value, rfl, ?_, fun limit double => ⟨fun low => ?_, fun high => ?_, fun size => ?_⟩⟩
      · simp [pyFloat, Native.castDouble, fits]
      · exact double ▸ BinaryFormat.round_mono low
      · exact double ▸ BinaryFormat.round_mono high
      · have sign : 0 ≤ limit := (abs_nonneg _).trans size
        have whole : Native.binary64.roundSize limit = limit := by
          rwa [BinaryFormat.round, if_neg (not_lt.mpr sign)] at double
        rw [BinaryFormat.abs_round, ← whole]
        exact BinaryFormat.roundSize_mono (abs_nonneg _) size
  | float value =>
      cases value with
      | finite number => exact ⟨number, number, rfl, rfl, fun limit _ => ⟨id, id, id⟩⟩
      | nan | infinity => cases finite
  | none | bool | index | real | other => cases finite

theorem floatOf_finite {value : PyValue} {double : ℚ} (converts : pyFloat value = .ok (.finite double)) :
    floatOf value = .float (.finite double) := by rw [floatOf, converts]

theorem pyFinite_floatOf {value : PyValue} (finite : pyFinite value = .ok true) :
    pyFinite (floatOf value) = .ok true := by
  obtain ⟨-, double, -, converts, -⟩ := pyFloat_finite finite
  rw [floatOf_finite converts]
  rfl

/-- A number between doubles has its double between them. -/
theorem within_floatOf {low high : FloatValue} (isLow : IsDouble low) (isHigh : IsDouble high) {value : PyValue}
    (finite : pyFinite value = .ok true) (inside : within low high value = true) :
    within low high (floatOf value) = true := by
  obtain ⟨number, double, same, converts, keeps⟩ := pyFloat_finite finite
  rw [within, same, Bool.and_eq_true] at inside
  rw [floatOf_finite converts, within, exact, Bool.and_eq_true]
  constructor
  · cases low with
    | nan => exact inside.1
    | infinity negative =>
        cases negative with
        | true => rfl
        | false => exact inside.1
    | finite limit =>
        simp only [FloatValue.le, decide_eq_true_eq] at inside ⊢
        exact (keeps limit isLow).1 inside.1
  · cases high with
    | nan => exact inside.2
    | infinity negative =>
        cases negative with
        | true => exact inside.2
        | false => rfl
    | finite limit =>
        simp only [FloatValue.le, decide_eq_true_eq] at inside ⊢
        exact (keeps limit isHigh).2.1 inside.2

namespace GripperClient

theorem withinTorque_floatOf {limit : FloatValue} (isLimit : IsDouble limit) {torque : PyValue}
    (finite : pyFinite torque = .ok true) (inside : withinTorque limit torque = true) :
    withinTorque limit (floatOf torque) = true := by
  obtain ⟨number, double, same, converts, keeps⟩ := pyFloat_finite finite
  rw [withinTorque, same] at inside
  rw [floatOf_finite converts, withinTorque, exact]
  cases limit with
  | nan => exact inside
  | infinity negative =>
      cases negative with
      | true => exact inside
      | false => rfl
  | finite limit =>
      simp only [FloatValue.le, decide_eq_true_eq] at inside ⊢
      exact (keeps limit isLimit).2.2 inside

/-- What `validate_target` accepts. -/
structure Accepted (numbers : GripperNumbers) (info : GripperInfo) (q dq torque : PyValue) : Prop where
  valid : validateInfo numbers (some info) = .ok ()
  finiteQ : pyFinite q = .ok true
  finiteDq : pyFinite dq = .ok true
  insideQ : within info.openingMinM info.openingMaxM q = true
  insideDq : within (.finite 0) info.maxOpeningRateMS dq = true
  finiteTorque : torque ≠ .none → pyFinite torque = .ok true
  insideTorque : torque ≠ .none → withinTorque info.torqueLimitNm torque = true

theorem validateTarget_iff {numbers : GripperNumbers} {info : GripperInfo} {q dq torque : PyValue} :
    validateTarget numbers (some info) q dq torque = .ok () ↔ Accepted numbers info q dq torque := by
  unfold validateTarget
  simp only [↓bind_ok, ↓check_ok, Bool.not_eq_true', Bool.not_eq_false, Bool.or_eq_true, not_or]
  constructor
  · rintro ⟨⟨⟩, valid, q', isQ, rfl, dq', isDq, rfl, ⟨insideQ, insideDq⟩, last⟩
    have torques : torque ≠ .none → pyFinite torque = .ok true ∧ withinTorque info.torqueLimitNm torque = true := by
      intro given
      simp only [if_pos given, ↓bind_ok, ↓check_ok, ↓last_check_ok, Bool.not_eq_false] at last
      obtain ⟨finite, isFinite, rfl, inside, -⟩ := last
      exact ⟨isFinite, inside⟩
    exact ⟨valid, isQ, isDq, insideQ, insideDq, fun given => (torques given).1, fun given => (torques given).2⟩
  · intro accepted
    refine ⟨(), accepted.valid, true, accepted.finiteQ, rfl, true, accepted.finiteDq, rfl,
      ⟨accepted.insideQ, accepted.insideDq⟩, ?_⟩
    by_cases given : torque = .none
    · rw [if_neg (not_not.mpr given)]
      rfl
    · simp only [if_pos given, ↓bind_ok, ↓check_ok, ↓last_check_ok, Bool.not_eq_false]
      exact ⟨true, accepted.finiteTorque given, rfl, accepted.insideTorque given, rfl⟩

theorem validateTarget_some {numbers : GripperNumbers} {info : Option GripperInfo} {q dq torque : PyValue}
    (valid : validateTarget numbers info q dq torque = .ok ()) : ∃ found, info = some found := by
  cases info with
  | none => cases valid
  | some found => exact ⟨found, rfl⟩

/-- Only the Info of an AGX gripper is accepted. -/
theorem Accepted.gripperType {numbers : GripperNumbers} {info : GripperInfo} {q dq torque : PyValue}
    (accepted : Accepted numbers info q dq torque) : info.gripperType = numbers.AGX := by
  have valid := accepted.valid
  unfold validateInfo at valid
  simp only [↓check_ok] at valid
  exact not_not.mp valid.1

/-- A target stays acceptable when it is converted to doubles. -/
theorem Accepted.floats {numbers : GripperNumbers} {info : GripperInfo} {q dq torque : PyValue}
    (accepted : Accepted numbers info q dq torque) (doubles : info.Doubles) :
    Accepted numbers info (floatOf q) (floatOf dq) (floatOf torque) where
  valid := accepted.valid
  finiteQ := pyFinite_floatOf accepted.finiteQ
  finiteDq := pyFinite_floatOf accepted.finiteDq
  insideQ := within_floatOf doubles.1 doubles.2.1 accepted.finiteQ accepted.insideQ
  insideDq := within_floatOf zero_double doubles.2.2.1 accepted.finiteDq accepted.insideDq
  finiteTorque given := pyFinite_floatOf (accepted.finiteTorque (given_of_float given))
  insideTorque given := withinTorque_floatOf doubles.2.2.2 (accepted.finiteTorque (given_of_float given))
    (accepted.insideTorque (given_of_float given))
where
  zero_double : IsDouble (.finite 0) := by simp [IsDouble, BinaryFormat.round]
  given_of_float {torque : PyValue} (given : floatOf torque ≠ .none) : torque ≠ .none := by
    rintro rfl
    exact given rfl

/-- The fields of an acceptable target can be built, and they are its doubles. -/
theorem buildFields_accepted {numbers : GripperNumbers} {info : GripperInfo} {scratch : GripperScratch}
    (accepted : Accepted numbers info scratch.args.q scratch.args.dq scratch.args.torqueCmdNm) :
    ∃ after, buildFields scratch = .ok after := by
  obtain ⟨-, q, -, convertsQ, -⟩ := pyFloat_finite accepted.finiteQ
  obtain ⟨-, dq, -, convertsDq, -⟩ := pyFloat_finite accepted.finiteDq
  simp only [buildFields, ↓bind_ok, convertsQ, convertsDq]
  cases same : scratch.args.torqueCmdNm with
  | none => exact ⟨_, _, rfl, _, rfl, rfl⟩
  | bool | int | float | index | real | other =>
      obtain ⟨-, torque, -, converts, -⟩ := pyFloat_finite (accepted.finiteTorque (by simp [same]))
      rw [same] at converts
      simp only [↓bind_ok, converts]
      exact ⟨_, _, rfl, _, rfl, _, rfl, rfl⟩

/-- The torque of a command as an argument. -/
def torqueOf : Option FloatValue → PyValue
  | none => .none
  | some torque => .float torque

/-- The built fields are the doubles of the arguments, and the rest of the variables stays. -/
theorem buildFields_ok {before after : GripperScratch} (built : buildFields before = .ok after) :
    after.args = before.args ∧ after.envelopeInfo = before.envelopeInfo ∧ .float after.q = floatOf before.args.q ∧
      .float after.dq = floatOf before.args.dq ∧ torqueOf after.torqueCmdNm = floatOf before.args.torqueCmdNm := by
  simp only [buildFields, ↓bind_ok] at built
  obtain ⟨q, isQ, dq, isDq, built⟩ := built
  cases same : before.args.torqueCmdNm with
  | none =>
      rw [same] at built
      cases built
      exact ⟨rfl, rfl, by rw [floatOf, isQ], by rw [floatOf, isDq], rfl⟩
  | bool | int | float | index | real | other =>
      rw [same] at built
      simp only [↓bind_ok] at built
      obtain ⟨torque, isTorque, built⟩ := built
      cases built
      exact ⟨rfl, rfl, by rw [floatOf, isQ], by rw [floatOf, isDq], by rw [torqueOf, floatOf, isTorque]⟩

end GripperClient

end HumanoidSdk.EndEffector
