import HumanoidSdk.Codec.MotorPlan

/-
This file compares the bulk decoding of motor states with a decoding field by field.
-/

namespace HumanoidSdk.Codec
open Foundation

variable {data : List UInt8}

/-- The values of a plan are the projected fields of the table, in any order of its fields. -/
theorem motorState_planOf {pos : ℤ} {plan : Plan} (low : 0 ≤ pos) (spec : PlanOf data (vtableOf data pos) plan) :
    motorState (unpack plan.codes data pos.toNat ++ [zero]) plan.indices = .ok (motorAt data pos) := by
  have field (place : ℕ) (named : ℕ × Format) (found : STATE_FIELDS[place]? = some named) :
      pick (unpack plan.codes data pos.toNat ++ [zero]) plan.indices place = .ok (fieldAt data pos named) := by
    obtain ⟨index, placed, value⟩ := spec.reads place named found pos.toNat
    have known : item plan.indices place = .ok index := by rw [item, placed]
    rw [pick, known]
    change item _ index = _
    rw [item, value, fieldAt, Nat.cast_add, Int.toNat_of_nonneg low]
  rw [motorState, field 0 _ rfl, field 1 _ rfl, field 2 _ rfl, field 3 _ rfl]
  rfl

/-- Every cached plan is a plan of its vtable. -/
def Cached (data : List UInt8) (plans : List (ℤ × Plan)) : Prop :=
  ∀ vtable plan, plans.lookup vtable = some plan → PlanOf data vtable plan

theorem planFor_yields {plans : List (ℤ × Plan)} {vtable : ℤ} (cached : Cached data plans) :
    Yields Fault.IsValueError (fun found => PlanOf data vtable found.1 ∧ Cached data found.2)
      (planFor data plans vtable) := by
  unfold planFor
  cases known : plans.lookup vtable with
  | some plan => exact ⟨cached vtable plan known, cached⟩
  | none =>
      refine statePlan_yields.bind fun plan _ spec => ⟨spec, fun other found => ?_⟩
      rw [List.lookup_cons]
      split
      · rename_i same
        obtain rfl : other = vtable := by simpa using same
        rintro ⟨⟩
        exact spec
      · exact cached other found

theorem planFor_ok {plans : List (ℤ × Plan)} {vtable : ℤ} (valid : ValidVtable data vtable) :
    ∃ found, planFor data plans vtable = .ok found := by
  unfold planFor
  cases known : plans.lookup vtable with
  | some plan => exact ⟨_, rfl⟩
  | none =>
      obtain ⟨plan, made⟩ := statePlan_ok valid
      exact ⟨(plan, (vtable, plan) :: plans), by simp [made, bind, Except.bind, pure, Except.pure]⟩

/-- The motor states that the tables of some relative offsets hold. -/
def motorsAt (data : List UInt8) (first : ℤ) (index : ℕ) (relatives : List ℤ) : List MotorState :=
  relatives.mapIdx fun place relative => motorAt data (first + (index + place : ℕ) * 4 + relative)

theorem motorsAt_cons (first : ℤ) (index : ℕ) (relative : ℤ) (rest : List ℤ) :
    motorsAt data first index (relative :: rest) =
      motorAt data (first + index * 4 + relative) :: motorsAt data first (index + 1) rest := by
  rw [motorsAt, motorsAt, List.mapIdx_cons]
  simp only [Nat.add_zero, Nat.add_assoc, Nat.add_comm 1]

/-- The loop raises a ValueError or reads every table field by field. -/
theorem motorStates_yields {first : ℤ} {relatives : List ℤ} {index : ℕ} {plans : List (ℤ × Plan)}
    (cached : Cached data plans) :
    Yields Fault.IsValueError (· = motorsAt data first index relatives)
      (motorStates data first index relatives plans) := by
  induction relatives generalizing index plans with
  | nil => exact rfl
  | cons relative rest ih =>
      rw [motorStates, motorsAt_cons]
      refine Yields.check (fun _ => trivial) fun _ => ?_
      refine checkBounds_yields.bind fun _ _ bounds => ?_
      rw [unpackSigned_inside bounds.1 bounds.2.2]
      refine (planFor_yields cached).bind fun found _ held => ?_
      obtain ⟨plan, plans'⟩ := found
      refine checkBounds_yields.bind fun _ _ object => ?_
      have size : calcsize plan.codes ≤ plan.objectSize := held.1.size
      rw [unpackFrom_inside bounds.1 (by omega)]
      change Yields _ _ (motorState _ _ >>= _)
      rw [motorState_planOf bounds.1 held.1]
      refine (ih held.2).bind fun motors _ same => ?_
      exact congrArg (_ :: ·) same

/-- A table and its vtable lie in the buffer and agree on the projected fields. -/
structure ValidTable (data : List UInt8) (pos : ℤ) : Prop where
  low : 0 ≤ pos
  vtable : ValidVtable data (vtableOf data pos)
  inside : pos + unsignedAt data (vtableOf data pos + 2) 2 ≤ data.length

/-- The loop reads valid tables to its end. -/
theorem motorStates_ok {first : ℤ} {relatives : List ℤ} {index : ℕ} {plans : List (ℤ × Plan)}
    (cached : Cached data plans) (valid : ∀ (place : ℕ) (relative : ℤ), relatives[place]? = some relative →
      4 ≤ relative ∧ ValidTable data (first + (index + place : ℕ) * 4 + relative)) :
    ∃ motors, motorStates data first index relatives plans = .ok motors := by
  induction relatives generalizing index plans with
  | nil => exact ⟨[], rfl⟩
  | cons relative rest ih =>
      obtain ⟨far, table⟩ := valid 0 relative rfl
      rw [Nat.add_zero] at table
      have low := table.low
      have inside := table.inside
      have object := table.vtable.object
      obtain ⟨found, made⟩ := @planFor_ok data plans _ table.vtable
      have held := (planFor_yields cached).value made
      obtain ⟨plan, plans'⟩ := found
      have size : calcsize plan.codes ≤ plan.objectSize := held.1.size
      have known : plan.objectSize = _ := held.1.objectSize
      obtain ⟨motors, others⟩ := @ih (index + 1) plans' held.2 fun place other at' => by
        have next := valid (place + 1) other (by simpa using at')
        rwa [Nat.add_assoc, Nat.add_comm 1]
      refine ⟨motorAt data (first + index * 4 + relative) :: motors, ?_⟩
      rw [motorStates, if_neg (by omega)]
      change (checkBounds _ 4 data.length >>= _) = _
      rw [checkBounds_ok low (by decide) (by omega)]
      change (orStructError (unpackSigned 4 data _) >>= _) = _
      rw [unpackSigned_inside low (by omega)]
      change (planFor data plans (vtableOf data _) >>= _) = _
      rw [made]
      change (checkBounds _ plan.objectSize data.length >>= _) = _
      rw [checkBounds_ok low (by omega) (by omega)]
      change (orStructError (unpackFrom plan.codes data _) >>= _) = _
      rw [unpackFrom_inside low (by omega)]
      change (motorState _ _ >>= _) = _
      rw [motorState_planOf low held.1]
      change (motorStates data first (index + 1) rest plans' >>= _) = _
      rw [others]
      rfl

/-- The vector, its tables and their vtables lie in the buffer, and no table offset is too small. -/
structure WellFormed (data : List UInt8) (pointer : ℤ) : Prop where
  reference : 0 ≤ pointer ∧ pointer + 4 ≤ data.length
  vector : vectorAt data pointer + 4 ≤ data.length
  offsets : vectorAt data pointer + 4 + unsignedAt data (vectorAt data pointer) 4 * 4 ≤ data.length
  tables : ∀ index < unsignedAt data (vectorAt data pointer) 4,
    4 ≤ unsignedAt data (vectorAt data pointer + 4 + index * 4) 4 ∧
      ValidTable data (tableAt data (vectorAt data pointer) index)

/-- The table offsets of the vector in their order. -/
def offsetsAt (data : List UInt8) (vector : ℤ) : List ℤ :=
  (List.range (unsignedAt data vector 4)).map fun index : ℕ =>
    (unsignedAt data (vector + 4 + index * 4) 4 : ℤ)

theorem iterUnpack_offsets {vector : ℤ} (low : 0 ≤ vector)
    (inside : vector + 4 + unsignedAt data vector 4 * 4 ≤ data.length) :
    (iterUnpack [.value (.unsigned 4)] (slice data (vector + 4).toNat (unsignedAt data vector 4 * 4))).map
      (List.map onlyInt) = some (offsetsAt data vector) := by
  have one : calcsize [.value (.unsigned 4)] = 4 := rfl
  have unpacked := @iterUnpack_slice [.value (.unsigned 4)] data (vector + 4).toNat (unsignedAt data vector 4)
    (by decide) (by rw [one]; omega)
  rw [one] at unpacked
  rw [unpacked, Option.map_some, List.map_map, offsetsAt]
  refine congrArg some (List.map_congr_left fun index _ => ?_)
  have place : ((vector + 4).toNat + index * 4 : ℕ) = (vector + 4 + index * 4).toNat := by omega
  simp only [Function.comp_apply, unpack, onlyInt, Format.read, Format.decode, Format.width, unsignedAt,
    Int.toNat_natCast, place]

theorem motorsAt_offsets (vector : ℤ) :
    motorsAt data (vector + 4) 0 (offsetsAt data vector) = (tables data vector).map (motorAt data) := by
  refine List.ext_getElem (by simp [motorsAt, offsetsAt, tables]) fun index _ _ => ?_
  simp [motorsAt, offsetsAt, tables, tableAt]

theorem unpackMotorStates_yields {root offset : ℤ} (nonzero : offset ≠ 0) :
    Yields Fault.IsValueError (· = (tables data (vectorAt data (root + offset))).map (motorAt data))
      (unpackMotorStates data root offset) := by
  rw [unpackMotorStates, if_neg nonzero]
  refine checkBounds_yields.bind fun _ _ pointer => ?_
  rw [unpackUnsigned_inside pointer.1 pointer.2.2]
  change Yields _ _ (checkBounds (vectorAt data (root + offset)) 4 data.length >>= _)
  refine checkBounds_yields.bind fun _ _ vector => ?_
  change Yields _ _ (orStructError (unpackUnsigned 4 data (vectorAt data (root + offset))) >>= _)
  rw [unpackUnsigned_inside vector.1 vector.2.2]
  refine checkBounds_yields.bind fun _ _ inside => ?_
  obtain ⟨offsets, unpacked, same⟩ := Option.map_eq_some_iff.mp (iterUnpack_offsets vector.1 inside.2.2)
  change Yields _ _ (orStructError (iterUnpack _ (slice data (vectorAt data (root + offset) + 4).toNat _)) >>= _)
  rw [unpacked]
  change Yields _ _ (motorStates data (vectorAt data (root + offset) + 4) 0 (offsets.map onlyInt) [])
  rw [same, ← motorsAt_offsets]
  exact motorStates_yields fun _ _ found => by simp at found

theorem unpackMotorStates_ok {root offset : ℤ} (nonzero : offset ≠ 0)
    (formed : WellFormed data (root + offset)) : ∃ motors, unpackMotorStates data root offset = .ok motors := by
  have low : 0 ≤ vectorAt data (root + offset) := by
    have pointer := formed.reference.1
    unfold vectorAt
    omega
  have inside := formed.offsets
  obtain ⟨offsets, unpacked, same⟩ := Option.map_eq_some_iff.mp (iterUnpack_offsets low inside)
  obtain ⟨motors, done⟩ := @motorStates_ok data (vectorAt data (root + offset) + 4) (offsets.map onlyInt) 0 []
    (fun _ _ found => by simp at found) fun place relative found => by
      obtain ⟨bound, at'⟩ := List.getElem?_eq_some_iff.mp (same ▸ found)
      have table := formed.tables place (by simpa [offsetsAt] using bound)
      simp only [offsetsAt, List.getElem_map, List.getElem_range] at at'
      rw [tableAt, at'] at table
      exact ⟨by omega, by simpa using table.2⟩
  refine ⟨motors, ?_⟩
  rw [unpackMotorStates, if_neg nonzero]
  change (checkBounds (root + offset) 4 data.length >>= _) = _
  rw [checkBounds_ok formed.reference.1 (by decide) formed.reference.2]
  change (orStructError (unpackUnsigned 4 data (root + offset)) >>= _) = _
  rw [unpackUnsigned_inside formed.reference.1 formed.reference.2]
  change (checkBounds (vectorAt data (root + offset)) 4 data.length >>= _) = _
  rw [checkBounds_ok low (by decide) formed.vector]
  change (orStructError (unpackUnsigned 4 data (vectorAt data (root + offset))) >>= _) = _
  rw [unpackUnsigned_inside low formed.vector]
  change (checkBounds (vectorAt data (root + offset) + 4) _ data.length >>= _) = _
  rw [checkBounds_ok (by omega) (by omega) inside]
  change (orStructError (iterUnpack _ (slice data (vectorAt data (root + offset) + 4).toNat _)) >>= _) = _
  rw [unpacked]
  exact done

/-- The bulk decoding of a vector raises a ValueError or equals the decoding field by field, and it
succeeds on every well-formed vector. -/
theorem unpackMotorStates_reference (data : List UInt8) (root offset : ℤ) (nonzero : offset ≠ 0) :
    ((∃ message, unpackMotorStates data root offset = .error (.valueError message)) ∨
      unpackMotorStates data root offset =
        .ok ((tables data (vectorAt data (root + offset))).map (motorAt data))) ∧
    (WellFormed data (root + offset) → unpackMotorStates data root offset =
      .ok ((tables data (vectorAt data (root + offset))).map (motorAt data))) := by
  have yields := @unpackMotorStates_yields data root offset nonzero
  constructor
  · cases result : unpackMotorStates data root offset with
    | ok motors => exact Or.inr (congrArg _ (yields.value result))
    | error fault =>
        rw [result, Yields.error_iff] at yields
        cases fault with
        | valueError message => exact Or.inl ⟨message, rfl⟩
        | _ => exact yields.elim
  · intro formed
    obtain ⟨motors, done⟩ := unpackMotorStates_ok nonzero formed
    rw [done, yields.value done]

/-- Two tables share a vtable that places only the first field. -/
def twoMotors : List UInt8 := [
  0, 0, 0, 0, 4, 0, 0, 0, 2, 0, 0, 0, 8, 0, 0, 0, 12, 0, 0, 0,
  240, 255, 255, 255, 0, 0, 128, 63, 248, 255, 255, 255, 0, 0, 0, 64,
  14, 0, 8, 0, 0, 0, 0, 0, 0, 0, 0, 0, 4, 0]

theorem twoMotors_vtable : ValidVtable twoMotors 36 where
  low := by decide
  even := by decide
  object := by decide
  inside := by decide
  scalars := by decide
  apart := by decide

theorem unpackMotorStates_twoMotors :
    unpackMotorStates twoMotors 0 4 =
      .ok [{ q := .single 0x3f800000 }, { q := .single 0x40000000 }] := by
  have formed : WellFormed twoMotors (0 + 4) := by
    refine ⟨by decide, by decide, by decide, fun index bound => ?_⟩
    have two : index = 0 ∨ index = 1 := by
      change index < 2 at bound
      omega
    rcases two with rfl | rfl
    · exact ⟨by decide, by decide, twoMotors_vtable, by decide⟩
    · exact ⟨by decide, by decide, twoMotors_vtable, by decide⟩
  rw [(unpackMotorStates_reference twoMotors 0 4 (by decide)).2 formed]
  decide +kernel

end HumanoidSdk.Codec
