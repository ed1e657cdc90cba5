import HumanoidSdk.Foundation.Bytes
import HumanoidSdk.Foundation.Outcome
import HumanoidSdk.Value.Float
import Mathlib.Data.List.Sort

/-
This file translates unpack_motor_states of python/locomotion_aorta/_motor_codec.py. The field offset
of the vector comes from the accessor of the FlatBuffers runtime.
-/

namespace HumanoidSdk.Codec
open Foundation

inductive Fault where
  | valueError (message : String)
  | structError
  | indexError
  | typeError
  | zeroDivisionError
  deriving DecidableEq

def Fault.IsValueError : Fault → Prop
  | .valueError _ => True
  | _ => False

/-- A read that does not fit into the buffer raises `struct.error`. -/
def orStructError {Value : Type} : Option Value → Except Fault Value
  | some value => .ok value
  | none => .error .structError

/-- A Python tuple refuses an index beyond its end. -/
def item {Value : Type} (values : List Value) (index : ℕ) : Except Fault Value :=
  match values[index]? with
  | some value => .ok value
  | none => .error .indexError

/-- The number that single-precision bits denote. -/
def singleValue (bits : BitVec 32) : FloatValue :=
  let sign : ℚ := if bits.msb then -1 else 1
  let exponent : ℕ := bits.toNat / 2 ^ 23 % 2 ^ 8
  let fraction : ℕ := bits.toNat % 2 ^ 23
  if exponent = 255 then if fraction = 0 then .infinity bits.msb else .nan
  else if exponent = 0 then .finite (sign * fraction / 2 ^ 149)
  else .finite (sign * (2 ^ 23 + fraction) * 2 ^ ((exponent : ℤ) - 150))

/-- The Python function `float` is exact on both kinds of values. -/
def toFloat : Scalar → FloatValue
  | .single bits => singleValue bits
  | .int value => .finite value

/-- The appended default is 0.0. -/
def zero : Scalar := .single 0

structure MotorState where
  q : Scalar := zero
  dq : Scalar := zero
  tauEst : Scalar := zero
  temperature : FloatValue := .finite 0
  deriving DecidableEq

/-- The slots and formats of Q, Dq, TauEst and Temperature. -/
def STATE_FIELDS : List (ℕ × Format) := [(12, .single), (14, .single), (18, .single), (26, .signed 1)]

def checkBounds (start width : ℤ) (size : ℕ) : Except Fault Unit :=
  if start < 0 ∨ width < 0 ∨ start + width > size then
    .error (.valueError "HumanoidLowState field outside buffer")
  else .ok ()

/-- A projected field that the vtable places inside the table. -/
structure Field where
  offset : ℕ
  index : ℕ
  format : Format
  deriving DecidableEq

/-- A vtable that ends before a slot omits the field. -/
def entryOffset (data : List UInt8) (vtable : ℤ) (length slot : ℕ) : Except Fault ℕ :=
  if slot < length then orStructError (unpackUnsigned 2 data (vtable + slot)) else .ok 0

/-- The first loop of the plan collects the fields that are present. -/
def scalarFields (data : List UInt8) (vtable : ℤ) (length objectSize : ℕ) :
    ℕ → List (ℕ × Format) → Except Fault (List Field)
  | _, [] => .ok []
  | index, (slot, format) :: rest => do
      let offset ← entryOffset data vtable length slot
      if offset = 0 then scalarFields data vtable length objectSize (index + 1) rest
      else if offset < 4 ∨ offset + format.width > objectSize then
        .error (.valueError "HumanoidMotorState scalar outside table")
      else do
        let fields ← scalarFields data vtable length objectSize (index + 1) rest
        return ⟨offset, index, format⟩ :: fields

/-- The tuples sort by their offset first and by their index next. -/
def Field.Before (first second : Field) : Prop :=
  first.offset < second.offset ∨ first.offset = second.offset ∧ first.index ≤ second.index

instance : DecidableRel Field.Before := fun _ _ => inferInstanceAs (Decidable (_ ∨ _))

/-- The second loop builds the format and records which value belongs to which field. -/
def layout : List Field → ℕ → ℕ → List Code → List ℕ → Except Fault (List Code × List ℕ)
  | [], _, _, codes, indices => .ok (codes, indices)
  | field :: rest, cursor, ordinal, codes, indices =>
      if field.offset < cursor then .error (.valueError "overlapping HumanoidMotorState scalar fields")
      else layout rest (field.offset + field.format.width) (ordinal + 1)
        (codes ++ (if cursor < field.offset then [.pad (field.offset - cursor)] else []) ++
          [.value field.format])
        (indices.set field.index ordinal)

structure Plan where
  codes : List Code
  indices : List ℕ
  objectSize : ℕ
  deriving DecidableEq

def statePlan (data : List UInt8) (vtable : ℤ) : Except Fault Plan := do
  checkBounds vtable 4 data.length
  let header ← orStructError (locate 4 data.length vtable)
  let length := unsignedAt data header 2
  let objectSize := unsignedAt data (header + 2) 2
  if length < 4 ∨ length % 2 ≠ 0 ∨ objectSize < 4 then .error (.valueError "invalid HumanoidMotorState vtable")
  checkBounds vtable length data.length
  let fields ← scalarFields data vtable length objectSize 0 STATE_FIELDS
  let (codes, indices) ← layout (fields.insertionSort Field.Before) 0 0 []
    (List.replicate STATE_FIELDS.length fields.length)
  return ⟨codes, indices, objectSize⟩

/-- The value that an index of the plan names. -/
def pick (values : List Scalar) (indices : List ℕ) (place : ℕ) : Except Fault Scalar := do
  item values (← item indices place)

def motorState (values : List Scalar) (indices : List ℕ) : Except Fault MotorState := do
  let q ← pick values indices 0
  let dq ← pick values indices 1
  let tauEst ← pick values indices 2
  let temperature ← pick values indices 3
  return ⟨q, dq, tauEst, toFloat temperature⟩

/-- The plans of a message are kept under the address of their vtable. -/
def planFor (data : List UInt8) (plans : List (ℤ × Plan)) (vtable : ℤ) :
    Except Fault (Plan × List (ℤ × Plan)) :=
  match plans.lookup vtable with
  | some plan => .ok (plan, plans)
  | none => do
      let plan ← statePlan data vtable
      return (plan, (vtable, plan) :: plans)

/-- The loop over the table offsets of the vector. -/
def motorStates (data : List UInt8) (first : ℤ) : ℕ → List ℤ → List (ℤ × Plan) →
    Except Fault (List MotorState)
  | _, [], _ => .ok []
  | index, relative :: rest, plans => do
      if relative < 4 then .error (.valueError "invalid HumanoidMotorState table offset")
      let pos := first + index * 4 + relative
      checkBounds pos 4 data.length
      let back ← orStructError (unpackSigned 4 data pos)
      let (plan, plans) ← planFor data plans (pos - back)
      checkBounds pos plan.objectSize data.length
      let values ← orStructError (unpackFrom plan.codes data pos)
      let motor ← motorState (values ++ [zero]) plan.indices
      let motors ← motorStates data first (index + 1) rest plans
      return motor :: motors

/-- A record of one integer. -/
def onlyInt : List Scalar → ℤ
  | [.int value] => value
  | _ => 0

def unpackMotorStates (data : List UInt8) (root offset : ℤ) : Except Fault (List MotorState) := do
  if offset = 0 then return []
  let pointer := root + offset
  checkBounds pointer 4 data.length
  let relative ← orStructError (unpackUnsigned 4 data pointer)
  let vector := pointer + relative
  checkBounds vector 4 data.length
  let count ← orStructError (unpackUnsigned 4 data vector)
  let first := vector + 4
  checkBounds first (count * 4) data.length
  let offsets ← orStructError (iterUnpack [.value (.unsigned 4)] (slice data first.toNat (count * 4)))
  motorStates data first 0 (offsets.map onlyInt) []

/-- The vtable omits a field by a zero entry or by ending before its slot. -/
def entry (data : List UInt8) (vtable : ℤ) (slot : ℕ) : ℕ :=
  if slot < unsignedAt data vtable 2 then unsignedAt data (vtable + slot) 2 else 0

/-- The table at a position names its vtable by a signed distance. -/
def vtableOf (data : List UInt8) (pos : ℤ) : ℤ := pos - signedAt data pos 4

/-- One field read by itself, as a generated accessor reads it. -/
def fieldAt (data : List UInt8) (pos : ℤ) (field : ℕ × Format) : Scalar :=
  if entry data (vtableOf data pos) field.1 = 0 then zero
  else field.2.read data (pos + entry data (vtableOf data pos) field.1)

/-- One motor state read field by field. -/
def motorAt (data : List UInt8) (pos : ℤ) : MotorState where
  q := fieldAt data pos (12, .single)
  dq := fieldAt data pos (14, .single)
  tauEst := fieldAt data pos (18, .single)
  temperature := toFloat (fieldAt data pos (26, .signed 1))

/-- The position of the vector behind the pointer to it. -/
def vectorAt (data : List UInt8) (pointer : ℤ) : ℤ := pointer + unsignedAt data pointer 4

/-- The position of one table of the vector. -/
def tableAt (data : List UInt8) (vector : ℤ) (index : ℕ) : ℤ :=
  vector + 4 + index * 4 + unsignedAt data (vector + 4 + index * 4) 4

/-- The tables of the vector in their order. -/
def tables (data : List UInt8) (vector : ℤ) : List ℤ :=
  (List.range (unsignedAt data vector 4)).map (tableAt data vector)

end HumanoidSdk.Codec
