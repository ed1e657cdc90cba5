import Mathlib
import HumanoidSdk.Policy.Contract

/-
This file translates the quaternion functions and the reference motion of
python/locomotion_aorta/wbc_tracking_policy.py.
-/

namespace HumanoidSdk.Policy
open Arithmetic

variable {S D : Type} [Arithmetic S D]

/-- A quaternion of four finite values and a plausible norm is normalized. -/
def quaternion (value : NdArray D) : Except Raised (Vector D 4) := do
  let q ← finite value "quaternion"
  match vectorOf 4 q with
  | none => .error (.valueError "expected a plausible wxyz quaternion")
  | some q =>
      if !(le (literal 0.5) (norm q.toList) && le (norm q.toList) (literal 1.5)) then
        .error (.valueError "expected a plausible wxyz quaternion")
      else .ok (q.map (div · (norm q.toList)))

def conjugate (q : Vector D 4) : Vector D 4 :=
  Vector.zipWith mul q #v[literal 1, literal (-1), literal (-1), literal (-1)]

def multiply (a b : Vector D 4) : Vector D 4 :=
  #v[sub (sub (sub (mul a[0] b[0]) (mul a[1] b[1])) (mul a[2] b[2])) (mul a[3] b[3]),
    sub (add (add (mul a[0] b[1]) (mul a[1] b[0])) (mul a[2] b[3])) (mul a[3] b[2]),
    add (add (sub (mul a[0] b[2]) (mul a[1] b[3])) (mul a[2] b[0])) (mul a[3] b[1]),
    add (sub (add (mul a[0] b[3]) (mul a[1] b[2])) (mul a[2] b[1])) (mul a[3] b[0])]

/-- The three parts of a vector in space. -/
def partX {Value : Type} (vector : Vector Value 3) : Value := vector[0]

def partY {Value : Type} (vector : Vector Value 3) : Value := vector[1]

def partZ {Value : Type} (vector : Vector Value 3) : Value := vector[2]

/-- The expression `1-2*(a+b)` of two squares. -/
def diagonal (a b : D) : D := sub (literal 1) (mul (literal 2) (add (mul a a) (mul b b)))

def rotation (value : Vector D 4) : Except Raised (Vector (Vector D 3) 3) := do
  let q ← quaternion (.ofList value.toList)
  let (w, x, y, z) := (q[0], q[1], q[2], q[3])
  return #v[
    #v[diagonal y z, mul (literal 2) (sub (mul x y) (mul w z)), mul (literal 2) (add (mul x z) (mul w y))],
    #v[mul (literal 2) (add (mul x y) (mul w z)), diagonal x z, mul (literal 2) (sub (mul y z) (mul w x))],
    #v[mul (literal 2) (sub (mul x z) (mul w y)), mul (literal 2) (add (mul y z) (mul w x)), diagonal x y]]

def transpose (r : Vector (Vector D 3) 3) : Vector (Vector D 3) 3 :=
  #v[#v[r[0][0], r[1][0], r[2][0]], #v[r[0][1], r[1][1], r[2][1]], #v[r[0][2], r[1][2], r[2][2]]]

/-- Gravity in the frame of the body. -/
def gravityOf (quat : Vector D 4) : Except Raised (Vector D 3) := do
  return matVec (transpose (← rotation quat)) #v[literal 0, literal 0, literal (-1)]

/-- The cosine and the sine refuse an infinite angle. -/
def yawQuaternion (angle : D) : Except Raised (Vector D 4) := do
  let cosine ← Json.orRaise (.valueError "math domain error") (cos (div angle (literal 2)))
  let sine ← Json.orRaise (.valueError "math domain error") (sin (div angle (literal 2)))
  return #v[cosine, literal 0, literal 0, sine]

/-- A motion has at least one frame, and its three arrays have one row for each. -/
structure Motion (D : Type) where
  q : List (Vector D 28)
  base : List (Vector D 3)
  quat : List (Vector D 4)
  frames : 0 < q.length
  bases : base.length = q.length
  quats : quat.length = q.length

/-- The rows of an array of the shape `(rows, columns)`. -/
def rowsOf (rows columns : ℕ) (array : NdArray D) : Option (List (Vector D columns)) :=
  if array.shape = [rows, columns] then
    (List.range rows).mapM fun row => sized columns ((array.data.drop (row * columns)).take columns)
  else none

/-- The first axis of an array. -/
def lenOf (array : NdArray D) : Except Raised ℕ :=
  match array.shape with
  | [] => .error .typeError
  | rows :: _ => .ok rows

def Motion.new (positions basePositions quaternions : NdArray D) : Except Raised (Motion D) := do
  let q ← finite positions "reference joint positions"
  let base ← finite basePositions "reference base positions"
  let quaternions ← finite quaternions "reference quaternions"
  let n ← lenOf q
  match rowsOf n 28 q, rowsOf n 3 base, rowsOf n 4 quaternions with
  | some q, some base, some quaternions => do
      let quat ← quaternions.mapM fun row => quaternion (.ofList row.toList)
      if shape : 0 < q.length ∧ base.length = q.length ∧ quat.length = q.length then
        return ⟨q, base, quat, shape.1, shape.2.1, shape.2.2⟩
      else .error (.valueError "expected reference arrays [N,28], [N,3], [N,4]")
  | _, _, _ => .error (.valueError "expected reference arrays [N,28], [N,3], [N,4]")

/-- The conversion `int(round(value))`, which raises ValueError for NaN and OverflowError for infinity. -/
def roundInt (value : D) : Except Raised ℤ :=
  match round value with
  | some number => .ok number
  | none => .error (if le value value then .overflowError else .valueError "cannot convert float NaN to integer")

/-- A number in 64 bits wraps around. -/
def int64 (value : ℤ) : ℤ := value.bmod (2 ^ 64)

/-- The frame indices, clipped to the motion. With a frame or a stride outside 64 bits the array holds
no 64-bit integers and cannot index. -/
def Motion.indices (motion : Motion D) (refTime : D) (count : ℕ) (dt : D) : Except Raised (List ℕ) := do
  let frame ← roundInt (div refTime REF_DT)
  let stride := max 1 (← roundInt (div dt REF_DT))
  if int64 frame ≠ frame ∨ int64 stride ≠ stride then .error .indexError
  return (List.range count).map fun k : ℕ =>
    (min (max (int64 (frame + int64 (stride * (k : ℤ)))) 0) ((motion.q.length : ℤ) - 1)).toNat

/-- The start of the forward difference of an index; natural subtraction stops at zero. -/
def Motion.slopeStart (motion : Motion D) (index : ℕ) : ℕ :=
  if index < motion.q.length - 1 then index else index - if motion.q.length ≥ 3 then 2 else 1

def Motion.slopeEnd (motion : Motion D) (index : ℕ) : ℕ :=
  min (motion.slopeStart index + 1) (motion.q.length - 1)

/-- NumPy refuses an index beyond the end. -/
def element {Value : Type} (values : List Value) (index : ℕ) : Except Raised Value :=
  match values[index]? with
  | some value => .ok value
  | none => .error .indexError

def Motion.velocities (motion : Motion D) (indices : List ℕ) : Except Raised (List (Vector D 28)) :=
  indices.mapM fun index => do
    let final ← element motion.q (motion.slopeEnd index)
    let first ← element motion.q (motion.slopeStart index)
    return (Vector.zipWith sub final first).map (div · REF_DT)

end HumanoidSdk.Policy
