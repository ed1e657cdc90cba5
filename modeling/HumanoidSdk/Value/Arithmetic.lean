import Mathlib.Data.List.Basic
import Mathlib.Data.Rat.Sqrt
import Mathlib.Data.Rat.Floor
import Mathlib.Algebra.BigOperators.Group.List.Basic

/-
This file names the arithmetic that the policies take from Python and NumPy. The numbers themselves
are a parameter: a single-precision type, a double-precision type and their operations.
-/

namespace HumanoidSdk

/-- A Python exception of the policies. -/
inductive Raised where
  | valueError (message : String)
  | keyError (key : String)
  | indexError
  | typeError
  | attributeError
  | overflowError
  deriving DecidableEq

/-- A value that `json.loads` returns. -/
inductive Json (D : Type) where
  | null
  | bool (value : Bool)
  | int (value : ℤ)
  | float (value : D)
  | str (value : String)
  | list (values : List (Json D))
  | dict (entries : List (String × Json D))

/-- The data of an array has as many values as its shape says. -/
structure NdArray (D : Type) where
  shape : List ℕ
  data : List D
  size : data.length = shape.prod

/-- A one-dimensional array. -/
def NdArray.ofList {D : Type} (values : List D) : NdArray D := ⟨[values.length], values, by simp⟩

/-- The operations on single precision `S` and double precision `D`. A partial operation has no value
where the Python one raises. -/
class Arithmetic (S : outParam Type) (D : Type) where
  /-- The conversion `float` of a single. -/
  widen : S → D
  /-- The conversion `np.float32`. -/
  narrow : D → S
  /-- The conversion of `struct.pack`, which refuses a number beyond the range. -/
  pack : D → Option S
  /-- A literal of the source. -/
  literal : ℚ → D
  /-- The conversion `float` of an integer. -/
  ofInt : ℤ → Option D
  /-- The conversion `float` of a text. -/
  ofText : String → Option D
  /-- `np.asarray` with double precision. -/
  asarray : Json D → Except Raised (NdArray D)
  add : D → D → D
  sub : D → D → D
  mul : D → D → D
  div : D → D → D
  neg : D → D
  isFinite : D → Bool
  le : D → D → Bool
  lt : D → D → Bool
  /-- The Python comparison of a float with an integer. -/
  equalsInt : D → ℤ → Bool
  maximum : D → D → D
  minimum : D → D → D
  /-- `np.linalg.norm`. -/
  norm : List D → D
  /-- The product of a matrix and a vector. -/
  matVec : Vector (Vector D 3) 3 → Vector D 3 → Vector D 3
  acos : D → D
  cos : D → Option D
  sin : D → Option D
  /-- The Python function `round`, which refuses infinities and NaN. -/
  round : D → Option ℤ
  /-- `math.isclose` with an absolute tolerance. -/
  isclose : D → D → D → Bool
  /-- Three digits after the point. -/
  fixed3 : D → String
  /-- Widening loses nothing. -/
  narrow_widen : ∀ value, narrow (widen value) = value

namespace Arithmetic

variable {S D : Type} [Arithmetic S D]

/-- `np.clip` of one value. -/
def clip (value low high : D) : D := minimum (maximum value low) high

/-- A list of a known length is a vector. -/
def sized {Value : Type} (count : ℕ) (values : List Value) : Option (Vector Value count) :=
  if fits : values.length = count then some ⟨values.toArray, by rw [List.size_toArray, fits]⟩ else none

/-- The numbers of a list. -/
def numbers : List (Json ℚ) → Option (List ℚ)
  | [] => some []
  | .int value :: rest => (numbers rest).map ((value : ℚ) :: ·)
  | .float value :: rest => (numbers rest).map (value :: ·)
  | _ :: _ => none

/-- Exact arithmetic on rational numbers, right wherever the machine does not round. The root is exact
on squares and the angles are exact at zero. -/
@[reducible] def exact : Arithmetic ℚ ℚ where
  widen value := value
  narrow value := value
  pack value := some value
  literal value := value
  ofInt value := some value
  ofText _ := none
  asarray json :=
    match json with
    | .list values =>
        match numbers values with
        | some values => .ok (.ofList values)
        | none => .error .typeError
    | _ => .error .typeError
  add := (· + ·)
  sub := (· - ·)
  mul := (· * ·)
  div := (· / ·)
  neg value := -value
  isFinite _ := true
  le first second := first ≤ second
  lt first second := first < second
  equalsInt value number := value = number
  maximum := max
  minimum := min
  norm values := Rat.sqrt (values.map fun value => value * value).sum
  matVec rows vector := rows.map fun row => (Vector.zipWith (· * ·) row vector).sum
  acos value := 1 - value
  cos _ := some 1
  sin angle := some angle
  round value := some ⌊value + 1 / 2⌋
  isclose first second tolerance := |first - second| ≤ tolerance
  fixed3 value := toString value
  narrow_widen _ := rfl

end Arithmetic

end HumanoidSdk
