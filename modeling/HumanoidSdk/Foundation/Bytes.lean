import Mathlib.Data.List.Basic
import Mathlib.Tactic.Linarith

namespace HumanoidSdk.Foundation

/-- The number that bytes denote from the least significant one on. -/
def little : List UInt8 → ℕ
  | [] => 0
  | byte :: rest => byte.toNat + 256 * little rest

/-- The bytes of a window, cut off at the end of the data. -/
def slice (data : List UInt8) (start width : ℕ) : List UInt8 := (data.drop start).take width

theorem slice_length {data : List UInt8} {start width : ℕ} (inside : start + width ≤ data.length) :
    (slice data start width).length = width := by
  rw [slice, List.length_take, List.length_drop]
  omega

/-- A window of a window is a window of the data. -/
theorem slice_slice {data : List UInt8} {outer first inner second : ℕ} (inside : inner + second ≤ first) :
    slice (slice data outer first) inner second = slice data (outer + inner) second := by
  rw [slice, slice, slice, List.drop_take, List.take_take, List.drop_drop, Nat.min_eq_left (by omega)]

/-- A decoded value is a single-precision number, kept as its bits, or an integer. -/
inductive Scalar where
  | single (bits : BitVec 32)
  | int (value : ℤ)
  deriving DecidableEq

/-- The format of one value without padding. -/
inductive Format where
  | single
  | unsigned (width : ℕ)
  | signed (width : ℕ)
  deriving DecidableEq

namespace Format

def width : Format → ℕ
  | .single => 4
  | .unsigned width => width
  | .signed width => width

/-- A signed value is the two's complement of its bits. -/
def decode : Format → List UInt8 → Scalar
  | .single, bytes => .single (BitVec.ofNat 32 (little bytes))
  | .unsigned _, bytes => .int (little bytes)
  | .signed width, bytes => .int (BitVec.ofNat (8 * width) (little bytes)).toInt

/-- The value that a format has at a position of the data. -/
def read (format : Format) (data : List UInt8) (position : ℤ) : Scalar :=
  format.decode (slice data position.toNat format.width)

end Format

def unsignedAt (data : List UInt8) (position : ℤ) (width : ℕ) : ℕ := little (slice data position.toNat width)

def signedAt (data : List UInt8) (position : ℤ) (width : ℕ) : ℤ :=
  (BitVec.ofNat (8 * width) (unsignedAt data position width)).toInt

/-- A code skips bytes or takes a value. -/
inductive Code where
  | pad (count : ℕ)
  | value (format : Format)
  deriving DecidableEq

def Code.width : Code → ℕ
  | .pad count => count
  | .value format => format.width

/-- The size of a format string without alignment. -/
def calcsize (codes : List Code) : ℕ := (codes.map Code.width).sum

@[simp] theorem calcsize_nil : calcsize [] = 0 := rfl

@[simp] theorem calcsize_cons (code : Code) (rest : List Code) :
    calcsize (code :: rest) = code.width + calcsize rest := List.sum_cons

@[simp] theorem calcsize_append (first second : List Code) :
    calcsize (first ++ second) = calcsize first + calcsize second := by
  simp [calcsize]

/-- The codes take their values one after the other from a start inside the data. -/
def unpack : List Code → List UInt8 → ℕ → List Scalar
  | [], _, _ => []
  | .pad count :: rest, data, start => unpack rest data (start + count)
  | .value format :: rest, data, start => format.read data start :: unpack rest data (start + format.width)

theorem unpack_append (first second : List Code) (data : List UInt8) (start : ℕ) :
    unpack (first ++ second) data start =
      unpack first data start ++ unpack second data (start + calcsize first) := by
  induction first generalizing start with
  | nil => rfl
  | cons code rest ih =>
      cases code with
      | pad count => simp only [List.cons_append, unpack, ih, calcsize_cons, Code.width, Nat.add_assoc]
      | value format => simp only [List.cons_append, unpack, ih, calcsize_cons, Code.width, Nat.add_assoc]

/-- Values of a window are the values of the data at its start. -/
theorem unpack_slice {codes : List Code} {data : List UInt8} {outer width start : ℕ}
    (inside : start + calcsize codes ≤ width) :
    unpack codes (slice data outer width) start = unpack codes data (outer + start) := by
  induction codes generalizing start with
  | nil => rfl
  | cons code rest ih =>
      rw [calcsize_cons] at inside
      cases code with
      | pad count =>
          simp only [unpack, Code.width] at inside ⊢
          rw [ih (by omega), Nat.add_assoc]
      | value format =>
          simp only [unpack, Code.width, Format.read, Int.toNat_natCast] at inside ⊢
          rw [ih (by omega), slice_slice (by omega), Nat.add_assoc]

/-- Where a value of some size starts: a negative position counts from the end of the data, and a
value that does not fit has no start. -/
def locate (size length : ℕ) (position : ℤ) : Option ℕ :=
  if position < 0 then
    if 0 < position + size ∨ position + length < 0 then none else some (position + length).toNat
  else if position + size ≤ length then some position.toNat else none

theorem locate_inside {size length : ℕ} {position : ℤ} (low : 0 ≤ position)
    (high : position + size ≤ length) : locate size length position = some position.toNat := by
  rw [locate, if_neg (by omega), if_pos high]

def unpackFrom (codes : List Code) (data : List UInt8) (position : ℤ) : Option (List Scalar) :=
  (locate (calcsize codes) data.length position).map (unpack codes data)

def unpackUnsigned (width : ℕ) (data : List UInt8) (position : ℤ) : Option ℕ :=
  (locate width data.length position).map fun start => unsignedAt data start width

def unpackSigned (width : ℕ) (data : List UInt8) (position : ℤ) : Option ℤ :=
  (locate width data.length position).map fun start => signedAt data start width

section Inside

variable {data : List UInt8} {position : ℤ} (low : 0 ≤ position)

include low

theorem unpackFrom_inside {codes : List Code} (high : position + calcsize codes ≤ data.length) :
    unpackFrom codes data position = some (unpack codes data position.toNat) := by
  rw [unpackFrom, locate_inside low high]
  rfl

theorem unpackUnsigned_inside {width : ℕ} (high : position + width ≤ data.length) :
    unpackUnsigned width data position = some (unsignedAt data position width) := by
  rw [unpackUnsigned, locate_inside low high]
  rfl

theorem unpackSigned_inside {width : ℕ} (high : position + width ≤ data.length) :
    unpackSigned width data position = some (signedAt data position width) := by
  rw [unpackSigned, locate_inside low high]
  rfl

end Inside

/-- The whole data is a sequence of records of one layout. -/
def iterUnpack (codes : List Code) (data : List UInt8) : Option (List (List Scalar)) :=
  if calcsize codes = 0 ∨ data.length % calcsize codes ≠ 0 then none
  else some ((List.range (data.length / calcsize codes)).map fun index =>
    unpack codes data (index * calcsize codes))

/-- A window of whole records unpacks to the records of the data. -/
theorem iterUnpack_slice {codes : List Code} {data : List UInt8} {start count : ℕ}
    (positive : 0 < calcsize codes) (inside : start + count * calcsize codes ≤ data.length) :
    iterUnpack codes (slice data start (count * calcsize codes)) =
      some ((List.range count).map fun index => unpack codes data (start + index * calcsize codes)) := by
  rw [iterUnpack, slice_length inside, if_neg (by simp; omega), Nat.mul_div_cancel _ positive]
  refine congrArg some (List.map_congr_left fun index member => ?_)
  have below : index + 1 ≤ count := List.mem_range.mp member
  have room := Nat.mul_le_mul_right (calcsize codes) below
  rw [Nat.succ_mul] at room
  exact unpack_slice room

end HumanoidSdk.Foundation
