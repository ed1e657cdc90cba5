import HumanoidSdk.Value.Arithmetic
import HumanoidSdk.Foundation.Outcome

/-
This file translates Contract of python/locomotion_aorta/wbc_tracking_policy.py. The parser of JSON
texts is a parameter.
-/

namespace HumanoidSdk

namespace Json

variable {S D : Type} [Arithmetic S D]

/-- The expression `value[key]`. -/
def get (key : String) : Json D → Except Raised (Json D)
  | .dict entries =>
      match entries.lookup key with
      | some value => .ok value
      | none => .error (.keyError key)
  | _ => .error .typeError

/-- The expression `value.get(key)`. -/
def find (key : String) : Json D → Except Raised (Option (Json D))
  | .dict entries => .ok (entries.lookup key)
  | _ => .error .attributeError

/-- The values of a loop over a list, a text or a dictionary. -/
def iterate : Json D → Except Raised (List (Json D))
  | .list values => .ok values
  | .str text => .ok (text.toList.map fun char => .str (String.singleton char))
  | .dict entries => .ok (entries.map fun entry => .str entry.1)
  | _ => .error .typeError

def truthy : Json D → Bool
  | .null => false
  | .bool value => value
  | .int value => value ≠ 0
  | .float value => !Arithmetic.equalsInt value 0
  | .str text => text ≠ ""
  | .list values => !values.isEmpty
  | .dict entries => !entries.isEmpty

/-- Python compares a boolean, an integer and a float by their numbers. -/
def equalsInt (json : Json D) (number : ℤ) : Bool :=
  match json with
  | .bool value => (if value then 1 else 0) = number
  | .int value => value = number
  | .float value => Arithmetic.equalsInt value number
  | _ => false

def equalsText (json : Json D) (text : String) : Bool :=
  match json with
  | .str value => value = text
  | _ => false

/-- The comparison with a list of integers. -/
def equalsInts (json : Json D) (numbers : List ℤ) : Bool :=
  match json with
  | .list values => values.length = numbers.length ∧ (values.zip numbers).all fun pair => pair.1.equalsInt pair.2
  | _ => false

/-- A list and a dictionary cannot be members of a set. -/
def hashable : Json D → Bool
  | .list _ => false
  | .dict _ => false
  | _ => true

/-- The equality of two members of a set. -/
def same (first second : Json D) : Bool :=
  match first, second with
  | .null, .null => true
  | .str first, .str second => first = second
  | .bool first, other => other.equalsInt (if first then 1 else 0)
  | .int first, other => other.equalsInt first
  | .float first, .float second => Arithmetic.le first second && Arithmetic.le second first
  | .float first, .int second => Arithmetic.equalsInt first second
  | .float first, .bool second => Arithmetic.equalsInt first (if second then 1 else 0)
  | _, _ => false

/-- The distinct members that a set keeps, each by its first occurrence. -/
def set (values : List (Json D)) : Except Raised (List (Json D)) :=
  if values.all hashable then
    .ok (values.foldl (fun kept value => if kept.any (same value) then kept else kept ++ [value]) [])
  else .error .typeError

/-- A conversion without a result raises. -/
def orRaise {Value : Type} (raised : Raised) : Option Value → Except Raised Value
  | some value => .ok value
  | none => .error raised

/-- The conversion `float`. -/
def number : Json D → Except Raised D
  | .bool value => orRaise .overflowError (Arithmetic.ofInt (if value then 1 else 0))
  | .int value => orRaise .overflowError (Arithmetic.ofInt value)
  | .float value => .ok value
  | .str text => orRaise (.valueError "could not convert string to float") (Arithmetic.ofText text)
  | _ => .error .typeError

end Json

namespace Policy
open Arithmetic

variable {S D : Type} [Arithmetic S D]

def CONTRACT_KEY : String := "groot_wbc.tracking_contract.v1"

def REF_DT : D := literal 0.02

/-- An array of finite numbers passes unchanged. -/
def finite (value : NdArray D) (name : String) : Except Raised (NdArray D) :=
  if value.data.all isFinite then .ok value
  else .error (.valueError (name ++ " contains NaN or infinity"))

/-- A one-dimensional array of a known length is a vector. -/
def vectorOf (count : ℕ) (array : NdArray D) : Option (Vector D count) :=
  if array.shape = [count] then sized count array.data else none

structure Contract (D : Type) where
  names : List (Json D)
  default : Vector D 28
  scale : Vector D 28
  kp : Vector D 28
  kd : Vector D 28
  lower : Vector D 28
  upper : Vector D 28
  actionClip : D
  period : D
  futureFrames : ℕ
  futureDt : D
  historyLength : ℕ
  inputDim : ℕ
  includeZ : Bool

/-- The layout keys must have their only supported values. -/
def checkLayout (raw : Json D) : Except Raised Unit := do
  let schema ← raw.find "schema_version"
  let actions ← raw.find "action_dim"
  let kind ← raw.find "policy_kind"
  let order ← raw.find "actor_history_order"
  let layout ← raw.find "input_layout"
  if !(schema.any (·.equalsInt 1)) || !(actions.any (·.equalsInt 28)) ||
      !(kind.any (·.equalsText "groot_vita02a_tracking")) ||
      !(order.any (·.equalsText "term_major_oldest_first")) ||
      !(layout.any (·.equalsText "tokenizer_then_proprioception")) then
    .error (.valueError "unsupported GR00T tracking contract/layout")

/-- The 28 policy joints have distinct names that are not empty. -/
def readNames (raw : Json D) : Except Raised (List (Json D)) := do
  let names ← (← raw.get "joint_names").iterate
  if names.length ≠ 28 then .error (.valueError "model must name 28 distinct policy joints")
  let distinct ← Json.set names
  if distinct.length ≠ 28 || !(names.all Json.truthy) then
    .error (.valueError "model must name 28 distinct policy joints")
  return names

def readArray (raw : Json D) (key : String) : Except Raised (NdArray D) := do
  finite (← asarray (← raw.get key)) key

/-- The six arrays keep the order of their keys. -/
def readArrays (raw : Json D) : Except Raised (Vector (Vector D 28) 6) := do
  let arrays ← ["default_joint_pos", "action_scale", "joint_stiffness", "joint_damping",
    "joint_pos_limit_lower", "joint_pos_limit_upper"].mapM (readArray raw)
  match (arrays.mapM (vectorOf 28)).bind (sized 6) with
  | none => .error (.valueError "model arrays must match the 28 named joints")
  | some vectors => .ok vectors

/-- A comparison holds for some pair of elements. -/
def anyPair (compare : D → D → Bool) (first second : Vector D 28) : Bool :=
  (first.toList.zip second.toList).any fun pair => compare pair.1 pair.2

def checkArrays (default scale kp kd lower upper : Vector D 28) : Except Raised Unit :=
  if scale.any (le · (literal 0)) || kp.any (lt · (literal 0)) || kd.any (lt · (literal 0)) ||
      anyPair (fun low high => le high low) lower upper || anyPair lt default lower ||
      anyPair (fun value high => lt high value) default upper then
    .error (.valueError "model has invalid scales, gains or limits")
  else .ok ()

def readTiming (raw : Json D) : Except Raised (D × D) := do
  let period ← (← raw.get "policy_dt").number
  let actionClip ← (← raw.get "action_clip").number
  if !(isclose period REF_DT (literal (1 / 10 ^ 9))) || !(isFinite actionClip) || le actionClip (literal 0) then
    .error (.valueError "expected a 50 Hz policy and finite positive action_clip")
  return (period, actionClip)

/-- The number of frames must be an `int`, which a boolean is not here. -/
def readFuture (raw : Json D) : Except Raised (ℕ × D) := do
  let unsupported : Raised := .valueError "unsupported future-reference timing/orientation"
  let future ← raw.get "future_reference"
  let count ← future.get "num_frames"
  let dt ← (← future.get "dt").number
  match count with
  | .int count => do
      if count ≤ 0 || !(isFinite dt) || lt dt REF_DT then .error unsupported
      let frames ← Json.orRaise .overflowError (round (div dt REF_DT))
      let whole ← Json.orRaise .overflowError (ofInt frames)
      if !(isclose (div dt REF_DT) whole (literal (1 / 10 ^ 7))) then .error unsupported
      if !((← future.get "quaternion_order").equalsText "wxyz") then .error unsupported
      if !((← future.get "orientation_representation").equalsText "rotation_matrix_6d") then
        .error unsupported
      return (count.toNat, dt)
  | _ => .error unsupported

/-- Two columns of a list of dictionaries. -/
def pairs (first second : String) (values : List (Json D)) : Except Raised (List (Json D × Json D)) :=
  values.mapM fun value => do return (← value.get first, ← value.get second)

def TERMS : List (String × ℤ) :=
  [("base_ang_vel", 3), ("joint_pos", 28), ("joint_vel", 28), ("actions", 28), ("gravity_dir", 3)]

def readHistory (raw : Json D) : Except Raised ℕ := do
  let unsupported : Raised := .valueError "unsupported proprioception term order"
  let terms ← (← raw.get "actor_observation_terms").iterate
  match ← Json.set (← terms.mapM (Json.get "history_length")) with
  | [history] => do
      let named ← pairs "name" "frame_dim" terms
      if named.length ≠ TERMS.length ∨ !((named.zip TERMS).all fun pair =>
          pair.1.1.equalsText pair.2.1 && pair.1.2.equalsInt pair.2.2) then .error unsupported
      match history with
      | .int history => if history ≤ 0 then .error unsupported else .ok history.toNat
      | _ => .error unsupported
  | _ => .error (.valueError "all proprioception terms must share one history length")

/-- The rows of the tokenizer with their shapes. -/
def tokenizerRows (count : ℕ) (includeZ : Bool) : List (String × List ℤ) :=
  [("command_multi_future_nonflat", [(count : ℤ), 56])] ++
    (if includeZ then [("command_z_multi_future_nonflat", [(count : ℤ)])] else []) ++
    [("motion_anchor_ori_b_mf_nonflat", [(count : ℤ), 6])]

def readTokenizer (raw : Json D) (count : ℕ) : Except Raised Bool := do
  let tokenizer ← (← raw.get "tokenizer_observations").iterate
  let includeZ ← tokenizer.anyM fun row => do
    return (← row.get "name").equalsText "command_z_multi_future_nonflat"
  let rows ← pairs "name" "shape" tokenizer
  let expected := tokenizerRows count includeZ
  if rows.length ≠ expected.length ∨ !((rows.zip expected).all fun pair =>
      pair.1.1.equalsText pair.2.1 && pair.1.2.equalsInts pair.2.2) then
    .error (.valueError "unsupported tokenizer observation layout")
  return includeZ

/-- The number of entries of an observation. -/
def dimension (count history : ℕ) (includeZ : Bool) : ℕ := count * (56 + 6 + includeZ.toNat) + history * 90

def checkDimensions (raw : Json D) (dim history : ℕ) : Except Raised Unit := do
  if !((← raw.get "input_dim").equalsInt dim) then
    .error (.valueError "metadata observation dimensions disagree")
  if !((← raw.get "proprioception_dim").equalsInt (history * 90)) then
    .error (.valueError "metadata observation dimensions disagree")

def checkAnkle (raw : Json D) : Except Raised Unit := do
  let ankle := (← raw.find "ankle").getD (.dict [])
  let space ← ankle.find "control_space"
  if !(space.any (·.equalsText "virtual_pitch_roll")) then
    .error (.valueError "tracking example requires virtual pitch/roll ankles")

/-- The contract of a parsed text. -/
def Contract.ofRaw (raw : Json D) : Except Raised (Contract D) := do
  checkLayout raw
  let names ← readNames raw
  let arrays ← readArrays raw
  checkArrays (arrays.get 0) (arrays.get 1) (arrays.get 2) (arrays.get 3) (arrays.get 4) (arrays.get 5)
  let (period, actionClip) ← readTiming raw
  let (count, dt) ← readFuture raw
  let history ← readHistory raw
  let includeZ ← readTokenizer raw count
  let dim := dimension count history includeZ
  checkDimensions raw dim history
  checkAnkle raw
  return ⟨names, arrays.get 0, arrays.get 1, arrays.get 2, arrays.get 3, arrays.get 4, arrays.get 5, actionClip,
    period, count, dt, history, dim, includeZ⟩

def Contract.fromMetadata (loads : String → Except Raised (Json D)) (metadata : List (String × String)) :
    Except Raised (Contract D) :=
  match metadata.lookup CONTRACT_KEY with
  | none => .error (.valueError ("model is missing " ++ CONTRACT_KEY))
  | some text => do Contract.ofRaw (← loads text)

end Policy

end HumanoidSdk
